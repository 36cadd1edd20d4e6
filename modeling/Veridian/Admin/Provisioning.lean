/-
Provisioning a tenant, and what is left when it fails.

`provisionTenant` creates a user, then a workspace, then an API key, each with writes of its
own and without a transaction.  Creating the workspace is itself a sequence: its database,
one statement for each table, its row, the membership of its owner and a backfill task.  When
a write throws, what was created is undone, the workspace only if the flag says that it was:
and the flag is set when the whole sequence has returned.
-/
import Veridian.Access.Resources
import Veridian.Invitations.Invitation
import Veridian.Workspaces.Workspace

namespace Veridian

open WorkspacesService

/-! ### The store -/

structure Tenancy where
  users : List UserRow
  workspaces : List WorkspaceRow
  memberships : List MembershipRow
  invitations : List Invitation
  apiKeys : List ApiKey
  backfillTasks : List BackfillTask
  /-- The workspaces that have a database. -/
  databases : List String
  /-- The tables of those, each with its workspace. -/
  tables : List (String × String)

/-- The tables and views of a workspace, in the order they are created. -/
def WORKSPACE_SCHEMAS : List String :=
  ["events", "sessions", "sessions_mv", "pages", "pages_mv", "goals", "goals_mv",
    "user_attribution"]

structure ProvisionTenantDto where
  email : String
  name : String
  siteUrl : String
  timezone : Option String
  currency : Option String
  workspaceId : Option String

/-- The clock at each write, the ids, tokens and hashes that are drawn, and the filters of a
new workspace with their JSON. -/
structure ProvisionInput where
  userNow : Int
  workspaceNow : Int
  keyNow : Int
  deleteNow : Int
  userId : String
  password : String
  passwordHash : String
  membershipId : String
  taskId : String
  keyId : String
  keyHash : String
  keyPrefix : String
  defaultFilters : List FilterRow
  filtersSnapshot : String

structure ProvisionHost where
  host : Host
  /-- `s.normalize('NFD')` -/
  normalizeNFD : String → String

inductive ProvisionError where
  | emailAlreadyExists
  | workspaceAlreadyExists (workspaceId : String)
  | noFreeWorkspaceId (name : String)
  | service (e : ServiceError)
  deriving DecidableEq

/-! ### The id of the workspace -/

def MAX_SLUG_COLLISION_ATTEMPTS : Nat := 50

/-- `.replace(/[^a-z0-9]+/g, '_')`; `gap` says that the last character was replaced. -/
def underscored : Bool → List Char → List Char
  | _, [] => []
  | gap, c :: cs =>
      if isSlugEnd c then c :: underscored false cs
      else if gap then underscored true cs
      else '_' :: underscored true cs

/-- `.replace(/^_+|_+$/g, '')` -/
def withoutOuter (cs : List Char) : List Char :=
  ((cs.dropWhile (· = '_')).reverse.dropWhile (· = '_')).reverse

def startsWithLetter (cs : List Char) : Bool := cs.head?.any fun c => 'a' ≤ c && c ≤ 'z'

/-- `^[a-z]` or `ws_` before it. -/
def lettered (cs : List Char) : List Char :=
  if startsWithLetter cs then cs else "ws_".toList ++ cs

def slugBase (h : ProvisionHost) (name : String) : String :=
  let plain := (h.normalizeNFD (h.host.toLowerCase name)).toList.filter fun c =>
    !(0x300 ≤ c.toNat && c.toNat ≤ 0x36F)
  let base := (lettered (withoutOuter (underscored false plain))).take 47
  String.ofList (lettered (if base.length < 2 then base ++ "_x".toList else base))

def workspaceExists (rows : List WorkspaceRow) (id : String) : Bool := (get rows id).isSome

def slugCandidate (base : String) (i : Nat) : String :=
  if i = 0 then base else base ++ "_" ++ toString (i + 1)

def slugCandidates (h : ProvisionHost) (name : String) : List String :=
  (List.range MAX_SLUG_COLLISION_ATTEMPTS).map (slugCandidate (slugBase h name))

/-- `useExplicitWorkspaceId` or `findFreeWorkspaceId`. -/
def workspaceIdFor (h : ProvisionHost) (rows : List WorkspaceRow) (dto : ProvisionTenantDto) :
    Except ProvisionError String :=
  match dto.workspaceId.filter fun id => id ≠ "" with
  | some id => if workspaceExists rows id then .error (.workspaceAlreadyExists id) else .ok id
  | none =>
      match (slugCandidates h dto.name).find? fun id => !workspaceExists rows id with
      | some id => .ok id
      | none => .error (.noFreeWorkspaceId dto.name)

/-- `email.split('@')[0]` when the name is too short or too long for a person's. -/
def deriveUserName (workspaceName email : String) : String :=
  let trimmed := Text.trim workspaceName
  if 2 ≤ Text.utf16Length trimmed ∧ Text.utf16Length trimmed ≤ 100 then trimmed
  else String.ofList (email.toList.takeWhile (· ≠ '@'))

/-! ### The writes -/

inductive ProvisionStep where
  | createDatabase
  | createTable (name : String)
  | workspaceRow
  | membershipRow
  | backfillRow
  | keyRow
  deriving DecidableEq

/-- The writes of `WorkspacesService.create`. -/
def createSteps (defaultFilters : List FilterRow) : List ProvisionStep :=
  .createDatabase :: (WORKSPACE_SCHEMAS.map .createTable ++ [.workspaceRow, .membershipRow] ++
    if defaultFilters = [] then [] else [.backfillRow])

/-- What the writes take from the call: the id of the workspace, and the user. -/
structure Provisioning where
  dto : ProvisionTenantDto
  input : ProvisionInput
  workspaceId : String
  user : UserRow

namespace Provisioning

variable (h : ProvisionHost) (p : Provisioning)

def workspace : WorkspaceRow :=
  newWorkspace h.host p.input.defaultFilters
    { id := p.workspaceId
      name := p.dto.name
      website := p.dto.siteUrl
      timezone := p.dto.timezone.getD "Europe/Paris"
      currency := p.dto.currency.getD "EUR"
      logoUrl := none
      settings := fun _ => none } (toClickHouseDateTime p.input.workspaceNow)

def membership : MembershipRow where
  id := p.input.membershipId
  workspaceId := p.workspaceId
  userId := p.user.id
  role := .owner
  invitedBy := none
  joinedAt := p.input.workspaceNow
  createdAt := p.input.workspaceNow
  updatedAt := p.input.workspaceNow

/-- The completed task that says the default filters need no backfill. -/
def backfillTask : BackfillTask where
  id := p.input.taskId
  workspaceId := p.workspaceId
  status := .completed
  lookbackDays := 0
  chunkSizeDays := 1
  batchSize := 1000
  totalSessions := 0
  processedSessions := 0
  totalEvents := 0
  processedEvents := 0
  currentDateChunk := none
  createdAt := p.input.workspaceNow
  updatedAt := p.input.workspaceNow
  startedAt := some p.input.workspaceNow
  completedAt := some p.input.workspaceNow
  errorMessage := none
  retryCount := 0
  filtersSnapshot := p.input.filtersSnapshot

def apiKey : ApiKey where
  id := p.input.keyId
  keyHash := p.input.keyHash
  keyPrefix := p.input.keyPrefix
  userId := p.user.id
  workspaceId := some p.workspaceId
  name := "Veridian platform key"
  description := "Auto-provisioned via /api/admin/platform/tenants.provision. " ++
    "Used by tracker SDK + Hub bridge."
  role := .admin
  status := .active
  expiresAt := none
  lastUsedAt := none
  failedAttemptsCount := 0
  lastFailedAttemptAt := none
  createdBy := p.user.id
  revokedBy := none
  revokedAt := none
  createdAt := p.input.keyNow
  updatedAt := p.input.keyNow

/-- One write that takes effect. -/
def perform (s : Tenancy) : ProvisionStep → Tenancy
  | .createDatabase => { s with databases := s.databases.insert p.workspaceId }
  | .createTable name => { s with tables := s.tables.insert (p.workspaceId, name) }
  | .workspaceRow => { s with workspaces := s.workspaces ++ [p.workspace h] }
  | .membershipRow => { s with memberships := s.memberships ++ [p.membership] }
  | .backfillRow => { s with backfillTasks := s.backfillTasks ++ [p.backfillTask] }
  | .keyRow => { s with apiKeys := s.apiKeys ++ [p.apiKey] }

end Provisioning

def ApiKeyRole.text : ApiKeyRole → String
  | .admin => "admin"
  | .editor => "editor"
  | .viewer => "viewer"

/-- `validateRoleForUser` -/
def validateRoleForUser (memberships : List MembershipRow) (workspaceId userId : String)
    (requestedRole : ApiKeyRole) : Except ServiceError Unit :=
  match membershipOf memberships workspaceId userId with
  | none => .error (.forbidden "Not a member of this workspace")
  | some membership =>
      if hasPermission membership.role .integrationsManage = false then
        .error (.forbidden "Insufficient permissions to create API keys")
      else if ROLE_HIERARCHY membership.role < ROLE_HIERARCHY requestedRole.role then
        .error (.forbidden ("Cannot create API key with role '" ++ requestedRole.text ++
          "': exceeds your role level"))
      else .ok ()

/-! ### Compensation -/

/-- `UsersService.delete`, whose errors are logged. -/
def softDeleteUserSilently (users : List UserRow) (userId : String) (now : Int) : List UserRow :=
  match UsersService.findById users userId with
  | none => users
  | some user => users ++ [UsersService.deleted user userId now]

/-- `WorkspacesService.delete`, whose errors are logged. -/
def deleteWorkspaceSilently (s : Tenancy) (id : String) : Tenancy :=
  if s.workspaces.any fun row => row.id = id then
    { s with
      memberships := s.memberships.filter fun row => row.workspaceId ≠ id
      invitations := s.invitations.filter fun row => row.workspaceId ≠ id
      apiKeys := s.apiKeys.filter fun row => row.workspaceId ≠ some id
      backfillTasks := s.backfillTasks.filter fun row => row.workspaceId ≠ id
      databases := s.databases.filter fun name => name ≠ id
      tables := s.tables.filter fun table => table.1 ≠ id
      workspaces := s.workspaces.filter fun row => row.id ≠ id }
  else s

def compensate (s : Tenancy) (workspaceCreated : Bool) (p : Provisioning) : Tenancy :=
  let s := if workspaceCreated then deleteWorkspaceSilently s p.workspaceId else s
  { s with users := softDeleteUserSilently s.users p.user.id p.input.deleteNow }

/-! ### The call -/

/-- The first `done` writes after the user's succeed and the next one throws; it may have
taken effect all the same. -/
structure Failure where
  done : Nat
  landed : Bool
  deriving DecidableEq

/-- The writes that take effect. -/
def Failure.performed (f : Failure) (steps : List ProvisionStep) : List ProvisionStep :=
  steps.take (if f.landed then f.done + 1 else f.done)

inductive ProvisionResult where
  /-- It throws before it writes. -/
  | refused (e : ProvisionError)
  /-- It throws `provisioning_failed` when it has compensated. -/
  | failed (s : Tenancy)
  | provisioned (s : Tenancy) (workspaceId : String)

/-- `provisionTenant` up to the API key. -/
def provisionTenant (h : ProvisionHost) (s : Tenancy) (dto : ProvisionTenantDto)
    (input : ProvisionInput) (failure : Option Failure) : ProvisionResult :=
  let email := h.host.toLowerCase dto.email
  if (UsersService.findByEmail h.host s.users email).isSome then .refused .emailAlreadyExists
  else
    match workspaceIdFor h s.workspaces dto with
    | .error e => .refused e
    | .ok workspaceId =>
      let userDto : CreateUserDto := ⟨email, deriveUserName dto.name email, input.password⟩
      match UsersService.create h.host s.users userDto input.userId input.passwordHash
          input.userNow with
      | .error e => .refused (.service e)
      | .ok user =>
        let p : Provisioning := ⟨dto, input, workspaceId, user⟩
        let created := { s with users := s.users ++ [user] }
        let steps := createSteps input.defaultFilters ++ [.keyRow]
        match failure.filter fun f => f.done < steps.length with
        | some f => .failed (compensate ((f.performed steps).foldl (p.perform h) created)
            (decide ((createSteps input.defaultFilters).length ≤ f.done)) p)
        | none =>
            let done := (createSteps input.defaultFilters).foldl (p.perform h) created
            match validateRoleForUser done.memberships workspaceId user.id .admin with
            | .error _ => .failed (compensate done true p)
            | .ok () => .provisioned (p.perform h done .keyRow) workspaceId

end Veridian
