/-
Invitations to a workspace.

`invitations` is a `ReplacingMergeTree(updated_at)` ordered by `id`, read with `FINAL`.  An
invitation is created pending.  `resend` gives it a new token and a new deadline, `revoke`
and `accept` end it, and all three insert the whole row again.  Accepting one also writes a
membership, and a user when nobody has the address yet.

A token enters as its hash, which is all that is stored and compared.
-/
import Veridian.Access.Principal
import Veridian.Users.UserRows

namespace Veridian

inductive InvitationStatus where
  | pending | accepted | expired | revoked
  deriving DecidableEq, Repr

/-- A row of `invitations`; times are in milliseconds. -/
structure Invitation where
  id : String
  workspaceId : String
  email : String
  role : ApiKeyRole
  tokenHash : String
  invitedBy : String
  status : InvitationStatus
  expiresAt : Int
  acceptedAt : Option Int
  revokedAt : Option Int
  revokedBy : Option String
  createdAt : Int
  updatedAt : Int
  deriving DecidableEq

def INVITATION_EXPIRY_DAYS : Int := 7

structure CreateInvitationDto where
  workspaceId : String
  email : String
  role : ApiKeyRole

structure AcceptInvitationDto where
  name : Option String
  password : Option String
  deriving DecidableEq

namespace InvitationsService

/-! ### Reads -/

/-- The row of an invitation that `invitations FINAL` holds. -/
def survivor (id : String) (invitations : List Invitation) : Option Invitation :=
  Replacing.survivor Invitation.id Invitation.updatedAt id invitations

def invitationsFinal (invitations : List Invitation) : List Invitation :=
  Replacing.final Invitation.id Invitation.updatedAt invitations

def findById (invitations : List Invitation) (id : String) : Option Invitation :=
  ((invitationsFinal invitations).filter fun row => row.id = id).head?

def findByToken (invitations : List Invitation) (tokenHash : String) : Option Invitation :=
  ((invitationsFinal invitations).filter fun row => row.tokenHash = tokenHash).head?

def findPendingByEmail (invitations : List Invitation) (workspaceId email : String) (now : Int) :
    Option Invitation :=
  ((invitationsFinal invitations).filter fun row =>
    row.workspaceId = workspaceId ∧ row.email = email ∧ row.status = .pending ∧
      -- `now()` counts whole seconds
      now / 1000 * 1000 < row.expiresAt).head?

def getMembership (host : Host) (users : List UserRow) (memberships : List MembershipRow)
    (workspaceId email : String) : Option MembershipRow :=
  (UsersService.findByEmail host users email).bind fun user =>
    membershipOf memberships workspaceId user.id

theorem survivor_of_findById {invitations : List Invitation} {id : String} {row : Invitation}
    (h : findById invitations id = some row) : survivor row.id invitations = some row :=
  (Replacing.mem_final_iff Invitation.id Invitation.updatedAt).mp
    (List.mem_of_mem_filter (List.mem_of_mem_head? h))

theorem survivor_of_findByToken {invitations : List Invitation} {tokenHash : String}
    {row : Invitation} (h : findByToken invitations tokenHash = some row) :
    survivor row.id invitations = some row :=
  (Replacing.mem_final_iff Invitation.id Invitation.updatedAt).mp
    (List.mem_of_mem_filter (List.mem_of_mem_head? h))

/-! ### Rows -/

/-- The row `create` inserts. -/
def created (host : Host) (dto : CreateInvitationDto) (id tokenHash invitedBy : String)
    (now : Int) : Invitation where
  id := id
  workspaceId := dto.workspaceId
  email := host.toLowerCase dto.email
  role := dto.role
  tokenHash := tokenHash
  invitedBy := invitedBy
  status := .pending
  expiresAt := now + INVITATION_EXPIRY_DAYS * 24 * 60 * 60 * 1000
  acceptedAt := none
  revokedAt := none
  revokedBy := none
  createdAt := now
  updatedAt := now

/-- The row `resend` inserts. -/
def resent (invitation : Invitation) (tokenHash : String) (now : Int) : Invitation :=
  { invitation with
    tokenHash := tokenHash
    expiresAt := now + INVITATION_EXPIRY_DAYS * 24 * 60 * 60 * 1000
    updatedAt := now }

/-- The row `revoke` inserts. -/
def revoked (invitation : Invitation) (revokedBy : String) (now : Int) : Invitation :=
  { invitation with
    status := .revoked
    revokedAt := some now
    revokedBy := some revokedBy
    updatedAt := now }

/-- The row of the invitation `accept` inserts. -/
def accepted (invitation : Invitation) (now : Int) : Invitation :=
  { invitation with status := .accepted, acceptedAt := some now, updatedAt := now }

/-- The membership `accept` inserts, under the `id` that `generateId` returns. -/
def membership (invitation : Invitation) (id userId : String) (now : Int) : MembershipRow where
  id := id
  workspaceId := invitation.workspaceId
  userId := userId
  role := invitation.role.role
  invitedBy := some invitation.invitedBy
  joinedAt := now
  createdAt := now
  updatedAt := now

/-! ### Checks -/

/-- What `create` checks before it inserts. -/
def checkCreate (host : Host) (workspaces : List String) (users : List UserRow)
    (memberships : List MembershipRow) (invitations : List Invitation) (dto : CreateInvitationDto)
    (now : Int) : Except ServiceError Unit :=
  let email := host.toLowerCase dto.email
  if dto.workspaceId ∉ workspaces then
    .error (.notFound s!"Workspace {dto.workspaceId} not found")
  else if (getMembership host users memberships dto.workspaceId email).isSome then
    .error (.conflict "User is already a member of this workspace")
  else if (findPendingByEmail invitations dto.workspaceId email now).isSome then
    .error (.conflict "Invitation already pending for this email. Use resend to send again.")
  else .ok ()

/-- The invitation that `resend` and `revoke` go on with; they differ in the refusal. -/
def findPending (invitations : List Invitation) (id refusal : String) :
    Except ServiceError Invitation :=
  match findById invitations id with
  | none => .error (.notFound "Invitation not found")
  | some invitation =>
      if invitation.status ≠ .pending then .error (.badRequest refusal) else .ok invitation

def findResendable (invitations : List Invitation) (id : String) : Except ServiceError Invitation :=
  findPending invitations id "Can only resend pending invitations"

def findRevocable (invitations : List Invitation) (id : String) : Except ServiceError Invitation :=
  findPending invitations id "Can only revoke pending invitations"

/-- The invitation that `accept` goes on with. -/
def findAcceptable (invitations : List Invitation) (tokenHash : String) (now : Int) :
    Except ServiceError Invitation :=
  match findByToken invitations tokenHash with
  | none => .error (.badRequest "Invalid invitation token")
  | some invitation =>
      if invitation.status ≠ .pending then
        .error (.badRequest
          (if invitation.status = .accepted then "This invitation has already been accepted"
          else "This invitation is no longer valid"))
      else if invitation.expiresAt < now then
        .error (.badRequest "This invitation has expired")
      else .ok invitation

/-- The existing user who accepts, if the address has one. -/
def existingUser (host : Host) (users : List UserRow) (invitation : Invitation)
    (currentUserId : Option String) : Except ServiceError (Option UserRow) :=
  match UsersService.findByEmail host users invitation.email with
  | none => .ok none
  | some user =>
      match currentUserId.filter fun id => id ≠ "" with
      | none => .ok (some user)
      | some id =>
          if id ≠ user.id then
            .error (.forbidden "This invitation is for a different email address")
          else .ok (some user)

/-- What a new user has to bring along. -/
def newUserDto (invitation : Invitation) (dto : AcceptInvitationDto) :
    Except ServiceError CreateUserDto :=
  match dto.name.filter (fun s => s ≠ ""), dto.password.filter (fun s => s ≠ "") with
  | some name, some password => .ok ⟨invitation.email, name, password⟩
  | _, _ => .error (.badRequest "Name and password are required for new users")

theorem findPending_eq_ok {invitations : List Invitation} {id refusal : String}
    {invitation : Invitation} (h : findPending invitations id refusal = .ok invitation) :
    survivor invitation.id invitations = some invitation ∧ invitation.status = .pending := by
  unfold findPending at h
  rcases hfind : findById invitations id with _ | found
  · rw [hfind] at h
    exact absurd h (by simp)
  · rw [hfind] at h
    dsimp only at h
    split at h
    · exact absurd h (by simp)
    · rename_i hpending
      obtain rfl : found = invitation := by simpa using h
      exact ⟨survivor_of_findById hfind, not_not.mp hpending⟩

theorem findAcceptable_eq_ok {invitations : List Invitation} {tokenHash : String} {now : Int}
    {invitation : Invitation} (h : findAcceptable invitations tokenHash now = .ok invitation) :
    survivor invitation.id invitations = some invitation ∧ invitation.status = .pending := by
  unfold findAcceptable at h
  rcases hfind : findByToken invitations tokenHash with _ | found
  · rw [hfind] at h
    exact absurd h (by simp)
  · rw [hfind] at h
    dsimp only at h
    split at h
    · exact absurd h (by simp)
    · rename_i hpending
      split at h
      · exact absurd h (by simp)
      · obtain rfl : found = invitation := by simpa using h
        exact ⟨survivor_of_findByToken hfind, not_not.mp hpending⟩

end InvitationsService

end Veridian
