/-
Who makes a request, and what a role may do.

A request is authenticated as an API key, bound to one workspace, or as a user, who
has the workspaces he is a member of.  What either may do in a workspace is read off
one table of roles.  The table follows the hierarchy of the roles
(`hasPermission_mono`), so a check against it never refuses a higher role what it
grants a lower one.
-/
import Veridian.Lib.Replacing

namespace Veridian

/-! ### Roles and permissions -/

inductive Role where
  | owner | admin | editor | viewer
  deriving DecidableEq, Repr

inductive Permission where
  | analyticsView | analyticsExport
  | filtersManage | annotationsManage
  | integrationsManage
  | workspaceSettings | workspaceSmtp | workspaceDelete
  | apiKeysView | apiKeysManage
  | webhookRead | webhookWrite | webhookDelete | webhookTest
  | voipRead | voipWrite | voipTest
  | gscRead | gscManage
  | membersInvite | membersManage | membersRemove
  | ownershipTransfer
  deriving DecidableEq, Repr

def PERMISSIONS : Permission → List Role
  | .analyticsView => [.owner, .admin, .editor, .viewer]
  | .analyticsExport => [.owner, .admin, .editor]
  | .filtersManage => [.owner, .admin, .editor]
  | .annotationsManage => [.owner, .admin, .editor]
  | .integrationsManage => [.owner, .admin]
  | .workspaceSettings => [.owner, .admin]
  | .workspaceSmtp => [.owner]
  | .workspaceDelete => [.owner]
  | .apiKeysView => [.owner, .admin]
  | .apiKeysManage => [.owner, .admin]
  | .webhookRead => [.owner, .admin, .editor, .viewer]
  | .webhookWrite => [.owner, .admin]
  | .webhookDelete => [.owner, .admin]
  | .webhookTest => [.owner, .admin, .editor]
  | .voipRead => [.owner, .admin, .editor, .viewer]
  | .voipWrite => [.owner, .admin]
  | .voipTest => [.owner, .admin, .editor]
  | .gscRead => [.owner, .admin, .editor, .viewer]
  | .gscManage => [.owner, .admin]
  | .membersInvite => [.owner, .admin]
  | .membersManage => [.owner, .admin]
  | .membersRemove => [.owner, .admin]
  | .ownershipTransfer => [.owner]

def ROLE_HIERARCHY : Role → Nat
  | .owner => 4
  | .admin => 3
  | .editor => 2
  | .viewer => 1

def hasPermission (role : Role) (permission : Permission) : Bool :=
  (PERMISSIONS permission).contains role

/-- What a role may do, every higher role may do. -/
theorem hasPermission_mono {low high : Role} {permission : Permission}
    (h : ROLE_HIERARCHY low ≤ ROLE_HIERARCHY high) (hlow : hasPermission low permission = true) :
    hasPermission high permission = true := by
  revert h hlow
  cases low <;> cases high <;> cases permission <;> decide

/-- The owner stands above every role, and each permission is granted to one. -/
theorem hasPermission_owner (permission : Permission) : hasPermission .owner permission = true := by
  cases permission <;> rfl

/-- The roles of an API key: those of a user without `owner`. -/
inductive ApiKeyRole where
  | admin | editor | viewer
  deriving DecidableEq, Repr, Inhabited

def ApiKeyRole.role : ApiKeyRole → Role
  | .admin => .admin
  | .editor => .editor
  | .viewer => .viewer

/-! ### Principals and memberships -/

/-- `request.user`, as the two authentication strategies set it. -/
inductive Principal where
  | apiKey (keyId workspaceId : String) (role : ApiKeyRole)
  | user (id : String) (isSuperAdmin : Bool)
  deriving DecidableEq, Repr

/-- A row of `workspace_memberships`; times are in milliseconds. -/
structure MembershipRow where
  id : String
  workspaceId : String
  userId : String
  role : Role
  invitedBy : Option String
  joinedAt : Int
  createdAt : Int
  updatedAt : Int
  deriving DecidableEq, Repr

/-- `workspace_memberships FINAL`: `ReplacingMergeTree(updated_at)` ordered by
`(workspace_id, user_id)`. -/
def membershipsFinal (rows : List MembershipRow) : List MembershipRow :=
  Replacing.final (fun row => (row.workspaceId, row.userId)) (·.updatedAt) rows

/-- The row that `getMembership` selects. -/
def membershipOf (rows : List MembershipRow) (workspaceId userId : String) :
    Option MembershipRow :=
  ((membershipsFinal rows).filter fun row =>
    row.workspaceId = workspaceId ∧ row.userId = userId).head?

/-- The query names the whole key, so it finds what survives under it. -/
theorem membershipOf_eq_survivor (rows : List MembershipRow) (workspaceId userId : String) :
    membershipOf rows workspaceId userId =
      Replacing.survivor (fun row : MembershipRow => (row.workspaceId, row.userId))
        MembershipRow.updatedAt (workspaceId, userId) rows := by
  have hkey : ∀ r ∈ rows, (decide (r.workspaceId = workspaceId ∧ r.userId = userId) = true ↔
      (r.workspaceId, r.userId) = (workspaceId, userId)) := by
    intro r _
    simp
  rw [membershipOf, membershipsFinal, Replacing.final_filter_eq_survivor _ _ hkey,
    Option.head?_toList]

/-- A user is a member exactly of the workspaces some row of his names. -/
theorem membershipOf_isSome_iff {rows : List MembershipRow} {workspaceId userId : String} :
    (membershipOf rows workspaceId userId).isSome = true ↔
      ∃ row ∈ rows, row.workspaceId = workspaceId ∧ row.userId = userId := by
  rw [membershipOf_eq_survivor, Replacing.survivor_isSome_iff]
  simp only [Prod.mk.injEq]

/-- The row that is found is one of the user's in the workspace. -/
theorem mem_of_membershipOf {rows : List MembershipRow} {workspaceId userId : String}
    {row : MembershipRow} (h : membershipOf rows workspaceId userId = some row) :
    row ∈ rows ∧ row.workspaceId = workspaceId ∧ row.userId = userId := by
  rw [membershipOf_eq_survivor] at h
  obtain ⟨hmem, hkey⟩ := Replacing.survivor_key _ _ h
  exact ⟨hmem, Prod.mk.inj hkey⟩

/-- The workspaces a request is confined to: the one the key is bound to, or those the user
is a member of. -/
def Principal.memberOf (rows : List MembershipRow) : Principal → String → Bool
  | .apiKey _ bound _, workspaceId => workspaceId == bound
  | .user id _, workspaceId => (membershipOf rows workspaceId id).isSome

end Veridian
