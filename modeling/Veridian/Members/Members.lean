/-
Members of a workspace, and how one becomes a member.

`workspace_memberships` is a `ReplacingMergeTree(updated_at)` ordered by the workspace and
the user.  `MembersService` changes a role by inserting the visible row again, and removes a
member by deleting the rows that have the id of the visible one.  An accepted invitation
inserts a row of its own, under a new id.

The operations run one after the other, and between two of them the database may merge
rows.  `step_cases` is everything one of them can do to the memberships.
-/
import Veridian.Invitations.Invitation
import Veridian.Lib.Machine
import Veridian.Lib.Owned

namespace Veridian

open InvitationsService

def canModifyMember (actorRole targetRole : Role) : Bool :=
  ROLE_HIERARCHY targetRole < ROLE_HIERARCHY actorRole

/-- What the services read of the membership that the guard puts on the request. -/
structure MemberActor where
  userId : String
  role : Role
  deriving DecidableEq

structure UpdateRoleDto where
  workspaceId : String
  userId : String
  role : Role

structure RemoveMemberDto where
  workspaceId : String
  userId : String

structure TransferOwnershipDto where
  workspaceId : String
  newOwnerId : String

/-! ### The member operations -/

namespace MembersService

/-- The row `updateRole` inserts. -/
def updatedRole (memberships : List MembershipRow) (dto : UpdateRoleDto) (actor : MemberActor)
    (now : Int) : Except ServiceError MembershipRow :=
  match membershipOf memberships dto.workspaceId dto.userId with
  | none => .error (.notFound "Member not found")
  | some target =>
      if actor.userId = dto.userId then .error (.badRequest "Cannot modify your own role")
      else if canModifyMember actor.role target.role = false then
        .error (.forbidden "Cannot modify a member with equal or higher role")
      else if dto.role = .owner ∧ actor.role ≠ .owner then
        .error (.forbidden "Only owners can promote members to owner")
      else if ROLE_HIERARCHY actor.role < ROLE_HIERARCHY dto.role ∨
          (dto.role ≠ .owner ∧ ROLE_HIERARCHY actor.role ≤ ROLE_HIERARCHY dto.role) then
        .error (.forbidden "Cannot promote a member to your role or higher")
      else .ok { target with role := dto.role, updatedAt := now }

def countOwners (memberships : List MembershipRow) (workspaceId : String) : Nat :=
  ((membershipsFinal memberships).filter fun row =>
    row.workspaceId = workspaceId ∧ row.role = .owner).length

/-- The membership `remove` deletes. -/
def removable (memberships : List MembershipRow) (dto : RemoveMemberDto) (actor : MemberActor) :
    Except ServiceError MembershipRow :=
  match membershipOf memberships dto.workspaceId dto.userId with
  | none => .error (.notFound "Member not found")
  | some target =>
      if actor.userId = dto.userId then
        .error (.badRequest "Cannot remove yourself. Use the leave endpoint instead")
      else if target.role = .owner ∧ actor.role ≠ .owner then
        .error (.forbidden "Only owners can remove other owners")
      else if target.role = .owner ∧ countOwners memberships dto.workspaceId ≤ 1 then
        .error (.forbidden "Cannot remove the last owner. Transfer ownership first")
      else if target.role ≠ .owner ∧ canModifyMember actor.role target.role = false then
        .error (.forbidden "Cannot remove a member with equal or higher role")
      else .ok target

/-- The membership `leave` deletes. -/
def leavable (memberships : List MembershipRow) (workspaceId userId : String) :
    Except ServiceError MembershipRow :=
  match membershipOf memberships workspaceId userId with
  | none => .error (.notFound "Not a member of this workspace")
  | some target =>
      if target.role = .owner ∧ countOwners memberships workspaceId ≤ 1 then
        .error (.badRequest "Cannot leave as the last owner. Transfer ownership first")
      else .ok target

/-- `ALTER TABLE workspace_memberships DELETE WHERE id = '${id}'` -/
def deleteWhereId (memberships : List MembershipRow) (id : String) : List MembershipRow :=
  memberships.filter fun row => row.id ≠ id

/-- The two memberships that `transferOwnership` rewrites. -/
def transferable (memberships : List MembershipRow) (dto : TransferOwnershipDto)
    (actorId : String) : Except ServiceError (MembershipRow × MembershipRow) :=
  match membershipOf memberships dto.workspaceId actorId with
  | none => .error (.forbidden "Not a member of this workspace")
  | some actorMembership =>
      if actorMembership.role ≠ .owner then
        .error (.forbidden "Only owners can transfer ownership")
      else if actorId = dto.newOwnerId then
        .error (.badRequest "Cannot transfer ownership to yourself")
      else
        match membershipOf memberships dto.workspaceId dto.newOwnerId with
        | none => .error (.notFound "New owner is not a member of this workspace")
        | some newOwnerMembership => .ok (actorMembership, newOwnerMembership)

def demotedOwner (actorMembership : MembershipRow) (now : Int) : MembershipRow :=
  { actorMembership with role := .admin, updatedAt := now }

def promotedOwner (newOwnerMembership : MembershipRow) (now : Int) : MembershipRow :=
  { newOwnerMembership with role := .owner, updatedAt := now }

end MembersService

open MembersService

/-! ### One operation after the other -/

structure MemberStore where
  workspaces : List String
  users : List UserRow
  memberships : List MembershipRow
  invitations : List Invitation

/-- What `accept` takes from outside: the clock, the ids of a new user and of the membership,
and the hash of a new user's password. -/
structure AcceptInput where
  now : Int
  userId : String
  membershipId : String
  passwordHash : String

inductive MemberAction where
  /-- `WorkspacesService.create`, which makes its user the owner. -/
  | createWorkspace (workspaceId userId membershipId : String) (now : Int)
  | updateRole (dto : UpdateRoleDto) (actor : MemberActor) (now : Int)
  | remove (dto : RemoveMemberDto) (actor : MemberActor)
  | leave (workspaceId userId : String)
  | transferOwnership (dto : TransferOwnershipDto) (actorId : String) (now : Int)
  | createInvitation (dto : CreateInvitationDto) (invitedBy id tokenHash : String) (now : Int)
  | resendInvitation (id tokenHash : String) (now : Int)
  | revokeInvitation (id revokedBy : String) (now : Int)
  | acceptInvitation (tokenHash : String) (dto : AcceptInvitationDto)
      (currentUserId : Option String) (input : AcceptInput)
  /-- A merge of the database drops the `i`-th row of the memberships. -/
  | merge (i : Nat)

/-- The invitation that is accepted, the row of the user if he is new, and his id. -/
def acceptor (host : Host) (s : MemberStore) (tokenHash : String) (dto : AcceptInvitationDto)
    (currentUserId : Option String) (input : AcceptInput) :
    Except ServiceError (Invitation × List UserRow × String) :=
  match findAcceptable s.invitations tokenHash input.now with
  | .error e => .error e
  | .ok invitation =>
      match existingUser host s.users invitation currentUserId with
      | .error e => .error e
      | .ok (some user) => .ok (invitation, [], user.id)
      | .ok none =>
          match newUserDto invitation dto with
          | .error e => .error e
          | .ok newUser =>
              match UsersService.create host s.users newUser input.userId input.passwordHash
                  input.now with
              | .error e => .error e
              | .ok user => .ok (invitation, [user], user.id)

/-- The merged table shows the same row under the key of `row` when the `i`-th is dropped. -/
def superseded (memberships : List MembershipRow) (i : Nat) (row : MembershipRow) : Bool :=
  membershipOf (memberships.eraseIdx i) row.workspaceId row.userId =
    membershipOf memberships row.workspaceId row.userId

namespace MemberStore

def init (users : List UserRow) : MemberStore := ⟨[], users, [], []⟩

/-- `generateId` returns a UUID no membership has. -/
def newId (s : MemberStore) (id : String) : Bool := s.memberships.all fun row => row.id ≠ id

/-- A call that throws before it writes leaves everything as it is. -/
def step (host : Host) (s : MemberStore) : MemberAction → Option MemberStore
  | .createWorkspace workspaceId userId membershipId now =>
      if s.newId membershipId = false then none
      else some { s with
        workspaces := s.workspaces ++ [workspaceId]
        memberships := s.memberships ++
          [⟨membershipId, workspaceId, userId, .owner, none, now, now, now⟩] }
  | .updateRole dto actor now =>
      match updatedRole s.memberships dto actor now with
      | .error _ => some s
      | .ok row => some { s with memberships := s.memberships ++ [row] }
  | .remove dto actor =>
      match removable s.memberships dto actor with
      | .error _ => some s
      | .ok target => some { s with memberships := deleteWhereId s.memberships target.id }
  | .leave workspaceId userId =>
      match leavable s.memberships workspaceId userId with
      | .error _ => some s
      | .ok target => some { s with memberships := deleteWhereId s.memberships target.id }
  | .transferOwnership dto actorId now =>
      match transferable s.memberships dto actorId with
      | .error _ => some s
      | .ok (actorMembership, newOwnerMembership) =>
          some { s with
            memberships := s.memberships ++
              [demotedOwner actorMembership now, promotedOwner newOwnerMembership now] }
  | .createInvitation dto invitedBy id tokenHash now =>
      match checkCreate host s.workspaces s.users s.memberships s.invitations dto now with
      | .error _ => some s
      | .ok () =>
          some { s with
            invitations := s.invitations ++ [created host dto id tokenHash invitedBy now] }
  | .resendInvitation id tokenHash now =>
      match findResendable s.invitations id with
      | .error _ => some s
      | .ok invitation =>
          some { s with invitations := s.invitations ++ [resent invitation tokenHash now] }
  | .revokeInvitation id revokedBy now =>
      match findRevocable s.invitations id with
      | .error _ => some s
      | .ok invitation =>
          some { s with invitations := s.invitations ++ [revoked invitation revokedBy now] }
  | .acceptInvitation tokenHash dto currentUserId input =>
      match acceptor host s tokenHash dto currentUserId input with
      | .error _ => some s
      | .ok (invitation, newUsers, userId) =>
          if s.newId input.membershipId then
            some { s with
              users := s.users ++ newUsers
              memberships := s.memberships ++
                [membership invitation input.membershipId userId input.now]
              invitations := s.invitations ++ [accepted invitation input.now] }
          else none
  | .merge i =>
      match s.memberships[i]? with
      | none => none
      | some row =>
          if superseded s.memberships i row then
            some { s with memberships := s.memberships.eraseIdx i }
          else none

end MemberStore

/-! ### What an operation does to the memberships -/

theorem updatedRole_eq_ok {memberships : List MembershipRow} {dto : UpdateRoleDto}
    {actor : MemberActor} {now : Int} {row : MembershipRow}
    (h : updatedRole memberships dto actor now = .ok row) :
    ∃ target, membershipOf memberships dto.workspaceId dto.userId = some target ∧
      target.role ≠ .owner ∧ row = { target with role := dto.role, updatedAt := now } := by
  unfold updatedRole at h
  rcases htarget : membershipOf memberships dto.workspaceId dto.userId with _ | target
  · rw [htarget] at h
    exact absurd h (by simp)
  · rw [htarget] at h
    dsimp only at h
    split_ifs at h with _ hmodify
    refine ⟨target, rfl, fun howner => hmodify ?_, (Except.ok.inj h).symm⟩
    rw [canModifyMember, howner]
    cases actor.role <;> rfl

theorem removable_eq_ok {memberships : List MembershipRow} {dto : RemoveMemberDto}
    {actor : MemberActor} {target : MembershipRow}
    (h : removable memberships dto actor = .ok target) :
    membershipOf memberships dto.workspaceId dto.userId = some target ∧
      (target.role = .owner → 2 ≤ countOwners memberships dto.workspaceId) := by
  unfold removable at h
  rcases htarget : membershipOf memberships dto.workspaceId dto.userId with _ | found
  · rw [htarget] at h
    exact absurd h (by simp)
  · rw [htarget] at h
    dsimp only at h
    split_ifs at h with _ _ hlast
    obtain rfl := Except.ok.inj h
    exact ⟨rfl, fun howner => Nat.not_le.mp fun hle => hlast ⟨howner, hle⟩⟩

theorem leavable_eq_ok {memberships : List MembershipRow} {workspaceId userId : String}
    {target : MembershipRow} (h : leavable memberships workspaceId userId = .ok target) :
    membershipOf memberships workspaceId userId = some target ∧
      (target.role = .owner → 2 ≤ countOwners memberships workspaceId) := by
  unfold leavable at h
  rcases htarget : membershipOf memberships workspaceId userId with _ | found
  · rw [htarget] at h
    exact absurd h (by simp)
  · rw [htarget] at h
    dsimp only at h
    split_ifs at h with hlast
    obtain rfl := Except.ok.inj h
    exact ⟨rfl, fun howner => Nat.not_le.mp fun hle => hlast ⟨howner, hle⟩⟩

theorem transferable_eq_ok {memberships : List MembershipRow} {dto : TransferOwnershipDto}
    {actorId : String} {old new : MembershipRow}
    (h : transferable memberships dto actorId = .ok (old, new)) :
    membershipOf memberships dto.workspaceId actorId = some old ∧ old.role = .owner ∧
      actorId ≠ dto.newOwnerId ∧
      membershipOf memberships dto.workspaceId dto.newOwnerId = some new := by
  unfold transferable at h
  rcases hold : membershipOf memberships dto.workspaceId actorId with _ | found
  · rw [hold] at h
    exact absurd h (by simp)
  · rw [hold] at h
    dsimp only at h
    split_ifs at h with howner hself
    rcases hnew : membershipOf memberships dto.workspaceId dto.newOwnerId with _ | found'
    · rw [hnew] at h
      exact absurd h (by simp)
    · rw [hnew] at h
      obtain ⟨rfl, rfl⟩ := Prod.mk.inj (Except.ok.inj h)
      exact ⟨rfl, not_not.mp howner, hself, rfl⟩

/-- **Everything an operation can do to the memberships.** -/
inductive MembershipsWrite (host : Host) (s : MemberStore) :
    MemberAction → List MembershipRow → Prop where
  | same (a : MemberAction) : MembershipsWrite host s a s.memberships
  | created (workspaceId userId membershipId : String) (now : Int)
      (hid : s.newId membershipId = true) :
      MembershipsWrite host s (.createWorkspace workspaceId userId membershipId now)
        (s.memberships ++ [⟨membershipId, workspaceId, userId, .owner, none, now, now, now⟩])
  | role (a : MemberAction) (target row : MembershipRow)
      (htarget : membershipOf s.memberships target.workspaceId target.userId = some target)
      (hrole : target.role ≠ .owner) (hid : row.id = target.id)
      (hkey : (row.workspaceId, row.userId) = (target.workspaceId, target.userId)) :
      MembershipsWrite host s a (s.memberships ++ [row])
  | removed (a : MemberAction) (target : MembershipRow)
      (htarget : membershipOf s.memberships target.workspaceId target.userId = some target)
      (hcount : target.role = .owner → 2 ≤ countOwners s.memberships target.workspaceId) :
      MembershipsWrite host s a (deleteWhereId s.memberships target.id)
  | transferred (dto : TransferOwnershipDto) (actorId : String) (now : Int)
      (old new : MembershipRow)
      (h : transferable s.memberships dto actorId = .ok (old, new)) :
      MembershipsWrite host s (.transferOwnership dto actorId now)
        (s.memberships ++ [demotedOwner old now, promotedOwner new now])
  | joined (tokenHash : String) (dto : AcceptInvitationDto) (currentUserId : Option String)
      (input : AcceptInput) (invitation : Invitation) (newUsers : List UserRow) (userId : String)
      (h : acceptor host s tokenHash dto currentUserId input = .ok (invitation, newUsers, userId))
      (hid : s.newId input.membershipId = true) :
      MembershipsWrite host s (.acceptInvitation tokenHash dto currentUserId input)
        (s.memberships ++ [membership invitation input.membershipId userId input.now])
  | merged (i : Nat) (row : MembershipRow) (hrow : s.memberships[i]? = some row)
      (h : superseded s.memberships i row = true) :
      MembershipsWrite host s (.merge i) (s.memberships.eraseIdx i)

/-- What is found under a key is what is found under its own. -/
theorem membershipOf_own {rows : List MembershipRow} {workspaceId userId : String}
    {row : MembershipRow} (h : membershipOf rows workspaceId userId = some row) :
    membershipOf rows row.workspaceId row.userId = some row := by
  obtain ⟨-, hws, huser⟩ := mem_of_membershipOf h
  rw [hws, huser]
  exact h

theorem MemberStore.step_write {host : Host} {s t : MemberStore} {a : MemberAction}
    (h : s.step host a = some t) : MembershipsWrite host s a t.memberships := by
  have hsame : ∀ {u : MemberStore}, some u = some t → u.memberships = s.memberships →
      MembershipsWrite host s a t.memberships := by
    intro u hu heq
    rw [← Option.some.inj hu, heq]
    exact .same a
  cases a with
  | createWorkspace workspaceId userId membershipId now =>
      rw [MemberStore.step] at h
      split_ifs at h with hused
      obtain rfl := Option.some.inj h
      exact .created workspaceId userId membershipId now
        (Bool.not_eq_false _ ▸ hused)
  | updateRole dto actor now =>
      rw [MemberStore.step] at h
      rcases hrow : updatedRole s.memberships dto actor now with e | row
      · rw [hrow] at h
        exact hsame h rfl
      · rw [hrow] at h
        obtain rfl := Option.some.inj h
        obtain ⟨target, htarget, hrole, rfl⟩ := updatedRole_eq_ok hrow
        exact .role _ target _ (membershipOf_own htarget) hrole rfl rfl
  | remove dto actor =>
      rw [MemberStore.step] at h
      rcases hrow : removable s.memberships dto actor with e | target
      · rw [hrow] at h
        exact hsame h rfl
      · rw [hrow] at h
        obtain rfl := Option.some.inj h
        obtain ⟨htarget, hcount⟩ := removable_eq_ok hrow
        rw [← (mem_of_membershipOf htarget).2.1] at hcount
        exact .removed _ target (membershipOf_own htarget) hcount
  | leave workspaceId userId =>
      rw [MemberStore.step] at h
      rcases hrow : leavable s.memberships workspaceId userId with e | target
      · rw [hrow] at h
        exact hsame h rfl
      · rw [hrow] at h
        obtain rfl := Option.some.inj h
        obtain ⟨htarget, hcount⟩ := leavable_eq_ok hrow
        rw [← (mem_of_membershipOf htarget).2.1] at hcount
        exact .removed _ target (membershipOf_own htarget) hcount
  | transferOwnership dto actorId now =>
      rw [MemberStore.step] at h
      rcases hrow : transferable s.memberships dto actorId with e | ⟨old, new⟩
      · rw [hrow] at h
        exact hsame h rfl
      · rw [hrow] at h
        obtain rfl := Option.some.inj h
        exact .transferred dto actorId now old new hrow
  | createInvitation dto invitedBy id tokenHash now =>
      rw [MemberStore.step] at h
      split at h
      · exact hsame h rfl
      · exact hsame h rfl
  | resendInvitation id tokenHash now =>
      rw [MemberStore.step] at h
      split at h
      · exact hsame h rfl
      · exact hsame h rfl
  | revokeInvitation id revokedBy now =>
      rw [MemberStore.step] at h
      split at h
      · exact hsame h rfl
      · exact hsame h rfl
  | acceptInvitation tokenHash dto currentUserId input =>
      rw [MemberStore.step] at h
      rcases hrow : acceptor host s tokenHash dto currentUserId input with
        e | ⟨invitation, newUsers, userId⟩
      · rw [hrow] at h
        exact hsame h rfl
      · rw [hrow] at h
        dsimp only at h
        split_ifs at h with hid
        obtain rfl := Option.some.inj h
        exact .joined tokenHash dto currentUserId input invitation newUsers userId hrow hid
  | merge i =>
      rw [MemberStore.step] at h
      rcases hrow : s.memberships[i]? with _ | row
      · rw [hrow] at h
        exact absurd h (by simp)
      · rw [hrow] at h
        dsimp only at h
        split_ifs at h with hsuper
        obtain rfl := Option.some.inj h
        exact .merged i row hrow hsuper

/-! ### One id, one member -/

/-- The rows of one id are of one user in one workspace. -/
def OneKey (memberships : List MembershipRow) : Prop :=
  Owned.Coherent MembershipRow.id (fun row => (row.workspaceId, row.userId)) memberships

theorem MemberStore.newId_iff {s : MemberStore} {id : String} :
    s.newId id = true ↔ ∀ row ∈ s.memberships, row.id ≠ id := by
  simp [MemberStore.newId]

/-- No operation gives one id to two members. -/
theorem MembershipsWrite.oneKey {host : Host} {s : MemberStore} {a : MemberAction}
    {rows : List MembershipRow} (h : MembershipsWrite host s a rows) (hs : OneKey s.memberships) :
    OneKey rows := by
  cases h with
  | same => exact hs
  | created workspaceId userId membershipId now hid =>
      exact hs.append_fresh (MemberStore.newId_iff.mp hid)
  | role _ target row htarget hrole hid hkey =>
      exact hs.append_version (mem_of_membershipOf htarget).1 hid hkey
  | removed _ target htarget hcount => exact hs.filter _
  | transferred dto actorId now old new h =>
      obtain ⟨hold, -, -, hnew⟩ := transferable_eq_ok h
      refine hs.append_versions (List.forall_mem_cons.mpr ⟨⟨old, ?_, rfl, rfl⟩,
        List.forall_mem_singleton.mpr ⟨new, ?_, rfl, rfl⟩⟩)
      · exact (mem_of_membershipOf hold).1
      · exact (mem_of_membershipOf hnew).1
  | joined tokenHash dto currentUserId input invitation newUsers userId h hid =>
      exact hs.append_fresh (MemberStore.newId_iff.mp hid)
  | merged i row hrow h => exact hs.subset fun r hr => List.mem_of_mem_eraseIdx hr

end Veridian
