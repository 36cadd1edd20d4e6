/-
A workspace keeps an owner.

Every member operation asks for another owner before it takes one away, or makes one in the
same insert.  An accepted invitation asks nothing: it writes its own role over whatever the
user had, and an invitation can be older than his becoming the only owner.  `KeepsOwner` is
what that leaves to ask of an accept, and of the clock of a transfer.
-/
import Veridian.Members.Members

namespace Veridian

open MembersService

/-! ### Owners -/

/-- Some member the merged table shows is an owner. -/
def HasOwner (memberships : List MembershipRow) (workspaceId : String) : Prop :=
  ∃ userId row, membershipOf memberships workspaceId userId = some row ∧ row.role = .owner

theorem mem_membershipsFinal {memberships : List MembershipRow} {row : MembershipRow} :
    row ∈ membershipsFinal memberships ↔
      membershipOf memberships row.workspaceId row.userId = some row := by
  rw [membershipOf_eq_survivor]
  exact Replacing.mem_final_iff _ _

/-- Whether there is an owner can be counted. -/
theorem hasOwner_iff {memberships : List MembershipRow} {workspaceId : String} :
    HasOwner memberships workspaceId ↔ 0 < countOwners memberships workspaceId := by
  unfold countOwners
  rw [List.length_pos_iff_exists_mem]
  constructor
  · rintro ⟨userId, row, hrow, howner⟩
    have hws := (mem_of_membershipOf hrow).2.1
    have hfinal := mem_membershipsFinal.mpr (membershipOf_own hrow)
    exact ⟨row, List.mem_filter.mpr ⟨hfinal, by simp [hws, howner]⟩⟩
  · rintro ⟨row, hrow⟩
    obtain ⟨hfinal, hp⟩ := List.mem_filter.mp hrow
    obtain ⟨hws, howner⟩ := of_decide_eq_true hp
    exact ⟨row.userId, row, hws ▸ mem_membershipsFinal.mp hfinal, howner⟩

instance (memberships : List MembershipRow) (workspaceId : String) :
    Decidable (HasOwner memberships workspaceId) :=
  decidable_of_iff _ hasOwner_iff.symm

/-- Of two owners one is somebody else. -/
theorem exists_other_owner {memberships : List MembershipRow} {workspaceId : String}
    (h : 2 ≤ countOwners memberships workspaceId) (userId : String) :
    ∃ other row, other ≠ userId ∧ membershipOf memberships workspaceId other = some row ∧
      row.role = .owner := by
  have hnodup : (((membershipsFinal memberships).filter fun row =>
      row.workspaceId = workspaceId ∧ row.role = .owner).map
        fun row => (row.workspaceId, row.userId)).Nodup := by
    refine List.Nodup.sublist (List.filter_sublist.map _) ?_
    rw [membershipsFinal, Replacing.final_map_key]
    exact List.nodup_dedup _
  unfold countOwners at h
  rcases hl : (membershipsFinal memberships).filter fun row =>
      row.workspaceId = workspaceId ∧ row.role = .owner with _ | ⟨a, _ | ⟨b, rest⟩⟩
  · rw [hl] at h
    exact absurd h (by simp)
  · rw [hl] at h
    exact absurd h (by simp)
  · rw [hl] at hnodup
    have hin : ∀ r ∈ a :: b :: rest, membershipOf memberships workspaceId r.userId = some r ∧
        r.workspaceId = workspaceId ∧ r.role = .owner := by
      intro r hr
      rw [← hl] at hr
      obtain ⟨hfinal, hp⟩ := List.mem_filter.mp hr
      obtain ⟨hw, hrole⟩ := of_decide_eq_true hp
      exact ⟨hw ▸ mem_membershipsFinal.mp hfinal, hw, hrole⟩
    obtain ⟨hma, hwa, hra⟩ := hin a (by simp)
    obtain ⟨hmb, hwb, hrb⟩ := hin b (by simp)
    by_cases ha : a.userId = userId
    · refine ⟨b.userId, b, fun hb => ?_, hmb, hrb⟩
      have hkeys : (a.workspaceId, a.userId) = (b.workspaceId, b.userId) := by
        rw [hwa, hwb, ha, hb]
      exact (List.nodup_cons.mp hnodup).1 (List.mem_cons.mpr (Or.inl hkeys))
    · exact ⟨a.userId, a, ha, hma, hra⟩

section Writes

variable {rows : List MembershipRow} {workspaceId : String}

theorem membershipOf_append_of_some {x m : MembershipRow}
    (h : membershipOf rows x.workspaceId x.userId = some m) :
    membershipOf (rows ++ [x]) x.workspaceId x.userId =
      some (if x.updatedAt < m.updatedAt then m else x) := by
  rw [membershipOf_eq_survivor] at h ⊢
  exact Replacing.survivor_append_of_some _ _ h rfl

theorem membershipOf_append_of_ne {x : MembershipRow} {userId : String}
    (h : (x.workspaceId, x.userId) ≠ (workspaceId, userId)) :
    membershipOf (rows ++ [x]) workspaceId userId = membershipOf rows workspaceId userId := by
  rw [membershipOf_eq_survivor, membershipOf_eq_survivor]
  exact Replacing.survivor_append_of_ne _ _ h

/-- A row may come after the one of an owner if it is an owner's itself, or older, or if there
is another owner. -/
theorem HasOwner.append {x : MembershipRow} (h : HasOwner rows workspaceId)
    (hx : ∀ m, membershipOf rows x.workspaceId x.userId = some m → m.role = .owner →
      x.role = .owner ∨ x.updatedAt < m.updatedAt ∨ 2 ≤ countOwners rows x.workspaceId) :
    HasOwner (rows ++ [x]) workspaceId := by
  obtain ⟨userId, row, hrow, howner⟩ := h
  by_cases hkey : (x.workspaceId, x.userId) = (workspaceId, userId)
  · obtain ⟨rfl, rfl⟩ := Prod.mk.inj hkey
    have hnext := membershipOf_append_of_some hrow
    rcases hx row hrow howner with hrole | hold | hcount
    · refine ⟨x.userId, _, hnext, ?_⟩
      split
      · exact howner
      · exact hrole
    · rw [if_pos hold] at hnext
      exact ⟨x.userId, row, hnext, howner⟩
    · obtain ⟨other, row', hne, hrow', howner'⟩ := exists_other_owner hcount x.userId
      refine ⟨other, row', ?_, howner'⟩
      rw [membershipOf_append_of_ne fun heq => hne (Prod.mk.inj heq).2.symm]
      exact hrow'
  · refine ⟨userId, row, ?_, howner⟩
    rw [membershipOf_append_of_ne hkey]
    exact hrow

/-- Deleting by the id of a member leaves the other members. -/
theorem membershipOf_deleteWhereId_of_ne (hone : OneKey rows) {target : MembershipRow}
    (htarget : target ∈ rows) {userId : String}
    (h : (target.workspaceId, target.userId) ≠ (workspaceId, userId)) :
    membershipOf (deleteWhereId rows target.id) workspaceId userId =
      membershipOf rows workspaceId userId := by
  rw [membershipOf_eq_survivor, membershipOf_eq_survivor]
  refine Replacing.survivor_filter_of_key _ _ fun r hr hkey => decide_eq_true fun hid => h ?_
  rw [← hkey]
  exact (hone r hr target htarget hid).symm

theorem HasOwner.deleteWhereId {target : MembershipRow} (h : HasOwner rows workspaceId)
    (hone : OneKey rows)
    (htarget : membershipOf rows target.workspaceId target.userId = some target)
    (hcount : target.role = .owner → 2 ≤ countOwners rows target.workspaceId) :
    HasOwner (deleteWhereId rows target.id) workspaceId := by
  have hmem := (mem_of_membershipOf htarget).1
  obtain ⟨userId, row, hrow, howner⟩ := h
  by_cases hkey : (target.workspaceId, target.userId) = (workspaceId, userId)
  · obtain ⟨rfl, rfl⟩ := Prod.mk.inj hkey
    obtain rfl : row = target := Option.some.inj (hrow.symm.trans htarget)
    obtain ⟨other, row', hne, hrow', howner'⟩ := exists_other_owner (hcount howner) row.userId
    refine ⟨other, row', ?_, howner'⟩
    rw [membershipOf_deleteWhereId_of_ne hone hmem fun heq => hne (Prod.mk.inj heq).2.symm]
    exact hrow'
  · refine ⟨userId, row, ?_, howner⟩
    rw [membershipOf_deleteWhereId_of_ne hone hmem hkey]
    exact hrow

/-- A merge shows nothing new. -/
theorem membershipOf_eraseIdx {i : Nat} {row : MembershipRow} (hrow : rows[i]? = some row)
    (h : superseded rows i row = true) (userId : String) :
    membershipOf (rows.eraseIdx i) workspaceId userId = membershipOf rows workspaceId userId := by
  by_cases hkey : (row.workspaceId, row.userId) = (workspaceId, userId)
  · obtain ⟨rfl, rfl⟩ := Prod.mk.inj hkey
    exact of_decide_eq_true h
  · rw [membershipOf_eq_survivor, membershipOf_eq_survivor]
    exact Replacing.survivor_eraseIdx_of_ne _ _ hrow hkey

end Writes

/-! ### What is left to ask -/

/-- Whoever accepts is not the only owner, or his row is newer than the one that is written. -/
def AcceptKeeps (memberships : List MembershipRow) (now : Int) :
    Except ServiceError (Invitation × List UserRow × String) → Prop
  | .error _ => True
  | .ok (invitation, _, userId) =>
      ∀ row ∈ membershipOf memberships invitation.workspaceId userId, row.role = .owner →
        now < row.updatedAt ∨ 2 ≤ countOwners memberships invitation.workspaceId

/-- The row of the new owner is not newer than the one that promotes him, unless the old owner
stays one or there are more. -/
def TransferKeeps (memberships : List MembershipRow) (workspaceId : String) (now : Int) :
    Except ServiceError (MembershipRow × MembershipRow) → Prop
  | .error _ => True
  | .ok (old, new) =>
      new.updatedAt ≤ now ∨ now < old.updatedAt ∨ 2 ≤ countOwners memberships workspaceId

def KeepsOwner (host : Host) (s : MemberStore) : MemberAction → Prop
  | .acceptInvitation tokenHash dto currentUserId input =>
      AcceptKeeps s.memberships input.now (acceptor host s tokenHash dto currentUserId input)
  | .transferOwnership dto actorId now =>
      TransferKeeps s.memberships dto.workspaceId now (transferable s.memberships dto actorId)
  | _ => True

instance (memberships : List MembershipRow) (now : Int) :
    ∀ r, Decidable (AcceptKeeps memberships now r)
  | .error _ => isTrue trivial
  | .ok (invitation, _, userId) => inferInstanceAs
      (Decidable (∀ row ∈ membershipOf memberships invitation.workspaceId userId, _))

instance (memberships : List MembershipRow) (workspaceId : String) (now : Int) :
    ∀ r, Decidable (TransferKeeps memberships workspaceId now r)
  | .error _ => isTrue trivial
  | .ok _ => inferInstanceAs (Decidable (_ ∨ _))

instance (host : Host) (s : MemberStore) : ∀ a, Decidable (KeepsOwner host s a)
  | .acceptInvitation _ _ _ _ => inferInstanceAs (Decidable (AcceptKeeps _ _ _))
  | .transferOwnership _ _ _ => inferInstanceAs (Decidable (TransferKeeps _ _ _ _))
  | .createWorkspace _ _ _ _ => isTrue trivial
  | .updateRole _ _ _ => isTrue trivial
  | .remove _ _ => isTrue trivial
  | .leave _ _ => isTrue trivial
  | .createInvitation _ _ _ _ _ => isTrue trivial
  | .resendInvitation _ _ _ => isTrue trivial
  | .revokeInvitation _ _ _ => isTrue trivial
  | .merge _ => isTrue trivial

/-- The two rows of a transfer. -/
theorem HasOwner.transferred {rows : List MembershipRow} {workspaceId : String}
    {dto : TransferOwnershipDto} {actorId : String} {now : Int} {old new : MembershipRow}
    (h : HasOwner rows workspaceId) (htransfer : transferable rows dto actorId = .ok (old, new))
    (hkeeps : new.updatedAt ≤ now ∨ now < old.updatedAt ∨ 2 ≤ countOwners rows dto.workspaceId) :
    HasOwner (rows ++ [demotedOwner old now, promotedOwner new now]) workspaceId := by
  obtain ⟨hold, -, hne, hnew⟩ := transferable_eq_ok htransfer
  obtain ⟨-, hold_ws, hold_user⟩ := mem_of_membershipOf hold
  obtain ⟨-, hnew_ws, hnew_user⟩ := mem_of_membershipOf hnew
  have hkeys : ((demotedOwner old now).workspaceId, (demotedOwner old now).userId) ≠
      (new.workspaceId, new.userId) := by
    intro heq
    have husers : old.userId = new.userId := (Prod.mk.inj heq).2
    rw [hold_user, hnew_user] at husers
    exact hne husers
  rw [List.append_cons]
  -- the promoted row, where it shows, is of an owner
  have hpromoted : HasOwner (rows ++ [demotedOwner old now]) workspaceId →
      HasOwner ((rows ++ [demotedOwner old now]) ++ [promotedOwner new now]) workspaceId :=
    fun hfirst => hfirst.append fun _ _ _ => Or.inl rfl
  by_cases hws : old.workspaceId = workspaceId
  · rcases hkeeps with hvisible | hbehind | hcount
    · refine ⟨new.userId, promotedOwner new now, ?_, rfl⟩
      have hfirst : membershipOf (rows ++ [demotedOwner old now])
          (promotedOwner new now).workspaceId (promotedOwner new now).userId = some new := by
        show membershipOf _ new.workspaceId new.userId = some new
        rw [membershipOf_append_of_ne hkeys, hnew_ws, hnew_user]
        exact hnew
      have hlast := membershipOf_append_of_some hfirst
      have hnot : ¬(promotedOwner new now).updatedAt < new.updatedAt := not_lt.mpr hvisible
      rw [if_neg hnot] at hlast
      rw [← hws, hold_ws, ← hnew_ws]
      exact hlast
    · refine hpromoted (h.append fun m hm _ => Or.inr (Or.inl ?_))
      have hm' : membershipOf rows old.workspaceId old.userId = some m := hm
      rw [hold_ws, hold_user, hold] at hm'
      rw [← Option.some.inj hm']
      exact hbehind
    · refine hpromoted (h.append fun _ _ _ => Or.inr (Or.inr ?_))
      show 2 ≤ countOwners rows old.workspaceId
      rw [hold_ws]
      exact hcount
  · obtain ⟨userId, row, hrow, howner⟩ := h
    refine hpromoted ⟨userId, row, ?_, howner⟩
    have hother : ((demotedOwner old now).workspaceId, (demotedOwner old now).userId) ≠
        (workspaceId, userId) := fun heq => hws (Prod.mk.inj heq).1
    rw [membershipOf_append_of_ne hother]
    exact hrow

/-- **An operation that meets `KeepsOwner` keeps an owner.** -/
theorem MembershipsWrite.hasOwner {host : Host} {s : MemberStore} {a : MemberAction}
    {rows : List MembershipRow} {workspaceId : String} (h : MembershipsWrite host s a rows)
    (hone : OneKey s.memberships) (hkeeps : KeepsOwner host s a)
    (howner : HasOwner s.memberships workspaceId) : HasOwner rows workspaceId := by
  cases h with
  | same => exact howner
  | created workspaceId userId membershipId now hid =>
      exact howner.append fun _ _ _ => Or.inl rfl
  | role _ target row htarget hrole hid hkey =>
      -- the member whose role is updated was no owner
      refine howner.append fun m hm hm_owner => absurd ?_ hrole
      obtain ⟨hws, huser⟩ := Prod.mk.inj hkey
      rw [hws, huser, htarget] at hm
      rw [Option.some.inj hm]
      exact hm_owner
  | removed _ target htarget hcount => exact howner.deleteWhereId hone htarget hcount
  | transferred dto actorId now old new h =>
      have hkeeps' : TransferKeeps s.memberships dto.workspaceId now
          (transferable s.memberships dto actorId) := hkeeps
      rw [h] at hkeeps'
      exact howner.transferred h hkeeps'
  | joined tokenHash dto currentUserId input invitation newUsers userId h hid =>
      have hkeeps' : AcceptKeeps s.memberships input.now
          (acceptor host s tokenHash dto currentUserId input) := hkeeps
      rw [h] at hkeeps'
      exact howner.append fun m hm hm_owner => Or.inr (hkeeps' m hm hm_owner)
  | merged i row hrow h =>
      obtain ⟨userId, m, hm, hm_owner⟩ := howner
      refine ⟨userId, m, ?_, hm_owner⟩
      rw [membershipOf_eraseIdx hrow h]
      exact hm

/-- The ids of the memberships, whatever was done before. -/
theorem MemberStore.exec_oneKey {host : Host} {users : List UserRow} {as : List MemberAction}
    {s : MemberStore} (h : Machine.exec (MemberStore.step host) (MemberStore.init users) as = some s) :
    OneKey s.memberships :=
  Machine.exec_invariant (P := fun s : MemberStore => OneKey s.memberships)
    (fun _ _ _ hs hstep => (MemberStore.step_write hstep).oneKey hs)
    (fun _ hr => absurd hr List.not_mem_nil) h

namespace OwnerExample

def user (id email : String) : UserRow where
  id := id
  email := email
  passwordHash := some "$2b$hash"
  name := id
  type := .user
  status := .active
  isSuperAdmin := false
  lastLoginAt := none
  failedLoginAttempts := 0
  lockedUntil := none
  passwordChangedAt := none
  deletedAt := none
  deletedBy := none
  createdAt := 0
  updatedAt := 0

def users : List UserRow := [user "ada" "ada@acme.io", user "bob" "bob@acme.io"]

def invite (id tokenHash : String) (now : Int) : MemberAction :=
  .createInvitation ⟨"w1", "bob@acme.io", .editor⟩ "ada" id tokenHash now

def accept (tokenHash membershipId : String) (now : Int) : MemberAction :=
  .acceptInvitation tokenHash ⟨none, none⟩ (some "bob") ⟨now, "", membershipId, ""⟩

/-- Ada invites Bob, again when the first invitation has run out, and hands him the workspace. -/
def handedOver : List MemberAction :=
  [.createWorkspace "w1" "ada" "m1" 0, invite "i1" "t1" 0, invite "i2" "t2" 700000000,
    accept "t2" "m2" 700000100, .transferOwnership ⟨"w1", "bob"⟩ "ada" 700000200]

/-- The first invitation is sent again, and Bob accepts it. -/
def acceptedAgain : List MemberAction :=
  [.resendInvitation "i1" "t3" 700000300, accept "t3" "m3" 700000400]

/-- Bob makes Ada an owner again and leaves. -/
def handedBack : List MemberAction :=
  [.updateRole ⟨"w1", "ada", .owner⟩ ⟨"bob", .owner⟩ 700000300, .leave "w1" "bob"]

def run (as : List MemberAction) : Option MemberStore :=
  Machine.exec (MemberStore.step Host.bare) (MemberStore.init users) as

/-- The members of the workspace and their roles. -/
def roles (s : MemberStore) : List (String × Role) :=
  ((membershipsFinal s.memberships).filter fun row => row.workspaceId = "w1").map
    fun row => (row.userId, row.role)

end OwnerExample

end Veridian
