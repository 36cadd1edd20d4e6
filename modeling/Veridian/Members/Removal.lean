/-
Who is removed is gone, or not.

`remove` and `leave` delete the rows that carry the id of the visible membership.  A role
change keeps the id, but an accepted invitation writes a new one under the same key, and the
rows under the old id stay until the database merges them away.  A removal in between deletes
the new row and leaves the old one, which then is the visible one.
-/
import Veridian.Members.LastOwner

namespace Veridian

open MembersService

/-- Who is removed from where, and the id the rows are deleted by. -/
structure Removal where
  workspaceId : String
  userId : String
  id : String

/-- The removal an operation makes, if it is `remove` or `leave` and does not throw. -/
def removal (s : MemberStore) : MemberAction → Option Removal
  | .remove dto actor => (removable s.memberships dto actor).toOption.map fun target =>
      ⟨dto.workspaceId, dto.userId, target.id⟩
  | .leave workspaceId userId => (leavable s.memberships workspaceId userId).toOption.map
      fun target => ⟨workspaceId, userId, target.id⟩
  | _ => none

/-- After a removal the user is not a member. -/
def RemovalFinal (host : Host) (s : MemberStore) (a : MemberAction) : Prop :=
  ∀ r ∈ removal s a, ∀ t, s.step host a = some t →
    membershipOf t.memberships r.workspaceId r.userId = none

/-- Before a removal every stored row of the user in the workspace, merged or not, has the id
of the visible one. -/
def RemovalSeesAll (s : MemberStore) (a : MemberAction) : Prop :=
  ∀ r ∈ removal s a, ∀ row ∈ s.memberships,
    row.workspaceId = r.workspaceId → row.userId = r.userId → row.id = r.id

theorem toOption_eq_some {ε α : Type*} {e : Except ε α} {x : α} (h : e.toOption = some x) :
    e = .ok x := by
  cases e with
  | error e => exact absurd h (by simp [Except.toOption])
  | ok y => rw [Option.some.inj h]

/-- **What a removal is**: it goes by the id of the visible membership, and deletes the rows
that have it. -/
theorem removal_cases (host : Host) {s : MemberStore} {a : MemberAction} {r : Removal}
    (h : removal s a = some r) :
    (∃ target, membershipOf s.memberships r.workspaceId r.userId = some target ∧
      target.id = r.id) ∧
    s.step host a = some { s with memberships := deleteWhereId s.memberships r.id } := by
  cases a with
  | remove dto actor =>
      obtain ⟨target, htarget, rfl⟩ := Option.map_eq_some_iff.mp h
      have hok := toOption_eq_some htarget
      exact ⟨⟨target, (removable_eq_ok hok).1, rfl⟩, by rw [MemberStore.step, hok]⟩
  | leave workspaceId userId =>
      obtain ⟨target, htarget, rfl⟩ := Option.map_eq_some_iff.mp h
      have hok := toOption_eq_some htarget
      exact ⟨⟨target, (leavable_eq_ok hok).1, rfl⟩, by rw [MemberStore.step, hok]⟩
  | createWorkspace workspaceId userId membershipId now => exact absurd h (by simp [removal])
  | updateRole dto actor now => exact absurd h (by simp [removal])
  | transferOwnership dto actorId now => exact absurd h (by simp [removal])
  | createInvitation dto invitedBy id tokenHash now => exact absurd h (by simp [removal])
  | resendInvitation id tokenHash now => exact absurd h (by simp [removal])
  | revokeInvitation id revokedBy now => exact absurd h (by simp [removal])
  | acceptInvitation tokenHash dto currentUserId input => exact absurd h (by simp [removal])
  | merge i => exact absurd h (by simp [removal])

/-- Nobody is a member who has no row. -/
theorem membershipOf_eq_none_iff {rows : List MembershipRow} {workspaceId userId : String} :
    membershipOf rows workspaceId userId = none ↔
      ∀ row ∈ rows, row.workspaceId = workspaceId → row.userId ≠ userId := by
  rw [← Option.not_isSome_iff_eq_none, membershipOf_isSome_iff]
  simp only [not_exists, not_and]

/-- **One removal is final exactly when it sees all the rows of the user.** -/
theorem removalFinal_iff {host : Host} (s : MemberStore) (a : MemberAction) :
    RemovalFinal host s a ↔ RemovalSeesAll s a := by
  unfold RemovalFinal RemovalSeesAll
  refine forall_congr' fun r => imp_congr_right fun hr => ?_
  have hstep : s.step host a = _ := (removal_cases host hr).2
  constructor
  · intro h row hrow hws huser
    by_contra hid
    have hnone := membershipOf_eq_none_iff.mp (h _ hstep)
    exact hnone row (List.mem_filter.mpr ⟨hrow, decide_eq_true hid⟩) hws huser
  · intro h t ht
    obtain rfl := Option.some.inj (hstep.symm.trans ht)
    refine membershipOf_eq_none_iff.mpr fun row hrow hws huser => ?_
    obtain ⟨hmem, hid⟩ := List.mem_filter.mp hrow
    exact of_decide_eq_true hid (h row hmem hws huser)

/-- **The removals of a run are final exactly when each of them sees all the rows of its
user.** -/
theorem removals_final_iff (host : Host) (users : List UserRow) (as : List MemberAction) :
    Machine.Meets (MemberStore.step host) (RemovalFinal host) (MemberStore.init users) as ↔
      Machine.Meets (MemberStore.step host) RemovalSeesAll (MemberStore.init users) as :=
  Machine.meets_congr removalFinal_iff

/-! ### Where the second id comes from -/

/-- The rows of one user in one workspace have one id. -/
def OneId (memberships : List MembershipRow) : Prop :=
  Owned.Coherent (fun row => (row.workspaceId, row.userId)) MembershipRow.id memberships

/-- Whoever accepts an invitation, or creates a workspace, has no row in it. -/
def Joins (host : Host) (s : MemberStore) : MemberAction → Prop
  | .acceptInvitation tokenHash dto currentUserId input => ∀ invitation newUsers userId,
      acceptor host s tokenHash dto currentUserId input = .ok (invitation, newUsers, userId) →
        membershipOf s.memberships invitation.workspaceId userId = none
  | .createWorkspace workspaceId userId _ _ => membershipOf s.memberships workspaceId userId = none
  | _ => True

theorem OneId.append_fresh {rows : List MembershipRow} {x : MembershipRow} (h : OneId rows)
    (hx : membershipOf rows x.workspaceId x.userId = none) : OneId (rows ++ [x]) := by
  refine Owned.Coherent.append_fresh h fun r hr hkey => ?_
  obtain ⟨hws, huser⟩ := Prod.mk.inj hkey
  exact membershipOf_eq_none_iff.mp hx r hr hws huser

/-- A user who joins once keeps one id, whatever his role is changed to. -/
theorem MembershipsWrite.oneId {host : Host} {s : MemberStore} {a : MemberAction}
    {rows : List MembershipRow} (h : MembershipsWrite host s a rows) (hjoins : Joins host s a)
    (hs : OneId s.memberships) : OneId rows := by
  cases h with
  | same => exact hs
  | created workspaceId userId membershipId now hid => exact hs.append_fresh hjoins
  | role _ target row htarget hrole hid hkey =>
      exact hs.append_version (mem_of_membershipOf htarget).1 hkey hid
  | removed _ target htarget hcount => exact hs.filter _
  | transferred dto actorId now old new h =>
      obtain ⟨hold, -, -, hnew⟩ := transferable_eq_ok h
      refine hs.append_versions (List.forall_mem_cons.mpr ⟨⟨old, ?_, rfl, rfl⟩,
        List.forall_mem_singleton.mpr ⟨new, ?_, rfl, rfl⟩⟩)
      · exact (mem_of_membershipOf hold).1
      · exact (mem_of_membershipOf hnew).1
  | joined tokenHash dto currentUserId input invitation newUsers userId h hid =>
      exact hs.append_fresh (hjoins invitation newUsers userId h)
  | merged i row hrow h => exact hs.subset fun r hr => List.mem_of_mem_eraseIdx hr

/-- **Where users only join workspaces they have no row in, every removal is final.** -/
theorem removals_final_of_joins (host : Host) (users : List UserRow) (as : List MemberAction)
    (h : Machine.Meets (MemberStore.step host) (Joins host) (MemberStore.init users) as) :
    Machine.Meets (MemberStore.step host) (RemovalFinal host) (MemberStore.init users) as := by
  refine Machine.meets_of_invariant (P := fun s : MemberStore => OneId s.memberships)
    (fun _ _ _ hs hC hstep => (MemberStore.step_write hstep).oneId hC hs) (fun s a hs _ => ?_)
    (fun _ hr => absurd hr List.not_mem_nil) h
  refine (removalFinal_iff s a).mpr fun r hr row hrow hws huser => ?_
  obtain ⟨target, htarget, hid⟩ := (removal_cases host hr).1
  obtain ⟨hmem, htarget_ws, htarget_user⟩ := mem_of_membershipOf htarget
  rw [← hid]
  refine hs row hrow target hmem ?_
  show (row.workspaceId, row.userId) = (target.workspaceId, target.userId)
  rw [hws, huser, htarget_ws, htarget_user]

namespace RemovalExample

open OwnerExample

/-- Ada invites Bob twice, and he accepts both invitations. -/
def acceptedTwice : List MemberAction :=
  [.createWorkspace "w1" "ada" "m1" 0, invite "i1" "t1" 0, invite "i2" "t2" 700000000,
    .resendInvitation "i1" "t3" 700000050, accept "t2" "m2" 700000100,
    accept "t3" "m3" 700000200]

def removeBob : MemberAction := .remove ⟨"w1", "bob"⟩ ⟨"ada", .owner⟩

end RemovalExample

open RemovalExample OwnerExample in
/-- Bob is removed, and is a member still, by the row of the invitation he accepted first. -/
theorem removed_member_remains :
    (run acceptedTwice).map (fun s =>
      ((removal s removeBob).map (·.id), (membershipOf s.memberships "w1" "bob").map (·.id))) =
        some (some "m3", some "m3") ∧
    (run (acceptedTwice ++ [removeBob])).map (fun t =>
      (membershipOf t.memberships "w1" "bob").map (·.id)) = some (some "m2") := by
  refine ⟨by decide, by decide⟩

end Veridian
