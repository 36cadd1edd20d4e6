/-
A failed provisioning is undone, or leaves a ghost.

The flag that says the workspace exists is set when `WorkspacesService.create` returns.  A
write that throws inside it therefore leaves what was written before: the database, the row
of the workspace and the membership stay, only the user is deleted.
-/
import Veridian.Admin.Provisioning

namespace Veridian

open UsersService WorkspacesService

/-! ### The user -/

/-- A user who was just created is found under his address until he is deleted, at a time
that is not before his creation. -/
theorem findByEmail_softDelete_iff {host : Host} {users : List UserRow} {user : UserRow}
    {email : String} {now : Int} (hfresh : ∀ row ∈ users, row.id ≠ user.id)
    (hnone : findByEmail host users email = none) (hemail : user.email = host.toLowerCase email)
    (halive : user.deletedAt = none) :
    findByEmail host (softDeleteUserSilently (users ++ [user]) user.id now) email = none ↔
      user.updatedAt ≤ now := by
  have hbefore : survivor user.id users = none := by
    refine Option.not_isSome_iff_eq_none.mp fun hsome => ?_
    obtain ⟨row, hrow, hid⟩ := (Replacing.survivor_isSome_iff _ _).mp hsome
    exact hfresh row hrow hid
  have hcreated : survivor user.id (users ++ [user]) = some user :=
    Replacing.survivor_append_of_none _ _ hbefore rfl
  have hdelete : softDeleteUserSilently (users ++ [user]) user.id now =
      (users ++ [user]) ++ [deleted user user.id now] := by
    rw [softDeleteUserSilently, findById_of_survivor hcreated halive]
  have hafter : survivor user.id ((users ++ [user]) ++ [deleted user user.id now]) =
      some (if now < user.updatedAt then user else deleted user user.id now) :=
    Replacing.survivor_append_of_some _ _ hcreated rfl
  rw [hdelete, findByEmail_eq_none_iff]
  constructor
  · intro h
    by_contra hlt
    rw [if_pos (not_le.mp hlt)] at hafter
    exact h user.id user hafter hemail halive
  · intro hle id row hrow hmail
    by_cases hid : user.id = id
    · subst hid
      rw [if_neg (not_lt.mpr hle)] at hafter
      obtain rfl := Option.some.inj (hafter.symm.trans hrow)
      exact Option.some_ne_none now
    · have hother : survivor id users = some row := by
        rw [← hrow]
        refine (Eq.trans ?_ (Replacing.survivor_append_of_ne _ _ hid)).symm
        exact Replacing.survivor_append_of_ne _ _ hid
      exact findByEmail_eq_none_iff.mp hnone id row hother hmail

theorem create_eq_ok {host : Host} {users : List UserRow} {dto : CreateUserDto}
    {id passwordHash : String} {now : Int} {user : UserRow}
    (h : UsersService.create host users dto id passwordHash now = .ok user) :
    user.id = id ∧ user.email = host.toLowerCase dto.email ∧ user.updatedAt = now ∧
      user.deletedAt = none := by
  dsimp only [UsersService.create] at h
  split at h
  · exact absurd h (by simp)
  · obtain rfl := Except.ok.inj h
    exact ⟨rfl, rfl, rfl, rfl⟩

/-! ### The writes -/

namespace Provisioning

variable (h : ProvisionHost) (p : Provisioning)

theorem performed_users (steps : List ProvisionStep) :
    ∀ s : Tenancy, (steps.foldl (p.perform h) s).users = s.users := by
  induction steps with
  | nil => intro s; rfl
  | cons step rest ih =>
      intro s
      rw [List.foldl_cons, ih]
      cases step <;> rfl

/-- The writes touch no other workspace. -/
theorem performed_others (steps : List ProvisionStep) :
    ∀ s : Tenancy,
      (steps.foldl (p.perform h) s).workspaces.filter (fun row => row.id ≠ p.workspaceId) =
        s.workspaces.filter fun row => row.id ≠ p.workspaceId := by
  induction steps with
  | nil => intro s; rfl
  | cons step rest ih =>
      intro s
      rw [List.foldl_cons, ih]
      cases step with
      | workspaceRow =>
          show List.filter _ (s.workspaces ++ [p.workspace h]) = _
          rw [List.filter_append, List.filter_cons_of_neg (by simp [workspace, newWorkspace]),
            List.filter_nil, List.append_nil]
      | createDatabase => rfl
      | createTable name => rfl
      | membershipRow => rfl
      | backfillRow => rfl
      | keyRow => rfl

theorem mem_performed_databases (steps : List ProvisionStep) :
    ∀ s : Tenancy, p.workspaceId ∈ (steps.foldl (p.perform h) s).databases ↔
      p.workspaceId ∈ s.databases ∨ .createDatabase ∈ steps := by
  induction steps with
  | nil => intro s; simp
  | cons step rest ih =>
      intro s
      rw [List.foldl_cons, ih]
      cases step <;> simp [perform]

theorem any_performed_workspaces (steps : List ProvisionStep) :
    ∀ s : Tenancy,
      (steps.foldl (p.perform h) s).workspaces.any (fun row => row.id = p.workspaceId) = true ↔
        s.workspaces.any (fun row => row.id = p.workspaceId) = true ∨ .workspaceRow ∈ steps := by
  induction steps with
  | nil => intro s; simp
  | cons step rest ih =>
      intro s
      rw [List.foldl_cons, ih]
      cases step <;> simp [perform, workspace, newWorkspace]

end Provisioning

/-! ### The id -/

theorem workspaceExists_iff {rows : List WorkspaceRow} {id : String} :
    workspaceExists rows id = true ↔ ∃ row ∈ rows, row.id = id :=
  Replacing.survivor_isSome_iff WorkspaceRow.id WorkspaceRow.updatedAt

/-- The id that is chosen is free. -/
theorem workspaceIdFor_free {h : ProvisionHost} {rows : List WorkspaceRow}
    {dto : ProvisionTenantDto} {id : String} (hid : workspaceIdFor h rows dto = .ok id) :
    ∀ row ∈ rows, row.id ≠ id := by
  have hfree : workspaceExists rows id = false := by
    unfold workspaceIdFor at hid
    split at hid
    · split_ifs at hid with hexists
      obtain rfl := Except.ok.inj hid
      exact Bool.eq_false_iff.mpr hexists
    · split at hid
      · rename_i found hfound
        obtain rfl := Except.ok.inj hid
        have hfree := List.find?_some hfound
        simpa using hfree
      · exact absurd hid (by simp)
  intro row hrow heq
  exact Bool.eq_false_iff.mp hfree (workspaceExists_iff.mpr ⟨row, hrow, heq⟩)

/-! ### What a failure leaves -/

/-- Nothing of the workspace is left, nobody has the address, and the same request gets the
same id. -/
structure Compensated (h : ProvisionHost) (t : Tenancy) (dto : ProvisionTenantDto)
    (workspaceId : String) : Prop where
  noRow : ∀ row ∈ t.workspaces, row.id ≠ workspaceId
  noDatabase : workspaceId ∉ t.databases
  noMembership : ∀ row ∈ t.memberships, row.workspaceId ≠ workspaceId
  noKey : ∀ key ∈ t.apiKeys, key.workspaceId ≠ some workspaceId
  noUser : findByEmail h.host t.users (h.host.toLowerCase dto.email) = none
  sameId : workspaceIdFor h t.workspaces dto = .ok workspaceId

/-- Nothing of the workspace was there before. -/
structure Unused (s : Tenancy) (workspaceId : String) : Prop where
  noDatabase : workspaceId ∉ s.databases
  noMembership : ∀ row ∈ s.memberships, row.workspaceId ≠ workspaceId
  noKey : ∀ key ∈ s.apiKeys, key.workspaceId ≠ some workspaceId

/-- The write that throws is not one of `WorkspacesService.create`, or it is the first one and
has no effect. -/
def OutsideCreate (s : Tenancy) (input : ProvisionInput) (workspaceId : String) (f : Failure) :
    Prop :=
  (createSteps input.defaultFilters).length ≤ f.done ∨
    f.done = 0 ∧ f.landed = false ∧ Unused s workspaceId

/-- When every write of `create` succeeds, all of them take effect. -/
theorem mem_performed_of_le {f : Failure} {steps : List ProvisionStep} {step last : ProvisionStep}
    (hdone : steps.length ≤ f.done) (hstep : step ∈ steps) :
    step ∈ f.performed (steps ++ [last]) := by
  have hle : steps.length ≤ if f.landed then f.done + 1 else f.done := by split <;> omega
  refine (List.take_prefix_take_left hle).subset ?_
  rw [List.take_left]
  exact hstep

/-- The database is the first thing that is created. -/
theorem createDatabase_mem_performed {f : Failure} {filters : List FilterRow}
    {last : ProvisionStep} (h : f.performed (createSteps filters ++ [last]) ≠ []) :
    .createDatabase ∈ f.performed (createSteps filters ++ [last]) := by
  obtain ⟨n, hn⟩ : ∃ n, f.performed (createSteps filters ++ [last]) =
      (createSteps filters ++ [last]).take n := ⟨_, rfl⟩
  rw [hn] at h ⊢
  cases n with
  | zero => exact absurd rfl h
  | succ n => exact List.mem_cons_self

theorem performed_eq_nil_iff {f : Failure} {filters : List FilterRow} {last : ProvisionStep} :
    f.performed (createSteps filters ++ [last]) = [] ↔ f.done = 0 ∧ f.landed = false := by
  rw [Failure.performed, List.take_eq_nil_iff]
  cases f.landed <;> simp

theorem compensate_users (s : Tenancy) (created : Bool) (p : Provisioning) :
    (compensate s created p).users =
      softDeleteUserSilently s.users p.user.id p.input.deleteNow := by
  cases created with
  | false => rfl
  | true =>
      show softDeleteUserSilently (deleteWorkspaceSilently s p.workspaceId).users _ _ = _
      rw [deleteWorkspaceSilently]
      split <;> rfl

/-- **What a failed call is**: the writes that took effect after the user's, and then the
compensation, with the flag set once `create` has returned. -/
theorem failed_cases {h : ProvisionHost} {s t : Tenancy} {dto : ProvisionTenantDto}
    {input : ProvisionInput} {failure : Option Failure} {workspaceId : String}
    (hid : workspaceIdFor h s.workspaces dto = .ok workspaceId)
    (hfailed : provisionTenant h s dto input failure = .failed t) :
    findByEmail h.host s.users (h.host.toLowerCase dto.email) = none ∧
    ∃ user : UserRow, user.id = input.userId ∧
      user.email = h.host.toLowerCase (h.host.toLowerCase dto.email) ∧
      user.updatedAt = input.userNow ∧ user.deletedAt = none ∧
      ∃ steps created,
        t = compensate (steps.foldl (Provisioning.perform h ⟨dto, input, workspaceId, user⟩)
          { s with users := s.users ++ [user] }) created ⟨dto, input, workspaceId, user⟩ ∧
        (created = true ∧ .workspaceRow ∈ steps ∧
            (∀ f ∈ failure, (createSteps input.defaultFilters).length ≤ f.done) ∨
          ∃ f, failure = some f ∧ f.done < (createSteps input.defaultFilters).length ∧
            created = false ∧
            steps = f.performed (createSteps input.defaultFilters ++ [.keyRow])) := by
  dsimp only [provisionTenant] at hfailed
  rw [hid] at hfailed
  have hrow : .workspaceRow ∈ createSteps input.defaultFilters := by simp [createSteps]
  split at hfailed
  · exact absurd hfailed (by simp)
  · rename_i hmail
    refine ⟨Option.not_isSome_iff_eq_none.mp hmail, ?_⟩
    dsimp only at hfailed
    split at hfailed
    · exact absurd hfailed (by simp)
    · rename_i user huser
      obtain ⟨huid, hemail, hupdated, halive⟩ := create_eq_ok huser
      refine ⟨user, huid, hemail, hupdated, halive, ?_⟩
      split at hfailed
      · rename_i f hf
        obtain ⟨hfailure, hlt⟩ := Option.filter_eq_some_iff.mp hf
        obtain rfl := ProvisionResult.failed.inj hfailed
        refine ⟨_, _, rfl, ?_⟩
        by_cases hdone : (createSteps input.defaultFilters).length ≤ f.done
        · refine Or.inl ⟨decide_eq_true hdone, ?_, ?_⟩
          · exact mem_performed_of_le hdone hrow
          · intro g hg
            obtain rfl := Option.some.inj (hfailure.symm.trans hg)
            exact hdone
        · exact Or.inr ⟨f, hfailure, not_le.mp hdone, decide_eq_false hdone, rfl⟩
      · rename_i hnone
        split at hfailed
        · obtain rfl := ProvisionResult.failed.inj hfailed
          refine ⟨_, _, rfl, Or.inl ⟨rfl, hrow, fun f hf => ?_⟩⟩
          have hge := Option.filter_eq_none_iff.mp hnone f hf
          simp at hge
          omega
        · exact absurd hfailed (by simp)

/-- Once the row of the workspace is there, deleting the workspace leaves nothing of it. -/
theorem compensated_of_row {h : ProvisionHost} {s : Tenancy} {p : Provisioning}
    {steps : List ProvisionStep} {users : List UserRow}
    (hid : workspaceIdFor h s.workspaces p.dto = .ok p.workspaceId) (hrow : .workspaceRow ∈ steps)
    (huser : findByEmail h.host (compensate (steps.foldl (p.perform h) { s with users := users })
      true p).users (h.host.toLowerCase p.dto.email) = none) :
    Compensated h (compensate (steps.foldl (p.perform h) { s with users := users }) true p) p.dto
      p.workspaceId := by
  have hexists := (p.any_performed_workspaces h steps { s with users := users }).mpr (Or.inr hrow)
  have hothers : (steps.foldl (p.perform h) { s with users := users }).workspaces.filter
      (fun row => row.id ≠ p.workspaceId) = s.workspaces := by
    rw [p.performed_others h steps]
    exact List.filter_eq_self.mpr fun row hmem =>
      decide_eq_true (workspaceIdFor_free hid row hmem)
  have hdelete : compensate (steps.foldl (p.perform h) { s with users := users }) true p = _ :=
    congrArg (fun t : Tenancy =>
      { t with users := softDeleteUserSilently t.users p.user.id p.input.deleteNow })
      (if_pos hexists)
  rw [hdelete] at huser ⊢
  exact
    { noRow := fun row hmem => of_decide_eq_true (List.mem_filter.mp hmem).2
      noDatabase := fun hmem => absurd rfl (of_decide_eq_true (List.mem_filter.mp hmem).2)
      noMembership := fun row hmem => of_decide_eq_true (List.mem_filter.mp hmem).2
      noKey := fun key hmem => of_decide_eq_true (List.mem_filter.mp hmem).2
      noUser := huser
      sameId := (congrArg (workspaceIdFor h · p.dto) hothers).trans hid }

namespace ProvisionExample

def host : ProvisionHost where
  host := { Host.bare with parseUrl := fun _ => some ⟨"acme.io", "/", fun _ => none⟩ }
  normalizeNFD := fun s => s

def dto : ProvisionTenantDto where
  email := "jane@acme.io"
  name := "Acme"
  siteUrl := "https://acme.io"
  timezone := none
  currency := none
  workspaceId := none

theorem directPriority_nonneg : (0 : ℚ) ≤ 740 := by decide

def direct : FilterRow where
  id := "f1"
  priority := 740
  conditions := [⟨.isDirect, .equals, some "true"⟩]
  operations := [⟨.channelGroup, .setValue, some "direct", Or.inr rfl⟩,
    ⟨.channel, .setValue, some "direct", Or.inr rfl⟩]
  enabled := true
  priority_nonneg := directPriority_nonneg
  name := "Direct Traffic"
  order := some 1
  tags := ["channel"]
  version := ""
  createdAt := "1970-01-01T00:00:01.010Z"
  updatedAt := "1970-01-01T00:00:01.010Z"

def input : ProvisionInput where
  userNow := 1000
  workspaceNow := 1010
  keyNow := 1020
  deleteNow := 1030
  userId := "u1"
  password := "p"
  passwordHash := "h"
  membershipId := "m1"
  taskId := "t1"
  keyId := "k1"
  keyHash := "kh"
  keyPrefix := "stam_"
  defaultFilters := [direct]
  filtersSnapshot := "[\x7b\"name\":\"Direct Traffic\"\x7d]"

def empty : Tenancy where
  users := []
  workspaces := []
  memberships := []
  invitations := []
  apiKeys := []
  backfillTasks := []
  databases := []
  tables := []

/-- The workspaces, databases and memberships that are left, and the id of the next try. -/
structure Remains where
  workspaces : List String
  databases : List String
  memberships : List String
  nextId : Option String
  deriving DecidableEq

def remains (t : Tenancy) : Remains where
  workspaces := t.workspaces.map (·.id)
  databases := t.databases
  memberships := t.memberships.map (·.workspaceId)
  nextId := (workspaceIdFor host t.workspaces dto).toOption

/-- What is left when the write after the first `done` throws. -/
def failsAt (done : Nat) : Option Remains :=
  match provisionTenant host empty dto input (some ⟨done, false⟩) with
  | .failed t => some (remains t)
  | _ => none

end ProvisionExample

open ProvisionExample in
/-- The row of the workspace fails, or that of the membership, the task or the key. -/
example : [9, 10, 11, 12].map failsAt =
    [some ⟨[], ["acme"], [], some "acme"⟩, some ⟨["acme"], ["acme"], [], some "acme_2"⟩,
      some ⟨["acme"], ["acme"], ["acme"], some "acme_2"⟩, some ⟨[], [], [], some "acme"⟩] := by
  decide

end Veridian
