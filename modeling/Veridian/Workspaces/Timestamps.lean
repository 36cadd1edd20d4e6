/-
The stamps of a workspace's rows.

Stamps are compared as texts, and the clock may stand still or go back.  An update looks at
the row it has read: if the clock is not behind it, the stamp of that row is raised by a
millisecond.  What carries this through a run is that every stamp is of a year of four
digits; the last of these has no successor among them.
-/
import Veridian.Workspaces.Workspace
import Veridian.Lib.Machine

namespace Veridian.WorkspacesService

inductive WorkspaceOp where
  | create (dto : CreateWorkspaceDto) (defaultFilters : List FilterRow) (now : Int)
  | update (dto : UpdateWorkspaceDto) (now : Int)
  | activateIfInitializing (id : String) (now : Int)

namespace WorkspaceOp

/-- The workspace that is written. -/
def id : WorkspaceOp → String
  | .create dto _ _ => dto.id
  | .update dto _ => dto.id
  | .activateIfInitializing id _ => id

/-- The row that is written, if one is. -/
def row (host : Host) (rows : List WorkspaceRow) : WorkspaceOp → Option WorkspaceRow
  | .create dto defaultFilters now =>
      some (newWorkspace host defaultFilters dto (toClickHouseDateTime now))
  | .update dto now => WorkspacesService.update rows dto now
  | .activateIfInitializing id now => WorkspacesService.activateIfInitializing rows id now

end WorkspaceOp

def step (host : Host) (rows : List WorkspaceRow) (op : WorkspaceOp) :
    Option (List WorkspaceRow) :=
  some (rows ++ (op.row host rows).toList)

/-- The last stamp of a year of four digits. -/
def LAST_STAMP : String := "9999-12-31 23:59:59.999"

/-- A workspace is created in a year of four digits, and nothing is written over the row with
the last stamp. -/
def Stamped (rows : List WorkspaceRow) : WorkspaceOp → Prop
  | .create _ _ now => FourDigits now
  | .update dto _ => ∀ workspace ∈ get rows dto.id, workspace.updatedAt ≠ LAST_STAMP
  | .activateIfInitializing id _ =>
      ∀ workspace ∈ get rows id, workspace.updatedAt ≠ LAST_STAMP

instance (rows : List WorkspaceRow) : ∀ op, Decidable (Stamped rows op)
  | .create _ _ now => inferInstanceAs (Decidable (FourDigits now))
  | .update dto _ => inferInstanceAs (Decidable (∀ workspace ∈ get rows dto.id, _))
  | .activateIfInitializing id _ => inferInstanceAs (Decidable (∀ workspace ∈ get rows id, _))

/-- A workspace that is there already is created again only when the clock is past its stamp. -/
def Fresh (rows : List WorkspaceRow) : WorkspaceOp → Prop
  | .create dto _ now =>
      ∀ workspace ∈ get rows dto.id, workspace.updatedAt < toClickHouseDateTime now
  | _ => True

instance (rows : List WorkspaceRow) : ∀ op, Decidable (Fresh rows op)
  | .create dto _ _ => inferInstanceAs (Decidable (∀ workspace ∈ get rows dto.id, _))
  | .update _ _ => isTrue trivial
  | .activateIfInitializing _ _ => isTrue trivial

/-- `row`, written after `rows`, has the greatest stamp, and is what `get` and `list`
return. -/
structure WrittenLast (rows : List WorkspaceRow) (row : WorkspaceRow) : Prop where
  greatest : ∀ r ∈ rows, r.id = row.id → r.updatedAt < row.updatedAt
  got : get (rows ++ [row]) row.id = some row
  listed : ∀ ids : Option (List String), (∀ l ∈ ids, row.id ∈ l) →
    ∀ r, r ∈ list (rows ++ [row]) ids ∧ r.id = row.id ↔ r = row

/-! ### One stamp after the other -/

/-- A stamp of a year of four digits. -/
def IsStamp (stamp : String) : Prop := ∃ ms, FourDigits ms ∧ stamp = toClickHouseDateTime ms

theorem IsStamp.of_lt {stamp : String} {now : Int} (h : IsStamp stamp)
    (hlt : stamp < toClickHouseDateTime now) : FourDigits now := by
  obtain ⟨ms, hms, rfl⟩ := h
  by_contra hnow
  exact lt_asymm hlt (toClickHouseDateTime_lt_of_signed hnow hms)

/-- **The next stamp exists and is greater, whatever the clock says.** -/
theorem nextUpdatedAt_gt {stamp : String} (h : IsStamp stamp) (hlast : stamp ≠ LAST_STAMP)
    (now : Int) :
    ∃ next, nextUpdatedAt now stamp = some next ∧ IsStamp next ∧ stamp < next := by
  unfold nextUpdatedAt
  by_cases hlt : stamp < toClickHouseDateTime now
  · rw [if_pos hlt]
    exact ⟨_, rfl, ⟨now, h.of_lt hlt, rfl⟩, hlt⟩
  · rw [if_neg hlt]
    obtain ⟨ms, hms, rfl⟩ := h
    have hne : ms ≠ LAST_INSTANT := by
      rintro rfl
      exact hlast (by decide)
    have hnext : FourDigits (ms + 1) := by
      obtain ⟨hfirst, hle⟩ := hms
      unfold FourDigits
      omega
    exact ⟨_, bumpMillis_toClickHouseDateTime hms, ⟨ms + 1, hnext, rfl⟩,
      toClickHouseDateTime_lt hms hnext (by omega)⟩

/-! ### One write -/

section Writes

variable {host : Host} {rows : List WorkspaceRow}

theorem updatedAt_le_get {workspace r : WorkspaceRow} {id : String}
    (h : get rows id = some workspace) (hr : r ∈ rows) (hid : r.id = id) :
    r.updatedAt ≤ workspace.updatedAt :=
  Replacing.newest_le _ h (List.mem_filter.mpr ⟨hr, decide_eq_true hid⟩)

/-- A row with a stamp greater than that of the freshest one is the one written last. -/
theorem writtenLast_of_lt {row : WorkspaceRow}
    (h : ∀ workspace ∈ get rows row.id, workspace.updatedAt < row.updatedAt) :
    WrittenLast rows row := by
  have hgreatest : ∀ r ∈ rows, r.id = row.id → r.updatedAt < row.updatedAt := by
    intro r hr hid
    rcases hget : get rows row.id with _ | workspace
    · have hsome : (get rows row.id).isSome = true :=
        (Replacing.survivor_isSome_iff _ _).mpr ⟨r, hr, hid⟩
      rw [hget] at hsome
      exact absurd hsome Bool.false_ne_true
    · exact lt_of_le_of_lt (updatedAt_le_get hget hr hid) (h workspace hget)
  have hgot : ∀ rows' : List WorkspaceRow, (∀ r ∈ rows', r ∈ rows) →
      get (rows' ++ [row]) row.id = some row := by
    intro rows' hsub
    rcases hget : get rows' row.id with _ | workspace
    · exact Replacing.survivor_append_of_none _ _ hget rfl
    · have hlt := hgreatest workspace (hsub _ (get_mem hget)) (get_id hget)
      rw [get_append_of_some hget rfl, if_neg (lt_asymm hlt)]
  refine ⟨hgreatest, hgot rows fun r hr => hr, fun ids hids r => ?_⟩
  have hfilter : (rows ++ [row]).filter (fun r => ids.all fun ids => ids.contains r.id) =
      rows.filter (fun r => ids.all fun ids => ids.contains r.id) ++ [row] := by
    have hrow : (ids.all fun ids => ids.contains row.id) = true := by
      cases ids with
      | none => rfl
      | some l => exact List.contains_iff_mem.mpr (hids l rfl)
    have hsingle : [row].filter (fun r => ids.all fun ids => ids.contains r.id) = [row] :=
      List.filter_eq_self.mpr fun r hr => List.mem_singleton.mp hr ▸ hrow
    rw [List.filter_append, hsingle]
  have hkept := hgot (rows.filter fun r => ids.all fun ids => ids.contains r.id)
    fun r hr => List.mem_of_mem_filter hr
  rw [list, List.mem_insertionSort, hfilter, Replacing.mem_final_iff]
  constructor
  · rintro ⟨hr, hid⟩
    rw [hid] at hr
    exact Option.some.inj (hr.symm.trans hkept)
  · rintro rfl
    exact ⟨hkept, rfl⟩

/-- **What is written carries the next stamp of the row that was read.** -/
theorem row_stamped {op : WorkspaceOp} {row : WorkspaceRow}
    (hrows : ∀ r ∈ rows, IsStamp r.updatedAt) (hop : Stamped rows op)
    (h : op.row host rows = some row) :
    row.id = op.id ∧ IsStamp row.updatedAt ∧
      (Fresh rows op → ∀ workspace ∈ get rows op.id, workspace.updatedAt < row.updatedAt) := by
  have hnext : ∀ {id : String} {workspace : WorkspaceRow} {now : Int} {next : String},
      get rows id = some workspace → workspace.updatedAt ≠ LAST_STAMP →
      nextUpdatedAt now workspace.updatedAt = some next →
      IsStamp next ∧ ∀ x ∈ get rows id, x.updatedAt < next := by
    intro id workspace now next hget hlast hstamp
    obtain ⟨next', hnext', hisStamp, hlt⟩ :=
      nextUpdatedAt_gt (hrows _ (get_mem hget)) hlast now
    obtain rfl := Option.some.inj (hstamp.symm.trans hnext')
    refine ⟨hisStamp, fun x hx => ?_⟩
    obtain rfl := Option.some.inj (hget.symm.trans hx)
    exact hlt
  cases op with
  | create dto defaultFilters now =>
      obtain rfl := Option.some.inj h
      exact ⟨rfl, ⟨now, hop, rfl⟩, fun hfresh => hfresh⟩
  | update dto now =>
      obtain ⟨workspace, hget, hmap⟩ := Option.bind_eq_some_iff.mp h
      obtain ⟨next, hstamp, rfl⟩ := Option.map_eq_some_iff.mp hmap
      obtain ⟨hisStamp, hlt⟩ := hnext hget (hop workspace hget) hstamp
      have hid : workspace.id = _ := get_id hget
      exact ⟨hid, hisStamp, fun _ => hlt⟩
  | activateIfInitializing id now =>
      obtain ⟨workspace, hget, hif⟩ := Option.bind_eq_some_iff.mp h
      split_ifs at hif with hstatus
      obtain ⟨next, hstamp, rfl⟩ := Option.map_eq_some_iff.mp hif
      obtain ⟨hisStamp, hlt⟩ := hnext hget (hop workspace hget) hstamp
      have hid : workspace.id = _ := get_id hget
      exact ⟨hid, hisStamp, fun _ => hlt⟩

theorem step_stamped {rows' : List WorkspaceRow} {op : WorkspaceOp}
    (hrows : ∀ r ∈ rows, IsStamp r.updatedAt) (hop : Stamped rows op)
    (h : step host rows op = some rows') : ∀ r ∈ rows', IsStamp r.updatedAt := by
  obtain rfl := Option.some.inj h
  rcases hrow : op.row host rows with _ | row
  · simpa using hrows
  · refine List.forall_mem_append.mpr ⟨hrows, fun r hr => ?_⟩
    obtain rfl := List.mem_singleton.mp hr
    exact (row_stamped hrows hop hrow).2.1

end Writes

/-- **After any run an update or an activation stamps its row with a greater stamp than all
before, and every read returns that row.**  So it is with a creation, if the clock is past
the stamp that is there.  And an update of a workspace that is there does write. -/
theorem written_last (host : Host) (ops : List WorkspaceOp) (op : WorkspaceOp)
    (rows : List WorkspaceRow) (hmeets : Machine.Meets (step host) Stamped [] (ops ++ [op]))
    (hrun : Machine.exec (step host) [] ops = some rows) :
    (∀ row, op.row host rows = some row → Fresh rows op → WrittenLast rows row) ∧
      ∀ dto now, op = .update dto now → (get rows dto.id).isSome = true →
        (op.row host rows).isSome = true := by
  obtain ⟨hbefore, hlast⟩ := Machine.meets_append hmeets hrun
  have hop : Stamped rows op := hlast.1
  have hrows : ∀ r ∈ rows, IsStamp r.updatedAt :=
    Machine.exec_invariant_of_meets (P := fun rows => ∀ r ∈ rows, IsStamp r.updatedAt)
      (fun _ _ _ hs hC hstep => step_stamped hs hC hstep)
      (fun r hr => absurd hr List.not_mem_nil) hbefore hrun
  constructor
  · intro row hrow hfresh
    obtain ⟨hid, -, hlt⟩ := row_stamped hrows hop hrow
    exact writtenLast_of_lt (hid ▸ hlt hfresh)
  · rintro dto now rfl hsome
    obtain ⟨workspace, hget⟩ := Option.isSome_iff_exists.mp hsome
    obtain ⟨next, hnext, -⟩ := nextUpdatedAt_gt (hrows _ (get_mem hget)) (hop workspace hget) now
    show (WorkspacesService.update rows dto now).isSome = true
    rw [WorkspacesService.update, hget, Option.bind_some, hnext]
    rfl

namespace StampExample

def dto (name : String) : CreateWorkspaceDto :=
  ⟨"w1", name, "acme.io", "Europe/Paris", "EUR", none, fun _ => none⟩

def create (name : String) (now : Int) : WorkspaceOp := .create (dto name) [] now

def rename (name : String) : UpdateWorkspaceDto :=
  { UpdateWorkspaceDto.empty "w1" with name := some name }

/-- The clock has gone back after the workspace was created. -/
def clockBack : List WorkspaceOp := [create "Acme" 10, .update (rename "Acme 2") 5]

def run (ops : List WorkspaceOp) : Option (List WorkspaceRow) :=
  Machine.exec (step Host.bare) [] ops

/-- The stamps that were written, and the name that is read. -/
def stampsAndName (rows : List WorkspaceRow) : List String × Option String :=
  (rows.map (·.updatedAt), (get rows "w1").map (·.name))

end StampExample

open StampExample in
/-- A workspace that is created again behind its own stamp, and an update after the last one,
are not read back. -/
theorem written_row_hidden :
    (run [create "Acme" 10, create "Acme 2" 5]).map stampsAndName =
      some (["1970-01-01 00:00:00.010", "1970-01-01 00:00:00.005"], some "Acme") ∧
    (run [create "Acme" LAST_INSTANT, .update (rename "Acme 2") LAST_INSTANT]).map
        stampsAndName =
      some (["9999-12-31 23:59:59.999", "+010000-01-01 00:00:00.000"], some "Acme") := by
  refine ⟨by decide, by decide⟩

open StampExample in
theorem written_last_clockBack :
    ∃ rows row, run clockBack = some rows ∧
      (WorkspaceOp.activateIfInitializing "w1" 3).row Host.bare rows = some row ∧
      row.updatedAt = "1970-01-01 00:00:00.012" ∧ WrittenLast rows row := by
  obtain ⟨rows, hrows⟩ : ∃ rows, run clockBack = some rows :=
    Option.isSome_iff_exists.mp (by decide)
  have hstamp : ((run clockBack).bind fun rows =>
      ((WorkspaceOp.activateIfInitializing "w1" 3).row Host.bare rows).map (·.updatedAt)) =
      some "1970-01-01 00:00:00.012" := by decide
  rw [hrows] at hstamp
  obtain ⟨row, hrow, hupdatedAt⟩ := Option.map_eq_some_iff.mp hstamp
  have hmeets : Machine.Meets (step Host.bare) Stamped []
      (clockBack ++ [.activateIfInitializing "w1" 3]) := by decide
  exact ⟨rows, row, hrows, hrow, hupdatedAt,
    (written_last Host.bare clockBack _ rows hmeets hrows).1 row hrow trivial⟩

end Veridian.WorkspacesService
