/-
The writers of a workspace as calls that overlap.

Each of them reads the workspace, and awaits the insert of a copy.  The filters' service
reads it once to compute the list of filters, and hands that to the update, which reads the
workspace again.  The store keeps, beside the rows, what was inserted in which order.
-/
import Veridian.Lib.Interleave
import Veridian.Workspaces.Workspace

namespace Veridian

open WorkspacesService

inductive FilterRequest where
  | create (dto : FilterRow.CreateFilterRequest)
  | update (dto : FilterRow.UpdateFilterRequest)
  | delete (workspaceId filterId : String)
  | reorder (dto : FilterRow.ReorderFiltersDto)

/-- The clock, and the `randomUUID` of a new filter. -/
structure WorkspaceInput where
  now : Int
  filterId : String

namespace FilterRequest

def workspaceId : FilterRequest → String
  | .create dto => dto.workspaceId
  | .update dto => dto.workspaceId
  | .delete workspaceId _ => workspaceId
  | .reorder dto => dto.workspaceId

/-- The list of filters that is handed to the update. -/
def run (host : FilterRow.FilterHost) (input : WorkspaceInput) (filters : List FilterRow) :
    FilterRequest → Except String (List FilterRow)
  | .create dto =>
      FilterRow.create host dto input.filterId (toClickHouseDateTime input.now) filters
  | .update dto => FilterRow.update host dto (toClickHouseDateTime input.now) filters
  | .delete workspaceId filterId => FilterRow.delete workspaceId filterId filters
  | .reorder dto => .ok (FilterRow.reorder dto filters)

end FilterRequest

inductive WorkspaceWriter where
  | update (dto : UpdateWorkspaceDto)
  | activateIfInitializing (id : String)
  | filters (request : FilterRequest)

/-- What a call is to write. -/
inductive WorkspaceWrite where
  | update (dto : UpdateWorkspaceDto)
  | activate (id : String)
  /-- The filters `read` when the input was at hand, and what the request made of them. -/
  | filters (request : FilterRequest) (input : WorkspaceInput) (read written : List FilterRow)

namespace WorkspaceWrite

def id : WorkspaceWrite → String
  | .update dto => dto.id
  | .activate id => id
  | .filters request _ _ _ => request.workspaceId

/-- What is laid over the copy. -/
def dto : WorkspaceWrite → UpdateWorkspaceDto
  | .update dto => dto
  | .activate id => { UpdateWorkspaceDto.empty id with status := some .active }
  | .filters request _ _ written => (SettingsDto.ofFilters written).update request.workspaceId

def row (w : WorkspaceWrite) (base : WorkspaceRow) (updatedAt : String) : WorkspaceRow :=
  match w with
  | .update dto => updated dto base updatedAt
  | .activate _ => activated base updatedAt
  | .filters request _ _ written =>
      updated ((SettingsDto.ofFilters written).update request.workspaceId) base updatedAt

/-- A row is a copy with the request laid over it. -/
theorem row_eq (w : WorkspaceWrite) (base : WorkspaceRow) (updatedAt : String) :
    w.row base updatedAt = updated w.dto base updatedAt := by
  cases w with
  | update dto => rfl
  | activate id => rfl
  | filters request input read written => rfl

/-- An activation goes on from a workspace that is initializing. -/
def startsFrom (base : WorkspaceRow) : WorkspaceWrite → Bool
  | .activate _ => base.status = .initializing
  | _ => true

end WorkspaceWrite

/-- How far a call has come. -/
inductive WorkspaceCall where
  /-- A filter request before it reads the workspace. -/
  | list (request : FilterRequest)
  /-- Before the workspace is read. -/
  | get (w : WorkspaceWrite)
  | insert (w : WorkspaceWrite) (base : WorkspaceRow) (updatedAt : String)
  | returned (w : WorkspaceWrite)
  /-- It threw, or had nothing to write. -/
  | ended

def WorkspaceWriter.start : WorkspaceWriter → WorkspaceCall
  | .update dto => .get (.update dto)
  | .activateIfInitializing id => .get (.activate id)
  | .filters request => .list request

structure WorkspaceTable where
  rows : List WorkspaceRow
  /-- What was inserted, in its order. -/
  log : List WorkspaceWrite

namespace WorkspaceTable

def inserted (s : WorkspaceTable) (w : WorkspaceWrite) (row : WorkspaceRow) : WorkspaceTable :=
  ⟨s.rows ++ [row], s.log ++ [w]⟩

/-- What was inserted for the workspace. -/
def logOf (s : WorkspaceTable) (id : String) : List WorkspaceWrite :=
  s.log.filter fun w => w.id = id

end WorkspaceTable

theorem logOf_inserted_self (s : WorkspaceTable) (w : WorkspaceWrite) (row : WorkspaceRow) :
    (s.inserted w row).logOf w.id = s.logOf w.id ++ [w] := by
  show (s.log ++ [w]).filter _ = _
  rw [List.filter_append, List.filter_cons_of_pos (by simp), List.filter_nil]
  rfl

theorem logOf_inserted_of_ne {s : WorkspaceTable} {w : WorkspaceWrite} {id : String}
    (row : WorkspaceRow) (h : w.id ≠ id) : (s.inserted w row).logOf id = s.logOf id := by
  show (s.log ++ [w]).filter _ = _
  rw [List.filter_append, List.filter_cons_of_neg (by simpa using h), List.filter_nil,
    List.append_nil]
  rfl

def listed (host : FilterRow.FilterHost) (rows : List WorkspaceRow) (request : FilterRequest)
    (input : WorkspaceInput) : WorkspaceCall :=
  match get rows request.workspaceId with
  | none => .ended
  | some workspace =>
      let read := workspace.settings.filters.getD []
      match request.run host input read with
      | .error _ => .ended
      | .ok written => .get (.filters request input read written)

def got (rows : List WorkspaceRow) (w : WorkspaceWrite) (now : Int) : WorkspaceCall :=
  match get rows w.id with
  | none => .ended
  | some base =>
      if w.startsFrom base = false then .ended
      else match nextUpdatedAt now base.updatedAt with
        | none => .ended
        | some updatedAt => .insert w base updatedAt

def callStep (host : FilterRow.FilterHost) (s : WorkspaceTable) :
    WorkspaceCall → WorkspaceInput → Option (WorkspaceTable × WorkspaceCall)
  | .list request, input => some (s, listed host s.rows request input)
  | .get w, input => some (s, got s.rows w input.now)
  | .insert w base updatedAt, _ => some (s.inserted w (w.row base updatedAt), .returned w)
  | .returned _, _ => none
  | .ended, _ => none

abbrev WorkspaceRun := Interleave.State WorkspaceTable WorkspaceCall

abbrev WorkspaceAction := Interleave.Action WorkspaceWriter WorkspaceInput

def workspacesStep (host : FilterRow.FilterHost) : WorkspaceRun → WorkspaceAction →
    Option WorkspaceRun :=
  Interleave.step WorkspaceWriter.start (callStep host)

def WorkspaceTable.init (rows : List WorkspaceRow) : WorkspaceRun := ⟨⟨rows, []⟩, []⟩

/-! ### What a call has read -/

/-- The read that goes before an insert leads to the row of `update` and of
`activateIfInitializing`. -/
theorem got_eq_insert {rows : List WorkspaceRow} {w : WorkspaceWrite} {now : Int}
    {base : WorkspaceRow} {updatedAt : String} {w' : WorkspaceWrite}
    (h : got rows w now = .insert w' base updatedAt) :
    w' = w ∧ get rows w.id = some base ∧ w.startsFrom base = true ∧
      nextUpdatedAt now base.updatedAt = some updatedAt := by
  unfold got at h
  rcases hget : get rows w.id with _ | workspace
  · rw [hget] at h
    exact WorkspaceCall.noConfusion h
  · rw [hget] at h
    dsimp only at h
    split_ifs at h with hstarts
    rcases hnext : nextUpdatedAt now workspace.updatedAt with _ | next
    · rw [hnext] at h
      exact WorkspaceCall.noConfusion h
    · rw [hnext] at h
      obtain ⟨rfl, rfl, rfl⟩ := WorkspaceCall.insert.inj h
      exact ⟨rfl, rfl, Bool.eq_true_of_not_eq_false hstarts, hnext⟩

theorem update_eq_row {rows : List WorkspaceRow} {dto : UpdateWorkspaceDto} {now : Int}
    {base : WorkspaceRow} {updatedAt : String} {w : WorkspaceWrite}
    (h : got rows (.update dto) now = .insert w base updatedAt) :
    WorkspacesService.update rows dto now = some (w.row base updatedAt) := by
  obtain ⟨rfl, hget, -, hnext⟩ := got_eq_insert h
  have hget' : get rows dto.id = some base := hget
  rw [WorkspacesService.update, hget', Option.bind_some, hnext]
  rfl

theorem activateIfInitializing_eq_row {rows : List WorkspaceRow} {id : String} {now : Int}
    {base : WorkspaceRow} {updatedAt : String} {w : WorkspaceWrite}
    (h : got rows (.activate id) now = .insert w base updatedAt) :
    WorkspacesService.activateIfInitializing rows id now = some (w.row base updatedAt) := by
  obtain ⟨rfl, hget, hstatus, hnext⟩ := got_eq_insert h
  have hget' : get rows id = some base := hget
  have hstatus' : base.status = .initializing := of_decide_eq_true hstatus
  rw [WorkspacesService.activateIfInitializing, hget', Option.bind_some,
    if_neg (not_not.mpr hstatus'), hnext]
  rfl

/-- What a write knows of the rows it came from. -/
def WorkspaceWrite.Computed (host : FilterRow.FilterHost) : WorkspaceWrite → Prop
  | .filters request input read written => request.run host input read = .ok written
  | _ => True

/-- What a call knows of the rows it has read, whatever has been inserted since. -/
def WorkspaceCall.Knows (host : FilterRow.FilterHost) (s : WorkspaceTable) : WorkspaceCall → Prop
  | .get w => w.Computed host
  | .insert w base _ => w.Computed host ∧ base.id = w.id ∧ base ∈ s.rows
  | _ => True

theorem listed_knows (host : FilterRow.FilterHost) (s : WorkspaceTable)
    (request : FilterRequest) (input : WorkspaceInput) :
    (listed host s.rows request input).Knows host s := by
  unfold listed
  rcases get s.rows request.workspaceId with _ | workspace
  · exact trivial
  · rcases hrun : request.run host input (workspace.settings.filters.getD []) with e | written
    · simp only [hrun]
      exact trivial
    · simp only [hrun]
      exact hrun

theorem got_knows {host : FilterRow.FilterHost} {s : WorkspaceTable} {w : WorkspaceWrite}
    (now : Int) (hw : w.Computed host) : (got s.rows w now).Knows host s := by
  unfold got
  rcases hget : get s.rows w.id with _ | base
  · exact trivial
  · dsimp only
    split
    · exact trivial
    · rcases nextUpdatedAt now base.updatedAt with _ | updatedAt
      · exact trivial
      · exact ⟨hw, get_id hget, get_mem hget⟩

theorem WorkspaceCall.Knows.inserted {host : FilterRow.FilterHost} {s : WorkspaceTable}
    {p : WorkspaceCall} (w : WorkspaceWrite) (row : WorkspaceRow) (h : p.Knows host s) :
    p.Knows host (s.inserted w row) := by
  cases p with
  | list request => exact trivial
  | get w => exact h
  | insert w base updatedAt => exact ⟨h.1, h.2.1, List.mem_append_left _ h.2.2⟩
  | returned w => exact trivial
  | ended => exact trivial

/-- **What a call does in one step**: it reads, or it inserts its copy; and what a call knows
stays so. -/
theorem callStep_cases {host : FilterRow.FilterHost} {s t : WorkspaceTable} {p p' : WorkspaceCall}
    {input : WorkspaceInput} (hp : p.Knows host s) (h : callStep host s p input = some (t, p')) :
    (t = s ∨ ∃ w base updatedAt, p = .insert w base updatedAt ∧
      t = s.inserted w (w.row base updatedAt)) ∧
    p'.Knows host t ∧ ∀ q : WorkspaceCall, q.Knows host s → q.Knows host t := by
  cases p with
  | list request =>
      obtain ⟨rfl, rfl⟩ := Prod.mk.inj (Option.some.inj h)
      exact ⟨Or.inl rfl, listed_knows host s request input, fun q hq => hq⟩
  | get w =>
      obtain ⟨rfl, rfl⟩ := Prod.mk.inj (Option.some.inj h)
      exact ⟨Or.inl rfl, got_knows input.now hp, fun q hq => hq⟩
  | insert w base updatedAt =>
      obtain ⟨rfl, rfl⟩ := Prod.mk.inj (Option.some.inj h)
      exact ⟨Or.inr ⟨w, base, updatedAt, rfl, rfl⟩, trivial, fun q hq => hq.inserted w _⟩
  | returned w => exact absurd h (by simp [callStep])
  | ended => exact absurd h (by simp [callStep])

end Veridian
