/-
The status a workspace is given on purpose.

An update that sets `inactive` or `error` is to hold until an update sets another status.
An activation looks at the status when it reads, and writes `active` when it inserts; and
any other write copies the status it has read.  What an insert has to meet is that it brings
no `active` back once the switch is thrown, and that the insert that throws it is seen.
-/
import Veridian.Workspaces.SettingsCalls

namespace Veridian

open WorkspacesService

def WorkspaceStatus.isKilled : WorkspaceStatus → Bool
  | .inactive => true
  | .error => true
  | .initializing => false
  | .active => false

theorem WorkspaceStatus.ne_active_of_isKilled {status : WorkspaceStatus}
    (h : status.isKilled = true) : status ≠ .active := by
  rintro rfl
  exact Bool.false_ne_true h

/-- The status an update sets. -/
def WorkspaceWrite.deliberate : WorkspaceWrite → Option WorkspaceStatus
  | .update dto => dto.status
  | .activate _ => none
  | .filters _ _ _ _ => none

/-- The status the last update that set one has set. -/
def deliberateStatus (log : List WorkspaceWrite) : Option WorkspaceStatus :=
  (log.filterMap WorkspaceWrite.deliberate).getLast?

/-- The switch is thrown. -/
def WorkspaceTable.Killed (s : WorkspaceTable) (id : String) : Prop :=
  (deliberateStatus (s.logOf id)).any WorkspaceStatus.isKilled = true

/-- What an insert has to meet: an `active` that no update set is hidden while the switch is
thrown, and a row that throws it is the freshest one if the workspace is active. -/
def WorkspaceTable.Obeys (s : WorkspaceTable) : WorkspaceCall → WorkspaceInput → Prop
  | .insert w base updatedAt, _ => ∀ workspace ∈ get s.rows w.id,
      (w.deliberate = none → s.Killed w.id → w.dto.status.getD base.status = .active →
        updatedAt < workspace.updatedAt) ∧
      (∀ status ∈ w.deliberate, status.isKilled = true → workspace.status = .active →
        workspace.updatedAt < updatedAt)
  | _, _ => True

instance (s : WorkspaceTable) (id : String) : Decidable (s.Killed id) :=
  inferInstanceAs (Decidable (_ = true))

instance (s : WorkspaceTable) (input : WorkspaceInput) :
    ∀ p : WorkspaceCall, Decidable (s.Obeys p input)
  | .insert w _ _ => inferInstanceAs (Decidable (∀ workspace ∈ get s.rows w.id, _ ∧ _))
  | .list _ => isTrue trivial
  | .get _ => isTrue trivial
  | .returned _ => isTrue trivial
  | .ended => isTrue trivial

/-! ### The log -/

theorem deliberateStatus_append (log : List WorkspaceWrite) (w : WorkspaceWrite) :
    deliberateStatus (log ++ [w]) = w.deliberate.orElse fun _ => deliberateStatus log := by
  rw [deliberateStatus, List.filterMap_append]
  rcases hw : w.deliberate with _ | status
  · rw [List.filterMap_cons_none hw, List.filterMap_nil, List.append_nil]
    rfl
  · rw [List.filterMap_cons_some hw, List.filterMap_nil, List.getLast?_append]
    rfl

/-- Updates that set no status leave the last one that did. -/
theorem deliberateStatus_of_update {earlier later : List WorkspaceWrite}
    {dto : UpdateWorkspaceDto} {status : WorkspaceStatus} (hstatus : dto.status = some status)
    (hlater : ∀ dto', .update dto' ∈ later → dto'.status = none) :
    deliberateStatus (earlier ++ .update dto :: later) = some status := by
  have hnone : later.filterMap WorkspaceWrite.deliberate = [] := by
    refine List.filterMap_eq_nil_iff.mpr fun w hw => ?_
    cases w with
    | update dto' => exact hlater dto' hw
    | activate id => rfl
    | filters request input read written => rfl
  have hhead : (WorkspaceWrite.update dto).deliberate = some status := hstatus
  rw [deliberateStatus, List.filterMap_append, List.filterMap_cons_some hhead, hnone,
    List.getLast?_append]
  rfl

/-! ### Inserts and runs -/

/-- No workspace whose switch is thrown is active. -/
def WorkspaceTable.StaysKilled (s : WorkspaceTable) : Prop :=
  ∀ id, s.Killed id → ∀ workspace ∈ get s.rows id, workspace.status ≠ .active

theorem row_status (w : WorkspaceWrite) (base : WorkspaceRow) (updatedAt : String) :
    (w.row base updatedAt).status = w.dto.status.getD base.status := by
  rw [w.row_eq, updated_status]

theorem dto_status_of_deliberate {w : WorkspaceWrite} {status : WorkspaceStatus}
    (h : w.deliberate = some status) : w.dto.status = some status := by
  cases w with
  | update dto => exact h
  | activate id => exact absurd h (Option.some_ne_none status).symm
  | filters request input read written => exact absurd h (Option.some_ne_none status).symm

theorem WorkspaceTable.StaysKilled.inserted {s : WorkspaceTable} {w : WorkspaceWrite}
    {base : WorkspaceRow} {updatedAt : String} {input : WorkspaceInput} (hs : s.StaysKilled)
    (hid : base.id = w.id) (hbase : base ∈ s.rows)
    (hobeys : s.Obeys (.insert w base updatedAt) input) :
    (s.inserted w (w.row base updatedAt)).StaysKilled := by
  intro id hkilled workspace hworkspace
  have hrowId : (w.row base updatedAt).id = w.id := by
    rw [w.row_eq]
    exact hid
  by_cases hsame : w.id = id
  · subst hsame
    have hsome : (get s.rows w.id).isSome = true :=
      (Replacing.survivor_isSome_iff _ _).mpr ⟨base, hbase, hid⟩
    obtain ⟨current, hcurrent⟩ := Option.isSome_iff_exists.mp hsome
    have hget := get_append_of_some hcurrent hrowId
    have hstamp : (w.row base updatedAt).updatedAt = updatedAt := by
      rw [w.row_eq]
      rfl
    rw [hstamp] at hget
    have hread : workspace = if updatedAt < current.updatedAt then current
        else w.row base updatedAt := Option.some.inj (hworkspace.symm.trans hget)
    obtain ⟨hcopies, hthrows⟩ := hobeys current hcurrent
    rw [WorkspaceTable.Killed, logOf_inserted_self, deliberateStatus_append] at hkilled
    rcases hdeliberate : w.deliberate with _ | status
    · -- an `active` that is copied, or an activation
      rw [hdeliberate] at hkilled
      have hkilled' : s.Killed w.id := hkilled
      by_cases hactive : w.dto.status.getD base.status = .active
      · rw [hread, if_pos (hcopies hdeliberate hkilled' hactive)]
        exact hs w.id hkilled' current hcurrent
      · rw [hread]
        split
        · exact hs w.id hkilled' current hcurrent
        · rw [row_status]
          exact hactive
    · -- an update that throws the switch
      rw [hdeliberate] at hkilled
      have hstatus : status.isKilled = true := hkilled
      have hrow : (w.row base updatedAt).status ≠ .active := by
        rw [row_status, dto_status_of_deliberate hdeliberate]
        exact WorkspaceStatus.ne_active_of_isKilled hstatus
      rw [hread]
      split
      · rename_i hlt
        intro hactive
        exact lt_asymm hlt (hthrows status hdeliberate hstatus hactive)
      · exact hrow
  · rw [WorkspaceTable.Killed, logOf_inserted_of_ne _ hsame] at hkilled
    refine hs id hkilled workspace ?_
    have hne : (w.row base updatedAt).id ≠ id := by
      rw [hrowId]
      exact hsame
    exact (get_append_of_ne hne).symm.trans hworkspace

/-- **Where every insert meets `Obeys`, the kill-switch holds**: once an update has set
`inactive` or `error`, the workspace is not active as long as no later update sets a status. -/
theorem kill_switch_holds (host : FilterRow.FilterHost) (rows : List WorkspaceRow)
    (as : List WorkspaceAction) (t : WorkspaceRun)
    (hmeets : Machine.Meets (workspacesStep host) (Interleave.Guarded WorkspaceTable.Obeys)
      (WorkspaceTable.init rows) as)
    (h : Machine.exec (workspacesStep host) (WorkspaceTable.init rows) as = some t)
    (earlier later : List WorkspaceWrite) (dto : UpdateWorkspaceDto) (status : WorkspaceStatus)
    (hlog : t.shared.logOf dto.id = earlier ++ .update dto :: later)
    (hstatus : dto.status = some status) (hkilled : status.isKilled = true)
    (hlater : ∀ dto', .update dto' ∈ later → dto'.status = none)
    (workspace : WorkspaceRow) (hget : get t.shared.rows dto.id = some workspace) :
    workspace.status ≠ .active := by
  have hinit : Interleave.Holds WorkspaceTable.StaysKilled (WorkspaceCall.Knows host)
      (WorkspaceTable.init rows) :=
    ⟨fun _ hc => absurd hc Bool.false_ne_true, fun p hp => absurd hp List.not_mem_nil⟩
  obtain ⟨hstays, -⟩ := Interleave.exec_holds
    (C := WorkspaceTable.Obeys) (fun _ op _ => by cases op <;> exact trivial)
    (fun s p input s' p' hI hL hC hstep => by
      obtain ⟨rfl | ⟨w, base, updatedAt, rfl, rfl⟩, hknows⟩ := callStep_cases hL hstep
      · exact ⟨hI, hknows⟩
      · exact ⟨hI.inserted hL.2.1 hL.2.2 hC, hknows⟩) hinit hmeets h
  refine hstays dto.id ?_ workspace hget
  rw [WorkspaceTable.Killed, hlog, deliberateStatus_of_update hstatus hlater]
  exact hkilled

namespace KillExample

def acme : WorkspaceRow where
  id := "w1"
  name := "Acme"
  website := "acme.io"
  timezone := "Europe/Paris"
  currency := "EUR"
  logoUrl := none
  status := .initializing
  createdAt := "1970-01-01 00:00:00.000"
  updatedAt := "1970-01-01 00:00:00.000"
  settings := ⟨none, none, fun _ => none⟩

def kill : UpdateWorkspaceDto := { UpdateWorkspaceDto.empty "w1" with status := some .inactive }

def rename : UpdateWorkspaceDto := { UpdateWorkspaceDto.empty "w1" with name := some "Acme 2" }

def filterHost : FilterRow.FilterHost := ⟨fun _ => true, fun _ => "v1"⟩

/-- An activation reads before the switch is thrown, and inserts after. -/
def lateActivation : List WorkspaceAction :=
  [.start (.activateIfInitializing "w1"), .start (.update kill), .step 0 ⟨10, ""⟩,
    .step 1 ⟨10, ""⟩, .step 1 ⟨10, ""⟩, .step 0 ⟨20, ""⟩]

/-- A renaming reads the active workspace, and inserts after the switch is thrown. -/
def lateRename : List WorkspaceAction :=
  [.start (.activateIfInitializing "w1"), .step 0 ⟨10, ""⟩, .step 0 ⟨10, ""⟩,
    .start (.update rename), .start (.update kill), .step 1 ⟨20, ""⟩, .step 2 ⟨20, ""⟩,
    .step 2 ⟨20, ""⟩, .step 1 ⟨30, ""⟩]

/-- The switch is thrown before the activation reads. -/
def killedFirst : List WorkspaceAction :=
  [.start (.update kill), .start (.activateIfInitializing "w1"), .step 0 ⟨10, ""⟩,
    .step 0 ⟨10, ""⟩, .step 1 ⟨10, ""⟩]

def run (as : List WorkspaceAction) : Option WorkspaceRun :=
  Machine.exec (workspacesStep filterHost) (WorkspaceTable.init [acme]) as

def hasReturned : WorkspaceCall → Bool
  | .returned _ => true
  | _ => false

/-- Which calls have returned, and the status that is read. -/
def seen (t : WorkspaceRun) : List Bool × Option WorkspaceStatus :=
  (t.procs.map hasReturned, (get t.shared.rows "w1").map (·.status))

end KillExample

open KillExample in
/-- The update that throws the switch has returned, and the workspace is active afterwards. -/
theorem kill_switch_overridden :
    (run (lateActivation.take 5)).map seen = some ([false, true], some .inactive) ∧
    (run lateActivation).map seen = some ([true, true], some .active) ∧
    (run (lateRename.take 8)).map seen = some ([true, false, true], some .inactive) ∧
    (run lateRename).map seen = some ([true, true, true], some .active) := by
  refine ⟨by decide, by decide, by decide, by decide⟩

open KillExample in
theorem kill_switch_holds_killedFirst :
    ∃ t workspace, run killedFirst = some t ∧ get t.shared.rows "w1" = some workspace ∧
      workspace.status ≠ .active := by
  obtain ⟨t, ht⟩ : ∃ t, run killedFirst = some t := Option.isSome_iff_exists.mp (by decide)
  have hmeets : Machine.Meets (workspacesStep filterHost)
      (Interleave.Guarded WorkspaceTable.Obeys) (WorkspaceTable.init [acme]) killedFirst := by
    decide
  have hgot : ((run killedFirst).bind fun t => get t.shared.rows "w1").isSome = true := by decide
  rw [ht] at hgot
  obtain ⟨workspace, hget⟩ := Option.isSome_iff_exists.mp hgot
  have hlog : (run killedFirst).map (fun t => t.shared.logOf "w1") = some [.update kill] := by rfl
  rw [ht] at hlog
  exact ⟨t, workspace, ht, hget, kill_switch_holds filterHost [acme] killedFirst t hmeets ht [] []
    kill .inactive (Option.some.inj hlog) rfl rfl (fun _ h => absurd h List.not_mem_nil) workspace
    hget⟩

end Veridian
