/-
What overlapping writers leave of a workspace.

A row that is inserted replaces the one that is there, with all that was inserted since it
was copied.  What is to come out is that of the writes made one after the other in the order
of their inserts (`replay`), and an insert leads there when everything it copies is still as
it read it (`Current`), or when it is hidden and what it was to write is there (`Moot`).
-/
import Veridian.Workspaces.SettingsCalls

namespace Veridian

open WorkspacesService

/-! ### The fields of a row -/

/-- What a request may set, and the creation, which none does. -/
inductive WorkspaceField where
  | name | website | timezone | currency | logoUrl | status | createdAt | filters
  | dashboardLayout
  | other (key : SettingsKey)
  deriving DecidableEq

def WORKSPACE_FIELDS : List WorkspaceField :=
  [.name, .website, .timezone, .currency, .logoUrl, .status, .createdAt, .filters,
    .dashboardLayout] ++ SETTINGS_KEYS.map .other

theorem mem_WORKSPACE_FIELDS (f : WorkspaceField) : f ∈ WORKSPACE_FIELDS := by
  cases f with
  | other key =>
      exact List.mem_append_right _ (List.mem_map.mpr ⟨key, mem_SETTINGS_KEYS key, rfl⟩)
  | _ => simp [WORKSPACE_FIELDS]

inductive FieldValue where
  | text (value : Option String)
  | status (value : WorkspaceStatus)
  | filters (value : Option (List FilterRow))
  | layout (value : Option DashboardLayout)
  deriving DecidableEq

def FieldValue.string (value : String) : FieldValue := .text (some value)

def WorkspaceRow.field (workspace : WorkspaceRow) : WorkspaceField → FieldValue
  | .name => .string workspace.name
  | .website => .string workspace.website
  | .timezone => .string workspace.timezone
  | .currency => .string workspace.currency
  | .logoUrl => .text workspace.logoUrl
  | .status => .status workspace.status
  | .createdAt => .string workspace.createdAt
  | .filters => .filters workspace.settings.filters
  | .dashboardLayout => .layout workspace.settings.dashboardLayout
  | .other key => .text (workspace.settings.others key)

/-- What the request sets a field to. -/
def UpdateWorkspaceDto.field (dto : UpdateWorkspaceDto) : WorkspaceField → Option FieldValue
  | .name => dto.name.map .string
  | .website => dto.website.map .string
  | .timezone => dto.timezone.map .string
  | .currency => dto.currency.map .string
  | .logoUrl => dto.logoUrl.map .string
  | .status => dto.status.map .status
  | .createdAt => none
  | .filters => dto.definedSettings.filters.map .filters
  | .dashboardLayout => dto.definedSettings.dashboardLayout.map .layout
  | .other key => (dto.definedSettings.others key).map .string

/-- The filters and nothing else. -/
theorem ofFilters_field (filters : List FilterRow) (id : String) (f : WorkspaceField) :
    ((SettingsDto.ofFilters filters).update id).field f =
      if f = .filters then some (.filters (some filters)) else none := by
  cases f <;> rfl

/-- The status and nothing else. -/
theorem activate_field (id : String) (f : WorkspaceField) :
    (WorkspaceWrite.activate id).dto.field f =
      if f = .status then some (.status .active) else none := by
  cases f <;> rfl

theorem text_orElse (o v : Option String) :
    FieldValue.text (o.orElse fun _ => v) = (o.map FieldValue.string).getD (.text v) := by
  cases o with
  | none => rfl
  | some v => rfl

/-- **An updated row has what the request sets, and for the rest what the row had.** -/
theorem updated_field (dto : UpdateWorkspaceDto) (workspace : WorkspaceRow) (updatedAt : String)
    (f : WorkspaceField) :
    (updated dto workspace updatedAt).field f = (dto.field f).getD (workspace.field f) := by
  cases f with
  | name => exact (Option.getD_map FieldValue.string _ dto.name).symm
  | website => exact (Option.getD_map FieldValue.string _ dto.website).symm
  | timezone => exact (Option.getD_map FieldValue.string _ dto.timezone).symm
  | currency => exact (Option.getD_map FieldValue.string _ dto.currency).symm
  | logoUrl => exact text_orElse dto.logoUrl _
  | status => exact (Option.getD_map FieldValue.status _ dto.status).symm
  | createdAt => rfl
  | filters =>
      rw [WorkspaceRow.field, updated_settings]
      exact (Option.getD_map FieldValue.filters _ dto.definedSettings.filters).symm
  | dashboardLayout =>
      rw [WorkspaceRow.field, updated_settings]
      exact (Option.getD_map FieldValue.layout _ dto.definedSettings.dashboardLayout).symm
  | other key =>
      rw [WorkspaceRow.field, updated_settings]
      exact text_orElse (dto.definedSettings.others key) _

/-- A row but for its stamp. -/
def WorkspaceRow.content (workspace : WorkspaceRow) : WorkspaceRow :=
  { workspace with updatedAt := "" }

theorem content_field (workspace : WorkspaceRow) (f : WorkspaceField) :
    workspace.content.field f = workspace.field f := by
  cases f <;> rfl

theorem content_ext {a b : WorkspaceRow} (hid : a.id = b.id) (h : ∀ f, a.field f = b.field f) :
    a.content = b.content := by
  have htext : ∀ {v w : String}, FieldValue.string v = .string w → v = w :=
    fun heq => Option.some.inj (FieldValue.text.inj heq)
  have hothers : a.settings.others = b.settings.others :=
    funext fun key => FieldValue.text.inj (h (.other key))
  have hsettings : a.settings = b.settings :=
    StoredSettings.ext (FieldValue.filters.inj (h .filters))
      (FieldValue.layout.inj (h .dashboardLayout)) hothers
  exact WorkspaceRow.ext hid (htext (h .name)) (htext (h .website)) (htext (h .timezone))
    (htext (h .currency)) (FieldValue.text.inj (h .logoUrl)) (FieldValue.status.inj (h .status))
    (htext (h .createdAt)) rfl hsettings

/-! ### One write after the other -/

variable (host : FilterRow.FilterHost)

/-- What a write does to a row when nothing comes between its read and its insert. -/
def WorkspaceWrite.effect (w : WorkspaceWrite) (workspace : WorkspaceRow) : WorkspaceRow :=
  match w with
  | .update dto => updated dto workspace workspace.updatedAt
  | .activate _ =>
      if workspace.status = .initializing then activated workspace workspace.updatedAt
      else workspace
  | .filters request input _ _ =>
      match request.run host input (workspace.settings.filters.getD []) with
      | .error _ => workspace
      | .ok written =>
          updated ((SettingsDto.ofFilters written).update request.workspaceId) workspace
            workspace.updatedAt

def replay (log : List WorkspaceWrite) (workspace : WorkspaceRow) : WorkspaceRow :=
  log.foldl (fun workspace w => w.effect host workspace) workspace

/-- The workspace has what the request sets. -/
def UpdateWorkspaceDto.Shows (dto : UpdateWorkspaceDto) (workspace : WorkspaceRow) : Prop :=
  ∀ f ∈ WORKSPACE_FIELDS, ∀ v ∈ dto.field f, workspace.field f = v

instance (dto : UpdateWorkspaceDto) (workspace : WorkspaceRow) : Decidable (dto.Shows workspace) :=
  inferInstanceAs (Decidable (∀ f ∈ WORKSPACE_FIELDS, ∀ v ∈ dto.field f, _))

/-- What a request leaves alone is in the copy as it is in the workspace. -/
def UpdateWorkspaceDto.Copies (dto : UpdateWorkspaceDto) (base workspace : WorkspaceRow) : Prop :=
  ∀ f ∈ WORKSPACE_FIELDS, dto.field f = none → base.field f = workspace.field f

instance (dto : UpdateWorkspaceDto) (base workspace : WorkspaceRow) :
    Decidable (dto.Copies base workspace) :=
  inferInstanceAs (Decidable (∀ f ∈ WORKSPACE_FIELDS, _))

/-- The workspace is one the write would go on from to the same end. -/
def WorkspaceWrite.Applies (workspace : WorkspaceRow) : WorkspaceWrite → Prop
  | .update _ => True
  | .activate _ => workspace.status = .initializing ∨ workspace.status = .active
  | .filters _ _ read _ => workspace.settings.filters.getD [] = read

instance (workspace : WorkspaceRow) : ∀ w : WorkspaceWrite, Decidable (w.Applies workspace)
  | .update _ => isTrue trivial
  | .activate _ => inferInstanceAs (Decidable (_ ∨ _))
  | .filters _ _ read _ => inferInstanceAs (Decidable (_ = read))

/-- All that the row copies is still so. -/
def WorkspaceWrite.Current (w : WorkspaceWrite) (base workspace : WorkspaceRow) : Prop :=
  w.dto.Copies base workspace ∧ w.Applies workspace

instance (w : WorkspaceWrite) (base workspace : WorkspaceRow) :
    Decidable (w.Current base workspace) :=
  inferInstanceAs (Decidable (_ ∧ _))

/-- The workspace is as the write would leave it. -/
def WorkspaceWrite.Moot (workspace : WorkspaceRow) : WorkspaceWrite → Prop
  | .update dto => dto.Shows workspace
  | .activate _ => workspace.status ≠ .initializing
  | .filters request input _ _ =>
      (request.run host input (workspace.settings.filters.getD [])).toOption =
        some (workspace.settings.filters.getD []) ∧ workspace.settings.filters ≠ none

instance (workspace : WorkspaceRow) : ∀ w : WorkspaceWrite, Decidable (w.Moot host workspace)
  | .update dto => inferInstanceAs (Decidable (dto.Shows workspace))
  | .activate _ => inferInstanceAs (Decidable (_ ≠ _))
  | .filters _ _ _ _ => inferInstanceAs (Decidable (_ ∧ _))

/-- What an insert has to meet.  The row becomes the freshest one unless its stamp is the
smaller one; of two with one stamp either may be read. -/
def WorkspaceTable.Keeps (s : WorkspaceTable) : WorkspaceCall → WorkspaceInput → Prop
  | .insert w base updatedAt, _ => ∀ workspace ∈ get s.rows base.id,
      (updatedAt ≤ workspace.updatedAt → w.Moot host workspace) ∧
        (workspace.updatedAt ≤ updatedAt → w.Current base workspace)
  | _, _ => True

instance (s : WorkspaceTable) (input : WorkspaceInput) :
    ∀ p : WorkspaceCall, Decidable (s.Keeps host p input)
  | .insert _ base _ => inferInstanceAs (Decidable (∀ workspace ∈ get s.rows base.id, _ ∧ _))
  | .list _ => isTrue trivial
  | .get _ => isTrue trivial
  | .returned _ => isTrue trivial
  | .ended => isTrue trivial

/-! ### One insert -/

section Inserts

variable {host} {base workspace : WorkspaceRow} {w : WorkspaceWrite}

/-- A copy of what is still so is an update of the workspace itself. -/
theorem updated_content_of_copies {dto : UpdateWorkspaceDto} (hid : base.id = workspace.id)
    (h : dto.Copies base workspace) (updatedAt : String) :
    (updated dto base updatedAt).content = (updated dto workspace "").content := by
  refine content_ext hid fun f => ?_
  rw [updated_field, updated_field]
  rcases hf : dto.field f with _ | v
  · exact h f (mem_WORKSPACE_FIELDS f) hf
  · rfl

/-- An update of a workspace that has what it sets changes nothing. -/
theorem updated_content_of_shows {dto : UpdateWorkspaceDto} (h : dto.Shows workspace) :
    (updated dto workspace "").content = workspace.content := by
  refine content_ext rfl fun f => ?_
  rw [updated_field]
  rcases hf : dto.field f with _ | v
  · rfl
  · exact (h f (mem_WORKSPACE_FIELDS f) v hf).symm

/-- A request that sets one field shows where that field has its value. -/
theorem shows_of_field {dto : UpdateWorkspaceDto} {g : WorkspaceField} {v : FieldValue}
    (hdto : ∀ f, dto.field f = if f = g then some v else none) (h : workspace.field g = v) :
    dto.Shows workspace := by
  intro f _ x hx
  rw [hdto] at hx
  by_cases hf : f = g
  · rw [if_pos hf] at hx
    rw [hf, h]
    exact Option.some.inj hx
  · rw [if_neg hf] at hx
    exact absurd hx (Option.some_ne_none x).symm

/-- **A copy of what is still so is what the write does to the workspace.** -/
theorem row_content_of_current (hw : w.Computed host) (hid : base.id = workspace.id)
    (h : w.Current base workspace) (updatedAt : String) :
    (w.row base updatedAt).content = w.effect host workspace.content := by
  obtain ⟨hcopies, happlies⟩ := h
  have hrow : (w.row base updatedAt).content = (updated w.dto workspace "").content := by
    rw [w.row_eq]
    exact updated_content_of_copies hid hcopies updatedAt
  rw [hrow]
  cases w with
  | update dto => rfl
  | activate id =>
      by_cases hinit : workspace.status = .initializing
      · exact (if_pos hinit).symm
      · have hactive : workspace.status = .active := happlies.resolve_left hinit
        have hshows : (WorkspaceWrite.activate id).dto.Shows workspace :=
          shows_of_field (activate_field id) (congrArg FieldValue.status hactive)
        rw [updated_content_of_shows hshows]
        exact (if_neg hinit).symm
  | filters request input read written =>
      have hread : workspace.content.settings.filters.getD [] = read := happlies
      have hrun : request.run host input read = .ok written := hw
      rw [WorkspaceWrite.effect, hread, hrun]
      rfl

/-- A write of what is there changes nothing. -/
theorem effect_of_moot (h : w.Moot host workspace) :
    w.effect host workspace.content = workspace.content := by
  cases w with
  | update dto => exact updated_content_of_shows h
  | activate id => exact if_neg h
  | filters request input read written =>
      obtain ⟨hrun, hsome⟩ := h
      obtain ⟨filters, hfilters⟩ := Option.ne_none_iff_exists'.mp hsome
      have hcontent : workspace.content.settings.filters = some filters := hfilters
      rw [hfilters] at hrun
      rw [WorkspaceWrite.effect, hcontent]
      rcases hresult : request.run host input ((some filters).getD []) with e | written'
      · rfl
      · rw [hresult] at hrun
        have hwritten : written' = filters := Option.some.inj hrun
        exact updated_content_of_shows
          (shows_of_field (ofFilters_field written' request.workspaceId)
            (congrArg FieldValue.filters (hfilters.trans (congrArg some hwritten.symm))))

/-- A write leaves every field alone that it does not set. -/
theorem effect_field_of_none {f : WorkspaceField} (h : w.dto.field f = none) :
    (w.effect host workspace).field f = workspace.field f := by
  cases w with
  | update dto =>
      have hdto : dto.field f = none := h
      rw [WorkspaceWrite.effect, updated_field, hdto, Option.getD_none]
  | activate id =>
      rw [WorkspaceWrite.effect]
      split
      · show (updated (WorkspaceWrite.activate id).dto workspace _).field f = _
        rw [updated_field, h, Option.getD_none]
      · rfl
  | filters request input read written =>
      have hdto : ((SettingsDto.ofFilters written).update request.workspaceId).field f = none := h
      rw [ofFilters_field] at hdto
      split_ifs at hdto with hf
      rw [WorkspaceWrite.effect]
      rcases request.run host input (workspace.settings.filters.getD []) with e | filters
      · rfl
      · show (updated ((SettingsDto.ofFilters filters).update _) workspace _).field f = _
        rw [updated_field, ofFilters_field, if_neg hf, Option.getD_none]

/-- **What an insert leaves is what the write does to the workspace as it is.** -/
theorem inserted_content {s : WorkspaceTable} {updatedAt : String} {input : WorkspaceInput}
    (hw : w.Computed host) (hid : base.id = w.id)
    (hkeeps : s.Keeps host (.insert w base updatedAt) input)
    (h : get s.rows w.id = some workspace) :
    ∃ after, get (s.inserted w (w.row base updatedAt)).rows w.id = some after ∧
      after.content = w.effect host workspace.content := by
  obtain ⟨hmoot, hcurrent⟩ := hkeeps workspace (hid.symm ▸ h)
  have hrowId : (w.row base updatedAt).id = w.id := by
    rw [w.row_eq]
    exact hid
  have hrowStamp : (w.row base updatedAt).updatedAt = updatedAt := by
    rw [w.row_eq]
    rfl
  have hget := get_append_of_some h hrowId
  rw [hrowStamp] at hget
  by_cases hlt : updatedAt < workspace.updatedAt
  · rw [if_pos hlt] at hget
    exact ⟨workspace, hget, (effect_of_moot (hmoot (le_of_lt hlt))).symm⟩
  · rw [if_neg hlt] at hget
    exact ⟨_, hget, row_content_of_current hw (hid.trans (get_id h).symm)
      (hcurrent (not_lt.mp hlt)) updatedAt⟩

end Inserts

/-! ### Runs -/

/-- The freshest row of every workspace is what the writes to it make of the one it had. -/
def WorkspaceTable.Replayed (rows : List WorkspaceRow) (s : WorkspaceTable) : Prop :=
  ∀ id workspace, get rows id = some workspace →
    ∃ after, get s.rows id = some after ∧
      after.content = replay host (s.logOf id) workspace.content

theorem WorkspaceTable.Replayed.inserted {rows : List WorkspaceRow} {s : WorkspaceTable}
    {w : WorkspaceWrite} {base : WorkspaceRow} {updatedAt : String} {input : WorkspaceInput}
    (hs : s.Replayed host rows) (hw : w.Computed host) (hid : base.id = w.id)
    (hkeeps : s.Keeps host (.insert w base updatedAt) input) :
    (s.inserted w (w.row base updatedAt)).Replayed host rows := by
  intro id workspace hworkspace
  obtain ⟨current, hcurrent, hcontent⟩ := hs id workspace hworkspace
  have hrowId : (w.row base updatedAt).id = w.id := by
    rw [w.row_eq]
    exact hid
  by_cases hsame : w.id = id
  · subst hsame
    obtain ⟨after, hafter, heffect⟩ := inserted_content hw hid hkeeps hcurrent
    refine ⟨after, hafter, ?_⟩
    rw [logOf_inserted_self, replay, List.foldl_append, heffect, hcontent]
    rfl
  · refine ⟨current, ?_, ?_⟩
    · show get (s.rows ++ [_]) id = some current
      rw [get_append_of_ne (by rw [hrowId]; exact hsame), hcurrent]
    · rw [logOf_inserted_of_ne _ hsame, hcontent]

/-- The write sets no field that the request sets. -/
def WorkspaceWrite.Spares (w : WorkspaceWrite) (dto : UpdateWorkspaceDto) : Prop :=
  ∀ f, dto.field f ≠ none → w.dto.field f = none

/-- What a request sets stays through writes that spare it. -/
theorem UpdateWorkspaceDto.Shows.replay {dto : UpdateWorkspaceDto} :
    ∀ {log : List WorkspaceWrite} {workspace : WorkspaceRow}, dto.Shows workspace →
      (∀ w ∈ log, w.Spares dto) → dto.Shows (replay host log workspace) := by
  intro log
  induction log with
  | nil => intro workspace h _; exact h
  | cons w rest ih =>
      intro workspace h hspares
      obtain ⟨hw, hrest⟩ := List.forall_mem_cons.mp hspares
      refine ih (fun f hf v hv => ?_) hrest
      have hset : dto.field f ≠ none := fun hnone => Option.some_ne_none v (hv.symm.trans hnone)
      rw [effect_field_of_none (hw f hset)]
      exact h f hf v hv

theorem updated_shows (dto : UpdateWorkspaceDto) (workspace : WorkspaceRow)
    (updatedAt : String) : dto.Shows (updated dto workspace updatedAt) := by
  intro f _ v hv
  rw [updated_field, Option.mem_def.mp hv, Option.getD_some]

/-- **Where every insert meets `Keeps`, a workspace is in the end what the writes to it make of
it one after the other, in the order of their inserts.**  So it has what each update set,
unless a later write set that too. -/
theorem workspace_updates_kept (rows : List WorkspaceRow) (as : List WorkspaceAction)
    (t : WorkspaceRun)
    (hmeets : Machine.Meets (workspacesStep host)
      (Interleave.Guarded (WorkspaceTable.Keeps host)) (WorkspaceTable.init rows) as)
    (h : Machine.exec (workspacesStep host) (WorkspaceTable.init rows) as = some t)
    (id : String) (workspace : WorkspaceRow) (hworkspace : get rows id = some workspace) :
    ∃ after, get t.shared.rows id = some after ∧
      after.content = replay host (t.shared.logOf id) workspace.content ∧
      ∀ earlier dto later, t.shared.logOf id = earlier ++ .update dto :: later →
        (∀ w ∈ later, w.Spares dto) → dto.Shows after := by
  have hinit : Interleave.Holds (WorkspaceTable.Replayed host rows)
      (WorkspaceCall.Knows host) (WorkspaceTable.init rows) :=
    ⟨fun _ workspace hget => ⟨workspace, hget, rfl⟩, fun p hp => absurd hp List.not_mem_nil⟩
  obtain ⟨hreplayed, -⟩ := Interleave.exec_holds
    (C := WorkspaceTable.Keeps host) (fun _ op _ => by cases op <;> exact trivial)
    (fun s p input s' p' hI hL hC hstep => by
      obtain ⟨rfl | ⟨w, base, updatedAt, rfl, rfl⟩, hknows⟩ := callStep_cases hL hstep
      · exact ⟨hI, hknows⟩
      · exact ⟨hI.inserted host hL.1 hL.2.1 hC, hknows⟩) hinit hmeets h
  obtain ⟨after, hafter, hcontent⟩ := hreplayed id workspace hworkspace
  refine ⟨after, hafter, hcontent, fun earlier dto later hlog hspares => ?_⟩
  have hsame : after.content = replay host later
      ((WorkspaceWrite.update dto).effect host (replay host earlier workspace.content)) := by
    rw [hcontent, hlog, replay, List.foldl_append, List.foldl_cons]
    rfl
  have hset : dto.Shows
      ((WorkspaceWrite.update dto).effect host (replay host earlier workspace.content)) :=
    updated_shows dto _ _
  have hshows := UpdateWorkspaceDto.Shows.replay host hset hspares
  intro f hf v hv
  rw [← content_field, hsame]
  exact hshows f hf v hv

namespace SettingsExample

theorem priority_nonneg : (0 : ℚ) ≤ 500 := by decide

def filter : FilterRow where
  id := "f1"
  priority := 500
  conditions := []
  operations := []
  enabled := true
  priority_nonneg := priority_nonneg
  name := "Ads"
  order := none
  tags := []
  version := "v1"
  createdAt := "1970-01-01 00:00:00.000"
  updatedAt := "1970-01-01 00:00:00.000"

def acme : WorkspaceRow where
  id := "w1"
  name := "Acme"
  website := "acme.io"
  timezone := "Europe/Paris"
  currency := "EUR"
  logoUrl := none
  status := .initializing
  createdAt := "1970-01-01 00:00:00.000"
  updatedAt := "1970-01-01 00:00:00.000"
  settings := ⟨some [filter], none, fun _ => none⟩

def filterHost : FilterRow.FilterHost := ⟨fun _ => true, fun _ => "v2"⟩

/-- The update of one of the other settings. -/
def set (key : SettingsKey) (value : String) : WorkspaceWriter :=
  .update (SettingsDto.update ⟨none, none, fun k => if k = key then some value else none⟩ "w1")

/-- Two writers read the workspace one after the other, and insert. -/
def overlap (a b : WorkspaceWriter) : List WorkspaceAction :=
  [.start a, .start b, .step 0 ⟨10, ""⟩, .step 1 ⟨10, ""⟩, .step 0 ⟨20, ""⟩, .step 1 ⟨20, ""⟩]

/-- A filter is deleted between the read and the insert of an update. -/
def lateUpdate : List WorkspaceAction :=
  [.start (set .branding "blue"), .start (.filters (.delete "w1" "f1")), .step 0 ⟨10, ""⟩,
    .step 1 ⟨10, ""⟩, .step 1 ⟨10, ""⟩, .step 1 ⟨20, ""⟩, .step 0 ⟨20, ""⟩]

/-- An update, then the deletion of a filter. -/
def inTurn : List WorkspaceAction :=
  [.start (set .branding "blue"), .step 0 ⟨10, ""⟩, .step 0 ⟨10, ""⟩,
    .start (.filters (.delete "w1" "f1")), .step 1 ⟨10, ""⟩, .step 1 ⟨10, ""⟩, .step 1 ⟨20, ""⟩]

def run (as : List WorkspaceAction) : Option WorkspaceRun :=
  Machine.exec (workspacesStep filterHost) (WorkspaceTable.init [acme]) as

structure Seen where
  status : WorkspaceStatus
  branding : Option String
  features : Option String
  filters : List String
  deriving DecidableEq

/-- What is read of the workspace, and how many rows were inserted. -/
def seen (t : WorkspaceRun) : Nat × Option Seen :=
  (t.shared.log.length, (get t.shared.rows "w1").map fun workspace =>
    ⟨workspace.status, workspace.settings.others .branding, workspace.settings.others .features,
      (workspace.settings.filters.getD []).map (·.id)⟩)

end SettingsExample

open SettingsExample in
/-- Two updates have both returned, and the first setting is not there; no more is an activation,
or the deletion of a filter. -/
theorem workspace_update_lost :
    (run (overlap (set .branding "blue") (set .features "all"))).map seen =
      some (2, some ⟨.initializing, none, some "all", ["f1"]⟩) ∧
    (run (overlap (.activateIfInitializing "w1") (set .features "all"))).map seen =
      some (2, some ⟨.initializing, none, some "all", ["f1"]⟩) ∧
    (run lateUpdate).map seen = some (2, some ⟨.initializing, some "blue", none, ["f1"]⟩) := by
  refine ⟨by decide, by decide, by decide⟩

open SettingsExample in
theorem workspace_updates_kept_inTurn :
    ∃ t after, run inTurn = some t ∧ get t.shared.rows "w1" = some after ∧
      after.content = replay filterHost (t.shared.logOf "w1") acme.content := by
  obtain ⟨t, ht⟩ : ∃ t, run inTurn = some t := Option.isSome_iff_exists.mp (by decide)
  have hmeets : Machine.Meets (workspacesStep filterHost)
      (Interleave.Guarded (WorkspaceTable.Keeps filterHost)) (WorkspaceTable.init [acme]) inTurn := by
    decide
  have hacme : get [acme] "w1" = some acme := by decide
  obtain ⟨after, hafter, hcontent, -⟩ :=
    workspace_updates_kept filterHost [acme] inTurn t hmeets ht "w1" acme hacme
  exact ⟨t, after, ht, hafter, hcontent⟩

end Veridian
