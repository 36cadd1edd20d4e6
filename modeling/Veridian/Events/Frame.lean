/-
What `applyFilters` does to the writable dimensions of an event.

`applyFilters_dimension` is the specification of the whole merge: a dimension in
the filter result gets its value, a custom dimension outside of it becomes `null`,
and a standard field outside of it is left alone.  The second case is the one that
matters below: `Object.assign` copies all twelve custom dimensions, also those no
filter wrote, so a workspace with any filter at all loses every untargeted one.
-/
import Veridian.Filters.Meaning
import Veridian.Events.Handler

namespace Veridian

/-! ### Targeted dimensions -/

/-- Some enabled, matching filter carries an operation on `d`. -/
def Targeted (host : Host) (filters : List FilterDefinition)
    (fieldValues : SourceField → Option String) (d : WritableDimension) : Prop :=
  ∃ f ∈ filters, f.applies host fieldValues = true ∧ ∃ op ∈ f.operations, op.dimension = d

instance (host : Host) (filters : List FilterDefinition)
    (fieldValues : SourceField → Option String) (d : WritableDimension) :
    Decidable (Targeted host filters fieldValues d) :=
  inferInstanceAs (Decidable (∃ f ∈ filters, _ ∧ ∃ op ∈ f.operations, op.dimension = d))

theorem rulesOn_eq_nil_iff {host : Host} {filters : List FilterDefinition}
    {fieldValues : SourceField → Option String} {d : WritableDimension} :
    rulesOn host filters fieldValues d = [] ↔ ¬Targeted host filters fieldValues d := by
  unfold rulesOn FilterDefinition.rulesOn Targeted
  rw [List.flatMap_eq_nil_iff]
  constructor
  · rintro h ⟨f, hf, happ, op, hop, hd⟩
    have hnil := h f (mem_processed.mpr ⟨hf, happ⟩)
    rw [List.map_eq_nil_iff, List.filter_eq_nil_iff] at hnil
    exact hnil op hop (by simpa using hd)
  · intro h f hf
    obtain ⟨hmem, happ⟩ := mem_processed.mp hf
    rw [List.map_eq_nil_iff, List.filter_eq_nil_iff]
    intro op hop hd
    exact h ⟨f, hmem, happ, op, hop, by simpa using hd⟩

theorem evaluateFilters_of_not_targeted {host : Host} {filters : List FilterDefinition}
    {fieldValues : SourceField → Option String} {d : WritableDimension}
    (h : ¬Targeted host filters fieldValues d) :
    evaluateFilters host filters fieldValues d = none := by
  rw [evaluateFilters_eq_declared, rulesOn_eq_nil_iff.mpr h]
  rfl

/-- A dimension with an operation on it is in the result, be it as `null`. -/
theorem evaluateFilters_of_targeted {host : Host} {filters : List FilterDefinition}
    {fieldValues : SourceField → Option String} {d : WritableDimension}
    (h : Targeted host filters fieldValues d) :
    ∃ v, evaluateFilters host filters fieldValues d = some v := by
  rw [evaluateFilters_eq_declared]
  cases hrules : rulesOn host filters fieldValues d with
  | nil => exact absurd h (rulesOn_eq_nil_iff.mp hrules)
  | cons r rest => exact Rules.declared_isSome_of_ne_nil (by simp)

/-! ### The two halves of `applyFilterResults` -/

/-- The value of a custom dimension; the others have none. -/
def CustomDimensionValues.get (values : CustomDimensionValues) :
    WritableDimension → Option String
  | .channel => values.channel
  | .channelGroup => values.channelGroup
  | .stm k => values.stm k
  | _ => none

theorem placeEntry_get_self {d : WritableDimension} (hd : d.isCustom = true)
    (acc : CustomDimensionValues × FilterResult) (v : Option String) :
    (placeEntry acc (d, v)).1.get d = v := by
  cases d <;> simp [WritableDimension.isCustom] at hd <;>
    simp [placeEntry, CustomDimensionValues.get]

theorem placeEntry_get_ne {d d' : WritableDimension} (h : d' ≠ d)
    (acc : CustomDimensionValues × FilterResult) (v : Option String) :
    (placeEntry acc (d', v)).1.get d = acc.1.get d := by
  cases d' <;> cases d <;> first
    | rfl
    | exact absurd rfl h
    | (rename_i k' k
       have hk : k ≠ k' := fun hc => h (by rw [hc])
       simp [placeEntry, CustomDimensionValues.get, Function.update_of_ne hk])

theorem placeEntry_modified_self {d : WritableDimension} (hd : d.isCustom = false)
    (acc : CustomDimensionValues × FilterResult) (v : Option String) :
    (placeEntry acc (d, v)).2 d = some v := by
  cases d <;> simp [WritableDimension.isCustom] at hd <;> simp [placeEntry]

theorem placeEntry_modified_ne {d d' : WritableDimension} (h : d' ≠ d)
    (acc : CustomDimensionValues × FilterResult) (v : Option String) :
    (placeEntry acc (d', v)).2 d = acc.2 d := by
  have hd : d ≠ d' := fun hc => h hc.symm
  cases d' <;> simp [placeEntry, Function.update_of_ne hd]

/-- Custom dimensions never land in the modified fields. -/
theorem placeEntry_modified_custom {d : WritableDimension} (hd : d.isCustom = true)
    (acc : CustomDimensionValues × FilterResult) (entry : WritableDimension × Option String) :
    (placeEntry acc entry).2 d = acc.2 d := by
  obtain ⟨d', v⟩ := entry
  by_cases h : d' = d
  · subst h
    cases d' <;> simp [WritableDimension.isCustom] at hd <;> rfl
  · exact placeEntry_modified_ne h acc v

section
variable (host : Host) (filters : List FilterDefinition)
  (fieldValues : SourceField → Option String)

theorem applyFilterResults_custom {d : WritableDimension} (hd : d.isCustom = true) :
    (applyFilterResults host filters fieldValues).1.get d =
      (evaluateFilters host filters fieldValues d).join := by
  have h := foldl_entries_all placeEntry (fun acc => acc.1.get d) d id
    (fun acc v => placeEntry_get_self hd acc v) (fun acc d' v hne => placeEntry_get_ne hne acc v)
    (evaluateFilters host filters fieldValues) (.init, fun _ => none)
  refine h.trans ?_
  cases evaluateFilters host filters fieldValues d with
  | some v => rfl
  | none => cases d <;> rfl

theorem applyFilterResults_modified (d : WritableDimension) :
    (applyFilterResults host filters fieldValues).2 d =
      if d.isCustom then none else evaluateFilters host filters fieldValues d := by
  cases hd : d.isCustom with
  | true =>
      have h : ∀ (l : List (WritableDimension × Option String)) acc,
          (l.foldl placeEntry acc).2 d = acc.2 d := by
        intro l
        induction l with
        | nil => intro acc; rfl
        | cons entry rest ih =>
            intro acc
            rw [List.foldl_cons, ih, placeEntry_modified_custom hd]
      exact h _ _
  | false =>
      have h := foldl_entries_all placeEntry (fun acc => acc.2 d) d some
        (fun acc v => placeEntry_modified_self hd acc v)
        (fun acc d' v hne => placeEntry_modified_ne hne acc v)
        (evaluateFilters host filters fieldValues) (.init, fun _ => none)
      refine h.trans ?_
      cases evaluateFilters host filters fieldValues d <;> rfl

end

/-! ### The whole merge -/

theorem assignCustom_dimension (event : TrackingEvent) (values : CustomDimensionValues)
    (d : WritableDimension) :
    (event.assignCustom values).dimension d =
      if d.isCustom then .text (values.get d) else event.dimension d := by
  cases d <;> rfl

/-- **What `applyFilters` leaves in each dimension.** -/
theorem applyFilters_dimension (host : Host) (event : TrackingEvent)
    {filters : List FilterDefinition} (hne : filters ≠ []) (d : WritableDimension) :
    (applyFilters host event filters).dimension d =
      match evaluateFilters host filters (extractFieldValues event) d with
      | some v => TrackingEvent.assigned d v
      | none => if d.isCustom then .text none else event.dimension d := by
  rw [applyFilters, if_neg hne]
  have h := foldl_entries_all (fun e entry => TrackingEvent.assign e entry.1 entry.2)
    (TrackingEvent.dimension · d) d (TrackingEvent.assigned d)
    (fun e v => e.dimension_assign_self d v)
    (fun e d' v hd' => e.dimension_assign_ne v fun hc => hd' hc.symm)
    (applyFilterResults host filters (extractFieldValues event)).2
    (event.assignCustom (applyFilterResults host filters (extractFieldValues event)).1)
  refine h.trans ?_
  rw [applyFilterResults_modified, assignCustom_dimension]
  cases hd : d.isCustom with
  | true =>
      rw [applyFilterResults_custom host filters _ hd]
      have hdirect : d ≠ .isDirect := by rintro rfl; simp [WritableDimension.isCustom] at hd
      cases evaluateFilters host filters (extractFieldValues event) d <;>
        simp [TrackingEvent.assigned, hdirect]
  | false => cases evaluateFilters host filters (extractFieldValues event) d <;> rfl

theorem applyFilters_of_not_targeted {host : Host} {event : TrackingEvent}
    {filters : List FilterDefinition} (hne : filters ≠ []) {d : WritableDimension}
    (h : ¬Targeted host filters (extractFieldValues event) d) :
    (applyFilters host event filters).dimension d =
      if d.isCustom then .text none else event.dimension d := by
  rw [applyFilters_dimension host event hne, evaluateFilters_of_not_targeted h]

/-! ### What a built event carries before the filters -/

theorem deserializeAction_dimension (action : Action) (baseEvent : TrackingEvent)
    (sessionId previousPath : String) (skewMs : Int) (d : WritableDimension) :
    (deserializeAction action baseEvent sessionId previousPath skewMs).dimension d =
      baseEvent.dimension d := by
  cases action <;> cases d <;> rfl

/-- The events of one payload agree on every writable dimension. -/
theorem mem_buildEvents_dimension {host : Host} {payload : SessionPayload} {arrival : Arrival}
    {workspace : Workspace} {event : TrackingEvent}
    (h : event ∈ buildEvents host payload arrival workspace) (d : WritableDimension) :
    event.dimension d =
      (buildBaseEvent host payload arrival (appliedSkew payload arrival) workspace).dimension d :=
  mem_deserializeActions_view (TrackingEvent.dimension · d)
    (fun action baseEvent sessionId previousPath skewMs =>
      deserializeAction_dimension action baseEvent sessionId previousPath skewMs d) h

/-- The SDK's value of a slot. -/
def SessionPayload.slot (payload : SessionPayload) (k : Fin 10) : String :=
  (payload.dimensions.lookup s!"stm_{k.val + 1}").getD ""

/-- No custom dimension is `null` before the filters, and the channel is not empty. -/
theorem mem_buildEvents_custom {host : Host} {payload : SessionPayload} {arrival : Arrival}
    {workspace : Workspace} {event : TrackingEvent}
    (h : event ∈ buildEvents host payload arrival workspace) :
    (∃ c : Channel, event.dimension .channel = .text (some c.text)) ∧
    (∃ g : ChannelGroup, event.dimension .channelGroup = .text (some g.text)) ∧
    ∀ k, event.dimension (.stm k) = .text (some (payload.slot k)) := by
  refine ⟨⟨_, mem_buildEvents_dimension h _⟩, ⟨_, mem_buildEvents_dimension h _⟩, fun k => ?_⟩
  exact mem_buildEvents_dimension h _

/-! ### The frame -/

/-- The dimensions no filter targets have the value they had before. -/
def KeepsUntargeted (host : Host) (filters : List FilterDefinition) (event : TrackingEvent) :
    Prop :=
  ∀ d, ¬Targeted host filters (extractFieldValues event) d →
    (applyFilters host event filters).dimension d = event.dimension d

/-- The same of the columns the event ends up in. -/
def KeepsUntargetedColumns (host : Host) (filters : List FilterDefinition)
    (event : TrackingEvent) : Prop :=
  ∀ d, ¬Targeted host filters (extractFieldValues event) d →
    ((applyFilters host event filters).dimension d).stored = (event.dimension d).stored

/-- The standard fields are not where the frame breaks. -/
theorem applyFilters_standard {host : Host} {filters : List FilterDefinition}
    {event : TrackingEvent} {d : WritableDimension} (hd : d.isCustom = false)
    (h : ¬Targeted host filters (extractFieldValues event) d) :
    (applyFilters host event filters).dimension d = event.dimension d := by
  by_cases hne : filters = []
  · rw [applyFilters, if_pos hne]
  · rw [applyFilters_of_not_targeted hne h, hd]
    rfl

section

variable {host : Host} {filters : List FilterDefinition} {payload : SessionPayload}
  {arrival : Arrival} {workspace : Workspace} {event : TrackingEvent}

/-- The values survive when every custom dimension is targeted. -/
theorem keepsUntargeted_iff (hne : filters ≠ [])
    (hbuilt : event ∈ buildEvents host payload arrival workspace) :
    KeepsUntargeted host filters event ↔
      ∀ d, d.isCustom = true → Targeted host filters (extractFieldValues event) d := by
  obtain ⟨⟨c, hc⟩, ⟨g, hg⟩, hstm⟩ := mem_buildEvents_custom hbuilt
  constructor
  · intro hkeeps d hd
    by_contra ht
    have hsame := hkeeps d ht
    rw [applyFilters_of_not_targeted hne ht, if_pos hd] at hsame
    cases d with
    | channel => rw [hc] at hsame; simp at hsame
    | channelGroup => rw [hg] at hsame; simp at hsame
    | stm k => rw [hstm] at hsame; simp at hsame
    | _ => simp [WritableDimension.isCustom] at hd
  · intro hall d ht
    cases hd : d.isCustom with
    | true => exact absurd (hall d hd) ht
    | false => exact applyFilters_standard hd ht

/-- The columns survive when channel and channel group are targeted and every slot is
targeted or empty anyway. -/
theorem keepsUntargetedColumns_iff (hne : filters ≠ [])
    (hbuilt : event ∈ buildEvents host payload arrival workspace) :
    KeepsUntargetedColumns host filters event ↔
      Targeted host filters (extractFieldValues event) .channel ∧
        Targeted host filters (extractFieldValues event) .channelGroup ∧
        ∀ k, Targeted host filters (extractFieldValues event) (.stm k) ∨ payload.slot k = "" := by
  obtain ⟨⟨c, hc⟩, ⟨g, hg⟩, hstm⟩ := mem_buildEvents_custom hbuilt
  have hlost : ∀ d, d.isCustom = true → ¬Targeted host filters (extractFieldValues event) d →
      (applyFilters host event filters).dimension d = .text none := by
    intro d hd ht
    rw [applyFilters_of_not_targeted hne ht, if_pos hd]
  constructor
  · intro hkeeps
    refine ⟨?_, ?_, fun k => ?_⟩
    · by_contra ht
      have hsame := hkeeps .channel ht
      rw [hlost _ rfl ht, hc] at hsame
      exact c.text_ne_empty (by simpa [DimensionValue.stored] using hsame.symm)
    · by_contra ht
      have hsame := hkeeps .channelGroup ht
      rw [hlost _ rfl ht, hg] at hsame
      exact g.text_ne_empty (by simpa [DimensionValue.stored] using hsame.symm)
    · by_contra hor
      obtain ⟨ht, hslot⟩ := not_or.mp hor
      have hsame := hkeeps (.stm k) ht
      rw [hlost _ rfl ht, hstm] at hsame
      exact hslot (by simpa [DimensionValue.stored] using hsame.symm)
  · rintro ⟨hch, hgr, hslots⟩ d ht
    cases d with
    | channel => exact absurd hch ht
    | channelGroup => exact absurd hgr ht
    | stm k =>
        rw [hlost _ rfl ht, hstm, (hslots k).resolve_left ht]
        rfl
    | _ => rw [applyFilters_standard rfl ht]

end

/--
**The filters keep what they do not target exactly when there is nothing custom
left untargeted.**

With no filter at all nothing changes.  Otherwise the values survive when every one
of the twelve custom dimensions is targeted, and the columns survive when channel and
channel group are targeted and every slot is targeted or empty anyway.
-/
theorem applyFilters_frame_iff (host : Host) (filters : List FilterDefinition)
    (payload : SessionPayload) (arrival : Arrival) (workspace : Workspace)
    (event : TrackingEvent) (hbuilt : event ∈ buildEvents host payload arrival workspace) :
    (KeepsUntargeted host filters event ↔
      filters = [] ∨
        ∀ d, d.isCustom = true → Targeted host filters (extractFieldValues event) d) ∧
    (KeepsUntargetedColumns host filters event ↔
      filters = [] ∨
        Targeted host filters (extractFieldValues event) .channel ∧
        Targeted host filters (extractFieldValues event) .channelGroup ∧
        ∀ k, Targeted host filters (extractFieldValues event) (.stm k) ∨ payload.slot k = "") := by
  by_cases hnil : filters = []
  · subst hnil
    exact ⟨iff_of_true (fun d _ => rfl) (Or.inl rfl), iff_of_true (fun d _ => rfl) (Or.inl rfl)⟩
  · rw [or_iff_right hnil, or_iff_right hnil]
    exact ⟨keepsUntargeted_iff hnil hbuilt, keepsUntargetedColumns_iff hnil hbuilt⟩

/-! ### One filter on the campaign loses the channel and the slots -/

namespace FrameExample

def filter : FilterDefinition where
  id := "f"
  priority := 500
  conditions := [⟨.path, .equals, some "/pricing"⟩]
  operations := [{ dimension := .utmCampaign, action := .setValue, value := some "spring" }]
  enabled := true

def workspace : Workspace where
  id := "w"
  status := .active
  settings := { filters := [filter] }

def payload : SessionPayload where
  workspaceId := "w"
  sessionId := "s"
  actions := [.pageview ⟨"/pricing", 1, 10, 50, 0, 10⟩]
  createdAt := 0
  updatedAt := 10
  dimensions := [("stm_1", "gold")]

def arrival : Arrival where
  version := 20
  now := 20

def event : TrackingEvent :=
  deserializeAction (.pageview ⟨"/pricing", 1, 10, 50, 0, 10⟩)
    (buildBaseEvent Host.bare payload arrival 0 workspace) "s" "" 0

theorem event_mem : event ∈ buildEvents Host.bare payload arrival workspace :=
  List.mem_singleton.mpr rfl

end FrameExample

theorem FrameExample.channel_not_targeted : ¬Targeted Host.bare [FrameExample.filter]
    (extractFieldValues FrameExample.event) .channel := by decide

theorem applyFilters_frame_iff_campaign :
    ¬KeepsUntargeted Host.bare [FrameExample.filter] FrameExample.event ∧
    ¬KeepsUntargetedColumns Host.bare [FrameExample.filter] FrameExample.event := by
  have hiff := applyFilters_frame_iff Host.bare [FrameExample.filter] FrameExample.payload
    FrameExample.arrival FrameExample.workspace FrameExample.event FrameExample.event_mem
  constructor
  · rw [hiff.1]
    rintro (hnil | hall)
    · exact absurd hnil (by simp)
    · exact FrameExample.channel_not_targeted (hall .channel rfl)
  · rw [hiff.2]
    rintro (hnil | ⟨hch, -⟩)
    · exact absurd hnil (by simp)
    · exact FrameExample.channel_not_targeted hch

/-- A `direct` visitor with a value in `stm_1`: the filter matches, and neither the
channel nor the slot is anywhere in it. -/
theorem applyFilters_frame_fails :
    ¬Targeted Host.bare [FrameExample.filter] (extractFieldValues FrameExample.event) .channel ∧
    FrameExample.event.dimension .channel = .text (some "direct") ∧
    (applyFilters Host.bare FrameExample.event [FrameExample.filter]).dimension .channel =
      .text none ∧
    ¬Targeted Host.bare [FrameExample.filter] (extractFieldValues FrameExample.event) (.stm 0) ∧
    FrameExample.event.dimension (.stm 0) = .text (some "gold") ∧
    (applyFilters Host.bare FrameExample.event [FrameExample.filter]).dimension (.stm 0) =
      .text none ∧
    ¬∀ (host : Host) (filters : List FilterDefinition) (payload : SessionPayload)
      (arrival : Arrival) (workspace : Workspace),
      ∀ event ∈ buildEvents host payload arrival workspace,
        KeepsUntargetedColumns host filters event := by
  have hslot : ¬Targeted Host.bare [FrameExample.filter]
      (extractFieldValues FrameExample.event) (.stm 0) := by decide
  have hgold : FrameExample.event.dimension (.stm 0) = .text (some "gold") := by decide
  have hlost : (applyFilters Host.bare FrameExample.event [FrameExample.filter]).dimension
      (.stm 0) = .text none := by decide
  refine ⟨FrameExample.channel_not_targeted, by decide, by decide, hslot, hgold,
    hlost, ?_⟩
  intro hall
  have hsame := hall Host.bare [FrameExample.filter] FrameExample.payload FrameExample.arrival
    FrameExample.workspace FrameExample.event FrameExample.event_mem (.stm 0) hslot
  rw [hgold, hlost] at hsame
  exact absurd hsame (by decide)

end Veridian
