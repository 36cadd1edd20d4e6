/-
Evaluating a workspace's filters on one event, as ingestion does.

`evaluateFilters` walks the enabled filters in descending priority and runs the
operations of those whose conditions all hold, keeping per dimension the value and
the priority it was set with.  `applyFilterResults` then sorts the outcome into
the twelve custom dimensions, every one of which it starts from `null`, and the
standard fields a filter wrote.

A JavaScript object used as a map is a function here: `none` is an absent key,
`some none` a key holding `null`.
-/
import Veridian.Host
import Veridian.Events.Event

namespace Veridian

/-! ### Conditions -/

def evaluateCondition (host : Host) (condition : FilterCondition)
    (fieldValues : SourceField → Option String) : Bool :=
  match fieldValues condition.field with
  | none => condition.operator == .isEmpty
  | some fieldValue =>
      if fieldValue = "" then condition.operator == .isEmpty
      else
        match condition.operator with
        | .equals => some fieldValue == condition.value
        | .notEquals => some fieldValue != condition.value
        | .contains => Text.includes fieldValue (condition.value.getD "")
        | .notContains => !Text.includes fieldValue (condition.value.getD "")
        | .isEmpty => false
        | .isNotEmpty => true
        | .regex => host.regexTest (condition.value.getD "") fieldValue

/-- An empty or absent field satisfies `is_empty` alone. -/
theorem evaluateCondition_of_empty (host : Host) {condition : FilterCondition}
    {fieldValues : SourceField → Option String} (h : (fieldValues condition.field).getD "" = "") :
    evaluateCondition host condition fieldValues = (condition.operator == .isEmpty) := by
  unfold evaluateCondition
  cases hv : fieldValues condition.field with
  | none => rfl
  | some v =>
      rw [hv, Option.getD_some] at h
      exact if_pos h

/-- All of them, so an empty list always matches. -/
def evaluateConditions (host : Host) (conditions : List FilterCondition)
    (fieldValues : SourceField → Option String) : Bool :=
  conditions.all fun c => evaluateCondition host c fieldValues

/-! ### Operations -/

abbrev FilterResult := WritableDimension → Option (Option String)

/-- The two accumulators of `evaluateFilters`. -/
structure Evaluation where
  result : FilterResult
  dimensionPriorities : WritableDimension → Option ℚ

def Evaluation.init : Evaluation := ⟨fun _ => none, fun _ => none⟩

/-- `result[op.dimension] = value`, recording the priority it was set with. -/
def Evaluation.put (acc : Evaluation) (d : WritableDimension) (value : Option String)
    (priority : ℚ) : Evaluation :=
  { result := Function.update acc.result d (some value)
    dimensionPriorities := Function.update acc.dimensionPriorities d (some priority) }

def runOperation (priority : ℚ) (acc : Evaluation) (op : FilterOperation) : Evaluation :=
  let currentPriority := (acc.dimensionPriorities op.dimension).getD (-1)
  match op.action with
  | .setValue =>
      if priority < currentPriority then acc else acc.put op.dimension (some op.text) priority
  | .unsetValue =>
      if priority < currentPriority then acc else acc.put op.dimension none priority
  | .setDefaultValue =>
      -- absent or `null`; the priority stays, so other filters may override
      if acc.result op.dimension = none ∨ acc.result op.dimension = some none then
        { acc with result := Function.update acc.result op.dimension (some (some op.text)) }
      else acc

def runFilter (host : Host) (fieldValues : SourceField → Option String) (acc : Evaluation)
    (filter : FilterDefinition) : Evaluation :=
  if evaluateConditions host filter.conditions fieldValues then
    filter.operations.foldl (runOperation filter.priority) acc
  else acc

def evaluateFilters (host : Host) (filters : List FilterDefinition)
    (fieldValues : SourceField → Option String) : FilterResult :=
  ((sortedFilters filters).foldl (runFilter host fieldValues) .init).result

/-! ### Reading the fields of an event -/

def extractFieldValues (event : TrackingEvent) : SourceField → Option String
  | .utmSource => event.utmSource
  | .utmMedium => event.utmMedium
  | .utmCampaign => event.utmCampaign
  | .utmTerm => event.utmTerm
  | .utmContent => event.utmContent
  | .utmId => some event.utmId
  | .utmIdFrom => some event.utmIdFrom
  | .referrer => some event.referrer
  | .referrerDomain => event.referrerDomain
  | .referrerPath => some event.referrerPath
  | .isDirect => some (if event.isDirect then "true" else "false")
  | .landingPage => some event.landingPage
  | .landingDomain => some event.landingDomain
  | .landingPath => some event.landingPath
  | .path => some event.path
  | .device => some event.device
  | .browser => some event.browser
  | .browserType => some event.browserType
  | .os => some event.os
  | .userAgent => some event.userAgent
  | .connectionType => some event.connectionType
  | .language => some event.language
  | .timezone => some event.timezone

/-! ### Sorting the outcome into dimensions -/

structure CustomDimensionValues where
  channel : Option String
  channelGroup : Option String
  stm : Fin 10 → Option String

/-- Every slot starts from `null`. -/
def CustomDimensionValues.init : CustomDimensionValues := ⟨none, none, fun _ => none⟩

/-- Channel, channel group and the ten slots; the rest are standard fields. -/
def WritableDimension.isCustom : WritableDimension → Bool
  | .channel | .channelGroup | .stm _ => true
  | _ => false

/-- `Object.entries(result)`. -/
def FilterResult.entries (result : FilterResult) : List (WritableDimension × Option String) :=
  WRITABLE_DIMENSIONS.filterMap fun d => (result d).map fun v => (d, v)

/-- One round of the loop over the entries. -/
def placeEntry (acc : CustomDimensionValues × FilterResult) :
    WritableDimension × Option String → CustomDimensionValues × FilterResult
  | (.channel, value) => ({ acc.1 with channel := value }, acc.2)
  | (.channelGroup, value) => ({ acc.1 with channelGroup := value }, acc.2)
  | (.stm slot, value) => ({ acc.1 with stm := Function.update acc.1.stm slot value }, acc.2)
  | (dimension, value) => (acc.1, Function.update acc.2 dimension (some value))

/-- The custom dimension values and the modified standard fields. -/
def applyFilterResults (host : Host) (filters : List FilterDefinition)
    (fieldValues : SourceField → Option String) : CustomDimensionValues × FilterResult :=
  (FilterResult.entries (evaluateFilters host filters fieldValues)).foldl placeEntry
    (.init, fun _ => none)

/-! ### Folding over the entries of a result

Each entry writes its own key only, so after the loop a key holds its entry, or
what it held before when there is none.
-/

/-- A fold over the present keys of `ds`, seen from one key. -/
theorem foldl_entries {σ β : Type*} (place : σ → WritableDimension × Option String → σ)
    (view : σ → β) (d : WritableDimension) (write : Option String → β)
    (hself : ∀ s v, view (place s (d, v)) = write v)
    (hne : ∀ s d' v, d' ≠ d → view (place s (d', v)) = view s) (result : FilterResult) :
    ∀ (ds : List WritableDimension) (s : σ), ds.Nodup → d ∈ ds →
      view ((ds.filterMap fun d' => (result d').map fun v => (d', v)).foldl place s) =
        match result d with
        | some v => write v
        | none => view s := by
  have hskip : ∀ (ds : List WritableDimension) (s : σ), d ∉ ds →
      view ((ds.filterMap fun d' => (result d').map fun v => (d', v)).foldl place s) = view s := by
    intro ds
    induction ds with
    | nil => intro s _; rfl
    | cons d' rest ih =>
        intro s hd
        have hd' : d' ≠ d := fun hc => hd (by simp [hc])
        have hrest : d ∉ rest := fun hc => hd (by simp [hc])
        cases hr : result d' with
        | none => simpa [hr] using ih s hrest
        | some v =>
            simp only [List.filterMap_cons, hr, Option.map_some, List.foldl_cons]
            rw [ih _ hrest, hne _ _ _ hd']
  intro ds
  induction ds with
  | nil => intro s _ hd; simp at hd
  | cons d' rest ih =>
      intro s hnodup hd
      obtain ⟨hnotin, hrest⟩ := List.nodup_cons.mp hnodup
      by_cases hd' : d' = d
      · subst hd'
        cases hr : result d' with
        | none => simpa [hr] using hskip rest s hnotin
        | some v =>
            simp only [List.filterMap_cons, hr, Option.map_some, List.foldl_cons]
            rw [hskip rest _ hnotin, hself]
      · have hin : d ∈ rest := (List.mem_cons.mp hd).resolve_left fun hc => hd' hc.symm
        cases hr : result d' with
        | none => simpa [hr] using ih s hrest hin
        | some v =>
            simp only [List.filterMap_cons, hr, Option.map_some, List.foldl_cons]
            rw [ih _ hrest hin, hne _ _ _ hd']

theorem foldl_entries_all {σ β : Type*} (place : σ → WritableDimension × Option String → σ)
    (view : σ → β) (d : WritableDimension) (write : Option String → β)
    (hself : ∀ s v, view (place s (d, v)) = write v)
    (hne : ∀ s d' v, d' ≠ d → view (place s (d', v)) = view s) (result : FilterResult) (s : σ) :
    view (result.entries.foldl place s) =
      match result d with
      | some v => write v
      | none => view s :=
  foldl_entries place view d write hself hne result WRITABLE_DIMENSIONS s
    nodup_WRITABLE_DIMENSIONS (mem_WRITABLE_DIMENSIONS d)

end Veridian
