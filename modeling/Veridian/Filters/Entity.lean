/-
The filter rules a workspace stores.

A filter has conditions on source fields and operations on writable dimensions.
Both vocabularies are closed lists in the source (`SOURCE_FIELDS`,
`WRITABLE_DIMENSIONS`), and every way of storing a filter through its DTO checks
them, so they are enumerations here.  The two facts the engine relies on without
looking are fields of the structures: an operation that sets a value carries one,
and a priority is not negative.
-/
import Mathlib.Data.Rat.Defs
import Mathlib.Algebra.Order.Ring.Rat
import Veridian.Lib.Sorting

namespace Veridian

inductive SourceField where
  | utmSource | utmMedium | utmCampaign | utmTerm | utmContent | utmId | utmIdFrom
  | referrer | referrerDomain | referrerPath | isDirect
  | landingPage | landingDomain | landingPath | path
  | device | browser | browserType | os | userAgent | connectionType
  | language | timezone
  deriving DecidableEq, Repr

/-- `SOURCE_FIELDS`, in the source's order. -/
def SOURCE_FIELDS : List SourceField :=
  [.utmSource, .utmMedium, .utmCampaign, .utmTerm, .utmContent, .utmId, .utmIdFrom,
    .referrer, .referrerDomain, .referrerPath, .isDirect,
    .landingPage, .landingDomain, .landingPath, .path,
    .device, .browser, .browserType, .os, .userAgent, .connectionType,
    .language, .timezone]

theorem mem_SOURCE_FIELDS (field : SourceField) : field ∈ SOURCE_FIELDS := by
  cases field <;> simp [SOURCE_FIELDS]

/-- The ten `stm_n` slots are one constructor; slot `0` is `stm_1`. -/
inductive WritableDimension where
  | channel | channelGroup
  | stm (slot : Fin 10)
  | utmSource | utmMedium | utmCampaign | utmTerm | utmContent
  | referrerDomain | isDirect
  deriving DecidableEq, Repr

/-- `WRITABLE_DIMENSIONS`, in the source's order. -/
def WRITABLE_DIMENSIONS : List WritableDimension :=
  [.channel, .channelGroup] ++ (List.finRange 10).map .stm ++
    [.utmSource, .utmMedium, .utmCampaign, .utmTerm, .utmContent, .referrerDomain, .isDirect]

theorem mem_WRITABLE_DIMENSIONS (d : WritableDimension) : d ∈ WRITABLE_DIMENSIONS := by
  cases d <;> simp [WRITABLE_DIMENSIONS]

theorem nodup_WRITABLE_DIMENSIONS : WRITABLE_DIMENSIONS.Nodup := by decide

inductive FilterOperator where
  | equals | notEquals | contains | notContains | isEmpty | isNotEmpty | regex
  deriving DecidableEq, Repr

inductive FilterAction where
  | setValue | unsetValue | setDefaultValue
  deriving DecidableEq, Repr

structure FilterCondition where
  field : SourceField
  operator : FilterOperator
  value : Option String
  deriving DecidableEq, Repr

structure FilterOperation where
  dimension : WritableDimension
  action : FilterAction
  value : Option String
  /-- `value` is required for `set_value` and `set_default_value`. -/
  valueGiven : action = .unsetValue ∨ value.isSome = true := by decide
  deriving DecidableEq, Repr

/-- `op.value!`. -/
def FilterOperation.text (op : FilterOperation) : String := op.value.getD ""

structure FilterDefinition where
  id : String
  /-- `0` to `1000`, a higher one is evaluated first; any number passes `@IsNumber`. -/
  priority : ℚ
  conditions : List FilterCondition
  operations : List FilterOperation
  enabled : Bool
  priority_nonneg : 0 ≤ priority := by decide
  deriving DecidableEq

/-! ### What the DTO and the service check before a filter is stored -/

/-- `FilterOperationDto.value`'s transform: booleans for `is_direct` become words. -/
def normalizeOperationValue : Option String → Option String
  | some "true" | some "1" => some "true"
  | some "false" | some "0" => some "false"
  | v => v

/-- An operation as the DTO's transform leaves it, past `validateOperations`. -/
def FilterOperation.accepted (op : FilterOperation) : Bool :=
  normalizeOperationValue op.value == op.value &&
    (op.action == .unsetValue || op.text != "")

/-- A condition past `validateConditions`: its regular expression compiles. -/
def FilterCondition.accepted (compiles : String → Bool) (c : FilterCondition) : Bool :=
  c.operator != .regex || compiles (c.value.getD "")

/-- The checks a filter passes on its way into a workspace. -/
def FilterDefinition.accepted (compiles : String → Bool) (f : FilterDefinition) : Bool :=
  decide (f.priority ≤ 1000) && f.conditions.all (·.accepted compiles) &&
    f.operations.all (·.accepted)

/-! ### The order filters run in -/

/-- `filters.filter((f) => f.enabled).sort((a, b) => b.priority - a.priority)`. -/
def sortedFilters (filters : List FilterDefinition) : List FilterDefinition :=
  (filters.filter (·.enabled)).insertionSort (Sorting.Descending (·.priority))

theorem mem_sortedFilters {filters : List FilterDefinition} {f : FilterDefinition} :
    f ∈ sortedFilters filters ↔ f ∈ filters ∧ f.enabled = true := by
  unfold sortedFilters
  rw [List.mem_insertionSort, List.mem_filter]

end Veridian
