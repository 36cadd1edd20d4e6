/-
The filter tester of the console.

The console evaluates conditions with an evaluator of its own.  The server gives up on a
field that is absent or empty before it looks at the operator; the console looks at the
operator with an empty string, which equals, contains and matches what an empty string
does.
-/
import Veridian.Filters.Evaluator

namespace Veridian.Console

def evaluateCondition (host : Host) (condition : FilterCondition)
    (testValues : SourceField → Option String) : Bool :=
  let testValue := (testValues condition.field).getD ""
  let conditionValue := condition.value.getD ""
  match condition.operator with
  | .equals => testValue == conditionValue
  | .notEquals => testValue != "" && testValue != conditionValue
  | .contains => Text.includes testValue conditionValue
  | .notContains => testValue != "" && !Text.includes testValue conditionValue
  | .isEmpty => testValue == ""
  | .isNotEmpty => testValue != ""
  | .regex => host.regexTest conditionValue testValue

def evaluateConditions (host : Host) (conditions : List FilterCondition)
    (testValues : SourceField → Option String) : Bool :=
  conditions.all fun c => evaluateCondition host c testValues

/-- What the tester shows of an operation. -/
structure OperationResult where
  dimension : WritableDimension
  action : FilterAction
  resultValue : Option String

def simulateOperations (operations : List FilterOperation) (isMatch : Bool) :
    List OperationResult :=
  operations.map fun op =>
    { dimension := op.dimension
      action := op.action
      resultValue :=
        if isMatch then
          match op.action with
          | .setValue => op.value
          | .unsetValue => none
          | .setDefaultValue => op.value
        else none }

/-- What the tester shows of a filter. -/
structure FilterTest where
  filter : FilterDefinition
  isMatch : Bool
  operationResults : List OperationResult

def testFilter (host : Host) (filter : FilterDefinition)
    (testValues : SourceField → Option String) : FilterTest :=
  let isMatch := evaluateConditions host filter.conditions testValues
  ⟨filter, isMatch, simulateOperations filter.operations isMatch⟩

def testAllFilters (host : Host) (filters : List FilterDefinition)
    (testValues : SourceField → Option String) : List FilterTest :=
  (filters.map fun filter => testFilter host filter testValues).insertionSort
    (Sorting.Descending (·.filter.priority))

/-! ### Where the two differ -/

/-- The field is empty or absent, and the operator lets an empty string pass. -/
def Lenient (host : Host) (condition : FilterCondition)
    (testValues : SourceField → Option String) : Prop :=
  (testValues condition.field).getD "" = "" ∧
    match condition.operator with
    | .equals => condition.value.getD "" = ""
    | .contains => condition.value.getD "" = ""
    | .regex => host.regexTest (condition.value.getD "") "" = true
    | _ => False

section

variable {host : Host} {condition : FilterCondition} {testValues : SourceField → Option String}

theorem includes_empty_iff (needle : String) : Text.includes "" needle = true ↔ needle = "" := by
  unfold Text.includes
  simp

/-- The two agree about a field that is there. -/
theorem evaluateCondition_of_given {v : String} (hv : testValues condition.field = some v)
    (hne : v ≠ "") : evaluateCondition host condition testValues =
      Veridian.evaluateCondition host condition testValues := by
  unfold evaluateCondition Veridian.evaluateCondition
  simp only [hv, Option.getD_some, if_neg hne]
  cases condition.operator with
  | equals =>
      cases condition.value with
      | none => simp [hne]
      | some value => simp
  | notEquals =>
      cases condition.value with
      | none => simp [bne, hne]
      | some value => simp [bne, hne]
  | _ => simp [hne]

/-- Of a field that is empty or absent the console says more. -/
theorem evaluateCondition_of_absent (h : (testValues condition.field).getD "" = "") :
    evaluateCondition host condition testValues = true ↔
      Lenient host condition testValues ∨
        Veridian.evaluateCondition host condition testValues = true := by
  rw [evaluateCondition_of_empty host h]
  unfold evaluateCondition Lenient
  rw [h]
  cases condition.operator with
  | contains => simp [includes_empty_iff]
  | equals =>
      rw [beq_iff_eq, eq_comm]
      simp
  | _ => simp

/-- The server takes nothing for an empty field that the console lets pass. -/
theorem Lenient.server (h : Lenient host condition testValues) :
    Veridian.evaluateCondition host condition testValues = false := by
  rw [evaluateCondition_of_empty host h.1]
  have hoperator := h.2
  cases hop : condition.operator with
  | isEmpty =>
      rw [hop] at hoperator
      exact hoperator.elim
  | _ => rfl

/-- **The console takes a condition that the server takes, and one that it is lenient about.** -/
theorem evaluateCondition_iff : evaluateCondition host condition testValues = true ↔
    Lenient host condition testValues ∨
      Veridian.evaluateCondition host condition testValues = true := by
  by_cases h : (testValues condition.field).getD "" = ""
  · exact evaluateCondition_of_absent h
  · cases hv : testValues condition.field with
    | none => exact absurd (congrArg (Option.getD · "") hv) h
    | some v =>
        have hne : v ≠ "" := fun heq => h (by rw [hv, heq]; rfl)
        rw [evaluateCondition_of_given hv hne]
        exact ⟨Or.inr, fun hor => hor.resolve_left fun hlenient => h hlenient.1⟩

end

/-- **The console agrees with the server when it is lenient about no condition, or the server
refuses one for another reason.** -/
theorem console_agrees_iff (host : Host) (conditions : List FilterCondition)
    (testValues : SourceField → Option String) :
    evaluateConditions host conditions testValues =
        Veridian.evaluateConditions host conditions testValues ↔
      (∀ c ∈ conditions, ¬Lenient host c testValues) ∨
        ∃ c ∈ conditions, ¬Lenient host c testValues ∧
          Veridian.evaluateCondition host c testValues = false := by
  have hconsole : evaluateConditions host conditions testValues = true ↔
      ∀ c ∈ conditions, Lenient host c testValues ∨
        Veridian.evaluateCondition host c testValues = true :=
    List.all_eq_true.trans (forall₂_congr fun c _ => evaluateCondition_iff)
  have hserver : Veridian.evaluateConditions host conditions testValues = true ↔
      ∀ c ∈ conditions, Veridian.evaluateCondition host c testValues = true := List.all_eq_true
  rw [Bool.eq_iff_iff, hconsole, hserver]
  constructor
  · intro hagree
    by_cases hall : ∀ c ∈ conditions, Lenient host c testValues ∨
        Veridian.evaluateCondition host c testValues = true
    · refine Or.inl fun c hc hlenient => ?_
      exact absurd (hagree.mp hall c hc) (by simp [hlenient.server])
    · push Not at hall
      obtain ⟨c, hc, hstrict, hfalse⟩ := hall
      exact Or.inr ⟨c, hc, hstrict, by simpa using hfalse⟩
  · rintro (hstrict | ⟨c, hc, hstrict, hfalse⟩)
    · exact forall₂_congr fun c hc => or_iff_right (hstrict c hc)
    · refine iff_of_false (fun hall => ?_) fun hall => ?_
      · exact absurd ((hall c hc).resolve_left hstrict) (by simp [hfalse])
      · exact absurd (hall c hc) (by simp [hfalse])

/-- Which filters the tester shows as matching is what the server says under the same
condition. -/
theorem testAllFilters_agree_iff (host : Host) (filters : List FilterDefinition)
    (testValues : SourceField → Option String) :
    (∀ test ∈ testAllFilters host filters testValues, test.isMatch =
        Veridian.evaluateConditions host test.filter.conditions testValues) ↔
      ∀ f ∈ filters, (∀ c ∈ f.conditions, ¬Lenient host c testValues) ∨
        ∃ c ∈ f.conditions, ¬Lenient host c testValues ∧
          Veridian.evaluateCondition host c testValues = false := by
  unfold testAllFilters
  simp only [List.mem_insertionSort, List.mem_map, forall_exists_index, and_imp,
    forall_apply_eq_imp_iff₂]
  exact forall₂_congr fun f _ => console_agrees_iff host f.conditions testValues

namespace TesterExample

/-- `.*` matches anything. -/
def host : Host where
  regExp := fun pattern => if pattern = ".*" then some fun _ => true else none
  parseUrl := Host.bare.parseUrl
  toLowerCase := Host.bare.toLowerCase
  toLowerCase_ascii := Host.bare.toLowerCase_ascii

def anything : List FilterCondition := [⟨.utmSource, .regex, some ".*"⟩]

/-- **The tester shows a match for a visit without a source, and the server finds none.** -/
theorem absent_source_passes :
    evaluateConditions host anything (fun _ => none) = true ∧
      Veridian.evaluateConditions host anything (fun _ => none) = false := by
  decide

end TesterExample

end Veridian.Console
