/-
The compiled SET clause against ingestion.

Both sides are brought to the same list, the operations on one dimension in
processing order.  Ingestion gives it the declared value (`applyFilters_dimension`,
`evaluateFilters_eq_declared`), the CASE gives it the first branch that counts, where
a default does not count on a standard field that already holds something.
`Rules.declared_eq_firstMatch` then says when the two are the same.

A condition means the same on both sides unless it is on `is_direct`: ingestion
compares the words `true` and `false`, the compiler a boolean column.
-/
import Mathlib.Data.List.Find
import Veridian.Events.Frame
import Veridian.Filters.Compiler

namespace Veridian

/-! ### The row of an event -/

/-- The source columns of the row an event is stored as. -/
def TrackingEvent.row (e : TrackingEvent) : SourceField → Sql.Value
  | .isDirect => .num (if e.isDirect then 1 else 0)
  | field => .text ((extractFieldValues e field).getD "")

theorem TrackingEvent.row_of_ne {field : SourceField} (h : field ≠ .isDirect)
    (e : TrackingEvent) : e.row field = .text ((extractFieldValues e field).getD "") := by
  cases field <;> first | rfl | exact absurd rfl h

/-- A standard dimension is stored in the column of its source field. -/
theorem row_of_field? {d : WritableDimension} {field : SourceField} (h : d.field? = some field)
    (e : TrackingEvent) : e.row field = (e.dimension d).stored := by
  cases d <;> simp [WritableDimension.field?] at h <;> subst h <;> rfl

/-! ### Conditions -/

/-- On `is_direct` the two readings of a condition agree for the words `true` and
`false`; the operators the compiler turns into a constant have to fail on both. -/
def FilterCondition.readsAlike (host : Host) (c : FilterCondition) : Bool :=
  c.field != .isDirect ||
    match c.operator with
    | .equals | .notEquals => c.value == some "true" || c.value == some "false"
    | .isEmpty | .isNotEmpty => false
    | .contains | .notContains | .regex =>
        !evaluateCondition host c (fun _ => some "true") &&
          !evaluateCondition host c (fun _ => some "false")

/-- On a column of text a condition means what the evaluator makes of the text; a regular
expression has to be read by the same engine. -/
theorem compileCondition_eval_value (host : Host) {engine : String → String → Bool}
    {c : FilterCondition} {row : SourceField → Sql.Value} {fieldValues : SourceField → Option String}
    {s : String} (h : c.field ≠ .isDirect) (hrow : row c.field = .text s)
    (hs : (fieldValues c.field).getD "" = s) (hengine : c.operator = .regex → engine = host.regexTest) :
    (compileCondition c).eval engine row = evaluateCondition host c fieldValues := by
  by_cases hempty : s = ""
  · rw [evaluateCondition_of_empty host (hs.trans hempty)]
    subst hempty
    unfold compileCondition
    simp only [if_neg h]
    cases c.operator <;> simp [Sql.Cond.eval, hrow]
  · have hv : fieldValues c.field = some s := by
      cases hv : fieldValues c.field with
      | none => rw [hv] at hs; exact absurd hs.symm hempty
      | some v => rw [hv, Option.getD_some] at hs; rw [hs]
    have hne : (s != "") = true := by simpa using hempty
    unfold compileCondition evaluateCondition
    simp only [if_neg h, hv, if_neg hempty]
    cases hop : c.operator with
    | equals => cases c.value <;> simp [Sql.Cond.eval, hrow, hempty]
    | notEquals =>
        cases c.value with
        | none => simp [Sql.Cond.eval, hrow, hne]
        | some v =>
            simp only [Sql.Cond.eval, Sql.Term.eval, hrow, Option.getD_some, Sql.Value.text_bne,
              hne, Bool.true_and]
            rw [Bool.eq_iff_iff]
            simp
    | contains =>
        simp [Sql.Cond.eval, Sql.Term.eval, Sql.Value.gt, hrow, hempty, Text.position_pos_iff]
    | notContains =>
        simp only [Sql.Cond.eval, Sql.Term.eval, hrow, Sql.Value.text_bne, hne, Bool.true_and]
        rw [Bool.eq_iff_iff]
        simp [Text.position_eq_zero_iff]
    | isEmpty => simp [Sql.Cond.eval, hrow, hempty]
    | isNotEmpty => simp [Sql.Cond.eval, hrow, hempty]
    | regex => simp [Sql.Cond.eval, Sql.Value.regex, hrow, hempty, hengine hop]

theorem compileCondition_eval_text (host : Host) (e : TrackingEvent) {c : FilterCondition}
    (h : c.field ≠ .isDirect) :
    (compileCondition c).eval host.regexTest e.row =
      evaluateCondition host c (extractFieldValues e) :=
  compileCondition_eval_value host h (e.row_of_ne h) rfl fun _ => rfl

theorem compileCondition_eval_isDirect (host : Host) (e : TrackingEvent) {c : FilterCondition}
    (hfield : c.field = .isDirect) (h : c.readsAlike host = true) :
    (compileCondition c).eval host.regexTest e.row =
      evaluateCondition host c (extractFieldValues e) := by
  obtain ⟨field, operator, value⟩ := c
  subst hfield
  -- the field value is one of the two words, whatever the event
  have hword : ∀ b : Bool, e.isDirect = b →
      evaluateCondition host ⟨.isDirect, operator, value⟩ (extractFieldValues e) =
        evaluateCondition host ⟨.isDirect, operator, value⟩
          (fun _ => some (if b then "true" else "false")) := by
    rintro b rfl
    rfl
  have hnever : ∀ op : FilterOperator,
      (!evaluateCondition host ⟨.isDirect, op, value⟩ (fun _ => some "true") &&
        !evaluateCondition host ⟨.isDirect, op, value⟩ (fun _ => some "false")) = true →
      evaluateCondition host ⟨.isDirect, op, value⟩
        (fun _ => some (if e.isDirect then "true" else "false")) = false := by
    intro op hop
    rw [Bool.and_eq_true, Bool.not_eq_true', Bool.not_eq_true'] at hop
    cases e.isDirect with
    | true => exact hop.1
    | false => exact hop.2
  rw [hword e.isDirect rfl]
  cases operator with
  | equals =>
      have hword : value = some "true" ∨ value = some "false" := by
        simpa [FilterCondition.readsAlike] using h
      rcases hword with rfl | rfl <;> cases hd : e.isDirect <;>
        simp [compileCondition, evaluateCondition, Sql.Cond.eval, boolLiteral, isTrueWord,
          TrackingEvent.row, hd]
  | notEquals =>
      have hword : value = some "true" ∨ value = some "false" := by
        simpa [FilterCondition.readsAlike] using h
      rcases hword with rfl | rfl <;> cases hd : e.isDirect <;>
        simp [compileCondition, evaluateCondition, Sql.Cond.eval, boolLiteral, isTrueWord,
          TrackingEvent.row, hd] <;> rfl
  | isEmpty => simp [FilterCondition.readsAlike] at h
  | isNotEmpty => simp [FilterCondition.readsAlike] at h
  | contains | notContains | regex =>
      -- compiled to `0 = 1`
      refine Eq.trans ?_ (hnever _ h).symm
      rfl

/-- **A compiled condition selects the rows the evaluator matches.** -/
theorem compileCondition_eval (host : Host) (e : TrackingEvent) {c : FilterCondition}
    (h : c.readsAlike host = true) :
    (compileCondition c).eval host.regexTest e.row =
      evaluateCondition host c (extractFieldValues e) := by
  by_cases hfield : c.field = .isDirect
  · exact compileCondition_eval_isDirect host e hfield h
  · exact compileCondition_eval_text host e hfield

theorem compileConditions_eval (host : Host) (e : TrackingEvent) {conditions : List FilterCondition}
    (h : ∀ c ∈ conditions, c.readsAlike host = true) :
    (compileConditions conditions).eval host.regexTest e.row =
      evaluateConditions host conditions (extractFieldValues e) := by
  unfold compileConditions evaluateConditions
  rw [Sql.conj_eval _ _ (by simp [Sql.Cond.eval]), List.all_map]
  rw [Bool.eq_iff_iff, List.all_eq_true, List.all_eq_true]
  refine forall₂_congr fun c hc => ?_
  rw [Function.comp_apply, compileCondition_eval host e (h c hc)]

/-! ### The operations on one dimension, on either side -/

/-- The operations of a list of filters on `d`, each with its filter. -/
def operationsOn (d : WritableDimension) (filters : List FilterDefinition) :
    List (FilterDefinition × FilterOperation) :=
  filters.flatMap fun f => (f.operations.filter (·.dimension = d)).map fun op => (f, op)

def branchOf (entry : FilterDefinition × FilterOperation) : CaseBranch :=
  ⟨compileConditions entry.1.conditions, entry.2.action, entry.2.value⟩

theorem mem_operationsOn {d : WritableDimension} {filters : List FilterDefinition}
    {entry : FilterDefinition × FilterOperation} :
    entry ∈ operationsOn d filters ↔
      entry.1 ∈ filters ∧ entry.2 ∈ entry.1.operations ∧ entry.2.dimension = d := by
  obtain ⟨f, op⟩ := entry
  simp only [operationsOn, List.mem_flatMap, List.mem_map, List.mem_filter, decide_eq_true_eq,
    Prod.mk.injEq]
  constructor
  · rintro ⟨f', hf', op', ⟨hop', hd⟩, rfl, rfl⟩
    exact ⟨hf', hop', hd⟩
  · rintro ⟨hf, hop, hd⟩
    exact ⟨f, hf, op, ⟨hop, hd⟩, rfl, rfl⟩

theorem operationsOn_cons (d : WritableDimension) (f : FilterDefinition)
    (rest : List FilterDefinition) :
    operationsOn d (f :: rest) =
      (f.operations.filter (·.dimension = d)).map (fun op => (f, op)) ++ operationsOn d rest :=
  List.flatMap_cons

theorem operationsOn_filter (d : WritableDimension) (p : FilterDefinition → Bool)
    (filters : List FilterDefinition) :
    operationsOn d (filters.filter p) =
      (operationsOn d filters).filter (fun entry => p entry.1) := by
  induction filters with
  | nil => rfl
  | cons f rest ih =>
      rw [operationsOn_cons, List.filter_append, ← ih, List.filter_map]
      by_cases hp : p f = true
      · rw [List.filter_cons_of_pos hp, operationsOn_cons]
        congr 2
        exact (List.filter_eq_self.mpr fun op _ => hp).symm
      · rw [List.filter_cons_of_neg hp]
        have hnil : (f.operations.filter (·.dimension = d)).filter
            ((fun entry : FilterDefinition × FilterOperation => p entry.1) ∘ fun op => (f, op)) =
              [] :=
          List.filter_eq_nil_iff.mpr fun op _ => hp
        rw [hnil]
        rfl

/-- The rules of the evaluator are these operations, filtered by their conditions. -/
theorem rulesOn_eq_operationsOn (host : Host) (filters : List FilterDefinition)
    (fieldValues : SourceField → Option String) (d : WritableDimension) :
    rulesOn host filters fieldValues d =
      ((operationsOn d (sortedFilters filters)).filter fun entry =>
        evaluateConditions host entry.1.conditions fieldValues).map
          fun entry => entry.2.rule entry.1.priority := by
  have hops := operationsOn_filter d (fun f => evaluateConditions host f.conditions fieldValues)
    (sortedFilters filters)
  rw [← hops, ← processed_eq_filter_sorted, rulesOn, operationsOn, List.map_flatMap]
  refine congrArg (List.flatMap · _) (funext fun f => ?_)
  rw [FilterDefinition.rulesOn, List.map_map]
  rfl

/-! ### What the compiler emits for a dimension -/

/-- One filter appends its operations on `d`, in order. -/
theorem lookup_groupFilter (d : WritableDimension) (f : FilterDefinition) {m : DimensionBranches}
    {branches : List CaseBranch} (h : m.lookup d = Assoc.entryOf branches) :
    (groupFilter m f).lookup d =
      Assoc.entryOf (branches ++
        ((f.operations.filter (·.dimension = d)).map fun op => branchOf (f, op))) := by
  unfold groupFilter
  simp only
  induction f.operations generalizing m branches with
  | nil => simpa using h
  | cons op rest ih =>
      rw [List.foldl_cons]
      by_cases hd : op.dimension = d
      · rw [List.filter_cons_of_pos (by simpa using hd), List.map_cons, List.append_cons]
        refine ih ?_
        rw [hd]
        exact Assoc.lookup_push_self h _
      · rw [List.filter_cons_of_neg (by simpa using hd)]
        refine ih ?_
        rw [Assoc.lookup_push, if_neg fun hc => hd hc.symm, h]

theorem lookup_foldl_groupFilter (d : WritableDimension) :
    ∀ (fs : List FilterDefinition) {m : DimensionBranches} {branches : List CaseBranch},
      m.lookup d = Assoc.entryOf branches →
      (fs.foldl groupFilter m).lookup d =
        Assoc.entryOf (branches ++ (operationsOn d fs).map branchOf) := by
  intro fs
  induction fs with
  | nil => intro m branches h; simpa [operationsOn] using h
  | cons f rest ih =>
      intro m branches h
      rw [List.foldl_cons, ih (lookup_groupFilter d f h), operationsOn_cons, List.map_append,
        List.map_map, List.append_assoc]
      rfl

/-- The branches the compiler collects for `d`. -/
def branchesFor (filters : List FilterDefinition) (d : WritableDimension) : List CaseBranch :=
  (operationsOn d (sortedFilters filters)).map branchOf

/-- **The CASE of `d` has its operations as branches, in processing order**, and there
is none without operations. -/
theorem lookup_compileFiltersToSQL (filters : List FilterDefinition) (d : WritableDimension) :
    (compileFiltersToSQL filters).lookup d =
      (Assoc.entryOf (branchesFor filters d)).map (buildDimension d) := by
  have hmap : ∀ d', ((sortedFilters filters).foldl groupFilter []).lookup d' =
      Assoc.entryOf (branchesFor filters d') := by
    intro d'
    have hnil : ([] : DimensionBranches).lookup d' = Assoc.entryOf [] := rfl
    rw [lookup_foldl_groupFilter d' (sortedFilters filters) hnil, List.nil_append, branchesFor]
  have hcustom : customSetClause ((sortedFilters filters).foldl groupFilter []) = fun dim =>
      ((Assoc.entryOf (branchesFor filters dim)).map (buildDimension dim)).map
        fun e => (dim, e) := by
    funext dim
    rw [customSetClause, hmap]
    cases branchesFor filters dim <;> rfl
  unfold compileFiltersToSQL
  simp only [hcustom]
  rw [List.lookup_append, Assoc.lookup_filterMap_keys fun dim =>
      (Assoc.entryOf (branchesFor filters dim)).map (buildDimension dim),
    Assoc.lookup_filter_map_keys fun k => !CUSTOM_DIMENSIONS.contains k, hmap]
  by_cases h : d ∈ CUSTOM_DIMENSIONS
  · simp [h]
  · simp [h]

/-! ### What the CASE evaluates to -/

/-- The value of a WHEN's literal in the column of `d`. -/
def literalValue (d : WritableDimension) (v : Option String) : Sql.Value :=
  if d = .isDirect then .num (if isTrueWord v then 1 else 0) else .text (v.getD "")

/-- The value of the ELSE, and of a dimension no filter wrote at ingestion. -/
def elseValue (e : TrackingEvent) (d : WritableDimension) : Sql.Value :=
  if d.isCustom then .text "" else (e.dimension d).stored

/-- The standard field `d` already holds something, so the compiled default is off. -/
def TrackingEvent.holds (e : TrackingEvent) (d : WritableDimension) : Bool :=
  match d.field? with
  | none => false
  | some .isDirect => e.isDirect
  | some field => e.row field != .text ""

/-- What an operation writes when nothing else is looked at. -/
def FilterOperation.written (op : FilterOperation) : Option String :=
  if op.action = .unsetValue then none else some op.text

theorem FilterOperation.rule_written (op : FilterOperation) (p : ℚ) :
    (op.rule p).written = op.written := by
  unfold FilterOperation.rule FilterOperation.written Rules.Rule.written
  cases op.action <;> rfl

theorem FilterOperation.rule_overrides (op : FilterOperation) (p : ℚ) :
    (op.rule p).overrides = (op.action != .setDefaultValue) := by
  unfold FilterOperation.rule Rules.Rule.overrides
  cases op.action <;> rfl

/-- The first branch whose condition holds and whose guard, if it is a default, does. -/
theorem eval_whenClauses {engine : String → String → Bool} {row : SourceField → Sql.Value}
    {guard : Option (Sql.Cond SourceField)} {literal : Option String → Sql.Term SourceField}
    {write : Option String → Sql.Value} {kept : Bool} (otherwise : Sql.Term SourceField)
    (hguard : ∀ p : Sql.Cond SourceField,
      (guarded guard p).eval engine row = (p.eval engine row && !kept))
    (hliteral : ∀ v, (literal v).eval row = write v)
    (hempty : write (some "") = write none) (entries : List (FilterDefinition × FilterOperation)) :
    Sql.Case.eval engine row ⟨(entries.map branchOf).map (whenClause guard literal), otherwise⟩ =
      ((entries.find? fun entry => (compileConditions entry.1.conditions).eval engine row &&
        (entry.2.action != .setDefaultValue || !kept)).map fun entry => entry.2.written).elim
          (otherwise.eval row) write := by
  unfold Sql.Case.eval
  simp only [List.map_map, List.find?_map]
  have hwhen : (fun b : Sql.Cond SourceField × Sql.Term SourceField => b.1.eval engine row) ∘
      (whenClause guard literal ∘ branchOf) =
      fun entry => (compileConditions entry.1.conditions).eval engine row &&
        (entry.2.action != .setDefaultValue || !kept) := by
    funext entry
    cases haction : entry.2.action <;> simp [whenClause, branchOf, haction, hguard]
  rw [hwhen]
  cases hfind : entries.find? _ with
  | none => rfl
  | some entry =>
      have htext : write entry.2.value = write (some entry.2.text) := by
        cases hv : entry.2.value with
        | none => rw [FilterOperation.text, hv, Option.getD_none, hempty]
        | some v => rw [FilterOperation.text, hv, Option.getD_some]
      cases haction : entry.2.action <;>
        simp [whenClause, branchOf, haction, hliteral, FilterOperation.written, htext]

/-- The first of the operations that counts on the row of `e`. -/
def compiledValue (host : Host) (e : TrackingEvent) (d : WritableDimension)
    (entries : List (FilterDefinition × FilterOperation)) : Sql.Value :=
  ((entries.find? fun entry => (compileConditions entry.1.conditions).eval host.regexTest e.row &&
    (entry.2.action != .setDefaultValue || !e.holds d)).map fun entry => entry.2.written).elim
      (elseValue e d) (literalValue d)

theorem buildStandardFieldCaseExpression_eval (host : Host) (e : TrackingEvent)
    {d : WritableDimension} {field : SourceField} (hfield : d.field? = some field)
    (hne : field ≠ .isDirect) (entries : List (FilterDefinition × FilterOperation)) :
    (buildStandardFieldCaseExpression field (entries.map branchOf)).eval host.regexTest e.row =
      compiledValue host e d entries := by
  have helse : elseValue e d = e.row field := by
    rw [row_of_field? hfield, elseValue, if_neg]
    cases d <;> simp [WritableDimension.field?] at hfield <;>
      simp [WritableDimension.isCustom]
  have hdirect : d ≠ .isDirect := by
    rintro rfl
    exact hne (Option.some.inj hfield).symm
  rw [compiledValue, helse]
  refine eval_whenClauses (.column field) (fun p => ?_) (fun v => ?_) ?_ entries
  · have hholds : e.holds d = (e.row field != .text "") := by
      unfold TrackingEvent.holds
      cases d <;> simp [WritableDimension.field?] at hfield <;> subst hfield <;>
        first | rfl | exact absurd rfl hne
    rw [hholds]
    simp [guarded, Sql.Cond.eval, bne]
  · rw [literalValue, if_neg hdirect]
    rfl
  · simp [literalValue, hdirect]

theorem buildCaseExpression_eval (host : Host) (e : TrackingEvent) {d : WritableDimension}
    (hd : d.isCustom = true) (entries : List (FilterDefinition × FilterOperation)) :
    (buildCaseExpression (entries.map branchOf)).eval host.regexTest e.row =
      compiledValue host e d entries := by
  have hnone : e.holds d = false := by
    cases d <;> simp [WritableDimension.isCustom] at hd <;> rfl
  have hdirect : d ≠ .isDirect := by
    rintro rfl
    simp [WritableDimension.isCustom] at hd
  rw [compiledValue, elseValue, if_pos hd]
  refine eval_whenClauses (.text "") (fun p => ?_) (fun v => ?_) ?_ entries
  · simp [guarded, hnone]
  · rw [literalValue, if_neg hdirect]
    rfl
  · simp [literalValue, hdirect]

theorem buildDimension_eval (host : Host) (e : TrackingEvent) (d : WritableDimension)
    (entries : List (FilterDefinition × FilterOperation)) :
    (buildDimension d (entries.map branchOf)).eval host.regexTest e.row =
      compiledValue host e d entries := by
  cases d with
  | channel | channelGroup | stm k => exact buildCaseExpression_eval host e rfl entries
  | utmSource | utmMedium | utmCampaign | utmTerm | utmContent | referrerDomain =>
      exact buildStandardFieldCaseExpression_eval host e rfl (by decide) entries
  | isDirect =>
      refine eval_whenClauses (.column .isDirect) (fun p => ?_) (fun v => ?_) rfl entries
      · have hholds : e.holds .isDirect = e.isDirect := rfl
        rw [hholds]
        cases he : e.isDirect <;> simp [guarded, Sql.Cond.eval, TrackingEvent.row, he]
      · cases hv : isTrueWord v <;> simp [boolValue, boolLiteral, literalValue, hv]

/-! ### Both sides on one list -/

/-- The CASE of a targeted dimension reads the rules of the evaluator from the front. -/
theorem compiledValue_eq_firstMatch (host : Host) (e : TrackingEvent) (d : WritableDimension)
    (filters : List FilterDefinition)
    (hcond : ∀ entry ∈ operationsOn d (sortedFilters filters),
      ∀ c ∈ entry.1.conditions, c.readsAlike host = true) :
    compiledValue host e d (operationsOn d (sortedFilters filters)) =
      (Rules.firstMatch (e.holds d) (rulesOn host filters (extractFieldValues e) d)).elim
        (elseValue e d) (literalValue d) := by
  rw [compiledValue, Rules.firstMatch, rulesOn_eq_operationsOn, List.find?_map, List.find?_filter,
    Option.map_map]
  have hfind : ∀ l : List (FilterDefinition × FilterOperation),
      (∀ entry ∈ l, ∀ c ∈ entry.1.conditions, c.readsAlike host = true) →
      (l.find? fun entry => (compileConditions entry.1.conditions).eval host.regexTest e.row &&
        (entry.2.action != .setDefaultValue || !e.holds d)) =
      l.find? fun entry => decide (evaluateConditions host entry.1.conditions (extractFieldValues e)
        = true ∧ ((fun r : Rules.Rule ℚ String => r.overrides || !e.holds d) ∘
          fun entry => entry.2.rule entry.1.priority) entry = true) := by
    intro l hl
    refine List.find?_congr fun entry hentry => ?_
    rw [compileConditions_eval host e (hl entry hentry), Function.comp_apply,
      FilterOperation.rule_overrides, Bool.eq_iff_iff]
    simp
  rw [hfind _ hcond]
  congr 2
  funext entry
  exact (FilterOperation.rule_written entry.2 entry.1.priority).symm

/-- What ingestion stores in a dimension, in the same terms. -/
theorem applyFilters_stored (host : Host) (e : TrackingEvent) {filters : List FilterDefinition}
    (hne : filters ≠ []) (d : WritableDimension) :
    ((applyFilters host e filters).dimension d).stored =
      (Rules.declared (rulesOn host filters (extractFieldValues e) d)).elim
        (elseValue e d) fun v => (TrackingEvent.assigned d v).stored := by
  rw [applyFilters_dimension host e hne, evaluateFilters_eq_declared]
  cases Rules.declared (rulesOn host filters (extractFieldValues e) d) with
  | some v => rfl
  | none =>
      unfold elseValue
      cases d.isCustom <;> rfl

/-- The literal is what the assignment stores: a stored value of `is_direct` is one of
the words, never `1`. -/
theorem assigned_stored_eq_literal {d : WritableDimension} {v : Option String}
    (h : v ≠ some "1") : (TrackingEvent.assigned d v).stored = literalValue d v := by
  unfold TrackingEvent.assigned literalValue
  by_cases hd : d = .isDirect
  · have hword : isTrueWord v = (v == some "true") := by
      unfold isTrueWord
      rw [beq_eq_false_iff_ne.mpr h, Bool.or_false]
    rw [if_pos hd, if_pos hd, hword]
    rfl
  · rw [if_neg hd, if_neg hd]
    rfl

theorem written_ne_one {op : FilterOperation} (h : op.accepted = true) :
    op.written ≠ some "1" := by
  intro hw
  unfold FilterOperation.written at hw
  split at hw
  · simp at hw
  · have htext : op.value = some "1" := by
      cases hv : op.value with
      | none => rw [FilterOperation.text, hv] at hw; exact absurd hw (by decide)
      | some v => rw [FilterOperation.text, hv, Option.getD_some] at hw; exact hw
    rw [FilterOperation.accepted, htext] at h
    exact absurd h (by simp [normalizeOperationValue])

/-! ### The agreement -/

/-- The CASE compiled for `d` gives the row of `e` the value ingestion stores. -/
def BackfillAgrees (host : Host) (filters : List FilterDefinition) (e : TrackingEvent)
    (d : WritableDimension) : Prop :=
  ((compileFiltersToSQL filters).lookup d).map (·.eval host.regexTest e.row) =
    some ((applyFilters host e filters).dimension d).stored

instance (host : Host) (filters : List FilterDefinition) (e : TrackingEvent)
    (d : WritableDimension) : Decidable (BackfillAgrees host filters e d) :=
  inferInstanceAs (Decidable (_ = _))

namespace AgreementExample

/-- A filter with one operation on the visitors of the pricing page. -/
def pricing (priority : ℕ) (operation : FilterOperation) : FilterDefinition where
  id := "pricing"
  priority := priority
  conditions := [⟨.path, .equals, some "/pricing"⟩]
  operations := [operation]
  enabled := true
  priority_nonneg := Nat.cast_nonneg priority

def setChannel (value : String) : FilterOperation where
  dimension := .channel
  action := .setValue
  value := some value
  valueGiven := Or.inr rfl

def unsetChannel : FilterOperation where
  dimension := .channel
  action := .unsetValue
  value := none

def defaultTo (d : WritableDimension) (value : String) : FilterOperation where
  dimension := d
  action := .setDefaultValue
  value := some value
  valueGiven := Or.inr rfl

/-- Sets the channel of visitors whose `is_direct` is empty. -/
def indirect : FilterDefinition :=
  { pricing 500 (setChannel "indirect") with conditions := [⟨.isDirect, .isEmpty, none⟩] }

def visit : TrackingEvent :=
  { FrameExample.event with utmSource := some "google", isDirect := false }

end AgreementExample

end Veridian
