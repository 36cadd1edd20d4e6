/-
What the filter engine computes, without its accumulators.

Seen from one dimension `d`, the two nested loops of `evaluateFilters` are one run
of `Rules.accumulate` over the operations on `d`, in processing order.  `slot` is
that view; `runOperation_slot` is the only place where the loop body is looked at.
The sentinel `-1` of the source is where non-negative priorities are needed: an
unset dimension must block nothing.
-/
import Mathlib.Tactic.Linarith
import Veridian.Lib.Rules
import Veridian.Filters.Evaluator

namespace Veridian

/-! ### The operations on one dimension, in processing order -/

def FilterOperation.rule (priority : ℚ) (op : FilterOperation) : Rules.Rule ℚ String :=
  { priority := priority
    action :=
      match op.action with
      | .setValue => .set op.text
      | .unsetValue => .clear
      | .setDefaultValue => .default op.text }

/-- The operations of one filter on `d`, in array order. -/
def FilterDefinition.rulesOn (d : WritableDimension) (f : FilterDefinition) :
    List (Rules.Rule ℚ String) :=
  (f.operations.filter (·.dimension = d)).map (·.rule f.priority)

/-- An enabled filter whose conditions all hold. -/
def FilterDefinition.applies (host : Host) (fieldValues : SourceField → Option String)
    (f : FilterDefinition) : Bool :=
  f.enabled && evaluateConditions host f.conditions fieldValues

/-- The filters that apply, highest priority first, in array order among equals. -/
def processed (host : Host) (filters : List FilterDefinition)
    (fieldValues : SourceField → Option String) : List FilterDefinition :=
  (filters.filter (·.applies host fieldValues)).insertionSort (Sorting.Descending (·.priority))

def rulesOn (host : Host) (filters : List FilterDefinition)
    (fieldValues : SourceField → Option String) (d : WritableDimension) :
    List (Rules.Rule ℚ String) :=
  (processed host filters fieldValues).flatMap (·.rulesOn d)

/-- The loop sorts first and skips later; that is the same order. -/
theorem processed_eq_filter_sorted (host : Host) (filters : List FilterDefinition)
    (fieldValues : SourceField → Option String) :
    processed host filters fieldValues =
      (sortedFilters filters).filter fun f => evaluateConditions host f.conditions fieldValues := by
  unfold processed sortedFilters
  rw [Sorting.filter_insertionSort, List.filter_filter]
  congr 1
  refine List.filter_congr fun f _ => ?_
  rw [FilterDefinition.applies, Bool.and_comm]

theorem mem_processed {host : Host} {filters : List FilterDefinition}
    {fieldValues : SourceField → Option String} {f : FilterDefinition} :
    f ∈ processed host filters fieldValues ↔
      f ∈ filters ∧ f.applies host fieldValues = true := by
  unfold processed
  rw [List.mem_insertionSort, List.mem_filter]

/-! ### The accumulators, seen from one dimension -/

def Evaluation.slot (acc : Evaluation) (d : WritableDimension) : Rules.Slot ℚ String :=
  ⟨acc.result d, acc.dimensionPriorities d⟩

/-- Comparing with `dimensionPriorities[d] ?? -1` is being blocked, for a priority
that is not negative. -/
theorem lt_currentPriority_iff {acc : Evaluation} {d : WritableDimension} {p : ℚ} (hp : 0 ≤ p) :
    p < (acc.dimensionPriorities d).getD (-1) ↔ (acc.slot d).blocks p := by
  unfold Rules.Slot.blocks Evaluation.slot
  cases hd : acc.dimensionPriorities d with
  | none =>
      constructor
      · intro h
        simp only [Option.getD_none] at h
        linarith
      · rintro ⟨q, hq, -⟩
        simp at hq
  | some q => simp

theorem put_slot_self (acc : Evaluation) (d : WritableDimension) (v : Option String) (p : ℚ) :
    (acc.put d v p).slot d = ⟨some v, some p⟩ := by
  simp [Evaluation.put, Evaluation.slot]

theorem put_slot_ne (acc : Evaluation) {d d' : WritableDimension} (v : Option String) (p : ℚ)
    (h : d' ≠ d) : (acc.put d v p).slot d' = acc.slot d' := by
  simp [Evaluation.put, Evaluation.slot, Function.update_of_ne h]

theorem runOperation_slot_ne (p : ℚ) (acc : Evaluation) {op : FilterOperation}
    {d : WritableDimension} (h : op.dimension ≠ d) :
    (runOperation p acc op).slot d = acc.slot d := by
  have hd : d ≠ op.dimension := fun hc => h hc.symm
  unfold runOperation
  simp only
  split
  · split
    · rfl
    · exact put_slot_ne acc _ _ hd
  · split
    · rfl
    · exact put_slot_ne acc _ _ hd
  · split
    · simp [Evaluation.slot, Function.update_of_ne hd]
    · rfl

theorem runOperation_slot_self {p : ℚ} (hp : 0 ≤ p) (acc : Evaluation) (op : FilterOperation) :
    (runOperation p acc op).slot op.dimension =
      Rules.step (acc.slot op.dimension) (op.rule p) := by
  have hblocks : p < (acc.dimensionPriorities op.dimension).getD (-1) ↔
      (acc.slot op.dimension).blocks p := lt_currentPriority_iff hp
  unfold runOperation Rules.step FilterOperation.rule
  cases haction : op.action with
  | setValue =>
      simp only [hblocks]
      split
      · rfl
      · exact put_slot_self _ _ _ _
  | unsetValue =>
      simp only [hblocks]
      split
      · rfl
      · exact put_slot_self _ _ _ _
  | setDefaultValue =>
      rcases hv : acc.result op.dimension with _ | _ | v <;>
        simp [Evaluation.slot, hv]

/-- One operation, whichever dimension it is on. -/
theorem runOperation_slot {p : ℚ} (hp : 0 ≤ p) (acc : Evaluation) (op : FilterOperation)
    (d : WritableDimension) :
    (runOperation p acc op).slot d =
      if op.dimension = d then Rules.step (acc.slot d) (op.rule p) else acc.slot d := by
  by_cases h : op.dimension = d
  · subst h
    rw [if_pos rfl, runOperation_slot_self hp]
  · rw [if_neg h, runOperation_slot_ne p acc h]

/-- The operations of one filter. -/
theorem foldl_runOperation_slot {p : ℚ} (hp : 0 ≤ p) (d : WritableDimension) :
    ∀ (ops : List FilterOperation) (acc : Evaluation),
      (ops.foldl (runOperation p) acc).slot d =
        ((ops.filter (·.dimension = d)).map (·.rule p)).foldl Rules.step (acc.slot d) := by
  intro ops
  induction ops with
  | nil => intro acc; rfl
  | cons op rest ih =>
      intro acc
      rw [List.foldl_cons, ih, runOperation_slot hp]
      by_cases h : op.dimension = d
      · rw [if_pos h, List.filter_cons_of_pos (by simpa using h)]
        rfl
      · rw [if_neg h, List.filter_cons_of_neg (by simpa using h)]

/-- The whole loop: filters whose conditions fail are skipped. -/
theorem foldl_runFilter_slot (host : Host) (fieldValues : SourceField → Option String)
    (d : WritableDimension) :
    ∀ (fs : List FilterDefinition) (acc : Evaluation),
      (fs.foldl (runFilter host fieldValues) acc).slot d =
        ((fs.filter fun f => evaluateConditions host f.conditions fieldValues).flatMap
          (·.rulesOn d)).foldl Rules.step (acc.slot d) := by
  intro fs
  induction fs with
  | nil => intro acc; rfl
  | cons f rest ih =>
      intro acc
      rw [List.foldl_cons, ih]
      unfold runFilter
      by_cases h : evaluateConditions host f.conditions fieldValues = true
      · rw [if_pos h, List.filter_cons_of_pos (by simpa using h), List.flatMap_cons,
          List.foldl_append, foldl_runOperation_slot f.priority_nonneg]
        rfl
      · rw [if_neg h, List.filter_cons_of_neg (by simpa using h)]

/-- **Every dimension gets the declared value of the operations on it.** -/
theorem evaluateFilters_eq_declared (host : Host) (filters : List FilterDefinition)
    (fieldValues : SourceField → Option String) (d : WritableDimension) :
    evaluateFilters host filters fieldValues d =
      Rules.declared (rulesOn host filters fieldValues d) := by
  have hslot := foldl_runFilter_slot host fieldValues d (sortedFilters filters) .init
  rw [← processed_eq_filter_sorted] at hslot
  rw [← Rules.accumulate_eq_declared]
  exact congrArg Rules.Slot.value hslot

/-! ### The order of the array -/

/-- With pairwise distinct priorities the array order is not seen. -/
theorem processed_perm (host : Host) {fs gs : List FilterDefinition} (h : fs.Perm gs)
    (hdistinct : (fs.map (·.priority)).Nodup) (fieldValues : SourceField → Option String) :
    processed host fs fieldValues = processed host gs fieldValues := by
  unfold processed
  refine Sorting.insertionSort_eq_of_perm (·.priority) (h.filter _) ?_
  intro a ha b hb hab
  exact List.inj_on_of_nodup_map hdistinct (List.mem_of_mem_filter ha)
    (List.mem_of_mem_filter hb) hab

/--
**The meaning of the filter engine.**

Take the operations on a dimension in processing order.  If none of them overrides,
the dimension gets the first default, and is absent if there is none.  Otherwise
let `w` be the last overriding operation among those of maximal priority: its outcome
is the value it sets, or for an unset the first default behind it, or `null`.  With
pairwise distinct priorities a permutation of the filters changes nothing.
-/
theorem evaluateFilters_meaning (host : Host) (filters : List FilterDefinition)
    (fieldValues : SourceField → Option String) :
    (∀ d, (∀ r ∈ rulesOn host filters fieldValues d, r.overrides = false) →
      evaluateFilters host filters fieldValues d =
        (Rules.firstDefault (rulesOn host filters fieldValues d)).map some) ∧
    (∀ d before w after, rulesOn host filters fieldValues d = before ++ w :: after →
      Rules.Decisive before w after →
      evaluateFilters host filters fieldValues d =
        some (w.outcome after)) ∧
    (∀ d, (∃ r ∈ rulesOn host filters fieldValues d, r.overrides = true) →
      ∃ before w after, rulesOn host filters fieldValues d = before ++ w :: after ∧
        Rules.Decisive before w after) ∧
    ((filters.map (·.priority)).Nodup → ∀ gs, filters.Perm gs →
      evaluateFilters host gs fieldValues = evaluateFilters host filters fieldValues) := by
  refine ⟨?_, ?_, ?_, ?_⟩
  · intro d hnone
    rw [evaluateFilters_eq_declared, Rules.declared_of_no_override hnone]
  · intro d before w after hsplit hdec
    rw [evaluateFilters_eq_declared, hsplit, Rules.declared_of_decisive hdec]
  · intro d hsome
    cases hdec : Rules.decisive (rulesOn host filters fieldValues d) with
    | none =>
        obtain ⟨r, hr, hov⟩ := hsome
        rw [(Rules.decisive_eq_none_iff _).mp hdec r hr] at hov
        exact Bool.noConfusion hov
    | some wa =>
        obtain ⟨before, hsplit, hw⟩ := Rules.decisive_spec hdec
        exact ⟨before, wa.1, wa.2, hsplit, hw⟩
  · intro hdistinct gs hperm
    funext d
    rw [evaluateFilters_eq_declared, evaluateFilters_eq_declared, rulesOn, rulesOn,
      processed_perm host hperm hdistinct]

end Veridian
