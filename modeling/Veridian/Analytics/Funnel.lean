/-
The sales funnel.

`buildFunnelQuery` groups the goals of a date range by session or visitor, and by the
segment dimension when there is one.  Every group gets the level of `windowFunnel` and the
sum of its values; the outer select counts the groups that reach each step and adds up
their values, for each segment apart.
-/
import Veridian.Analytics.Goals
import Veridian.Lib.Funnel
import Veridian.Lib.Grouping

namespace Veridian.Analytics

inductive FunnelUnit where
  | session | visitor
  deriving DecidableEq

/-- The column of the unit. -/
def FunnelUnit.of : FunnelUnit → Goal → String
  | .session, g => g.sessionId
  | .visitor, g => g.visitorId

structure FunnelSegment where
  column : Column
  name : String
  limit : Nat
  deriving DecidableEq

structure FunnelQuerySpec (N : Type) where
  steps : List String
  start : Int
  stop : Int
  unit : FunnelUnit
  windowSeconds : Nat
  filters : List (FilterDto N)
  segment : Option FunnelSegment

/-- The query, with its filters compiled against `goals`. -/
structure BuiltFunnelQuery (N : Type) where
  steps : List String
  start : Int
  stop : Int
  unit : FunnelUnit
  windowSeconds : Nat
  conditions : List (Condition N)
  segment : Option FunnelSegment

def buildFunnelQuery {N : Type} (spec : FunnelQuerySpec N) :
    Except String (BuiltFunnelQuery N) := do
  let conditions ← buildFilters spec.filters .goals
  return { spec with conditions }

/-- More series than this are refused. -/
def SEGMENT_MAX : Nat := 12

/-- What `funnel` passes for a `segment_by`. -/
def segmentBy (dimension : String) : Except String FunnelSegment := do
  let column ← columnOn .goals dimension
  return ⟨column, dimension, SEGMENT_MAX + 1⟩

/-! ### The inner select -/

/-- A row of the inner select: one unit, within one segment. -/
structure UnitLevel where
  segment : Option Cell
  value : ℚ≥0
  level : Nat

/-- A row of the result: `s0, s1, …` and `v0, v1, …`. -/
structure FunnelRow where
  segment : Option Cell
  counts : List Nat
  values : List ℚ≥0
  deriving DecidableEq

variable {N : Type} (meaning : Meaning N)

namespace BuiltFunnelQuery

/-- The WHERE clause.  A goal without the unit's id is left out. -/
def selects (q : BuiltFunnelQuery N) (g : Goal) : Bool :=
  decide (q.start ≤ g.goalTimestamp ∧ g.goalTimestamp ≤ q.stop ∧ q.unit.of g ≠ "") &&
    q.conditions.all fun c => c.holds meaning g.cell

def segmentOf (q : BuiltFunnelQuery N) (g : Goal) : Option Cell :=
  q.segment.map fun s => g.cell s.column

/-- `GROUP BY session_id, seg` -/
def group (q : BuiltFunnelQuery N) (g : Goal) : String × Option Cell :=
  (q.unit.of g, q.segmentOf g)

/-- The goals of one group. -/
def goalsOf (q : BuiltFunnelQuery N) (table : List Goal) (k : String × Option Cell) : List Goal :=
  (table.filter (q.selects meaning)).filter fun g => q.group g = k

def stepConds (q : BuiltFunnelQuery N) : List (Goal → Bool) :=
  q.steps.map fun name g => g.goalName = name

/-- Some goals of the list make a chain through the first `k` steps. -/
def chain (q : BuiltFunnelQuery N) (goals : List Goal) (k : Nat) : Bool :=
  Funnel.reaches Goal.seconds (q.windowSeconds : Int) goals (q.stepConds.take k)

def level (q : BuiltFunnelQuery N) (goals : List Goal) : Nat :=
  Funnel.windowFunnel Goal.seconds (q.windowSeconds : Int) goals q.stepConds

def unitLevel (q : BuiltFunnelQuery N) (table : List Goal) (k : String × Option Cell) :
    UnitLevel where
  segment := k.2
  value := ((q.goalsOf meaning table k).map (·.goalValue)).sum
  level := q.level (q.goalsOf meaning table k)

/-- The groups there are. -/
def groups (q : BuiltFunnelQuery N) (table : List Goal) : List (String × Option Cell) :=
  ((table.filter (q.selects meaning)).map q.group).dedup

def unitLevels (q : BuiltFunnelQuery N) (table : List Goal) : List UnitLevel :=
  (q.groups meaning table).map (q.unitLevel meaning table)

/-! ### The outer select -/

/-- The units of a segment that reach the step behind `i` others. -/
def reaching (q : BuiltFunnelQuery N) (table : List Goal) (segment : Option Cell) (i : Nat) :
    List UnitLevel :=
  (q.unitLevels meaning table).filter fun u => decide (u.segment = segment ∧ i + 1 ≤ u.level)

/-- `countIf(level >= i + 1)` -/
def count (q : BuiltFunnelQuery N) (table : List Goal) (segment : Option Cell) (i : Nat) : Nat :=
  (q.reaching meaning table segment i).length

/-- `sumIf(value, level >= i + 1)` -/
def value (q : BuiltFunnelQuery N) (table : List Goal) (segment : Option Cell) (i : Nat) : ℚ≥0 :=
  ((q.reaching meaning table segment i).map (·.value)).sum

def row (q : BuiltFunnelQuery N) (table : List Goal) (segment : Option Cell) : FunnelRow where
  segment := segment
  counts := (List.range q.steps.length).map (q.count meaning table segment)
  values := (List.range q.steps.length).map (q.value meaning table segment)

/-- The segments that get a row: without GROUP BY there is always one. -/
def segments (q : BuiltFunnelQuery N) (table : List Goal) : List (Option Cell) :=
  match q.segment with
  | none => [none]
  | some _ => ((q.unitLevels meaning table).map (·.segment)).dedup

/-- The rows of the result, before they are ordered and cut. -/
def rows (q : BuiltFunnelQuery N) (table : List Goal) : List FunnelRow :=
  (q.segments meaning table).map (q.row meaning table)

/-- What ClickHouse may answer: `ORDER BY s0 DESC LIMIT n`, where rows that tie come in any
order. -/
def Answer (q : BuiltFunnelQuery N) (table : List Goal) (answer : List FunnelRow) : Prop :=
  match q.segment with
  | none => answer = q.rows meaning table
  | some s => ∃ ranked : List FunnelRow, ranked.Perm (q.rows meaning table) ∧
      ranked.Pairwise (fun r r' => r'.counts.headD 0 ≤ r.counts.headD 0) ∧
      answer = ranked.take s.limit

/-! ### Groups and levels -/

/-- The groups of a segment that reach the step behind `i` others. -/
def reached (q : BuiltFunnelQuery N) (table : List Goal) (segment : Option Cell) (i : Nat) :
    Finset (String × Option Cell) :=
  (q.groups meaning table).toFinset.filter fun k =>
    k.2 = segment ∧ i + 1 ≤ q.level (q.goalsOf meaning table k)

variable {meaning} {q : BuiltFunnelQuery N} {table table' : List Goal} {k : String × Option Cell}
  {segment : Option Cell} {i : Nat}

theorem mem_goalsOf {g : Goal} :
    g ∈ q.goalsOf meaning table k ↔ g ∈ table ∧ q.selects meaning g = true ∧ q.group g = k := by
  rw [goalsOf, List.mem_filter, List.mem_filter, decide_eq_true_iff, and_assoc]

theorem goalsOf_subset (h : table' ⊆ table) :
    q.goalsOf meaning table' k ⊆ q.goalsOf meaning table k := by
  intro g hg
  rw [mem_goalsOf] at hg ⊢
  exact ⟨h hg.1, hg.2⟩

theorem mem_groups : k ∈ q.groups meaning table ↔ ∃ g, g ∈ q.goalsOf meaning table k := by
  simp only [groups, List.mem_dedup, List.mem_map, List.mem_filter, mem_goalsOf, and_assoc]

theorem le_level_iff {goals : List Goal} :
    i + 1 ≤ q.level goals ↔ i < q.steps.length ∧ q.chain goals (i + 1) = true := by
  unfold level chain
  rw [Funnel.le_windowFunnel_iff, stepConds, List.length_map]
  rfl

/-- A unit enters with a goal of the first step. -/
theorem one_le_level_iff {goals : List Goal} :
    1 ≤ q.level goals ↔ ∃ name ∈ q.steps.head?, ∃ g ∈ goals, g.goalName = name := by
  unfold level stepConds
  cases q.steps with
  | nil => simp [Funnel.windowFunnel]
  | cons name rest =>
      rw [List.map_cons, Funnel.one_le_windowFunnel_iff]
      simp only [List.head?_cons, Option.mem_some_iff, exists_eq_left', decide_eq_true_iff]

theorem level_mono {goals goals' : List Goal} (h : goals' ⊆ goals) :
    q.level goals' ≤ q.level goals := by
  have hlevel := Funnel.le_windowFunnel_iff.mp (le_refl (q.level goals'))
  exact Funnel.le_windowFunnel_iff.mpr ⟨hlevel.1, Funnel.reaches_of_subset h hlevel.2⟩

theorem mem_groups_of_level (h : i + 1 ≤ q.level (q.goalsOf meaning table k)) :
    k ∈ q.groups meaning table := by
  obtain ⟨-, -, g, hg, -⟩ := one_le_level_iff.mp (Nat.le_trans (Nat.le_add_left 1 i) h)
  exact mem_groups.mpr ⟨g, hg⟩

theorem mem_reached : k ∈ q.reached meaning table segment i ↔
    k.2 = segment ∧ i + 1 ≤ q.level (q.goalsOf meaning table k) := by
  rw [reached, Finset.mem_filter, List.mem_toFinset]
  exact ⟨fun h => h.2, fun h => ⟨mem_groups_of_level h.2, h⟩⟩

theorem reaching_perm : (q.reaching meaning table segment i).Perm
    ((q.reached meaning table segment i).toList.map (q.unitLevel meaning table)) := by
  have hfilter : q.reaching meaning table segment i =
      ((q.groups meaning table).filter fun k =>
        decide (k.2 = segment ∧ i + 1 ≤ q.level (q.goalsOf meaning table k))).map
          (q.unitLevel meaning table) := List.filter_map
  have hreached : q.reached meaning table segment i = ((q.groups meaning table).filter fun k =>
      decide (k.2 = segment ∧ i + 1 ≤ q.level (q.goalsOf meaning table k))).toFinset := by
    rw [reached, List.toFinset_filter]
    simp only [decide_eq_true_iff]
  rw [hfilter, hreached]
  exact ((List.toFinset_toList ((List.nodup_dedup _).filter _)).map _).symm

theorem count_eq_card :
    q.count meaning table segment i = (q.reached meaning table segment i).card := by
  rw [count, reaching_perm.length_eq, List.length_map, Finset.length_toList]

theorem value_eq_sum : q.value meaning table segment i =
    ∑ k ∈ q.reached meaning table segment i, (q.unitLevel meaning table k).value := by
  rw [value, (reaching_perm.map _).sum_eq, List.map_map]
  exact Finset.sum_map_toList _ _

theorem mem_segments : segment ∈ q.segments meaning table ↔
    (q.segment = none ∧ segment = none) ∨
      q.segment.isSome = true ∧
        ∃ g ∈ table, q.selects meaning g = true ∧ q.segmentOf g = segment := by
  unfold segments
  cases q.segment with
  | none => simp
  | some s =>
      simp only [unitLevels, List.map_map, List.mem_dedup, List.mem_map]
      constructor
      · rintro ⟨k, hk, rfl⟩
        obtain ⟨g, hg⟩ := mem_groups.mp hk
        obtain ⟨hmem, hselects, rfl⟩ := mem_goalsOf.mp hg
        exact Or.inr ⟨rfl, g, hmem, hselects, rfl⟩
      · rintro (⟨hnone, -⟩ | ⟨-, g, hmem, hselects, rfl⟩)
        · exact absurd hnone (by simp)
        · exact ⟨q.group g, mem_groups.mpr ⟨g, mem_goalsOf.mpr ⟨hmem, hselects, rfl⟩⟩, rfl⟩

/-- The segment of a group that has goals gets a row. -/
theorem segment_mem_segments {g : Goal} (hg : g ∈ q.goalsOf meaning table k) :
    k.2 ∈ q.segments meaning table := by
  obtain ⟨hmem, hselects, rfl⟩ := mem_goalsOf.mp hg
  rw [mem_segments]
  cases hseg : q.segment with
  | none => exact Or.inl ⟨rfl, by rw [group, segmentOf, hseg]; rfl⟩
  | some s => exact Or.inr ⟨rfl, g, hmem, hselects, rfl⟩

end BuiltFunnelQuery

end Veridian.Analytics
