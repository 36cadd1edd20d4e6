/-
Metrics: what is computed of the rows of a group.

A metric is one of a few aggregates over columns, with the digits it is rounded to.  An
aggregate of no rows that divides by their number is not a number, which is `none` here.
Averages and medians are exact.
-/
import Veridian.Analytics.FilterBuilder
import Veridian.Lib.Grouping
import Mathlib.Algebra.Order.Floor.Ring
import Mathlib.Data.List.Sort
import Mathlib.Data.Rat.Floor

namespace Veridian.Analytics

/-! ### Rows -/

/-- What a row of an analytics table has in its columns. -/
abbrev Row := Column → Cell

def Row.number (r : Row) (column : String) : ℚ :=
  match r (.named column) with
  | .number x => x
  | _ => 0

/-- `column = true` -/
def Row.isTrue (r : Row) (column : String) : Bool := r (.named column) = .boolean true

/-! ### Aggregates -/

def avg (xs : List ℚ) : Option ℚ := if xs = [] then none else some (xs.sum / xs.length)

/-- The middle of the sorted values, or half way between the two in the middle. -/
def median (xs : List ℚ) : Option ℚ :=
  let sorted := xs.insertionSort (· ≤ ·)
  match sorted[(xs.length - 1) / 2]?, sorted[xs.length / 2]? with
  | some low, some high => some ((low + high) / 2)
  | _, _ => none

/-- `part * 100.0 / whole` -/
def percent (part whole : Nat) : Option ℚ :=
  if whole = 0 then none else some (part * 100 / whole)

/-- `round(x, digits)`, halves to the even neighbour. -/
def roundTo (digits : Nat) (x : ℚ) : ℚ :=
  let scaled := x * 10 ^ digits
  let below := ⌊scaled⌋
  let up := if scaled - below = 1 / 2 then below % 2 = 1 else 1 / 2 < scaled - below
  (if up then below + 1 else below : ℤ) / 10 ^ digits

theorem median_perm {xs ys : List ℚ} (h : xs.Perm ys) : median xs = median ys := by
  have hsorted : xs.insertionSort (· ≤ ·) = ys.insertionSort (· ≤ ·) :=
    ((List.perm_insertionSort _ xs).trans
      (h.trans (List.perm_insertionSort _ ys).symm)).eq_of_pairwise
        (fun a b _ _ hab hba => le_antisymm hab hba)
        (List.pairwise_insertionSort _ xs) (List.pairwise_insertionSort _ ys)
  simp only [median, hsorted, h.length_eq]

structure MetricContext where
  bounceThreshold : ℚ

/-- The SQL of a metric. -/
inductive MetricSql where
  | uniqExact (column : String)
  | count
  | countIf (column : String)
  | sum (column : String)
  | avg (column : String) (digits : Nat)
  | median (column : String) (divisor : ℚ) (digits : Nat)
  | bounceRate
  | exitRate

namespace MetricSql

/-- The rounding around the aggregate. -/
def digits : MetricSql → Option Nat
  | .uniqExact _ | .count | .countIf _ | .sum _ => none
  | .avg _ digits | .median _ _ digits => some digits
  | .bounceRate | .exitRate => some 2

/-- `duration < bounce_threshold * 1000` -/
def bounces (ctx : MetricContext) (rows : List Row) : List Row :=
  rows.filter fun r => r.number "duration" < ctx.bounceThreshold * 1000

/-- The distinct values of a column. -/
def distinct (column : String) (rows : List Row) : Nat :=
  Grouping.uniqExact (rows.map fun r => r (.named column))

/-- The aggregate before it is rounded. -/
def raw (ctx : MetricContext) (rows : List Row) : MetricSql → Option ℚ
  | .uniqExact column => some (distinct column rows)
  | .count => some rows.length
  | .countIf column => some (rows.countP (·.isTrue column))
  | .sum column => some (rows.map (·.number column)).sum
  | .avg column _ => Analytics.avg (rows.map (·.number column))
  | .median column divisor _ =>
      (Analytics.median (rows.map (·.number column))).map (· / divisor)
  | .bounceRate => percent (distinct "id" (bounces ctx rows)) (distinct "id" rows)
  | .exitRate => percent (rows.countP (·.isTrue "is_exit")) rows.length

def value (ctx : MetricContext) (rows : List Row) (sql : MetricSql) : Option ℚ :=
  match sql.digits with
  | none => sql.raw ctx rows
  | some digits => (sql.raw ctx rows).map (roundTo digits)

theorem distinct_perm {rows rows' : List Row} (h : rows.Perm rows') (column : String) :
    distinct column rows = distinct column rows' := by
  rw [distinct, distinct, Grouping.uniqExact_eq_card, Grouping.uniqExact_eq_card,
    List.toFinset_eq_of_perm _ _ (h.map _)]

/-- No aggregate depends on the order of the rows. -/
theorem raw_perm {ctx : MetricContext} {rows rows' : List Row} (h : rows.Perm rows')
    (sql : MetricSql) : sql.raw ctx rows = sql.raw ctx rows' := by
  cases sql with
  | uniqExact column => rw [raw, raw, distinct_perm h]
  | count => rw [raw, raw, h.length_eq]
  | countIf column => rw [raw, raw, h.countP_eq]
  | sum column => rw [raw, raw, (h.map _).sum_eq]
  | avg column digits =>
      have hempty : rows.map (·.number column) = [] ↔ rows'.map (·.number column) = [] := by
        rw [List.map_eq_nil_iff, List.map_eq_nil_iff]
        exact ⟨fun hn => (hn ▸ h).nil_eq.symm, fun hn => (hn ▸ h).eq_nil⟩
      simp only [raw, Analytics.avg, hempty, (h.map _).sum_eq, List.length_map, h.length_eq]
  | median column divisor digits => rw [raw, raw, median_perm (h.map _)]
  | bounceRate =>
      have hbounces : (bounces ctx rows).Perm (bounces ctx rows') := h.filter _
      rw [raw, raw, distinct_perm hbounces, distinct_perm h]
  | exitRate => rw [raw, raw, h.countP_eq, h.length_eq]

theorem value_perm {ctx : MetricContext} {rows rows' : List Row} (h : rows.Perm rows')
    (sql : MetricSql) : sql.value ctx rows = sql.value ctx rows' := by
  rw [value, value, raw_perm h]

end MetricSql

structure MetricDefinition where
  name : String
  sql : MetricSql
  tables : List AnalyticsTable

def METRICS : List MetricDefinition :=
  [⟨"sessions", .uniqExact "id", [.sessions]⟩,
   ⟨"unique_visitors", .uniqExact "visitor_id", [.sessions]⟩,
   ⟨"median_duration", .median "duration" 1000 1, [.sessions]⟩,
   ⟨"max_scroll", .avg "max_scroll" 1, [.sessions]⟩,
   ⟨"median_scroll", .median "max_scroll" 1 1, [.sessions]⟩,
   ⟨"bounce_rate", .bounceRate, [.sessions]⟩,
   ⟨"pageviews", .sum "pageview_count", [.sessions]⟩,
   ⟨"pages_per_session", .avg "pageview_count" 2, [.sessions]⟩,
   ⟨"median_page_duration", .median "median_page_duration" 1000 1, [.sessions]⟩,
   ⟨"page_count", .count, [.pages]⟩,
   ⟨"unique_pages", .uniqExact "path", [.pages]⟩,
   ⟨"page_duration", .median "duration" 1000 1, [.pages]⟩,
   ⟨"page_scroll", .median "max_scroll" 1 1, [.pages]⟩,
   ⟨"landing_page_count", .countIf "is_landing", [.pages]⟩,
   ⟨"exit_page_count", .countIf "is_exit", [.pages]⟩,
   ⟨"exit_rate", .exitRate, [.pages]⟩,
   ⟨"goals", .count, [.goals]⟩,
   ⟨"sum_goal_value", .sum "goal_value", [.goals]⟩,
   ⟨"avg_goal_value", .avg "goal_value" 2, [.goals]⟩,
   ⟨"median_goal_value", .median "goal_value" 1 2, [.goals]⟩,
   ⟨"unique_sessions_with_goals", .uniqExact "session_id", [.goals]⟩]

/-- `METRICS[name]` -/
def metric? (name : String) : Option MetricDefinition := METRICS.find? (·.name = name)

theorem name_of_metric? {name : String} {metric : MetricDefinition}
    (h : metric? name = some metric) : metric.name = name := by
  simpa using List.find?_some h

def knownMetric (name : String) : Except String MetricDefinition :=
  match metric? name with
  | none => .error ("Unknown metric: " ++ name)
  | some metric => .ok metric

theorem knownMetric_eq_ok_iff {name : String} {metric : MetricDefinition} :
    knownMetric name = .ok metric ↔ metric? name = some metric := by
  unfold knownMetric
  cases metric? name with
  | none => simp
  | some metric' => simp

/-- The metric of a name, on a table that has it. -/
def metricOn (table : AnalyticsTable) (name : String) : Except String MetricDefinition :=
  match metric? name with
  | none => .error ("Unknown metric: " ++ name)
  | some metric =>
      if metric.tables.contains table then .ok metric
      else .error ("Metric '" ++ name ++ "' is not available for table '" ++ table.text ++ "'")

end Veridian.Analytics
