/-
Totals over the groups that pass the metric filters.

The inner query groups the rows and keeps the groups that satisfy HAVING; the outer query
aggregates what the groups gave, by a rule of its own for each metric.  Sums, counts and
median states come out as if the rows of these groups had been aggregated at once.  Distinct
counts do so when the groups share no value, and what has no rule of its own is added up.
-/
import Veridian.Analytics.QueryDto
import Veridian.Lib.Checked
import Mathlib.Algebra.BigOperators.Ring.Finset

namespace Veridian.Analytics.FilteredTotals

open Grouping (uniqExact)
open MetricSql (distinct bounces)

variable {N : Type}

/-! ### The query -/

structure TotalsQuery (N : Type) extends Clauses N where
  metrics : List MetricDefinition
  groupBy : List Column

def buildFilteredTotalsQuery (query : AnalyticsQueryDto N) : Except String (TotalsQuery N) := do
  let table := query.table.getD .sessions
  let groupBy ← (query.totalsGroupBy.getD []).mapM (columnOn table)
  let conditions ← buildFilters (query.filters.getD []) table
  let metricConditions ← buildMetricFilters (query.metricFilters.getD []) table
  let metrics ← query.metrics.mapM knownMetric
  return {
    table, conditions, metricConditions, metrics, groupBy
    start := query.dateRange.start
    stop := query.dateRange.stop
    havingMinSessions := query.havingMinSessions }

/-- `sum` over the groups, of values that may not be numbers. -/
def sumGroups (values : List (Option ℚ)) : Option ℚ :=
  values.foldr (fun v total => v.bind fun x => total.map (x + ·)) (some 0)

/-- `sum` over the groups of what is a number in each. -/
def sumOf (f : List Row → ℚ) (groups : List (List Row)) : ℚ := (groups.map f).sum

/-- `if(sum(divisor) > 0, sum(dividend) / sum(divisor), 0)` -/
def ratioOr0 (dividend divisor : ℚ) : ℚ := if 0 < divisor then dividend / divisor else 0

/-- The median of the merged states of the groups. -/
def quantileMerge (column : String) (groups : List (List Row)) : Option ℚ :=
  median (groups.flatMap fun g => g.map (·.number column))

/-- The outer column of a metric. -/
def total (ctx : MetricContext) (groups : List (List Row)) (metric : MetricDefinition) :
    Option ℚ :=
  match metric.name with
  | "sessions" => some (sumOf (fun g => distinct "id" g) groups)
  | "bounce_rate" => some (ratioOr0 (sumOf (fun g => distinct "id" (bounces ctx g)) groups * 100)
      (sumOf (fun g => distinct "id" g) groups))
  | "median_duration" => (quantileMerge "duration" groups).map (· / 1000)
  | "median_scroll" => quantileMerge "max_scroll" groups
  | "page_count" => some (sumOf (fun g => g.length) groups)
  | "pageviews" => some (sumOf (fun g => (g.map (·.number "pageview_count")).sum) groups)
  | "goals" => some (sumOf (fun g => g.length) groups)
  | "sum_goal_value" => some (sumOf (fun g => (g.map (·.number "goal_value")).sum) groups)
  | "avg_goal_value" => some (ratioOr0 (sumOf (fun g => (g.map (·.number "goal_value")).sum) groups)
      (sumOf (fun g => g.length) groups))
  | _ => sumGroups (groups.map fun g => metric.sql.value ctx g)

namespace TotalsQuery

variable (ch : ClickHouse N) (ctx : MetricContext) (q : TotalsQuery N)

def key (r : Row) : List Cell := q.groupBy.map r

/-- The groups of the inner query. -/
def groups (rows : List Row) : List (List Row) :=
  (Replacing.groupBy q.key (rows.filter (q.toClauses.selects ch))).filter
    (q.toClauses.having ch ctx)

/-- The rows of the groups that satisfy HAVING. -/
def retained (rows : List Row) : List Row :=
  let selected := rows.filter (q.toClauses.selects ch)
  selected.filter fun r => q.toClauses.having ch ctx (selected.filter fun r' => q.key r' = q.key r)

/-- The one row of the result. -/
def row (rows : List Row) : List (String × Option ℚ) :=
  q.metrics.map fun metric => (metric.name, total ctx (q.groups ch ctx rows) metric)

theorem groups_perm (rows : List Row) : (q.groups ch ctx rows).Perm
    (Replacing.groupBy q.key (q.retained ch ctx rows)) :=
  Grouping.filter_groupBy_perm _

end TotalsQuery

/-! ### Groups of a list of rows -/

section Groups

variable {ctx : MetricContext} {groups : List (List Row)} {rows : List Row}

theorem sumOf_nat (f : List Row → Nat) (groups : List (List Row)) :
    sumOf (fun g => f g) groups = ((groups.map f).sum : Nat) := by
  rw [Nat.cast_list_sum, List.map_map]
  rfl

theorem sumOf_sum (h : groups.flatten.Perm rows) (column : String) :
    sumOf (fun g => (g.map (·.number column)).sum) groups =
      (rows.map (·.number column)).sum := by
  rw [← (h.map _).sum_eq, List.map_flatten, List.sum_flatten, List.map_map]
  rfl

theorem sumOf_length (h : groups.flatten.Perm rows) :
    sumOf (fun g => g.length) groups = rows.length := by
  rw [sumOf_nat, ← h.length_eq, List.length_flatten]

theorem sumOf_countP (h : groups.flatten.Perm rows) (p : Row → Bool) :
    sumOf (fun g => g.countP p) groups = rows.countP p := by
  rw [sumOf_nat, ← h.countP_eq, List.countP_flatten]

theorem quantileMerge_eq (h : groups.flatten.Perm rows) (column : String) :
    quantileMerge column groups = median (rows.map (·.number column)) := by
  refine median_perm ?_
  rw [List.flatMap_def, ← List.map_flatten]
  exact h.map _

/-- Values that are numbers add up to a number. -/
theorem sumGroups_some (f : List Row → ℚ) (groups : List (List Row)) :
    sumGroups (groups.map fun g => some (f g)) = some (sumOf f groups) := by
  induction groups with
  | nil => rfl
  | cons g rest ih =>
      show (some (f g)).bind (fun x => (sumGroups (rest.map fun g => some (f g))).map (x + ·)) = _
      rw [ih]
      rfl

theorem sumGroups_singleton (v : Option ℚ) : sumGroups [v] = v := by
  cases v with
  | none => rfl
  | some x => exact congrArg some (add_zero x)

/-! ### Distinct values -/

/-- No value of the column is in two groups. -/
def Separate (key : Row → List Cell) (column : String) (rows : List Row) : Prop :=
  ∀ r ∈ rows, ∀ r' ∈ rows, r (.named column) = r' (.named column) → key r = key r'

theorem sumOf_distinct_iff {key : Row → List Cell}
    (h : groups.Perm (Replacing.groupBy key rows)) (column : String) :
    sumOf (fun g => distinct column g) groups = distinct column rows ↔
      Separate key column rows := by
  have hsum : (groups.map (distinct column)).sum =
      uniqExact (rows.map fun r => (r (.named column), key r)) := by
    rw [(h.map _).sum_eq, Replacing.groupBy, List.map_map, ← Grouping.sum_uniqExact_groups]
    rfl
  rw [sumOf_nat, Nat.cast_inj, hsum]
  exact Grouping.uniqExact_pair_eq_iff _ _ _

/-- Sessions that bounce are counted right where no session is in two groups. -/
theorem sumOf_bounces {key : Row → List Cell} (h : groups.Perm (Replacing.groupBy key rows))
    (hsep : Separate key "id" rows) :
    sumOf (fun g => distinct "id" (bounces ctx g)) groups = distinct "id" (bounces ctx rows) := by
  have hsum : (groups.map fun g => distinct "id" (bounces ctx g)).sum =
      uniqExact ((bounces ctx rows).map fun r => (r (.named "id"), key r)) := by
    have hkeys : ∀ r ∈ bounces ctx rows, key r ∈ (rows.map key).dedup := fun r hr =>
      List.mem_dedup.mpr (List.mem_map_of_mem (List.mem_of_mem_filter hr))
    rw [(h.map _).sum_eq, Replacing.groupBy, List.map_map,
      ← Grouping.sum_uniqExact_fiber (fun r => r (.named "id")) key _ (List.nodup_dedup _) hkeys]
    congr 1
    refine List.map_congr_left fun k _ => ?_
    show uniqExact (((rows.filter _).filter _).map _) = uniqExact (((rows.filter _).filter _).map _)
    rw [List.filter_comm]
  rw [sumOf_nat, hsum, Nat.cast_inj]
  exact (Grouping.uniqExact_pair_eq_iff _ _ _).mpr fun r hr r' hr' hid =>
    hsep r (List.mem_of_mem_filter hr) r' (List.mem_of_mem_filter hr') hid

theorem distinct_pos {column : String} (h : rows ≠ []) : 0 < distinct column rows := by
  rw [distinct, Grouping.uniqExact_eq_card, Finset.card_pos]
  obtain ⟨r, hr⟩ := List.exists_mem_of_ne_nil _ h
  exact ⟨_, List.mem_toFinset.mpr (List.mem_map_of_mem hr)⟩

end Groups

/-! ### What the row holds -/

/-- The metrics of which the groups give parts that can be added. -/
def ADDITIVE : List String :=
  ["pageviews", "page_count", "goals", "sum_goal_value", "landing_page_count", "exit_page_count"]

def MERGED_MEDIANS : List String := ["median_duration", "median_scroll"]

def DISTINCT_COUNTS : List String :=
  ["sessions", "unique_visitors", "unique_pages", "unique_sessions_with_goals"]

/-- The averages, rates and medians that fall into the default case. -/
def SUMMED : List String :=
  ["max_scroll", "pages_per_session", "median_page_duration", "page_duration", "page_scroll",
   "exit_rate", "median_goal_value"]

/-- The total `v` of a metric over groups that hold the given rows. -/
structure TotalFacts (ctx : MetricContext) (key : Row → List Cell) (groups : List (List Row))
    (rows : List Row) (metric : MetricDefinition) (v : Option ℚ) : Prop where
  additive : metric.name ∈ ADDITIVE → v = metric.sql.value ctx rows
  merged : metric.name ∈ MERGED_MEDIANS → v = metric.sql.raw ctx rows
  distinct : metric.name ∈ DISTINCT_COUNTS → ∀ column, metric.sql = .uniqExact column →
    (v = metric.sql.value ctx rows ↔ Separate key column rows)
  bounceRate : metric.name = "bounce_rate" → rows ≠ [] → Separate key "id" rows →
    v = metric.sql.raw ctx rows
  avgGoalValue : metric.name = "avg_goal_value" → rows ≠ [] → v = metric.sql.raw ctx rows
  nothing : metric.name = "bounce_rate" ∨ metric.name = "avg_goal_value" → rows = [] → v = some 0
  summed : metric.name ∈ SUMMED → v = sumGroups (groups.map fun g => metric.sql.value ctx g)
  oneGroup : metric.name ∈ SUMMED → groups.length = 1 → v = metric.sql.value ctx rows

section Facts

variable {ctx : MetricContext} {key : Row → List Cell} {groups : List (List Row)} {rows : List Row}
  {metric : MetricDefinition}

theorem total_additive (h : groups.flatten.Perm rows) (hmetric : metric? metric.name = some metric)
    (hname : metric.name ∈ ADDITIVE) : total ctx groups metric = metric.sql.value ctx rows := by
  simp only [ADDITIVE, List.mem_cons, List.not_mem_nil, or_false] at hname
  rcases hname with hname | hname | hname | hname | hname | hname
  all_goals
    rw [hname] at hmetric
    obtain rfl := Option.some.inj hmetric
  · exact congrArg some (sumOf_sum h "pageview_count")
  · exact congrArg some (sumOf_length h)
  · exact congrArg some (sumOf_length h)
  · exact congrArg some (sumOf_sum h "goal_value")
  · exact (sumGroups_some _ _).trans (congrArg some (sumOf_countP h _))
  · exact (sumGroups_some _ _).trans (congrArg some (sumOf_countP h _))

theorem total_merged (h : groups.flatten.Perm rows) (hmetric : metric? metric.name = some metric)
    (hname : metric.name ∈ MERGED_MEDIANS) :
    total ctx groups metric = metric.sql.raw ctx rows := by
  simp only [MERGED_MEDIANS, List.mem_cons, List.not_mem_nil, or_false] at hname
  rcases hname with hname | hname
  all_goals
    rw [hname] at hmetric
    obtain rfl := Option.some.inj hmetric
  · exact congrArg (Option.map (· / 1000)) (quantileMerge_eq h "duration")
  · show quantileMerge "max_scroll" groups = (median _).map (· / 1)
    rw [quantileMerge_eq h "max_scroll"]
    simp

theorem total_distinct (h : groups.Perm (Replacing.groupBy key rows))
    (hmetric : metric? metric.name = some metric) (hname : metric.name ∈ DISTINCT_COUNTS)
    {column : String} (hsql : metric.sql = .uniqExact column) :
    total ctx groups metric = metric.sql.value ctx rows ↔ Separate key column rows := by
  have htotal : total ctx groups metric = some (sumOf (fun g => distinct column g) groups) := by
    simp only [DISTINCT_COUNTS, List.mem_cons, List.not_mem_nil, or_false] at hname
    rcases hname with hname | hname | hname | hname
    all_goals
      rw [hname] at hmetric
      obtain rfl := Option.some.inj hmetric
      obtain rfl := MetricSql.uniqExact.inj hsql
    · rfl
    · exact sumGroups_some _ _
    · exact sumGroups_some _ _
    · exact sumGroups_some _ _
  rw [htotal, ← sumOf_distinct_iff h, hsql]
  exact Option.some_inj

theorem total_bounceRate (h : groups.Perm (Replacing.groupBy key rows))
    (hmetric : metric? metric.name = some metric) (hname : metric.name = "bounce_rate")
    (hrows : rows ≠ []) (hsep : Separate key "id" rows) :
    total ctx groups metric = metric.sql.raw ctx rows := by
  rw [hname] at hmetric
  obtain rfl := Option.some.inj hmetric
  show some (ratioOr0 (sumOf (fun g => distinct "id" (bounces ctx g)) groups * 100)
    (sumOf (fun g => distinct "id" g) groups)) = percent _ _
  have hpos : 0 < distinct "id" rows := distinct_pos hrows
  rw [sumOf_bounces h hsep, (sumOf_distinct_iff h "id").mpr hsep, ratioOr0, percent,
    if_pos (Nat.cast_pos.mpr hpos), if_neg (Nat.ne_of_gt hpos)]

theorem total_avgGoalValue (h : groups.flatten.Perm rows)
    (hmetric : metric? metric.name = some metric) (hname : metric.name = "avg_goal_value")
    (hrows : rows ≠ []) : total ctx groups metric = metric.sql.raw ctx rows := by
  rw [hname] at hmetric
  obtain rfl := Option.some.inj hmetric
  show some (ratioOr0 (sumOf (fun g => (g.map (·.number "goal_value")).sum) groups)
    (sumOf (fun g => g.length) groups)) = avg _
  have hpos : 0 < rows.length := List.length_pos_iff.mpr hrows
  rw [sumOf_sum h, sumOf_length h, ratioOr0, avg, if_pos (Nat.cast_pos.mpr hpos),
    if_neg (by rw [List.map_eq_nil_iff]; exact hrows), List.length_map]

/-- Without groups the two ratios are 0, where their definitions are no number. -/
theorem total_nothing (h : groups = []) (hname : metric.name = "bounce_rate" ∨
    metric.name = "avg_goal_value") : total ctx groups metric = some 0 := by
  subst h
  rcases hname with hname | hname
  · rw [total, hname]
    rfl
  · rw [total, hname]
    rfl

theorem total_summed (hname : metric.name ∈ SUMMED) :
    total ctx groups metric = sumGroups (groups.map fun g => metric.sql.value ctx g) := by
  simp only [SUMMED, List.mem_cons, List.not_mem_nil, or_false] at hname
  rcases hname with hname | hname | hname | hname | hname | hname | hname
  all_goals
    rw [total, hname]
    rfl

theorem totalFacts (h : groups.Perm (Replacing.groupBy key rows))
    (hmetric : metric? metric.name = some metric) :
    TotalFacts ctx key groups rows metric (total ctx groups metric) := by
  have hflatten : groups.flatten.Perm rows := h.flatten.trans Grouping.groupBy_flatten_perm
  refine
    { additive := total_additive hflatten hmetric
      merged := total_merged hflatten hmetric
      distinct := fun hname column hsql => total_distinct h hmetric hname hsql
      bounceRate := total_bounceRate h hmetric
      avgGoalValue := total_avgGoalValue hflatten hmetric
      nothing := fun hname hrows => total_nothing ?_ hname
      summed := total_summed
      oneGroup := ?_ }
  · subst hrows
    exact h.eq_nil
  · intro hname hone
    obtain ⟨g, rfl⟩ := List.length_eq_one_iff.mp hone
    rw [List.flatten_singleton] at hflatten
    rw [total_summed hname, List.map_singleton, sumGroups_singleton,
      MetricSql.value_perm hflatten]

end Facts

theorem buildFilteredTotalsQuery_metrics {query : AnalyticsQueryDto N} {q : TotalsQuery N}
    (h : buildFilteredTotalsQuery query = .ok q) :
    List.Forall₂ (fun name metric => metric? name = some metric) query.metrics q.metrics := by
  obtain ⟨groupBy, -, h⟩ := Checked.bind_eq_ok_iff.mp h
  obtain ⟨conditions, -, h⟩ := Checked.bind_eq_ok_iff.mp h
  obtain ⟨metricConditions, -, h⟩ := Checked.bind_eq_ok_iff.mp h
  obtain ⟨metrics, hmetrics, h⟩ := Checked.bind_eq_ok_iff.mp h
  obtain rfl := Except.ok.inj h
  exact (Checked.mapM_eq_ok_iff.mp hmetrics).imp fun _ _ => knownMetric_eq_ok_iff.mp

/-- The row of the query has an entry for each metric of the request, and every entry is what
`TotalFacts` says of it. -/
theorem filtered_totals (ch : ClickHouse N) (ctx : MetricContext) {query : AnalyticsQueryDto N}
    {q : TotalsQuery N} (h : buildFilteredTotalsQuery query = .ok q) (rows : List Row) :
    (q.row ch ctx rows).map Prod.fst = query.metrics ∧
      ∀ entry ∈ q.row ch ctx rows, ∃ metric, metric? entry.1 = some metric ∧
        TotalFacts ctx q.key (q.groups ch ctx rows) (q.retained ch ctx rows) metric entry.2 := by
  have hmetrics := buildFilteredTotalsQuery_metrics h
  constructor
  · have hnames : List.Forall₂ (fun name metric => MetricDefinition.name metric = name)
        query.metrics q.metrics := hmetrics.imp fun _ _ => name_of_metric?
    rw [TotalsQuery.row, List.map_map]
    exact List.forall₂_eq_eq_eq ▸ (List.forall₂_map_left_iff.mpr hnames.flip)
  · intro entry hentry
    obtain ⟨metric, hmem, rfl⟩ := List.mem_map.mp hentry
    obtain ⟨name, -, hname⟩ : ∃ name ∈ query.metrics, metric? name = some metric := by
      obtain ⟨i, hi, rfl⟩ := List.getElem_of_mem hmem
      have hi' : i < query.metrics.length := by rw [hmetrics.length_eq]; exact hi
      exact ⟨_, List.getElem_mem hi', hmetrics.get hi' hi⟩
    obtain rfl := name_of_metric? hname
    exact ⟨metric, hname, totalFacts (q.groups_perm ch ctx rows) hname⟩

/-! ### One visitor on two devices -/

namespace DevicesExample

def ch : ClickHouse ℕ where
  holds := fun _ _ _ => true
  metricHolds
    | .gt, [.num n], some x => n < x
    | _, _, _ => false
  number n := n
  toDateTime64
    | some "2024-01-01 00:00:00" => 1704067200000
    | _ => 1704153600000

def ctx : MetricContext := ⟨10⟩

def query : AnalyticsQueryDto ℕ where
  workspaceId := "w1"
  metrics := ["unique_visitors", "pages_per_session", "pageviews"]
  dimensions := none
  filters := none
  metricFilters := some [⟨"sessions", .gt, [.num 0]⟩]
  dateRange := ⟨some "2024-01-01 00:00:00", some "2024-01-02 00:00:00", none, none⟩
  compareDateRange := none
  timezone := none
  order := none
  limit := none
  havingMinSessions := none
  table := none
  totalsGroupBy := some ["device"]

def session (id device : String) (pageviews : ℚ) : Row
  | .named "id" => .text id
  | .named "visitor_id" => .text "v1"
  | .named "device" => .text device
  | .named "created_at" => .number 1704067260000
  | .named "pageview_count" => .number pageviews
  | _ => .text ""

def rows : List Row := [session "s1" "desktop" 2, session "s2" "mobile" 4]

/-- What is built of the request. -/
def totals : TotalsQuery ℕ where
  table := .sessions
  start := some "2024-01-01 00:00:00"
  stop := some "2024-01-02 00:00:00"
  conditions := []
  havingMinSessions := none
  metricConditions := [⟨⟨"sessions", .uniqExact "id", [.sessions]⟩, .gt, [.num 0]⟩]
  metrics := [⟨"unique_visitors", .uniqExact "visitor_id", [.sessions]⟩,
    ⟨"pages_per_session", .avg "pageview_count" 2, [.sessions]⟩,
    ⟨"pageviews", .sum "pageview_count", [.sessions]⟩]
  groupBy := [.named "device"]

theorem filtered_totals_devices : (totals.row ch ctx rows).map Prod.fst = query.metrics ∧
    ∀ entry ∈ totals.row ch ctx rows, ∃ metric, metric? entry.1 = some metric ∧
      TotalFacts ctx totals.key (totals.groups ch ctx rows) (totals.retained ch ctx rows) metric
        entry.2 :=
  filtered_totals ch ctx (show buildFilteredTotalsQuery query = .ok totals from rfl) rows

/-- The visitor is counted on each device, and the averages of the devices are added. -/
theorem visitor_counted_on_each_device : buildFilteredTotalsQuery query = .ok totals ∧
    totals.row ch ctx rows =
      [("unique_visitors", some 2), ("pages_per_session", some 6), ("pageviews", some 6)] ∧
    totals.metrics.map (fun m => m.sql.value ctx (totals.retained ch ctx rows)) =
      [some 1, some 3, some 6] ∧
    totals.metrics.map (fun m => m.sql.raw ctx (totals.retained ch ctx rows)) =
      [some 1, some 3, some 6] := by
  refine ⟨rfl, ?_, ?_, ?_⟩
  · decide +kernel
  · decide +kernel
  · decide +kernel

end DevicesExample

end Veridian.Analytics.FilteredTotals
