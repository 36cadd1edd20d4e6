/-
An analytics request and its filters on metrics.

Numbers of a request are of any type `N`.  What ClickHouse makes of operators, numerals and
dates is collected in a `ClickHouse`.
-/
import Veridian.Analytics.Metrics

namespace Veridian.Analytics

/-- `WidgetConfig` uses the same granularities. -/
abbrev Granularity := WidgetGranularity

inductive MetricFilterOperator where
  | gt | gte | lt | lte | between
  deriving DecidableEq

/-- Metric filters are applied after the aggregation. -/
structure MetricFilterDto (N : Type) where
  metric : String
  operator : MetricFilterOperator
  values : List (Json N)

structure DateRangeDto where
  start : Option String
  stop : Option String
  preset : Option String
  granularity : Option Granularity

structure AnalyticsQueryDto (N : Type) where
  workspaceId : String
  metrics : List String
  dimensions : Option (List String)
  filters : Option (List (FilterDto N))
  metricFilters : Option (List (MetricFilterDto N))
  dateRange : DateRangeDto
  compareDateRange : Option DateRangeDto
  timezone : Option String
  order : Option (List (String × String))
  limit : Option N
  havingMinSessions : Option N
  table : Option AnalyticsTable
  totalsGroupBy : Option (List String)

/-- What ClickHouse makes of the values in a query. -/
structure ClickHouse (N : Type) where
  holds : Meaning N
  metricHolds : MetricFilterOperator → List (Json N) → Option ℚ → Bool
  number : N → ℚ
  toDateTime64 : Option String → ℚ

variable {N : Type}

/-- One condition of the HAVING clause. -/
structure MetricCondition (N : Type) where
  metric : MetricDefinition
  operator : MetricFilterOperator
  values : List (Json N)

def buildMetricFilters (metricFilters : List (MetricFilterDto N)) (table : AnalyticsTable) :
    Except String (List (MetricCondition N)) :=
  metricFilters.mapM fun filter => do
    let metric ← metricOn table filter.metric
    return ⟨metric, filter.operator, filter.values⟩

/-- A comparison of the metric's own SQL, rounding included. -/
def MetricCondition.holds (ch : ClickHouse N) (ctx : MetricContext) (c : MetricCondition N)
    (rows : List Row) : Bool :=
  ch.metricHolds c.operator c.values (c.metric.sql.value ctx rows)

/-! ### WHERE and HAVING -/

/-- The clauses that the queries on an analytics table share. -/
structure Clauses (N : Type) where
  table : AnalyticsTable
  start : Option String
  stop : Option String
  conditions : List (Condition N)
  havingMinSessions : Option N
  metricConditions : List (MetricCondition N)

namespace Clauses

def selects (ch : ClickHouse N) (c : Clauses N) (r : Row) : Bool :=
  decide (ch.toDateTime64 c.start ≤ r.number (TABLE_CONFIGS c.table).dateColumn ∧
      r.number (TABLE_CONFIGS c.table).dateColumn ≤ ch.toDateTime64 c.stop) &&
    c.conditions.all fun condition => condition.holds ch.holds r

/-- `count() >= havingMinSessions` and the metric filters. -/
def having (ch : ClickHouse N) (ctx : MetricContext) (c : Clauses N) (rows : List Row) : Bool :=
  (c.havingMinSessions.all fun n => decide (ch.number n ≤ rows.length)) &&
    c.metricConditions.all fun condition => condition.holds ch ctx rows

end Clauses

end Veridian.Analytics
