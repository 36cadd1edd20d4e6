/-
`buildAnalyticsQuery`: an analytics request as an SQL query.

The query groups the selected rows by time bucket and dimensions and is cut at LIMIT in the
order of ORDER BY.  Rows that tie there come in any order, so what ClickHouse answers is a
relation.
-/
import Veridian.Analytics.FilteredTotals

namespace Veridian.Analytics

variable {N : Type}

/-! ### The query -/

/-- `GRANULARITY_COLUMNS` -/
def granularityColumn : Granularity → String
  | .hour => "date_hour"
  | .day => "date_day"
  | .week => "date_week"
  | .month => "date_month"
  | .year => "date_year"

inductive OrderField where
  | granularity
  | metric (name : String)
  | column (column : Column)

/-- One item of ORDER BY; the direction is the text that is written. -/
structure OrderItem where
  field : OrderField
  direction : String

structure GroupedQuery (N : Type) extends Clauses N where
  granularity : Option Granularity
  timezone : Option String
  dimensions : List DimensionDefinition
  metrics : List MetricDefinition
  order : List OrderItem
  limit : ℚ

inductive BuiltQuery (N : Type) where
  | totals (query : FilteredTotals.TotalsQuery N)
  | grouped (query : GroupedQuery N)

/-! ### ORDER BY and LIMIT -/

/-- What every object has an entry for. -/
def OBJECT_PROTOTYPE : List String :=
  ["constructor", "hasOwnProperty", "isPrototypeOf", "propertyIsEnumerable", "toLocaleString",
   "toString", "valueOf", "__defineGetter__", "__defineSetter__", "__lookupGetter__",
   "__lookupSetter__", "__proto__"]

/-- The lookup finds two more entries than the ones it is for. -/
def normalizeOrderDirection (dir : String) : Except String String :=
  match Text.asciiLower dir with
  | "asc" => .ok "ASC"
  | "desc" => .ok "DESC"
  | "constructor" => .ok "function Object() \x7b [native code] \x7d"
  | "__proto__" => .ok "[object Object]"
  | _ => .error ("Invalid order direction: " ++ String.ofList (Json.quote dir))

def orderClauseFor (field dir : String) : Except String OrderItem := do
  let direction ← normalizeOrderDirection dir
  if (metric? field).isSome then return ⟨.metric field, direction⟩
  match dimension? field with
  | some dimension => return ⟨.column dimension.column, direction⟩
  | none => throw ("Unknown order field: " ++ field)

/-- A known field is kept when the query projects it, an unknown one so that it is refused. -/
def keepsField (query : AnalyticsQueryDto N) (field : String) : Bool :=
  if (metric? field).isSome then query.metrics.contains field
  else if (dimension? field).isSome then (query.dimensions.getD []).contains field
  else !OBJECT_PROTOTYPE.contains field

def projectedOrderEntries (query : AnalyticsQueryDto N) : List (String × String) :=
  (query.order.getD []).filter fun entry => keepsField query entry.1

/-- The bucket comes first; without a bucket and an order it is the first metric. -/
def orderBy (query : AnalyticsQueryDto N) : Except String (List OrderItem) := do
  let items ← (projectedOrderEntries query).mapM fun entry => orderClauseFor entry.1 entry.2
  if query.dateRange.granularity.isSome then return ⟨.granularity, "ASC"⟩ :: items
  if items.isEmpty then
    return query.metrics.head?.toList.map fun metric => ⟨.metric metric, "DESC"⟩
  return items

/-- `Math.min(query.limit || 1000, 10000)` -/
def limitOf (number : N → ℚ) (limit : Option N) : ℚ :=
  min ((limit.map number).elim 1000 fun n => if n = 0 then 1000 else n) 10000

/-! ### The builder -/

def dimensionOn (table : AnalyticsTable) (name : String) : Except String DimensionDefinition :=
  match dimension? name with
  | none => .error ("Unknown dimension: " ++ name)
  | some dimension =>
      if dimension.tables.contains table then .ok dimension
      else .error ("Dimension '" ++ name ++ "' is not available for table '" ++ table.text ++ "'")

/-- The timezone that goes into the SQL text. -/
def bucketTimezone (validTimezone : String → Bool) (granularity : Option Granularity)
    (timezone : String) : Except String (Option String) :=
  if granularity.isNone || timezone = "" || timezone = "UTC" then .ok none
  else if validTimezone timezone then .ok (some timezone)
  else .error ("Invalid IANA timezone: " ++ String.ofList (Json.quote timezone))

def buildGroupedQuery (number : N → ℚ) (validTimezone : String → Bool)
    (query : AnalyticsQueryDto N) (timezone : String) : Except String (GroupedQuery N) := do
  let table := query.table.getD .sessions
  let granularity := query.dateRange.granularity
  let metrics ← query.metrics.mapM (metricOn table)
  let dimensions ← (query.dimensions.getD []).mapM (dimensionOn table)
  let timezone ← bucketTimezone validTimezone granularity timezone
  let conditions ← buildFilters (query.filters.getD []) table
  let metricConditions ← buildMetricFilters (query.metricFilters.getD []) table
  let order ← orderBy query
  return {
    table, conditions, metricConditions, granularity, timezone, dimensions, metrics, order
    start := query.dateRange.start
    stop := query.dateRange.stop
    havingMinSessions := query.havingMinSessions
    limit := limitOf number query.limit }

/-- What a built query has of its request. -/
structure GroupedQuery.BuiltFrom (number : N → ℚ) (validTimezone : String → Bool)
    (query : AnalyticsQueryDto N) (timezone : String) (q : GroupedQuery N) : Prop where
  metrics : query.metrics.mapM (metricOn (query.table.getD .sessions)) = .ok q.metrics
  dimensions : (query.dimensions.getD []).mapM (dimensionOn (query.table.getD .sessions)) =
    .ok q.dimensions
  timezone : bucketTimezone validTimezone query.dateRange.granularity timezone = .ok q.timezone
  conditions : buildFilters (query.filters.getD []) (query.table.getD .sessions) =
    .ok q.conditions
  metricConditions : buildMetricFilters (query.metricFilters.getD [])
    (query.table.getD .sessions) = .ok q.metricConditions
  order : orderBy query = .ok q.order
  table : q.table = query.table.getD .sessions
  granularity : q.granularity = query.dateRange.granularity
  start : q.start = query.dateRange.start
  stop : q.stop = query.dateRange.stop
  havingMinSessions : q.havingMinSessions = query.havingMinSessions
  limit : q.limit = limitOf number query.limit

theorem buildGroupedQuery_eq_ok_iff {number : N → ℚ} {validTimezone : String → Bool}
    {query : AnalyticsQueryDto N} {timezone : String} {q : GroupedQuery N} :
    buildGroupedQuery number validTimezone query timezone = .ok q ↔
      q.BuiltFrom number validTimezone query timezone := by
  simp only [buildGroupedQuery, Checked.bind_eq_ok_iff]
  constructor
  · rintro ⟨metrics, hm, dimensions, hd, tz, htz, conditions, hc, metricConditions, hmc, order, ho,
      hq⟩
    obtain rfl := Except.ok.inj hq
    exact ⟨hm, hd, htz, hc, hmc, ho, rfl, rfl, rfl, rfl, rfl, rfl⟩
  · intro h
    refine ⟨_, h.metrics, _, h.dimensions, _, h.timezone, _, h.conditions, _, h.metricConditions,
      _, h.order, ?_⟩
    rw [← h.table, ← h.granularity, ← h.start, ← h.stop, ← h.havingMinSessions, ← h.limit]
    rfl

def isFilteredTotals (query : AnalyticsQueryDto N) : Bool :=
  !(query.totalsGroupBy.getD []).isEmpty && (query.dimensions.getD []).isEmpty &&
    !(query.metricFilters.getD []).isEmpty

def buildAnalyticsQuery (number : N → ℚ) (validTimezone : String → Bool)
    (query : AnalyticsQueryDto N) (timezone : String) : Except String (BuiltQuery N) :=
  if isFilteredTotals query then
    (FilteredTotals.buildFilteredTotalsQuery query).map .totals
  else (buildGroupedQuery number validTimezone query timezone).map .grouped

/-! ### What ClickHouse answers -/

/-- A row of a result by column names. -/
abbrev ResultRow := List (String × Cell)

/-- What is not a number comes as NULL. -/
def metricCell : Option ℚ → Cell
  | some x => .number x
  | none => .null

/-- What ClickHouse makes of the rest of a query: buckets, the order of cells, and the texts
it reads as dates. -/
structure Engine (N : Type) extends ClickHouse N where
  bucket : Granularity → Option String → ℚ → Cell
  le : Cell → Cell → Bool
  readable : String → Bool
  unreadable_empty : readable "" = false

/-- Both bounds of the range are read. -/
def Clauses.readable (e : Engine N) (c : Clauses N) : Bool :=
  c.start.any e.readable && c.stop.any e.readable

namespace GroupedQuery

variable (e : Engine N) (ctx : MetricContext) (q : GroupedQuery N)

/-- The query has a GROUP BY. -/
def hasGroups : Bool := q.granularity.isSome || !q.dimensions.isEmpty

def bucketOf (g : Granularity) (r : Row) : Cell :=
  e.bucket g q.timezone (r.number (TABLE_CONFIGS q.table).dateColumn)

def key (r : Row) : Option Cell × List Cell :=
  (q.granularity.map fun g => q.bucketOf e g r, q.dimensions.map fun d => r d.column)

/-- Without GROUP BY all rows are one group, and there is no HAVING. -/
def groups (rows : List Row) : List (List Row) :=
  let selected := rows.filter (q.toClauses.selects e.toClickHouse)
  if q.hasGroups then
    (Replacing.groupBy (q.key e) selected).filter (q.toClauses.having e.toClickHouse ctx)
  else [selected]

/-- What all rows of a group have. -/
def common (f : Row → Cell) (group : List Row) : Cell := (group.head?.map f).getD .null

def row (group : List Row) : ResultRow :=
  (q.granularity.toList.map fun g => (granularityColumn g, common (q.bucketOf e g) group)) ++
    (q.dimensions.map fun d => (d.name, common (· d.column) group)) ++
    q.metrics.map fun m => (m.name, metricCell (m.sql.value ctx group))

/-- What a group is ordered by. -/
def sortCell (group : List Row) : OrderField → Cell
  | .granularity => (q.granularity.map fun g => common (q.bucketOf e g) group).getD .null
  | .metric name => metricCell ((metric? name).bind fun m => m.sql.value ctx group)
  | .column c => common (· c) group

/-- The order of the groups under ORDER BY. -/
def precedes : List OrderItem → List Row → List Row → Bool
  | [], _, _ => true
  | item :: rest, g, h =>
      let left := q.sortCell e ctx (if item.direction = "DESC" then h else g) item.field
      let right := q.sortCell e ctx (if item.direction = "DESC" then g else h) item.field
      e.le left right && (!e.le right left || precedes rest g h)

/-- ClickHouse runs the query. -/
def accepted : Bool :=
  q.toClauses.readable e && q.order.all fun item => ["ASC", "DESC"].contains item.direction

/-- One of the answers that ClickHouse may give. -/
def Answer (table : List Row) (answer : List ResultRow) : Prop :=
  q.accepted e = true ∧ ∃ ranked : List (List Row), ranked.Perm (q.groups e ctx table) ∧
    ranked.Pairwise (fun g h => q.precedes e ctx q.order g h) ∧
    answer = (ranked.take ⌊q.limit⌋₊).map (q.row e ctx)

variable {e ctx q} {table : List Row} {answer : List ResultRow}

/-- **The limit holds whatever ClickHouse answers.** -/
theorem length_le_of_answer (h : q.Answer e ctx table answer) : answer.length ≤ ⌊q.limit⌋₊ := by
  obtain ⟨-, ranked, -, -, rfl⟩ := h
  rw [List.length_map]
  exact List.length_take_le _ _

/-- Without GROUP BY there is one row at most. -/
theorem length_le_one_of_answer (hgroups : q.hasGroups = false)
    (h : q.Answer e ctx table answer) : answer.length ≤ 1 := by
  obtain ⟨-, ranked, hranked, -, rfl⟩ := h
  have hlength := hranked.length_eq
  simp only [groups, hgroups, Bool.false_eq_true, if_false, List.length_singleton] at hlength
  rw [List.length_map, ← hlength]
  exact List.length_take_le' _ _

/-- No rows make no groups. -/
theorem answer_nil (hgroups : q.hasGroups = true) (h : q.accepted e = true) :
    q.Answer e ctx [] [] := by
  refine ⟨h, [], ?_, List.Pairwise.nil, by simp⟩
  simp [groups, hgroups, Replacing.groupBy]

end GroupedQuery

namespace BuiltQuery

def toClauses : BuiltQuery N → Clauses N
  | .totals q => q.toClauses
  | .grouped q => q.toClauses

def Answer (e : Engine N) (ctx : MetricContext) (q : BuiltQuery N) (table : List Row)
    (answer : List ResultRow) : Prop :=
  match q with
  | .totals q => q.toClauses.readable e = true ∧
      answer = [(q.row e.toClickHouse ctx table).map fun column => (column.1, metricCell column.2)]
  | .grouped q => q.Answer e ctx table answer

end BuiltQuery

end Veridian.Analytics
