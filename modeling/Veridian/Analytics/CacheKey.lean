/-
The key under which an answer is cached.

The key sorts metrics, dimensions and totals, and joins all parts with a separator.  The
builder reads two things that the key does not tell: which metric came first, where a limit
cuts by it, and which preset the dates came from, where a comparison shifts by it.
-/
import Veridian.Analytics.QueryService

namespace Veridian.Analytics

variable {N : Type}

/-! ### The parts of the key -/

/-- The numbers of a request, with those that the code writes itself. -/
structure Numbers (N : Type) extends Json.Numerals N where
  number : N → ℚ
  literal : Nat → N
  number_literal : ∀ n, number (literal n) = n

/-- `value || n` -/
def orLiteral (ns : Numbers N) (value : Option N) (n : Nat) : N :=
  (value.filter fun x => ns.number x ≠ 0).getD (ns.literal n)

def FilterOperator.text : FilterOperator → String
  | .equals => "equals"
  | .notEquals => "notEquals"
  | .in => "in"
  | .notIn => "notIn"
  | .contains => "contains"
  | .notContains => "notContains"
  | .gt => "gt"
  | .gte => "gte"
  | .lt => "lt"
  | .lte => "lte"
  | .isNull => "isNull"
  | .isNotNull => "isNotNull"
  | .between => "between"
  | .isEmpty => "isEmpty"
  | .isNotEmpty => "isNotEmpty"

def granularityText : Granularity → String
  | .hour => "hour"
  | .day => "day"
  | .week => "week"
  | .month => "month"
  | .year => "year"

/-- A field that may be missing. -/
def member (name : String) (value : Option (Json N)) : List (String × Json N) :=
  value.toList.map fun v => (name, v)

def filterJson (f : FilterDto N) : Json N :=
  .obj (("dimension", .str f.dimension) :: ("operator", .str f.operator.text) ::
    member "values" (f.values.map .arr))

def metricFilterJson (f : MetricFilterDto N) : Json N :=
  .obj [("metric", .str f.metric), ("operator", .str f.operator.asFilter.text),
    ("values", .arr f.values)]

def dateRangeJson (r : DateRangeDto) : Json N :=
  .obj (member "start" (r.start.map .str) ++ (member "end" (r.stop.map .str) ++
    (member "preset" (r.preset.map .str) ++
      member "granularity" (r.granularity.map fun g => .str (granularityText g)))))

def orderJson (entries : List (String × String)) : Json N :=
  .obj (entries.map fun entry => (entry.1, .str entry.2))

/-- `[...names].sort().join(',')` -/
def sortedJoin (names : List String) : List Char :=
  Text.join ',' ((names.insertionSort fun a b => Text.codeUnits a ≤ Text.codeUnits b).map
    String.toList)

example : sortedJoin ["sessions", "bounce_rate"] = "bounce_rate,sessions".toList := by
  decide +kernel

/-- `join` writes nothing for what is undefined. -/
def dateText (date : Option String) : List Char := (date.getD "").toList

def keyParts (ns : Numbers N) (dto : AnalyticsQueryDto N) (range : ResolvedDates) (tz : String) :
    List (List Char) :=
  [dto.workspaceId.toList,
   (dto.table.getD .sessions).text.toList,
   sortedJoin dto.metrics,
   sortedJoin (dto.dimensions.getD []),
   sortedJoin (dto.totalsGroupBy.getD []),
   dateText range.start,
   dateText range.stop,
   dateText (dto.dateRange.granularity.map granularityText),
   tz.toList,
   ns.numeral (orLiteral ns dto.limit 1000),
   Json.text ns.toNumerals (.arr ((dto.filters.getD []).map filterJson)),
   Json.text ns.toNumerals (.arr ((dto.metricFilters.getD []).map metricFilterJson)),
   Json.text ns.toNumerals (orderJson (dto.order.getD [])),
   (dto.compareDateRange.map fun r => Json.text ns.toNumerals (dateRangeJson r)).getD [],
   ns.numeral (orLiteral ns dto.havingMinSessions 0)]

/-- What `generateCacheKey` hashes. -/
def hashedText (ns : Numbers N) (dto : AnalyticsQueryDto N) (range : ResolvedDates) (tz : String) :
    List Char :=
  Text.join '|' (keyParts ns dto range tz)

/-! ### The claim and its condition -/

/-- The same set of rows, each taken as the set of its columns. -/
def SameRows (answer answer' : List ResultRow) : Prop :=
  ∀ r, r ∈ answer.map List.toFinset ↔ r ∈ answer'.map List.toFinset

/-- On every table content, what one query may answer the other may answer too. -/
def SameAnswers (e : Engine N) (ctx : MetricContext) (q q' : BuiltQuery N) : Prop :=
  ∀ table,
    (∀ answer, q.Answer e ctx table answer →
      ∃ answer', q'.Answer e ctx table answer' ∧ SameRows answer answer') ∧
    ∀ answer', q'.Answer e ctx table answer' →
      ∃ answer, q.Answer e ctx table answer ∧ SameRows answer answer'

section Claim

variable (ns : Numbers N) (e : Engine N) (ctx : MetricContext) (dates : DateLibrary)
variable (workspaceTimezone : Option String)

/-- Two executions have the same answers, for the period and for the one to compare with. -/
def SameExecution (x x' : Execution N) : Prop :=
  SameAnswers e ctx x.current.query x'.current.query ∧
    Option.Rel (fun p p' => SameAnswers e ctx p.query p'.query) x.previous x'.previous

/-- Requests of one instant with one text to hash have the same answers. -/
def NeverConfused (d d' : AnalyticsQueryDto N) : Prop :=
  let tz := timezoneOf d.timezone workspaceTimezone
  let tz' := timezoneOf d'.timezone workspaceTimezone
  ∀ range range' x x',
    resolvedDates dates d.dateRange tz = .ok range →
    resolvedDates dates d'.dateRange tz' = .ok range' →
    hashedText ns d range tz = hashedText ns d' range' tz' →
    executeQueryInternal dates ns.number d tz = .ok x →
    executeQueryInternal dates ns.number d' tz' = .ok x' → SameExecution e ctx x x'

/-- No text that goes into the key as it is has the separator. -/
structure NoSeparator (d : AnalyticsQueryDto N) : Prop where
  workspaceId : '|' ∉ d.workspaceId.toList
  totalsGroupBy : ∀ name ∈ d.totalsGroupBy.getD [], '|' ∉ name.toList
  timezone : '|' ∉ (timezoneOf d.timezone workspaceTimezone).toList
  dates : ∀ range, resolvedDates dates d.dateRange (timezoneOf d.timezone workspaceTimezone) =
    .ok range → '|' ∉ dateText range.start ∧ '|' ∉ dateText range.stop

/-- Nothing that the key leaves out matters: the first metric does where groups are ordered by it
alone, and the preset where the other period has one. -/
structure Told (d d' : AnalyticsQueryDto N) : Prop where
  noSeparator : NoSeparator dates workspaceTimezone d
  noSeparator' : NoSeparator dates workspaceTimezone d'
  firstMetric : d.dateRange.granularity = none → projectedOrderEntries d = [] →
    d.dimensions.getD [] ≠ [] → d.metrics.head? = d'.metrics.head?
  preset : ∀ compare ∈ d.compareDateRange, ∀ preset ∈ truthy compare.preset,
    (truthy d.dateRange.preset = some preset ↔ truthy d'.dateRange.preset = some preset)

end Claim

end Veridian.Analytics
