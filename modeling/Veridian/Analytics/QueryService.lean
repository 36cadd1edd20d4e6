/-
`AnalyticsService.query` behind its cache.

The request is checked, its dates are resolved, and one query is built, or two when there is
a period to compare with; the rows of a time series are completed to one for each date.
What the date library and `Intl` say at the instant of the request is a `DateLibrary`.
-/
import Veridian.Analytics.Parameters

namespace Veridian.Analytics

variable {N : Type}

/-! ### Dates -/

structure DateLibrary where
  validTimezone : String → Bool
  resolve : String → String → String × String
  shift : String → String → String × String
  /-- The dates of `fillGaps` from a start to an end in a timezone. -/
  allDates : Granularity → String → String → String → List String
  /-- `dayjs(value).format(dateFormat)` -/
  dateKey : Granularity → Cell → String

def DATE_PRESETS : List String :=
  ["previous_30_minutes", "today", "yesterday", "previous_7_days", "previous_14_days",
   "previous_28_days", "previous_30_days", "previous_90_days", "previous_91_days", "this_week",
   "previous_week", "this_month", "previous_month", "this_quarter", "previous_quarter",
   "this_year", "previous_year", "previous_12_months", "all_time"]

structure ResolvedDates where
  start : Option String
  stop : Option String

/-- The dates of a preset, as `resolve` or `shift` has them. -/
def presetDates (dates : DateLibrary) (range : String → String → String × String)
    (preset tz : String) : Except String ResolvedDates :=
  if dates.validTimezone tz = false then .error ("Invalid time zone specified: " ++ tz)
  else if DATE_PRESETS.contains preset then
    .ok ⟨some (range preset tz).1, some (range preset tz).2⟩
  else .error ("Unknown date preset: " ++ preset)

def resolveDatePreset (dates : DateLibrary) := presetDates dates dates.resolve

def shiftPresetToPreviousPeriod (dates : DateLibrary) := presetDates dates dates.shift

/-- A text that is not empty. -/
def truthy (s : Option String) : Option String := s.filter (· ≠ "")

/-- The dates that a range stands for. -/
def resolvedDates (dates : DateLibrary) (range : DateRangeDto) (tz : String) :
    Except String ResolvedDates :=
  match truthy range.preset with
  | some preset => resolveDatePreset dates preset tz
  | none => .ok ⟨range.start, range.stop⟩

/-- `isoString.replace('T', ' ').slice(0, -1)` for what has a `T`. -/
def toClickHouseDate (s : String) : String :=
  if s.toList.contains 'T' then
    let (date, time) := s.toList.span (· ≠ 'T')
    Text.dropLast (String.ofList (date ++ ' ' :: time.tail))
  else s

def ResolvedDates.toClickHouse (r : ResolvedDates) : ResolvedDates :=
  ⟨r.start.map toClickHouseDate, r.stop.map toClickHouseDate⟩

def timezoneOf (requested workspace : Option String) : String :=
  ((truthy requested).or (truthy workspace)).getD "UTC"

/-! ### Gap filling -/

/-- `String(value)`, and nothing for what is missing. -/
def cellString (numeral : ℚ → String) : Option Cell → String
  | some (.text s) => s
  | some (.number x) => numeral x
  | some (.boolean true) => "true"
  | some (.boolean false) => "false"
  | some .null | none => ""

def zeroRow (dateColumn date : String) (dimensions : List (String × String))
    (metrics : List String) : ResultRow :=
  (dateColumn, .text date) :: (dimensions.map fun d => (d.1, .text d.2)) ++
    metrics.map fun m => (m, .number 0)

/-- One row for each date, and for each combination of dimensions that has a row. -/
def fillGaps (numeral : ℚ → String) (allDates : List String) (dateKey : Cell → String)
    (dateColumn : String) (metrics dimensions : List String) (data : List ResultRow) :
    List ResultRow :=
  let dateOf (row : ResultRow) : String := dateKey ((row.lookup dateColumn).getD .null)
  if dimensions.isEmpty then
    allDates.map fun date =>
      (data.reverse.find? fun row => dateOf row = date).getD (zeroRow dateColumn date [] metrics)
  else
    let comboOf (row : ResultRow) : String :=
      "|".intercalate (dimensions.map fun d => cellString numeral (row.lookup d))
    let combos := (data.map comboOf).eraseDups
    allDates.flatMap fun date => combos.map fun combo =>
      let keyed := data.reverse.find? fun row =>
        dateOf row ++ "|" ++ comboOf row = date ++ "|" ++ combo
      keyed.getD (zeroRow dateColumn date (dimensions.zip (combo.splitOn "|")) metrics)

/-! ### The service -/

/-- One query with the range of its rows. -/
structure Period (N : Type) where
  query : BuiltQuery N
  dates : ResolvedDates

structure Execution (N : Type) where
  metrics : List String
  dimensions : List String
  granularity : Option Granularity
  timezone : String
  current : Period N
  previous : Option (Period N)

def buildPeriod (dates : DateLibrary) (number : N → ℚ) (dto : AnalyticsQueryDto N) (tz : String)
    (range : ResolvedDates) : Except String (Period N) :=
  let dateRange := { dto.dateRange with start := range.start, stop := range.stop }
  (buildAnalyticsQuery number dates.validTimezone { dto with dateRange } tz).map fun query =>
    ⟨query, range⟩

/-- The same preset for both periods stands for the period before. -/
def compareDates (dates : DateLibrary) (current compare : DateRangeDto) (tz : String) :
    Except String ResolvedDates :=
  match truthy compare.preset with
  | some preset =>
      if truthy current.preset = some preset then shiftPresetToPreviousPeriod dates preset tz
      else resolveDatePreset dates preset tz
  | none => .ok ⟨compare.start, compare.stop⟩

def executeQueryInternal (dates : DateLibrary) (number : N → ℚ) (dto : AnalyticsQueryDto N)
    (tz : String) : Except String (Execution N) := do
  let table := dto.table.getD .sessions
  let _ ← dto.metrics.mapM (metricOn table)
  let _ ← (dto.dimensions.getD []).mapM (dimensionOn table)
  let _ ← (dto.metricFilters.getD []).mapM fun filter => metricOn table filter.metric
  let range ← resolvedDates dates dto.dateRange tz
  let previousRange ← dto.compareDateRange.mapM fun compare =>
    compareDates dates dto.dateRange compare tz
  let current ← buildPeriod dates number dto tz range.toClickHouse
  let previous ← previousRange.mapM fun range => buildPeriod dates number dto tz range.toClickHouse
  return {
    current, previous
    metrics := dto.metrics
    dimensions := dto.dimensions.getD []
    granularity := dto.dateRange.granularity
    timezone := tz }

/-- What the lifetime of the entry is computed from must be there. -/
def checkTTL (dates : DateLibrary) (range : ResolvedDates) (tz : String) : Except String Unit :=
  if dates.validTimezone tz = false then .error ("Invalid time zone specified: " ++ tz)
  else if range.stop.isNone then
    .error "Cannot read properties of undefined (reading 'split')"
  else .ok ()

def query (dates : DateLibrary) (number : N → ℚ) (workspaceTimezone : Option String)
    (dto : AnalyticsQueryDto N) : Except String (Execution N) := do
  let tz := timezoneOf dto.timezone workspaceTimezone
  let range ← resolvedDates dates dto.dateRange tz
  let execution ← executeQueryInternal dates number dto tz
  checkTTL dates range tz
  return execution

/-- The data of the response, for the rows that a period's query has answered. -/
def Execution.data (dates : DateLibrary) (numeral : ℚ → String) (x : Execution N)
    (period : Period N) (rows : List ResultRow) : List ResultRow :=
  match x.granularity, truthy period.dates.start, truthy period.dates.stop with
  | some g, some start, some stop =>
      fillGaps numeral (dates.allDates g start stop x.timezone) (dates.dateKey g)
        (granularityColumn g) x.metrics x.dimensions rows
  | _, _, _ => rows

end Veridian.Analytics
