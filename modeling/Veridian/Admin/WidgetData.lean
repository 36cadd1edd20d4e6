/-
`widgetData`: a stored widget as an analytics request.

What `validateWidgetsArray` accepts names metrics and dimensions that its table has, so no
check of the query refuses it.  It does not look at the values of a filter, though, and it
lets a time series have a limit, which then limits nothing.  The range of dates and the
timezone come with the request, which checks less than a request for analytics does.
-/
import Veridian.Analytics.QueryService
import Veridian.Lib.Assoc

namespace Veridian.Analytics.WidgetData

/-! ### The catalog -/

def WIDGET_SAFE_METRICS : List (String × List AnalyticsTable) :=
  [("sessions", [.sessions]), ("unique_visitors", [.sessions]), ("pageviews", [.sessions]),
   ("pages_per_session", [.sessions]), ("bounce_rate", [.sessions]),
   ("median_duration", [.sessions]), ("median_scroll", [.sessions]), ("page_count", [.pages]),
   ("unique_pages", [.pages]), ("page_duration", [.pages]), ("page_scroll", [.pages]),
   ("landing_page_count", [.pages]), ("exit_page_count", [.pages]), ("exit_rate", [.pages]),
   ("goals", [.goals]), ("sum_goal_value", [.goals]), ("avg_goal_value", [.goals]),
   ("median_goal_value", [.goals]), ("unique_sessions_with_goals", [.goals])]

def WIDGET_SAFE_DIMENSIONS : List (String × List AnalyticsTable) :=
  [("channel", bySession), ("channel_group", bySession), ("first_touch_channel", bySession),
   ("first_touch_channel_group", bySession), ("referrer_domain", bySession),
   ("is_direct", bySession), ("utm_source", bySession), ("utm_medium", bySession),
   ("utm_campaign", bySession), ("utm_term", bySession), ("utm_content", bySession),
   ("landing_domain", bySession), ("landing_path", bySession), ("exit_path", [.sessions]),
   ("page_path", [.pages]), ("page_entry_type", [.pages]), ("device", bySession),
   ("browser", bySession), ("browser_type", bySession), ("os", bySession),
   ("connection_type", bySession), ("country", bySession), ("region", bySession),
   ("city", bySession), ("language", bySession), ("day_of_week", bySession),
   ("hour", bySession), ("is_weekend", bySession), ("goal_name", [.goals]),
   ("goal_path", [.goals]), ("phone_source", [.goals]), ("phone_direction", [.goals]),
   ("phone_status", [.goals]), ("variant", [.goals])]

def WIDGET_CATALOG : WidgetCatalog where
  safeMetrics := WIDGET_SAFE_METRICS
  safeDimensions := WIDGET_SAFE_DIMENSIONS
  metrics := METRICS.map fun m => (m.name, m.tables)
  dimensions := DIMENSIONS.map fun d => (d.name, d.tables)

/-! ### The request -/

structure WidgetDataDto where
  workspaceId : String
  widgetId : String
  dateRange : DateRangeDto
  timezone : Option String

def filterOperator : WidgetFilterOperator → FilterOperator
  | .equals => .equals
  | .notEquals => .notEquals
  | .in => .in
  | .notIn => .notIn
  | .contains => .contains
  | .notContains => .notContains
  | .isNull => .isNull
  | .isNotNull => .isNotNull
  | .isEmpty => .isEmpty
  | .isNotEmpty => .isNotEmpty

/-- `parse` reads the stored JSON. -/
def filterDto (parse : String → Json ℚ) (f : WidgetFilter) : FilterDto ℚ :=
  ⟨f.dimension, filterOperator f.operator, f.values.map (·.map parse)⟩

/-- The request that a widget stands for. -/
def analyticsQuery (parse : String → Json ℚ) (dto : WidgetDataDto) (w : DashboardWidget) :
    AnalyticsQueryDto ℚ where
  workspaceId := dto.workspaceId
  table := some (w.table.getD .sessions)
  metrics := [w.metric]
  dimensions := some w.dimension.toList
  dateRange := { dto.dateRange with
    granularity := if w.kind = .timeSeries then w.granularity else none }
  filters := some ((w.filters.getD []).map (filterDto parse))
  limit := if w.kind = .dimensionTable then some ((w.limit.getD 10 : Int) : ℚ) else none
  timezone := truthy dto.timezone
  metricFilters := none
  compareDateRange := none
  order := none
  havingMinSessions := none
  totalsGroupBy := none

/-- The stored widget is checked once more before it is resolved. -/
def widgetData (dates : DateLibrary) (parse : String → Json ℚ) (workspaceTimezone : Option String)
    (widgets : List DashboardWidget) (dto : WidgetDataDto) :
    Except String (DashboardWidget × Execution ℚ) :=
  match widgets.find? (·.id = dto.widgetId) with
  | none => .error ("No custom widget '" ++ dto.widgetId ++ "' in workspace '" ++
      dto.workspaceId ++ "'")
  | some w =>
      match validateWidgetsArray WIDGET_CATALOG [w] with
      | error :: _ => .error error
      | [] => (query dates id workspaceTimezone (analyticsQuery parse dto w)).map fun x => (w, x)

/-! ### The claim and its condition -/

/-- The rows that a widget may have: what its limit says, and otherwise 10 for a table and 1 for
a card. -/
def rowLimit (w : DashboardWidget) : Option Int :=
  match w.kind with
  | .dimensionTable => some (w.limit.getD 10)
  | .metricCard => some (w.limit.getD 1)
  | .timeSeries => w.limit

section Claim

variable (dates : DateLibrary) (e : Engine ℚ) (ctx : MetricContext) (numeral : ℚ → String)
variable (parse : String → Json ℚ) (workspaceTimezone : Option String)

/-- The widget is found and no check refuses it, its query is bound, and whatever ClickHouse
answers is within its limit. -/
def Resolves (widgets : List DashboardWidget) (dto : WidgetDataDto) (w : DashboardWidget) : Prop :=
  ∃ x, widgetData dates parse workspaceTimezone widgets dto = .ok (w, x) ∧
    x.current.query.Bound numeral ∧
    ∀ table answer, x.current.query.Answer e ctx table answer → ∀ limit ∈ rowLimit w,
      ((x.data dates numeral x.current answer).length : Int) ≤ limit

/-- The dates that a range with a known preset stands for. -/
def rangeOf (range : DateRangeDto) (tz : String) : ResolvedDates :=
  match truthy range.preset with
  | some preset => ⟨some (dates.resolve preset tz).1, some (dates.resolve preset tz).2⟩
  | none => ⟨range.start, range.stop⟩

/-- The dates of the range, as they are bound. -/
def datesOf (range : DateRangeDto) (tz : String) : ResolvedDates :=
  (rangeOf dates range tz).toClickHouse

/-- What is bound as a String is one. -/
def bindsStrings (f : WidgetFilter) : Bool :=
  match f.operator with
  | .equals | .notEquals => (f.values.bind (·[0]?)).any fun v => isString (parse v)
  | .in | .notIn => f.values.any (·.all fun v => isString (parse v))
  | _ => true

structure Resolvable (range : DateRangeDto) (tz : String) (w : DashboardWidget) : Prop where
  timezone : dates.validTimezone tz = true
  preset : ∀ preset ∈ truthy range.preset, preset ∈ DATE_PRESETS
  start : (datesOf dates range tz).start.isSome = true
  stop : (datesOf dates range tz).stop.isSome = true
  values : ∀ f ∈ w.filters.getD [], bindsStrings parse f = true
  series : w.kind = .timeSeries → ∀ limit ∈ w.limit, ∀ g ∈ w.granularity,
    ∀ start ∈ (datesOf dates range tz).start, ∀ stop ∈ (datesOf dates range tz).stop,
      e.readable start = true → e.readable stop = true →
        ((dates.allDates g start stop tz).length : Int) ≤ limit

end Claim

/-! ### The checks of the query -/

/-- What is available is found in the list that the entries were made of. -/
theorem exists_of_available {α : Type} {l : List α} {name : α → String}
    {tables : α → List AnalyticsTable} {key : String} {table : AnalyticsTable}
    (h : availableOn (l.map fun a => (name a, tables a)) key table = true) :
    ∃ a, l.find? (fun a => name a = key) = some a ∧ (tables a).contains table = true := by
  rw [availableOn, Assoc.lookup_map] at h
  obtain ⟨ts, hts, hcontains⟩ := Option.any_eq_true _ _ |>.mp h
  obtain ⟨a, ha, rfl⟩ := Option.map_eq_some_iff.mp hts
  exact ⟨a, ha, hcontains⟩

theorem metricOn_of_available {key : String} {table : AnalyticsTable}
    (h : availableOn WIDGET_CATALOG.metrics key table = true) :
    ∃ m, metricOn table key = .ok m := by
  obtain ⟨m, hm, htable⟩ := exists_of_available h
  refine ⟨m, ?_⟩
  have hmetric : metric? key = some m := hm
  simp only [metricOn, hmetric, htable, if_true]

theorem dimensionOn_of_available {key : String} {table : AnalyticsTable}
    (h : availableOn WIDGET_CATALOG.dimensions key table = true) :
    ∃ d, dimensionOn table key = .ok d := by
  obtain ⟨d, hd, htable⟩ := exists_of_available h
  refine ⟨d, ?_⟩
  have hdimension : dimension? key = some d := hd
  simp only [dimensionOn, hdimension, htable, if_true]

theorem columnOn_of_dimensionOn {key : String} {table : AnalyticsTable} {d : DimensionDefinition}
    (h : dimensionOn table key = .ok d) : columnOn table key = .ok d.column := by
  unfold dimensionOn at h
  unfold columnOn
  cases hd : dimension? key with
  | none => rw [hd] at h; exact absurd h (by simp)
  | some d' =>
      rw [hd] at h
      simp only at h ⊢
      by_cases htable : d'.tables.contains table = true
      · rw [if_pos htable] at h ⊢
        rw [Except.ok.inj h]
      · rw [if_neg htable] at h
        exact absurd h (by simp)

theorem buildFilters_ok {filters : List (FilterDto ℚ)} {table : AnalyticsTable}
    (h : ∀ f ∈ filters, availableOn WIDGET_CATALOG.dimensions f.dimension table = true) :
    ∃ conditions, buildFilters filters table = .ok conditions := by
  refine Checked.exists_mapM_eq_ok fun f hf => ?_
  obtain ⟨d, hd⟩ := dimensionOn_of_available (h f hf)
  refine ⟨⟨d.column, f.operator, f.values⟩, ?_⟩
  rw [columnOn_of_dimensionOn hd]
  rfl

/-- A condition has its filter's operator and values. -/
theorem buildFilters_values {filters : List (FilterDto ℚ)} {table : AnalyticsTable}
    {conditions : List (Condition ℚ)} (h : buildFilters filters table = .ok conditions) :
    conditions.map (fun c => (c.operator, c.values)) =
      filters.map fun f => (f.operator, f.values) := by
  have hall := Checked.mapM_eq_ok_iff.mp h
  clear h
  induction hall with
  | nil => rfl
  | cons hc _ ih =>
      obtain ⟨column, -, hcondition⟩ := Checked.bind_eq_ok_iff.mp hc
      obtain rfl := Except.ok.inj hcondition
      rw [List.map_cons, List.map_cons, ih]

/-! ### The query of a widget -/

/-- The request with the dates that it stands for. -/
def rangedQuery (parse : String → Json ℚ) (dto : WidgetDataDto) (w : DashboardWidget)
    (range : ResolvedDates) : AnalyticsQueryDto ℚ :=
  { analyticsQuery parse dto w with
    dateRange := { (analyticsQuery parse dto w).dateRange with
      start := range.start, stop := range.stop } }

section Query

variable {dates : DateLibrary} {parse : String → Json ℚ} {dto : WidgetDataDto}
  {w : DashboardWidget} {range : ResolvedDates} {tz : String}

/-- **No check of the builder refuses a widget that is stored.** -/
theorem builtFrom_widget (hw : WellFormedWidget WIDGET_CATALOG w)
    (htz : dates.validTimezone tz = true) :
    ∃ q : GroupedQuery ℚ, q.BuiltFrom id dates.validTimezone (rangedQuery parse dto w range) tz := by
  obtain ⟨m, hm⟩ := metricOn_of_available hw.metric
  obtain ⟨ds, hds⟩ : ∃ ds, w.dimension.toList.mapM (dimensionOn (w.table.getD .sessions)) = .ok ds :=
    Checked.exists_mapM_eq_ok fun d hd =>
      dimensionOn_of_available (hw.dimension d (Option.mem_toList.mp hd))
  obtain ⟨cs, hcs⟩ : ∃ cs, buildFilters ((w.filters.getD []).map (filterDto parse))
      (w.table.getD .sessions) = .ok cs := by
    refine buildFilters_ok fun f hf => ?_
    obtain ⟨g, hg, rfl⟩ := List.mem_map.mp hf
    exact hw.filters g hg
  obtain ⟨z, hz⟩ : ∃ z, bucketTimezone dates.validTimezone
      (rangedQuery parse dto w range).dateRange.granularity tz = .ok z := by
    simp only [bucketTimezone, htz, if_true]
    split
    · exact ⟨none, rfl⟩
    · exact ⟨some tz, rfl⟩
  obtain ⟨items, hitems⟩ : ∃ items, orderBy (rangedQuery parse dto w range) = .ok items := by
    cases hg : (rangedQuery parse dto w range).dateRange.granularity with
    | none => exact ⟨[⟨.metric w.metric, "DESC"⟩], by unfold orderBy; rw [hg]; rfl⟩
    | some g => exact ⟨[⟨.granularity, "ASC"⟩], by unfold orderBy; rw [hg]; rfl⟩
  refine ⟨{ table := w.table.getD .sessions, start := range.start, stop := range.stop,
            conditions := cs, havingMinSessions := none, metricConditions := [],
            granularity := (rangedQuery parse dto w range).dateRange.granularity, timezone := z,
            dimensions := ds, metrics := [m], order := items,
            limit := limitOf id (rangedQuery parse dto w range).limit }, ?_⟩
  refine ⟨?_, hds, hz, hcs, rfl, hitems, rfl, rfl, rfl, rfl, rfl, rfl⟩
  exact Checked.mapM_eq_ok_iff.mpr (List.Forall₂.cons hm List.Forall₂.nil)

/-- The dates of the request, with the checks that they pass. -/
theorem resolvedDates_eq_ok_iff {r : ResolvedDates} (htz : dates.validTimezone tz = true) :
    resolvedDates dates dto.dateRange tz = .ok r ↔
      (∀ preset ∈ truthy dto.dateRange.preset, preset ∈ DATE_PRESETS) ∧
        r = rangeOf dates dto.dateRange tz := by
  unfold resolvedDates rangeOf
  cases truthy dto.dateRange.preset with
  | none =>
      show Except.ok _ = Except.ok r ↔ _
      exact ⟨fun h => ⟨fun p hp => absurd hp (by simp), (Except.ok.inj h).symm⟩,
        fun h => congrArg Except.ok h.2.symm⟩
  | some preset =>
      simp only [resolveDatePreset, presetDates, htz, Bool.true_eq_false, if_false]
      by_cases hpreset : DATE_PRESETS.contains preset = true
      · rw [if_pos hpreset]
        refine ⟨fun h => ⟨fun p hp => ?_, (Except.ok.inj h).symm⟩,
          fun h => congrArg Except.ok h.2.symm⟩
        obtain rfl := Option.mem_some.mp hp
        exact List.contains_iff_mem.mp hpreset
      · rw [if_neg hpreset]
        refine ⟨fun h => absurd h (by simp), fun h => absurd (h.1 preset rfl) fun hmem => ?_⟩
        exact hpreset (List.contains_iff_mem.mpr hmem)

/-- The execution of a widget's query. -/
def executionOf (w : DashboardWidget) (tz : String) (range : ResolvedDates) (q : GroupedQuery ℚ) :
    Execution ℚ where
  metrics := [w.metric]
  dimensions := w.dimension.toList
  granularity := if w.kind = .timeSeries then w.granularity else none
  timezone := tz
  current := ⟨.grouped q, range⟩
  previous := none

theorem buildPeriod_widget {q : GroupedQuery ℚ}
    (hq : q.BuiltFrom id dates.validTimezone (rangedQuery parse dto w range) tz) :
    buildPeriod dates id (analyticsQuery parse dto w) tz range = .ok ⟨.grouped q, range⟩ := by
  have hbuilt : buildAnalyticsQuery id dates.validTimezone (rangedQuery parse dto w range) tz =
      .ok (.grouped q) := by
    show (buildGroupedQuery id dates.validTimezone (rangedQuery parse dto w range) tz).map _ = _
    rw [buildGroupedQuery_eq_ok_iff.mpr hq]
    rfl
  show (buildAnalyticsQuery id dates.validTimezone (rangedQuery parse dto w range) tz).map _ = _
  rw [hbuilt]
  rfl

theorem execute_widget {q : GroupedQuery ℚ} (htz : dates.validTimezone tz = true)
    (hpreset : ∀ preset ∈ truthy dto.dateRange.preset, preset ∈ DATE_PRESETS)
    (hq : q.BuiltFrom id dates.validTimezone
      (rangedQuery parse dto w (datesOf dates dto.dateRange tz)) tz) :
    executeQueryInternal dates id (analyticsQuery parse dto w) tz =
      .ok (executionOf w tz (datesOf dates dto.dateRange tz) q) := by
  refine Checked.bind_eq_ok_iff.mpr ⟨q.metrics, hq.metrics, ?_⟩
  refine Checked.bind_eq_ok_iff.mpr ⟨q.dimensions, hq.dimensions, ?_⟩
  refine Checked.bind_eq_ok_iff.mpr ⟨[], rfl, ?_⟩
  refine Checked.bind_eq_ok_iff.mpr
    ⟨rangeOf dates dto.dateRange tz, (resolvedDates_eq_ok_iff htz).mpr ⟨hpreset, rfl⟩, ?_⟩
  refine Checked.bind_eq_ok_iff.mpr ⟨none, rfl, ?_⟩
  exact Checked.bind_eq_ok_iff.mpr ⟨_, buildPeriod_widget hq, rfl⟩

theorem checkTTL_eq_ok_iff : checkTTL dates range tz = .ok () ↔
    dates.validTimezone tz = true ∧ range.stop.isSome = true := by
  unfold checkTTL
  cases dates.validTimezone tz with
  | false => simp
  | true =>
      cases range.stop with
      | none => simp
      | some stop => simp

/-- **The service runs the query of a stored widget when it can make sense of its dates.** -/
theorem query_widget_eq_ok_iff {workspaceTimezone : Option String} {x : Execution ℚ}
    (hw : WellFormedWidget WIDGET_CATALOG w)
    (htz : timezoneOf (analyticsQuery parse dto w).timezone workspaceTimezone = tz) :
    query dates id workspaceTimezone (analyticsQuery parse dto w) = .ok x ↔
      dates.validTimezone tz = true ∧
        (∀ preset ∈ truthy dto.dateRange.preset, preset ∈ DATE_PRESETS) ∧
        (rangeOf dates dto.dateRange tz).stop.isSome = true ∧
        ∃ q : GroupedQuery ℚ, x = executionOf w tz (datesOf dates dto.dateRange tz) q ∧
          q.BuiltFrom id dates.validTimezone
            (rangedQuery parse dto w (datesOf dates dto.dateRange tz)) tz := by
  simp only [query, htz, Checked.bind_eq_ok_iff]
  constructor
  · rintro ⟨r, hr, x', hx, ⟨⟩, hcheck, hreturn⟩
    obtain rfl := Except.ok.inj hreturn
    obtain ⟨hvalid, hstop⟩ := checkTTL_eq_ok_iff.mp hcheck
    obtain ⟨hpreset, rfl⟩ := (resolvedDates_eq_ok_iff hvalid).mp hr
    obtain ⟨q, hq⟩ : ∃ q : GroupedQuery ℚ, q.BuiltFrom id dates.validTimezone
        (rangedQuery parse dto w (datesOf dates dto.dateRange tz)) tz := builtFrom_widget hw hvalid
    rw [execute_widget hvalid hpreset hq] at hx
    exact ⟨hvalid, hpreset, hstop, q, (Except.ok.inj hx).symm, hq⟩
  · rintro ⟨hvalid, hpreset, hstop, q, rfl, hq⟩
    exact ⟨_, (resolvedDates_eq_ok_iff hvalid).mpr ⟨hpreset, rfl⟩, _,
      execute_widget hvalid hpreset hq, (), checkTTL_eq_ok_iff.mpr ⟨hvalid, hstop⟩, rfl⟩

/-! ### Its parameters -/

theorem typed_date {date : Option String} :
    (date.map (Json.str (N := ℚ))).any (hasType .string) = true ↔ date.isSome = true := by
  cases date with
  | none => simp
  | some s => simp [hasType, isString]

/-- A filter's arguments have their types when what is bound as a String is one. -/
theorem typed_arguments (numeral : ℚ → String) (f : WidgetFilter) :
    (∀ a ∈ argumentsOf numeral (filterDto parse f).values (filterDto parse f).operator,
      a.value.any (hasType a.type) = true) ↔ bindsStrings parse f = true := by
  obtain ⟨dimension, operator, values⟩ := f
  cases operator
  all_goals
    cases values with
    | none => simp [argumentsOf, bindsStrings, filterDto, filterOperator, hasType, isString]
    | some vs =>
        cases vs with
        | nil => simp [argumentsOf, bindsStrings, filterDto, filterOperator, hasType, isString]
        | cons v rest =>
            simp [argumentsOf, bindsStrings, filterDto, filterOperator, hasType, isString]

theorem bound_widget_iff {numeral : ℚ → String} {q : GroupedQuery ℚ}
    (hq : q.BuiltFrom id dates.validTimezone (rangedQuery parse dto w range) tz) :
    (BuiltQuery.grouped q).Bound numeral ↔ range.start.isSome = true ∧ range.stop.isSome = true ∧
      ∀ f ∈ w.filters.getD [], bindsStrings parse f = true := by
  have hmetric : q.metricConditions = [] := (Except.ok.inj hq.metricConditions).symm
  have hmentioned : q.toClauses.mentioned numeral q.hasGroups =
      q.toClauses.dateParameters ++ q.toClauses.filterParameters numeral := by
    simp [Clauses.mentioned, Clauses.metricParameters, hmetric, numbered]
  have hvalues := buildFilters_values hq.conditions
  rw [BuiltQuery.bound_iff]
  show (∀ p ∈ q.toClauses.mentioned numeral q.hasGroups, _) ↔ _
  rw [hmentioned, List.forall_mem_append]
  have hdates : (∀ p ∈ q.toClauses.dateParameters, p.value.any (hasType p.type) = true) ↔
      range.start.isSome = true ∧ range.stop.isSome = true := by
    have hstart : q.start = range.start := hq.start
    have hstop : q.stop = range.stop := hq.stop
    simp only [Clauses.dateParameters, List.forall_mem_cons, List.not_mem_nil, false_implies,
      implies_true, and_true, hstart, hstop, typed_date]
  have hfilters : (∀ p ∈ q.toClauses.filterParameters numeral,
      p.value.any (hasType p.type) = true) ↔
        ∀ f ∈ w.filters.getD [], bindsStrings parse f = true := by
    have harguments : q.conditions.map (fun c => argumentsOf numeral c.values c.operator) =
        (w.filters.getD []).map fun f =>
          argumentsOf numeral (filterDto parse f).values (filterDto parse f).operator := by
      have hmap := congrArg (List.map fun p => argumentsOf numeral p.2 p.1) hvalues
      rwa [List.map_map, List.map_map, show (rangedQuery parse dto w range).filters.getD [] =
        (w.filters.getD []).map (filterDto parse) from rfl, List.map_map] at hmap
    show (∀ p ∈ numbered "f" (q.conditions.map fun c => argumentsOf numeral c.values c.operator),
      p.value.any (hasType p.type) = true) ↔ _
    rw [harguments, forall_mem_numbered (P := fun type value => value.any (hasType type) = true),
      List.forall_mem_map]
    exact forall₂_congr fun f _ => typed_arguments numeral f
  rw [hdates, hfilters, and_assoc]

/-! ### Its rows -/

theorem length_fillGaps_nil {numeral : ℚ → String} {allDates : List String}
    {dateKey : Cell → String} {dateColumn : String} {metrics : List String}
    {data : List ResultRow} :
    (fillGaps numeral allDates dateKey dateColumn metrics [] data).length = allDates.length := by
  show (allDates.map _).length = _
  exact List.length_map _

section Rows

variable {e : Engine ℚ} {ctx : MetricContext} {numeral : ℚ → String} {q : GroupedQuery ℚ}
  {table : List Row} {answer : List ResultRow}

theorem limitOf_widget {l : Int} (hl : 1 ≤ l ∧ l ≤ 1000) : ⌊limitOf id (some (l : ℚ))⌋₊ = l.toNat := by
  have hzero : (l : ℚ) ≠ 0 := by exact_mod_cast (by omega : l ≠ 0)
  have hmin : min (l : ℚ) 10000 = l := min_eq_left (by exact_mod_cast (by omega : l ≤ 10000))
  show ⌊min (if (l : ℚ) = 0 then 1000 else (l : ℚ)) 10000⌋₊ = l.toNat
  rw [if_neg hzero, hmin, ← Int.floor_toNat, Int.floor_intCast]

/-- A table has no more rows than its limit. -/
theorem table_within_limit (hw : WellFormedWidget WIDGET_CATALOG w) (hkind : w.kind = .dimensionTable)
    (hq : q.BuiltFrom id dates.validTimezone (rangedQuery parse dto w range) tz)
    (h : q.Answer e ctx table answer) : (answer.length : Int) ≤ w.limit.getD 10 := by
  have hrange : 1 ≤ w.limit.getD 10 ∧ w.limit.getD 10 ≤ 1000 := by
    cases hl : w.limit with
    | none => decide
    | some l => exact hw.limit l hl
  have hlimit : q.limit = limitOf id (some ((w.limit.getD 10 : Int) : ℚ)) := by
    rw [hq.limit]
    simp [rangedQuery, analyticsQuery, hkind]
  have hlength := GroupedQuery.length_le_of_answer h
  rw [hlimit, limitOf_widget hrange] at hlength
  omega

theorem dimensions_widget
    (hq : q.BuiltFrom id dates.validTimezone (rangedQuery parse dto w range) tz)
    (hnone : w.dimension = none) : q.dimensions = [] := by
  have hdims : w.dimension.toList.mapM (dimensionOn (w.table.getD .sessions)) = .ok q.dimensions :=
    hq.dimensions
  rw [hnone] at hdims
  exact (Except.ok.inj hdims).symm

theorem granularity_widget
    (hq : q.BuiltFrom id dates.validTimezone (rangedQuery parse dto w range) tz) :
    q.granularity = if w.kind = .timeSeries then w.granularity else none := hq.granularity

/-- A card has one row. -/
theorem card_within_limit (hw : WellFormedWidget WIDGET_CATALOG w) (hkind : w.kind = .metricCard)
    (hq : q.BuiltFrom id dates.validTimezone (rangedQuery parse dto w range) tz)
    (h : q.Answer e ctx table answer) : (answer.length : Int) ≤ w.limit.getD 1 := by
  have hnone : w.dimension = none := by
    have := hw.hasDimension
    rw [hkind] at this
    exact Option.isNone_iff_eq_none.mp (by simpa using this)
  have hgroups : q.hasGroups = false := by
    rw [GroupedQuery.hasGroups, granularity_widget hq, hkind, dimensions_widget hq hnone]
    rfl
  have hlength := GroupedQuery.length_le_one_of_answer hgroups h
  have hlimit : 1 ≤ w.limit.getD 1 := by
    cases hl : w.limit with
    | none => decide
    | some l => exact (hw.limit l hl).1
  omega

/-- A time series has one row for each date. -/
theorem length_data_series {g : Granularity} {start stop : String} (hkind : w.kind = .timeSeries)
    (hg : w.granularity = some g) (hnone : w.dimension = none) (hstart : e.readable start = true)
    (hstop : e.readable stop = true) :
    ((executionOf w tz ⟨some start, some stop⟩ q).data dates numeral
      ⟨.grouped q, ⟨some start, some stop⟩⟩ answer).length =
        (dates.allDates g start stop tz).length := by
  have nonempty : ∀ s, e.readable s = true → truthy (some s) = some s := by
    intro s hs
    have hne : s ≠ "" := by
      rintro rfl
      exact absurd hs (by rw [e.unreadable_empty]; decide)
    simp [truthy, hne]
  simp only [Execution.data, executionOf, hkind, if_true, hg, hnone, nonempty start hstart,
    nonempty stop hstop, Option.toList_none]
  exact length_fillGaps_nil

theorem accepted_series {g : Granularity}
    (hq : q.BuiltFrom id dates.validTimezone (rangedQuery parse dto w range) tz)
    (hg : q.granularity = some g) :
    q.accepted e = (range.start.any e.readable && range.stop.any e.readable) := by
  have horder : q.order = [⟨.granularity, "ASC"⟩] := by
    have h := hq.order
    unfold orderBy at h
    rw [← hq.granularity, hg] at h
    exact (Except.ok.inj h).symm
  have hstart : q.start = range.start := hq.start
  have hstop : q.stop = range.stop := hq.stop
  simp [GroupedQuery.accepted, Clauses.readable, horder, hstart, hstop]

theorem series_within_limit_iff (hw : WellFormedWidget WIDGET_CATALOG w)
    (hkind : w.kind = .timeSeries)
    (hq : q.BuiltFrom id dates.validTimezone (rangedQuery parse dto w range) tz) :
    (∀ table answer, q.Answer e ctx table answer → ∀ limit ∈ w.limit,
      (((executionOf w tz range q).data dates numeral ⟨.grouped q, range⟩ answer).length : Int) ≤
        limit) ↔
      ∀ limit ∈ w.limit, ∀ g ∈ w.granularity, ∀ start ∈ range.start, ∀ stop ∈ range.stop,
        e.readable start = true → e.readable stop = true →
          ((dates.allDates g start stop tz).length : Int) ≤ limit := by
  have hnone : w.dimension = none := by
    have := hw.hasDimension
    rw [hkind] at this
    exact Option.isNone_iff_eq_none.mp (by simpa using this)
  obtain ⟨g, hg⟩ : ∃ g, w.granularity = some g := by
    have := hw.hasGranularity
    rw [hkind] at this
    exact Option.isSome_iff_exists.mp (by simpa using this)
  have hgroups : q.granularity = some g := by
    rw [granularity_widget hq, if_pos hkind, hg]
  have haccepted := accepted_series (e := e) hq hgroups
  obtain ⟨start?, stop?⟩ := range
  constructor
  · intro h limit hl g' hg' start hstart stop hstop hreads hreadt
    obtain rfl : g = g' := Option.some.inj (hg.symm.trans hg')
    obtain rfl := Option.mem_def.mp hstart
    obtain rfl := Option.mem_def.mp hstop
    have hanswer : q.Answer e ctx [] [] := by
      refine GroupedQuery.answer_nil ?_ ?_
      · rw [GroupedQuery.hasGroups, hgroups]
        rfl
      · rw [haccepted]
        simp [hreads, hreadt]
    have hlength := h [] [] hanswer limit hl
    rwa [length_data_series hkind hg hnone hreads hreadt] at hlength
  · intro h table answer hanswer limit hl
    have hrun := hanswer.1
    rw [haccepted, Bool.and_eq_true] at hrun
    obtain ⟨start, hstart, hreads⟩ := (Option.any_eq_true _ _).mp hrun.1
    obtain ⟨stop, hstop, hreadt⟩ := (Option.any_eq_true _ _).mp hrun.2
    obtain rfl : start? = some start := hstart
    obtain rfl : stop? = some stop := hstop
    rw [length_data_series hkind hg hnone hreads hreadt]
    exact h limit hl g hg start rfl stop rfl hreads hreadt

end Rows

/-! ### Every stored widget -/

theorem timezoneOf_truthy (requested workspace : Option String) :
    timezoneOf (truthy requested) workspace = timezoneOf requested workspace := by
  simp [timezoneOf, truthy]

/-- A stored widget is found and valid, so its query is what is run. -/
theorem widgetData_eq {widgets : List DashboardWidget} {workspaceTimezone : Option String}
    (hvalid : validateWidgetsArray WIDGET_CATALOG widgets = []) (hw : w ∈ widgets)
    (hid : dto.widgetId = w.id) :
    widgetData dates parse workspaceTimezone widgets dto =
      (query dates id workspaceTimezone (analyticsQuery parse dto w)).map fun x => (w, x) := by
  obtain ⟨hall, hnodup, -⟩ := validateWidgetsArray_eq_nil hvalid
  unfold widgetData
  rw [hid, find_widget hnodup hw]
  simp only [validateWidgetsArray_singleton (hall w hw)]

theorem map_eq_ok_iff {x : Except String (Execution ℚ)} {y : Execution ℚ} :
    (x.map fun x => (w, x)) = .ok (w, y) ↔ x = .ok y := by
  rw [Checked.map_eq_ok_iff]
  simp

/-- The rows of each kind of widget are within its limit, those of a time series as far as its
dates are. -/
theorem rows_within_limit_iff {e : Engine ℚ} {ctx : MetricContext} {numeral : ℚ → String}
    {q : GroupedQuery ℚ} (hw : WellFormedWidget WIDGET_CATALOG w)
    (hq : q.BuiltFrom id dates.validTimezone (rangedQuery parse dto w range) tz) :
    (∀ table answer, q.Answer e ctx table answer → ∀ limit ∈ rowLimit w,
      (((executionOf w tz range q).data dates numeral ⟨.grouped q, range⟩ answer).length : Int) ≤
        limit) ↔
      (w.kind = .timeSeries → ∀ limit ∈ w.limit, ∀ g ∈ w.granularity,
        ∀ start ∈ range.start, ∀ stop ∈ range.stop,
          e.readable start = true → e.readable stop = true →
            ((dates.allDates g start stop tz).length : Int) ≤ limit) := by
  cases hkind : w.kind with
  | timeSeries =>
      simp only [rowLimit, hkind, true_implies]
      exact series_within_limit_iff hw hkind hq
  | metricCard =>
      refine ⟨fun _ h => absurd h (by decide), fun _ table answer h limit hl => ?_⟩
      have hdata : (executionOf w tz range q).data dates numeral ⟨.grouped q, range⟩ answer =
          answer := by simp [Execution.data, executionOf, hkind]
      rw [rowLimit, hkind] at hl
      obtain rfl := Option.some.inj hl
      rw [hdata]
      exact card_within_limit hw hkind hq h
  | dimensionTable =>
      refine ⟨fun _ h => absurd h (by decide), fun _ table answer h limit hl => ?_⟩
      have hdata : (executionOf w tz range q).data dates numeral ⟨.grouped q, range⟩ answer =
          answer := by simp [Execution.data, executionOf, hkind]
      rw [rowLimit, hkind] at hl
      obtain rfl := Option.some.inj hl
      rw [hdata]
      exact table_within_limit hw hkind hq h

theorem resolves_iff {e : Engine ℚ} {ctx : MetricContext} {numeral : ℚ → String}
    {workspaceTimezone : Option String} {widgets : List DashboardWidget}
    (hvalid : validateWidgetsArray WIDGET_CATALOG widgets = []) (hw : w ∈ widgets)
    (hid : dto.widgetId = w.id) :
    Resolves dates e ctx numeral parse workspaceTimezone widgets dto w ↔
      Resolvable dates e parse dto.dateRange (timezoneOf dto.timezone workspaceTimezone) w := by
  have hwell := wellFormed_of_validateWidgetConfig ((validateWidgetsArray_eq_nil hvalid).1 w hw)
  have htz := timezoneOf_truthy dto.timezone workspaceTimezone
  unfold Resolves
  rw [widgetData_eq hvalid hw hid]
  constructor
  · rintro ⟨x, hx, hbound, hrows⟩
    obtain ⟨hvalidtz, hpreset, -, q, rfl, hq⟩ :=
      (query_widget_eq_ok_iff hwell htz).mp (map_eq_ok_iff.mp hx)
    obtain ⟨hstart, hstop, hvalues⟩ := (bound_widget_iff hq).mp hbound
    exact ⟨hvalidtz, hpreset, hstart, hstop, hvalues, (rows_within_limit_iff hwell hq).mp hrows⟩
  · intro h
    obtain ⟨q, hq⟩ : ∃ q : GroupedQuery ℚ, q.BuiltFrom id dates.validTimezone
        (rangedQuery parse dto w
          (datesOf dates dto.dateRange (timezoneOf dto.timezone workspaceTimezone)))
        (timezoneOf dto.timezone workspaceTimezone) := builtFrom_widget hwell h.timezone
    have hstop : (rangeOf dates dto.dateRange
        (timezoneOf dto.timezone workspaceTimezone)).stop.isSome = true := by
      simpa [datesOf, ResolvedDates.toClickHouse] using h.stop
    have hquery := (query_widget_eq_ok_iff hwell htz).mpr
      ⟨h.timezone, h.preset, hstop, q, rfl, hq⟩
    exact ⟨_, map_eq_ok_iff.mpr hquery, (bound_widget_iff hq).mpr ⟨h.start, h.stop, h.values⟩,
      (rows_within_limit_iff hwell hq).mpr h.series⟩

end Query

/-- **A stored widget is resolved exactly when its range and its timezone say which dates, what
its filters bind as Strings are strings, and its dates, if it is a time series, are within its
limit.** -/
theorem widget_resolves_iff (dates : DateLibrary) (e : Engine ℚ) (ctx : MetricContext)
    (numeral : ℚ → String) (parse : String → Json ℚ) (workspaceTimezone : Option String)
    {widgets : List DashboardWidget} (hvalid : validateWidgetsArray WIDGET_CATALOG widgets = [])
    {w : DashboardWidget} (hw : w ∈ widgets) (dto : WidgetDataDto) :
    Resolves dates e ctx numeral parse workspaceTimezone widgets { dto with widgetId := w.id } w ↔
      Resolvable dates e parse dto.dateRange (timezoneOf dto.timezone workspaceTimezone) w :=
  resolves_iff hvalid hw rfl

/-! ### A filter with a value that is no string -/

namespace CountriesExample

def dates : DateLibrary where
  validTimezone tz := ["UTC", "Europe/Paris"].contains tz
  resolve _ _ := ("2026-03-01T00:00:00.000Z", "2026-03-02T23:59:59.999Z")
  shift _ _ := ("2026-02-27T00:00:00.000Z", "2026-02-28T23:59:59.999Z")
  allDates _ _ _ _ := ["2026-03-01", "2026-03-02"]
  dateKey
    | _, .text s => s
    | _, _ => "Invalid Date"

def engine : Engine ℚ where
  holds
    | .equals, some [.str s], .text t => s = t
    | .in, some values, .text t => values.any fun
        | .str s => s = t
        | _ => false
    | _, _, _ => true
  metricHolds _ _ _ := true
  number := id
  toDateTime64
    | some "2026-03-01 00:00:00.000" => 1772323200000
    | _ => 1772495999999
  bucket _ _ ms := if ms < 1772409600000 then .text "2026-03-01" else .text "2026-03-02"
  le
    | .number x, .number y => x ≤ y
    | .text s, .text t => s ≤ t
    | _, _ => true
  readable s := ["2026-03-01 00:00:00.000", "2026-03-02 23:59:59.999"].contains s
  unreadable_empty := rfl

def ctx : MetricContext := ⟨10⟩

def numeral (x : ℚ) : String := toString x.num

def parse (json : String) : Json ℚ :=
  if json = "null" then .null else .str (String.ofList json.toList.tail.dropLast)

def dto : WidgetDataDto where
  workspaceId := "ws_1"
  widgetId := ""
  dateRange := ⟨some "2026-03-01T00:00:00.000Z", some "2026-03-02T23:59:59.999Z", none, none⟩
  timezone := none

/-- The sessions of some countries by device. -/
def widget (countries : List String) : DashboardWidget where
  id := "devices-by-country"
  kind := .dimensionTable
  title := "Devices"
  metric := "sessions"
  table := none
  dimension := some "device"
  granularity := none
  filters := some [⟨"country", .in, some countries⟩]
  limit := some 5

def strings : DashboardWidget := widget ["\"FR\"", "\"DE\""]

def withNull : DashboardWidget := widget ["\"FR\"", "null"]

theorem widget_resolves_strings : Resolves dates engine ctx numeral parse (some "Europe/Paris")
    [strings] { dto with widgetId := strings.id } strings := by
  refine (widget_resolves_iff dates engine ctx numeral parse (some "Europe/Paris")
    (by decide +kernel) List.mem_cons_self dto).mpr ?_
  refine ⟨by decide +kernel, fun _ h => ?_, rfl, rfl, by decide +kernel, fun h => ?_⟩
  · exact nomatch h
  · exact nomatch h

/-- **The widget is accepted, and its query binds an array with a null as Array(String).** -/
theorem null_is_stored : validateWidgetsArray WIDGET_CATALOG [withNull] = [] ∧
    ¬ Resolves dates engine ctx numeral parse (some "Europe/Paris") [withNull]
      { dto with widgetId := withNull.id } withNull := by
  have hvalid : validateWidgetsArray WIDGET_CATALOG [withNull] = [] := by decide +kernel
  refine ⟨hvalid, fun h => ?_⟩
  have hvalues := ((resolves_iff hvalid List.mem_cons_self rfl).mp h).values
  exact absurd (hvalues _ List.mem_cons_self) (by decide +kernel)

end CountriesExample

end Veridian.Analytics.WidgetData
