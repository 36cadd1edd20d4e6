/-
What two requests with one key have in common.

The parts before the JSON have no separator, and a JSON text ends by itself, so the text that
is hashed is read in one way.
-/
import Veridian.Analytics.CacheKey

namespace Veridian.Analytics

variable {N : Type} {ns : Numbers N}

/-! ### Parts without a separator -/

theorem metric_names : ∀ m ∈ METRICS,
    m.name.toList ≠ [] ∧ ',' ∉ m.name.toList ∧ '|' ∉ m.name.toList := by decide +kernel

theorem dimension_names : ∀ d ∈ DIMENSIONS,
    d.name.toList ≠ [] ∧ ',' ∉ d.name.toList ∧ '|' ∉ d.name.toList := by decide +kernel

/-- A name that can stand in a list. -/
def Plain (name : String) : Prop := name.toList ≠ [] ∧ ',' ∉ name.toList ∧ '|' ∉ name.toList

theorem plain_of_metric? {name : String} {m : MetricDefinition} (h : metric? name = some m) :
    Plain name := by
  have hname := name_of_metric? h
  rw [← hname]
  exact metric_names m (List.mem_of_find?_eq_some h)

theorem plain_of_dimension? {name : String} {d : DimensionDefinition}
    (h : dimension? name = some d) : Plain name := by
  have hname : d.name = name := by simpa using List.find?_some h
  rw [← hname]
  exact dimension_names d (List.mem_of_find?_eq_some h)

theorem plain_of_metricOn {table : AnalyticsTable} {name : String} {m : MetricDefinition}
    (h : metricOn table name = .ok m) : Plain name := by
  unfold metricOn at h
  cases hm : metric? name with
  | none => rw [hm] at h; exact absurd h (by simp)
  | some m' => exact plain_of_metric? hm

theorem plain_of_dimensionOn {table : AnalyticsTable} {name : String} {d : DimensionDefinition}
    (h : dimensionOn table name = .ok d) : Plain name := by
  unfold dimensionOn at h
  cases hd : dimension? name with
  | none => rw [hd] at h; exact absurd h (by simp)
  | some d' => exact plain_of_dimension? hd

theorem plain_of_columnOn {table : AnalyticsTable} {name : String} {c : Column}
    (h : columnOn table name = .ok c) : Plain name := by
  unfold columnOn at h
  cases hd : dimension? name with
  | none => rw [hd] at h; exact absurd h (by simp)
  | some d' => exact plain_of_dimension? hd

/-- Names that are checked one by one are plain. -/
theorem plain_of_mapM {β : Type} {f : String → Except String β} {names : List String}
    {out : List β} (hf : ∀ name b, f name = .ok b → Plain name) (h : names.mapM f = .ok out) :
    ∀ name ∈ names, Plain name := by
  have hall := Checked.mapM_eq_ok_iff.mp h
  clear h
  induction hall with
  | nil => exact fun _ hn => absurd hn List.not_mem_nil
  | cons hb _ ih => exact List.forall_mem_cons.mpr ⟨hf _ _ hb, ih⟩

theorem sorted_perm (names : List String) :
    (names.insertionSort fun a b => Text.codeUnits a ≤ Text.codeUnits b).Perm names :=
  List.perm_insertionSort _ _

theorem not_mem_sortedJoin {names : List String} (h : ∀ name ∈ names, '|' ∉ name.toList) :
    '|' ∉ sortedJoin names := by
  intro hmem
  obtain ⟨part, hpart, hin⟩ := Text.mem_of_mem_join (by decide) hmem
  obtain ⟨name, hname, rfl⟩ := List.mem_map.mp hpart
  exact h name ((sorted_perm names).mem_iff.mp hname) hin

/-- **Plain names are told apart by their sorted join, up to their order.** -/
theorem perm_of_sortedJoin {names names' : List String} (h : ∀ name ∈ names, Plain name)
    (h' : ∀ name ∈ names', Plain name) (heq : sortedJoin names = sortedJoin names') :
    names.Perm names' := by
  have plain : ∀ {l : List String}, (∀ name ∈ l, Plain name) →
      ∀ p ∈ (l.insertionSort fun a b => Text.codeUnits a ≤ Text.codeUnits b).map String.toList,
        p ≠ [] ∧ ',' ∉ p := by
    intro l hl p hp
    obtain ⟨name, hname, rfl⟩ := List.mem_map.mp hp
    have := hl name ((sorted_perm l).mem_iff.mp hname)
    exact ⟨this.1, this.2.1⟩
  have hsorted := List.map_injective_iff.mpr (fun _ _ hlist => String.toList_injective hlist)
    (Text.join_inj (plain h) (plain h') heq)
  exact (sorted_perm names).symm.trans (hsorted ▸ sorted_perm names')

theorem not_mem_numeral (n : N) : '|' ∉ ns.numeral n := fun h =>
  absurd (ns.plain n '|' h) (by decide)

theorem not_mem_table (table : AnalyticsTable) : '|' ∉ table.text.toList := by
  cases table
  all_goals decide

theorem not_mem_granularity (g : Option Granularity) :
    '|' ∉ dateText (g.map granularityText) := by
  cases g with
  | none => decide
  | some g =>
      cases g
      all_goals decide

/-! ### JSON parts -/

theorem FilterOperator.text_inj {a b : FilterOperator} (h : a.text = b.text) : a = b := by
  let all : List FilterOperator := [.equals, .notEquals, .in, .notIn, .contains, .notContains, .gt,
    .gte, .lt, .lte, .isNull, .isNotNull, .between, .isEmpty, .isNotEmpty]
  have found : ∀ c : FilterOperator, all.find? (·.text = c.text) = some c := by
    intro c
    cases c
    all_goals rfl
  exact Option.some.inj ((found a).symm.trans (h ▸ found b))

theorem asFilter_inj {a b : MetricFilterOperator} (h : a.asFilter = b.asFilter) : a = b := by
  cases a
  all_goals
    cases b
    all_goals first | rfl | exact absurd h (by decide)

theorem granularityText_inj {a b : Granularity} (h : granularityText a = granularityText b) :
    a = b := by
  cases a
  all_goals
    cases b
    all_goals first | rfl | exact absurd h (by decide)

theorem filterJson_inj {f g : FilterDto N} (h : filterJson f = filterJson g) : f = g := by
  obtain ⟨dimension, operator, values⟩ := f
  obtain ⟨dimension', operator', values'⟩ := g
  simp only [filterJson, Json.obj.injEq, List.cons.injEq, Prod.mk.injEq, Json.str.injEq,
    true_and] at h
  obtain ⟨rfl, hoperator, hvalues⟩ := h
  obtain rfl := FilterOperator.text_inj hoperator
  cases values with
  | none =>
      cases values' with
      | none => rfl
      | some vs => exact absurd hvalues (by simp [member])
  | some vs =>
      cases values' with
      | none => exact absurd hvalues (by simp [member])
      | some vs' =>
          have hsame : vs = vs' := by simpa [member] using hvalues
          rw [hsame]

theorem metricFilterJson_inj {f g : MetricFilterDto N}
    (h : metricFilterJson f = metricFilterJson g) : f = g := by
  obtain ⟨metric, operator, values⟩ := f
  obtain ⟨metric', operator', values'⟩ := g
  simp only [metricFilterJson, Json.obj.injEq, List.cons.injEq, Prod.mk.injEq, Json.str.injEq,
    Json.arr.injEq, true_and, and_true] at h
  obtain ⟨rfl, hoperator, rfl⟩ := h
  obtain rfl := asFilter_inj (FilterOperator.text_inj hoperator)
  rfl

theorem orderJson_inj {entries entries' : List (String × String)}
    (h : orderJson (N := N) entries = orderJson entries') : entries = entries' := by
  refine List.map_injective_iff.mpr (fun a b hab => ?_) (Json.obj.inj h)
  obtain ⟨hfield, hdir⟩ := Prod.mk.inj hab
  exact Prod.ext hfield (Json.str.inj hdir)

theorem lookup_member (name key : String) (value : Option (Json N)) :
    (member name value).lookup key = if key = name then value else none := by
  cases value with
  | none => simp [member]
  | some v =>
      by_cases hkey : key = name
      · rw [if_pos hkey, hkey]
        simp [member]
      · rw [if_neg hkey]
        simp [member, List.lookup_cons, beq_eq_false_iff_ne.mpr hkey]

theorem strings_inj {a b : Option String}
    (h : a.map (Json.str (N := N)) = b.map Json.str) : a = b :=
  Option.map_injective (fun _ _ hs => Json.str.inj hs) h

/-- Each field of a range is read back. -/
theorem dateRangeJson_inj {r s : DateRangeDto}
    (h : dateRangeJson (N := N) r = dateRangeJson s) : r = s := by
  have hlookup := fun key => congrArg (List.lookup key) (Json.obj.inj h)
  simp only [List.lookup_append, lookup_member] at hlookup
  have hstart := hlookup "start"
  have hstop := hlookup "end"
  have hpreset := hlookup "preset"
  have hgranularity := hlookup "granularity"
  simp only [reduceIte, String.reduceEq, Option.none_or, Option.or_none] at *
  obtain ⟨start, stop, preset, granularity⟩ := r
  obtain ⟨start', stop', preset', granularity'⟩ := s
  obtain rfl := strings_inj hstart
  obtain rfl := strings_inj hstop
  obtain rfl := strings_inj hpreset
  have hinj : Function.Injective fun g : Granularity => Json.str (N := N) (granularityText g) :=
    fun a b hab => granularityText_inj (Json.str.inj hab)
  obtain rfl := Option.map_injective hinj hgranularity
  rfl

/-- The part of the period to compare with, with what follows it. -/
theorem compareText_inj {r s : Option DateRangeDto} {rest rest' : List Char}
    (h : (r.map fun r => Json.text ns.toNumerals (dateRangeJson r)).getD [] ++ '|' :: rest =
      (s.map fun r => Json.text ns.toNumerals (dateRangeJson r)).getD [] ++ '|' :: rest') :
    r = s ∧ rest = rest' := by
  have bar : Json.kindAt '|' = none := by decide
  have ends : ∀ l : List Char, Json.Ends ('|' :: l) := fun l => Json.ends_cons (by decide) l
  cases r with
  | none =>
      cases s with
      | none => exact ⟨rfl, (List.cons.inj h).2⟩
      | some s => exact absurd h.symm (Json.text_append_ne_cons ns.toNumerals bar _ _ _)
  | some r =>
      cases s with
      | none => exact absurd h (Json.text_append_ne_cons ns.toNumerals bar _ _ _)
      | some s =>
          obtain ⟨hjson, hrest⟩ := Json.text_append_inj ns.toNumerals _ _ (ends _) (ends _) h
          exact ⟨congrArg some (dateRangeJson_inj hjson), (List.cons.inj hrest).2⟩

/-! ### The whole key -/

/-- What the key tells of a request and of its dates. -/
structure SameKey (ns : Numbers N) (d d' : AnalyticsQueryDto N) (range range' : ResolvedDates)
    (tz tz' : String) : Prop where
  table : d.table.getD .sessions = d'.table.getD .sessions
  metrics : sortedJoin d.metrics = sortedJoin d'.metrics
  dimensions : sortedJoin (d.dimensions.getD []) = sortedJoin (d'.dimensions.getD [])
  totalsGroupBy : sortedJoin (d.totalsGroupBy.getD []) = sortedJoin (d'.totalsGroupBy.getD [])
  start : dateText range.start = dateText range'.start
  stop : dateText range.stop = dateText range'.stop
  granularity : d.dateRange.granularity = d'.dateRange.granularity
  timezone : tz = tz'
  limit : orLiteral ns d.limit 1000 = orLiteral ns d'.limit 1000
  filters : d.filters.getD [] = d'.filters.getD []
  metricFilters : d.metricFilters.getD [] = d'.metricFilters.getD []
  order : d.order.getD [] = d'.order.getD []
  compareDateRange : d.compareDateRange = d'.compareDateRange
  havingMinSessions : orLiteral ns d.havingMinSessions 0 = orLiteral ns d'.havingMinSessions 0

theorem table_text_inj {a b : AnalyticsTable} (h : a.text.toList = b.text.toList) : a = b := by
  cases a
  all_goals
    cases b
    all_goals first | rfl | exact absurd h (by decide)

theorem granularity_dateText_inj {g h : Option Granularity}
    (heq : dateText (g.map granularityText) = dateText (h.map granularityText)) : g = h := by
  have empty : ∀ g : Granularity, (granularityText g).toList ≠ [] := by
    intro g
    cases g
    all_goals decide
  cases g with
  | none =>
      cases h with
      | none => rfl
      | some h => exact absurd heq.symm (empty h)
  | some g =>
      cases h with
      | none => exact absurd heq (empty g)
      | some h => exact congrArg some (granularityText_inj (String.toList_injective heq))

/-- The parts up to the timezone and the limit have no separator. -/
structure Separate (ns : Numbers N) (d : AnalyticsQueryDto N) (range : ResolvedDates)
    (tz : String) : Prop where
  workspaceId : '|' ∉ d.workspaceId.toList
  metrics : '|' ∉ sortedJoin d.metrics
  dimensions : '|' ∉ sortedJoin (d.dimensions.getD [])
  totalsGroupBy : '|' ∉ sortedJoin (d.totalsGroupBy.getD [])
  start : '|' ∉ dateText range.start
  stop : '|' ∉ dateText range.stop
  timezone : '|' ∉ tz.toList

/-- **A key whose parts are separate tells all of them.** -/
theorem sameKey_of_hashedText {d d' : AnalyticsQueryDto N} {range range' : ResolvedDates}
    {tz tz' : String} (hs : Separate ns d range tz) (hs' : Separate ns d' range' tz')
    (h : hashedText ns d range tz = hashedText ns d' range' tz') :
    SameKey ns d d' range range' tz tz' := by
  have ends : ∀ l : List Char, Json.Ends ('|' :: l) := fun l => Json.ends_cons (by decide) l
  simp only [hashedText, keyParts, Text.join] at h
  obtain ⟨-, h⟩ := Text.cons_append_inj hs.workspaceId hs'.workspaceId h
  obtain ⟨htable, h⟩ := Text.cons_append_inj (not_mem_table _) (not_mem_table _) h
  obtain ⟨hmetrics, h⟩ := Text.cons_append_inj hs.metrics hs'.metrics h
  obtain ⟨hdimensions, h⟩ := Text.cons_append_inj hs.dimensions hs'.dimensions h
  obtain ⟨htotals, h⟩ := Text.cons_append_inj hs.totalsGroupBy hs'.totalsGroupBy h
  obtain ⟨hstart, h⟩ := Text.cons_append_inj hs.start hs'.start h
  obtain ⟨hstop, h⟩ := Text.cons_append_inj hs.stop hs'.stop h
  obtain ⟨hgran, h⟩ := Text.cons_append_inj (not_mem_granularity _) (not_mem_granularity _) h
  obtain ⟨htz, h⟩ := Text.cons_append_inj hs.timezone hs'.timezone h
  obtain ⟨hlimit, h⟩ := Text.cons_append_inj (not_mem_numeral _) (not_mem_numeral _) h
  obtain ⟨hfilters, h⟩ := Json.text_append_inj ns.toNumerals _ _ (ends _) (ends _) h
  obtain ⟨hmetricFilters, h⟩ :=
    Json.text_append_inj ns.toNumerals _ _ (ends _) (ends _) (List.cons.inj h).2
  obtain ⟨horder, h⟩ :=
    Json.text_append_inj ns.toNumerals _ _ (ends _) (ends _) (List.cons.inj h).2
  obtain ⟨hcompare, hhaving⟩ := compareText_inj (List.cons.inj h).2
  exact {
    table := table_text_inj htable
    metrics := hmetrics
    dimensions := hdimensions
    totalsGroupBy := htotals
    start := hstart
    stop := hstop
    granularity := granularity_dateText_inj hgran
    timezone := String.toList_injective htz
    limit := ns.injective hlimit
    filters := List.map_injective_iff.mpr (fun _ _ => filterJson_inj) (Json.arr.inj hfilters)
    metricFilters :=
      List.map_injective_iff.mpr (fun _ _ => metricFilterJson_inj) (Json.arr.inj hmetricFilters)
    order := orderJson_inj horder
    compareDateRange := hcompare
    havingMinSessions := ns.injective hhaving }

end Veridian.Analytics
