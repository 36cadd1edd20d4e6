/-
`buildExtremesQuery`: the least and the greatest value of a metric over groups.

The query groups the selected rows twice by the same columns: once for the extremes, and once
for the groups themselves, which are joined to the greatest value so that one of them is
named.  The outer SELECT takes the columns of the groups with `max_row.` in front.  For an
entry of a map this reads the map, and the groups have the entry only.
-/
import Veridian.Analytics.QueryBuilder

namespace Veridian.Analytics

variable {N : Type}

structure ExtremesQueryDto (N : Type) where
  workspaceId : String
  metric : String
  groupBy : List String
  dateRange : DateRangeDto
  filters : Option (List (FilterDto N))
  metricFilters : Option (List (MetricFilterDto N))
  timezone : Option String
  havingMinSessions : Option N
  table : Option AnalyticsTable

structure ExtremesQuery (N : Type) extends Clauses N where
  metric : MetricDefinition
  /-- `groupByCols` -/
  columns : List Column

def buildExtremesQuery (query : ExtremesQueryDto N) : Except String (ExtremesQuery N) := do
  let table := query.table.getD .sessions
  let metric ← metricOn table query.metric
  let columns ← query.groupBy.mapM (columnOn table)
  let conditions ← buildFilters (query.filters.getD []) table
  let metricConditions ← buildMetricFilters (query.metricFilters.getD []) table
  return {
    table, conditions, metricConditions, metric, columns
    start := query.dateRange.start
    stop := query.dateRange.stop
    havingMinSessions := query.havingMinSessions }

theorem columns_of_buildExtremesQuery {query : ExtremesQueryDto N} {q : ExtremesQuery N}
    (h : buildExtremesQuery query = .ok q) :
    query.groupBy.mapM (columnOn (query.table.getD .sessions)) = .ok q.columns := by
  simp only [buildExtremesQuery, Checked.bind_eq_ok_iff] at h
  obtain ⟨metric, -, columns, hcolumns, conditions, -, metricConditions, -, hq⟩ := h
  obtain rfl := Except.ok.inj hq
  exact hcolumns

/-! ### What ClickHouse answers -/

/-- The name of an item of the inner SELECT; an expression is named after itself. -/
def Column.alias : Column → String
  | .named name => name
  | .entry map key => "arrayElement(" ++ map ++ ", '" ++ key ++ "')"

/-- The column that the item reads behind `max_row.`. -/
def Column.behindTable : Column → String
  | .named name => name
  | .entry map _ => map

namespace ExtremesQuery

variable (ch : ClickHouse N) (ctx : MetricContext) (q : ExtremesQuery N)

/-- The columns of `max_row`. -/
def subqueryNames : List String := q.columns.map Column.alias ++ ["value"]

/-- Every item of the outer SELECT names a column of `max_row`. -/
def WellFormed : Prop := ∀ c ∈ q.columns, c.behindTable ∈ q.subqueryNames

def groups (rows : List Row) : List (List Row) :=
  (Replacing.groupBy (fun r : Row => q.columns.map r)
    (rows.filter (q.toClauses.selects ch))).filter (q.toClauses.having ch ctx)

def value (group : List Row) : Option ℚ := q.metric.sql.value ctx group

/-- `min(value)` and `max(value)` -/
def extremes (rows : List Row) : Option ℚ × Option ℚ :=
  let values := (q.groups ch ctx rows).filterMap (q.value ctx)
  (values.min?, values.max?)

/-- A row of `max_row`. -/
def maxRow (group : List Row) : ResultRow :=
  (q.columns.map fun c => (c.alias, GroupedQuery.common (· c) group)) ++
    [("value", metricCell (q.value ctx group))]

/-- An item of the outer SELECT.  No cell is a map, so an entry has no value. -/
def outerItem (row : ResultRow) : Column → Option Cell
  | .named name => row.lookup name
  | .entry _ _ => none

def outerRow (rows : List Row) (group : List Row) : ResultRow :=
  let (low, high) := q.extremes ch ctx rows
  ("min", metricCell low) :: ("max", metricCell high) ::
    q.columns.filterMap fun c => (outerItem (q.maxRow ctx group) c).map (c.sql, ·)

/-- One of the answers that ClickHouse may give.  Without groups the join has nothing to
name, and what it gives is not said. -/
def Answer (rows : List Row) (answer : ResultRow) : Prop :=
  q.WellFormed ∧ (q.groups ch ctx rows ≠ [] → ∃ group ∈ q.groups ch ctx rows,
    q.value ctx group = (q.extremes ch ctx rows).2 ∧ answer = q.outerRow ch ctx rows group)

end ExtremesQuery

/-! ### The response -/

structure ExtremesResponse where
  min : Cell
  max : Cell
  maxDimensionValues : Option (List (String × Cell))

def extremesResponse (groupBy : List String) (row : ResultRow) : ExtremesResponse :=
  let values := groupBy.filterMap fun dim =>
    (dimension? dim).bind fun d => (row.lookup d.column.sql).map (dim, ·)
  { min := (row.lookup "min").getD .null
    max := (row.lookup "max").getD .null
    maxDimensionValues := if values = [] then none else some values }

/-- The response has the extremes over the groups, and the values of a group with the
greatest. -/
structure Attained (ch : ClickHouse N) (ctx : MetricContext) (q : ExtremesQuery N)
    (rows : List Row) (groupBy : List String) (response : ExtremesResponse) : Prop where
  bounds : ∃ low high, response.min = .number low ∧ response.max = .number high ∧
    (∀ g ∈ q.groups ch ctx rows, ∃ x, q.value ctx g = some x ∧ low ≤ x ∧ x ≤ high) ∧
    ∃ g ∈ q.groups ch ctx rows, q.value ctx g = some low
  winner : ∃ g ∈ q.groups ch ctx rows, ∃ values,
    response.max = metricCell (q.value ctx g) ∧ response.maxDimensionValues = some values ∧
    values.map Prod.fst = groupBy ∧
    ∀ entry ∈ values, ∃ d, dimension? entry.1 = some d ∧ ∀ r ∈ g, r d.column = entry.2

/-- A dimension that is one entry of a map. -/
def IsMapAccessor (name : String) : Prop :=
  ∃ d map key, dimension? name = some d ∧ d.column = .entry map key

/-! ### Values of groups -/

namespace MetricSql

theorem distinct_ne_zero {rows : List Row} (h : rows ≠ []) (column : String) :
    distinct column rows ≠ 0 := by
  obtain ⟨r, rest, rfl⟩ := List.exists_cons_of_ne_nil h
  rw [distinct, Grouping.uniqExact_eq_card]
  exact Finset.card_ne_zero_of_mem (List.mem_toFinset.mpr (List.mem_cons_self (a := r _)))

theorem median_isSome {xs : List ℚ} (h : xs ≠ []) : (Analytics.median xs).isSome = true := by
  have hpos := List.length_pos_of_ne_nil h
  have hlength : (xs.insertionSort (· ≤ ·)).length = xs.length := List.length_insertionSort _ _
  unfold Analytics.median
  dsimp only
  rw [List.getElem?_eq_getElem (by omega), List.getElem?_eq_getElem (by omega)]
  rfl

/-- **Every metric of a group is a number.** -/
theorem value_isSome {ctx : MetricContext} {rows : List Row} (h : rows ≠ []) (sql : MetricSql) :
    (sql.value ctx rows).isSome = true := by
  have hpercent : ∀ part whole : Nat, whole ≠ 0 → (percent part whole).isSome = true := by
    intro part whole hwhole
    rw [percent, if_neg hwhole]
    rfl
  have hlength : rows.length ≠ 0 := by simpa using h
  have hraw : (sql.raw ctx rows).isSome = true := by
    cases sql with
    | uniqExact column => rfl
    | count => rfl
    | countIf column => rfl
    | sum column => rfl
    | avg column digits =>
        rw [raw, Analytics.avg, if_neg (by simpa using h)]
        rfl
    | median column divisor digits =>
        rw [raw, Option.isSome_map]
        exact median_isSome (by simpa using h)
    | bounceRate => exact hpercent _ _ (distinct_ne_zero h _)
    | exitRate => exact hpercent _ _ hlength
  unfold value
  split
  · exact hraw
  · rw [Option.isSome_map]
    exact hraw

end MetricSql

/-! ### Well-formed queries -/

/-- Entries are entries of `properties`, no dimension is all of it, and none is named as the
query names its own columns. -/
theorem dimension_columns : ∀ d ∈ DIMENSIONS,
    (d.column = .named d.column.behindTable ∨ d.column.behindTable = "properties") ∧
      d.column.alias ≠ "properties" ∧ d.column.sql ≠ "min" ∧ d.column.sql ≠ "max" := by
  decide +kernel

theorem lookup_map_of_injOn {α : Type} {l : List α} {f : α → String} {g : α → Cell} {a : α}
    (ha : a ∈ l) (hf : ∀ b ∈ l, f b = f a → b = a) :
    (l.map fun b => (f b, g b)).lookup (f a) = some (g a) := by
  induction l with
  | nil => exact absurd ha List.not_mem_nil
  | cons b l ih =>
      rw [List.map_cons, List.lookup_cons]
      by_cases hab : f a = f b
      · obtain rfl := hf b List.mem_cons_self hab.symm
        rw [beq_self_eq_true]
      · have hne : b ≠ a := fun heq => hab (congrArg f heq.symm)
        rw [beq_eq_false_iff_ne.mpr hab]
        exact ih ((List.mem_cons.mp ha).resolve_left (Ne.symm hne)) fun c hc =>
          hf c (List.mem_cons_of_mem _ hc)

theorem dimension_of_columnOn {table : AnalyticsTable} {name : String} {c : Column}
    (h : columnOn table name = .ok c) :
    ∃ d ∈ DIMENSIONS, dimension? name = some d ∧ d.column = c := by
  unfold columnOn at h
  cases hd : dimension? name with
  | none =>
      rw [hd] at h
      exact nomatch h
  | some d =>
      rw [hd] at h
      dsimp only at h
      split at h
      · exact ⟨d, List.mem_of_find?_eq_some hd, rfl, Except.ok.inj h⟩
      · exact nomatch h

namespace ExtremesQuery

variable {ch : ClickHouse N} {ctx : MetricContext} {q : ExtremesQuery N} {rows : List Row}

/-- The columns are those of the dimensions. -/
def Of (q : ExtremesQuery N) (groupBy : List String) : Prop :=
  List.Forall₂ (fun name c => ∃ d ∈ DIMENSIONS, dimension? name = some d ∧ d.column = c)
    groupBy q.columns

theorem of_build {query : ExtremesQueryDto N} (h : buildExtremesQuery query = .ok q) :
    q.Of query.groupBy :=
  (Checked.mapM_eq_ok_iff.mp (columns_of_buildExtremesQuery h)).imp fun _ _ =>
    dimension_of_columnOn

theorem Of.mem {groupBy : List String} (h : q.Of groupBy) {c : Column} (hc : c ∈ q.columns) :
    ∃ d ∈ DIMENSIONS, d.column = c := by
  unfold Of at h
  generalize q.columns = columns at h hc
  induction h with
  | nil => exact absurd hc List.not_mem_nil
  | cons hhead _ ih =>
      rcases List.mem_cons.mp hc with rfl | hc
      · obtain ⟨d, hd, -, hcolumn⟩ := hhead
        exact ⟨d, hd, hcolumn⟩
      · exact ih hc

theorem wellFormed_iff {groupBy : List String} (h : q.Of groupBy) :
    q.WellFormed ↔ ∀ c ∈ q.columns, c = .named c.behindTable := by
  constructor
  · intro hwell c hc
    obtain ⟨d, hd, rfl⟩ := h.mem hc
    refine (dimension_columns d hd).1.resolve_right fun hmap => ?_
    have hmem := hwell _ hc
    rw [hmap] at hmem
    rcases List.mem_append.mp hmem with hmem | hmem
    · obtain ⟨c', hc', halias⟩ := List.mem_map.mp hmem
      obtain ⟨d', hd', rfl⟩ := h.mem hc'
      exact (dimension_columns d' hd').2.1 halias
    · exact absurd (List.mem_singleton.mp hmem) (by decide)
  · intro hnamed c hc
    refine List.mem_append_left _ (List.mem_map.mpr ⟨c, hc, ?_⟩)
    rw [hnamed c hc]
    rfl

/-- The rows of a group have the same values in the columns of the query. -/
theorem common_of_mem_groups {g : List Row} (hg : g ∈ q.groups ch ctx rows) :
    g ≠ [] ∧ ∀ r ∈ g, ∀ c ∈ q.columns, r c = GroupedQuery.common (· c) g := by
  obtain ⟨k, hk, rfl⟩ := List.mem_map.mp (List.mem_of_mem_filter hg)
  obtain ⟨r, hr, hkey⟩ := List.mem_map.mp (List.mem_dedup.mp hk)
  have hne : (rows.filter (q.toClauses.selects ch)).filter (fun r => q.columns.map r = k) ≠ [] :=
    List.ne_nil_of_mem (List.mem_filter.mpr ⟨hr, decide_eq_true hkey⟩)
  refine ⟨hne, fun r' hr' c hc => ?_⟩
  obtain ⟨first, rest, hgroup⟩ := List.exists_cons_of_ne_nil hne
  have hfirst := (List.mem_filter.mp (hgroup ▸ List.mem_cons_self :
    first ∈ List.filter (fun r => q.columns.map r = k) _)).2
  have heq : q.columns.map r' = q.columns.map first :=
    (of_decide_eq_true (List.mem_filter.mp hr').2).trans (of_decide_eq_true hfirst).symm
  unfold GroupedQuery.common
  rw [hgroup]
  exact List.map_inj_left.mp heq c hc

/-- The extremes over the groups. -/
theorem extremes_of_groups (h : q.groups ch ctx rows ≠ []) :
    ∃ low high, q.extremes ch ctx rows = (some low, some high) ∧
      (∀ g ∈ q.groups ch ctx rows, ∃ x, q.value ctx g = some x ∧ low ≤ x ∧ x ≤ high) ∧
      (∃ g ∈ q.groups ch ctx rows, q.value ctx g = some low) ∧
      ∃ g ∈ q.groups ch ctx rows, q.value ctx g = some high := by
  have hvalue : ∀ g ∈ q.groups ch ctx rows, ∃ x, q.value ctx g = some x := fun g hg =>
    Option.isSome_iff_exists.mp (MetricSql.value_isSome (common_of_mem_groups hg).1 _)
  have hmem : ∀ x, x ∈ (q.groups ch ctx rows).filterMap (q.value ctx) ↔
      ∃ g ∈ q.groups ch ctx rows, q.value ctx g = some x := fun x => List.mem_filterMap
  have hne : (q.groups ch ctx rows).filterMap (q.value ctx) ≠ [] := by
    obtain ⟨g, rest, hgroups⟩ := List.exists_cons_of_ne_nil h
    have hg : g ∈ q.groups ch ctx rows := hgroups ▸ List.mem_cons_self
    obtain ⟨x, hx⟩ := hvalue g hg
    exact List.ne_nil_of_mem ((hmem x).mpr ⟨g, hg, hx⟩)
  obtain ⟨low, hlow⟩ := Option.isSome_iff_exists.mp (List.isSome_min?_iff.mpr hne)
  obtain ⟨high, hhigh⟩ := Option.isSome_iff_exists.mp (List.isSome_max?_iff.mpr hne)
  obtain ⟨hlowMem, hlowLe⟩ := List.min?_eq_some_iff.mp hlow
  obtain ⟨hhighMem, hleHigh⟩ := List.max?_eq_some_iff.mp hhigh
  refine ⟨low, high, by simp [extremes, hlow, hhigh], fun g hg => ?_, (hmem low).mp hlowMem,
    (hmem high).mp hhighMem⟩
  obtain ⟨x, hx⟩ := hvalue g hg
  have hxMem := (hmem x).mpr ⟨g, hg, hx⟩
  exact ⟨x, hx, hlowLe x hxMem, hleHigh x hxMem⟩

/-! ### The outer SELECT -/

theorem lookup_outerRow {groupBy : List String} (h : q.Of groupBy)
    (hnamed : ∀ c ∈ q.columns, c = .named c.behindTable) (g : List Row) {c : Column}
    (hc : c ∈ q.columns) :
    (q.outerRow ch ctx rows g).lookup c.sql = some (GroupedQuery.common (· c) g) := by
  have hnames : ∀ b ∈ q.columns, b.sql = b.behindTable ∧ b.alias = b.behindTable := by
    intro b hb
    rw [hnamed b hb]
    exact ⟨rfl, rfl⟩
  have hsame : ∀ b ∈ q.columns, b.behindTable = c.behindTable → b = c := by
    intro b hb heq
    rw [hnamed b hb, hnamed c hc, heq]
  have hitem : ∀ b ∈ q.columns,
      outerItem (q.maxRow ctx g) b = some (GroupedQuery.common (· b) g) := by
    intro b hb
    have hlookup := lookup_map_of_injOn (l := q.columns) (f := Column.alias)
      (g := fun c => GroupedQuery.common (· c) g) hb fun b' hb' heq => by
        rw [hnamed b' hb', hnamed b hb, ← (hnames b' hb').2, ← (hnames b hb).2, heq]
    have hread : outerItem (q.maxRow ctx g) b = (q.maxRow ctx g).lookup b.alias := by
      rw [hnamed b hb]
      rfl
    rw [hread, maxRow, List.lookup_append, hlookup]
    rfl
  have hitems : (q.columns.filterMap fun b =>
      (outerItem (q.maxRow ctx g) b).map (b.sql, ·)) =
      q.columns.map fun b => (b.sql, GroupedQuery.common (· b) g) := by
    rw [← List.filterMap_eq_map]
    refine List.filterMap_congr fun b hb => ?_
    rw [hitem b hb]
    rfl
  obtain ⟨d, hd, rfl⟩ := h.mem hc
  obtain ⟨-, -, hmin, hmax⟩ := dimension_columns d hd
  have hrow : q.outerRow ch ctx rows g =
      ("min", metricCell (q.extremes ch ctx rows).1) ::
        ("max", metricCell (q.extremes ch ctx rows).2) ::
        q.columns.map fun b => (b.sql, GroupedQuery.common (· b) g) := by
    rw [← hitems]
    rfl
  rw [hrow, List.lookup_cons, beq_eq_false_iff_ne.mpr hmin, List.lookup_cons,
    beq_eq_false_iff_ne.mpr hmax]
  exact lookup_map_of_injOn hc fun b hb heq => hsame b hb
    (by rw [← (hnames b hb).1, heq, (hnames _ hc).1])

theorem Of.dimension {groupBy : List String} (h : q.Of groupBy) {name : String}
    (hname : name ∈ groupBy) : ∃ d, dimension? name = some d ∧ d.column ∈ q.columns := by
  unfold Of at h
  generalize q.columns = columns at h
  induction h with
  | nil => exact absurd hname List.not_mem_nil
  | cons hhead _ ih =>
      rcases List.mem_cons.mp hname with rfl | hname
      · obtain ⟨d, -, hd, hcolumn⟩ := hhead
        exact ⟨d, hd, hcolumn ▸ List.mem_cons_self⟩
      · obtain ⟨d, hd, hmem⟩ := ih hname
        exact ⟨d, hd, List.mem_cons_of_mem _ hmem⟩

theorem named_iff {groupBy : List String} (h : q.Of groupBy) :
    (∀ c ∈ q.columns, c = .named c.behindTable) ↔ ∀ name ∈ groupBy, ¬ IsMapAccessor name := by
  constructor
  · rintro hnamed name hname ⟨d, map, key, hd, hentry⟩
    obtain ⟨d', hd', hmem⟩ := h.dimension hname
    obtain rfl := Option.some.inj (hd.symm.trans hd')
    have hcolumn := hnamed _ hmem
    rw [hentry] at hcolumn
    exact nomatch hcolumn
  · intro hnames c hc
    unfold Of at h
    generalize q.columns = columns at h hc
    induction h with
    | nil => exact absurd hc List.not_mem_nil
    | @cons name c' _ _ hhead _ ih =>
        obtain ⟨hname, hrest⟩ := List.forall_mem_cons.mp hnames
        rcases List.mem_cons.mp hc with rfl | hc
        · obtain ⟨d, -, hd, rfl⟩ := hhead
          cases hcolumn : d.column with
          | named column => rfl
          | entry map key => exact absurd ⟨d, map, key, hd, hcolumn⟩ hname
        · exact ih hrest hc

/-- The values that the response takes from a row of the query. -/
theorem response_values (groupBy : List String) (row : ResultRow) (cell : Column → Cell)
    (hnames : ∀ name ∈ groupBy, ∃ d, dimension? name = some d ∧
      row.lookup d.column.sql = some (cell d.column)) :
    ∃ values : List (String × Cell),
      (groupBy.filterMap fun dim =>
        (dimension? dim).bind fun d => (row.lookup d.column.sql).map (dim, ·)) = values ∧
      values.map Prod.fst = groupBy ∧
      ∀ entry ∈ values, ∃ d, entry.1 ∈ groupBy ∧ dimension? entry.1 = some d ∧
        entry.2 = cell d.column := by
  induction groupBy with
  | nil => exact ⟨[], rfl, rfl, fun _ h => absurd h List.not_mem_nil⟩
  | cons name groupBy ih =>
      obtain ⟨⟨d, hd, hlookup⟩, hrest⟩ := List.forall_mem_cons.mp hnames
      obtain ⟨values, hvalues, hfst, hentries⟩ := ih hrest
      refine ⟨(name, cell d.column) :: values, ?_, congrArg (name :: ·) hfst, ?_⟩
      · rw [List.filterMap_cons, hd, Option.bind_some, hlookup, hvalues]
        rfl
      · refine List.forall_mem_cons.mpr ⟨⟨d, List.mem_cons_self, hd, rfl⟩, fun entry hentry => ?_⟩
        obtain ⟨d', hmem, hd', hcell⟩ := hentries entry hentry
        exact ⟨d', List.mem_cons_of_mem _ hmem, hd', hcell⟩

/-- Every answer is attained where all columns are named. -/
theorem attained_of_named {groupBy : List String} (h : q.Of groupBy) (hgroupBy : groupBy ≠ [])
    (hnamed : ∀ c ∈ q.columns, c = .named c.behindTable)
    (hgroups : q.groups ch ctx rows ≠ []) {answer : ResultRow}
    (hanswer : q.Answer ch ctx rows answer) :
    Attained ch ctx q rows groupBy (extremesResponse groupBy answer) := by
  obtain ⟨low, high, hextremes, hbounds, hlow, -⟩ := extremes_of_groups hgroups
  obtain ⟨g, hg, hjoin, rfl⟩ := hanswer.2 hgroups
  rw [hextremes] at hjoin
  obtain ⟨values, hvalues, hfst, hentries⟩ := response_values groupBy
    (q.outerRow ch ctx rows g) (fun c => GroupedQuery.common (· c) g)
    fun name hname => by
      obtain ⟨d, hd, hmem⟩ := h.dimension hname
      exact ⟨d, hd, lookup_outerRow h hnamed g hmem⟩
  have hmin : (extremesResponse groupBy (q.outerRow ch ctx rows g)).min = .number low := by
    simp [extremesResponse, outerRow, hextremes, metricCell]
  have hmax : (extremesResponse groupBy (q.outerRow ch ctx rows g)).max = .number high := by
    simp [extremesResponse, outerRow, hextremes, metricCell, List.lookup_cons]
  refine ⟨⟨low, high, hmin, hmax, hbounds, hlow⟩, g, hg, values, ?_, ?_, hfst, ?_⟩
  · rw [hmax, hjoin]
    rfl
  · have hne : values ≠ [] := by
      rintro rfl
      exact hgroupBy hfst.symm
    show (if _ then none else some _) = _
    rw [hvalues, if_neg hne]
  · intro entry hentry
    obtain ⟨d, hname, hd, hcell⟩ := hentries entry hentry
    obtain ⟨d', hd', hmem⟩ := h.dimension hname
    obtain rfl := Option.some.inj (hd.symm.trans hd')
    refine ⟨d, hd, fun r hr => ?_⟩
    rw [hcell]
    exact (common_of_mem_groups hg).2 r hr _ hmem

end ExtremesQuery

/-- **When the extremes are attained.**

On every table there is an answer, and every answer has the extremes of the groups and the
values of a group with the greatest, exactly when no dimension is one entry of a map. -/
theorem extremes_attained_iff {query : ExtremesQueryDto N} {q : ExtremesQuery N}
    (hq : buildExtremesQuery query = .ok q) (hgroupBy : query.groupBy ≠ [])
    (ch : ClickHouse N) (ctx : MetricContext) :
    (∀ rows, (∃ answer, q.Answer ch ctx rows answer) ∧
      ∀ answer, q.Answer ch ctx rows answer → q.groups ch ctx rows ≠ [] →
        Attained ch ctx q rows query.groupBy (extremesResponse query.groupBy answer)) ↔
      ∀ name ∈ query.groupBy, ¬ IsMapAccessor name := by
  have hof := ExtremesQuery.of_build hq
  rw [← ExtremesQuery.named_iff hof, ← ExtremesQuery.wellFormed_iff hof]
  constructor
  · intro h
    obtain ⟨answer, hanswer⟩ := (h []).1
    exact hanswer.1
  · intro hwell rows
    have hnamed := (ExtremesQuery.wellFormed_iff hof).mp hwell
    refine ⟨?_, fun answer hanswer hgroups =>
      ExtremesQuery.attained_of_named hof hgroupBy hnamed hgroups hanswer⟩
    by_cases hgroups : q.groups ch ctx rows = []
    · exact ⟨[], hwell, fun hne => absurd hgroups hne⟩
    · obtain ⟨low, high, hextremes, -, -, g, hg, hvalue⟩ :=
        ExtremesQuery.extremes_of_groups hgroups
      exact ⟨_, hwell, fun _ => ⟨g, hg, by rw [hextremes, hvalue], rfl⟩⟩

namespace ExtremesExample

def request (metric dimension : String) (table : AnalyticsTable) : ExtremesQueryDto Nat where
  workspaceId := "shop"
  metric := metric
  groupBy := [dimension]
  dateRange := { start := some "2026-05-01", stop := some "2026-05-31", preset := none,
                 granularity := none }
  filters := none
  metricFilters := none
  timezone := none
  havingMinSessions := none
  table := some table

def server : ClickHouse Nat where
  holds _ _ _ := true
  metricHolds _ _ _ := true
  number n := n
  toDateTime64 _ := 0

end ExtremesExample

open ExtremesExample in
theorem country_extremes_attained :
    ∃ q, buildExtremesQuery (request "sessions" "country" .sessions) = .ok q ∧
      ∀ rows answer, q.Answer server ⟨10⟩ rows answer → q.groups server ⟨10⟩ rows ≠ [] →
        Attained server ⟨10⟩ q rows ["country"] (extremesResponse ["country"] answer) := by
  obtain ⟨q, hq⟩ : ∃ q, buildExtremesQuery (request "sessions" "country" .sessions) = .ok q :=
    ⟨_, rfl⟩
  refine ⟨q, hq, fun rows => ?_⟩
  have hgroupBy : (request "sessions" "country" .sessions).groupBy ≠ [] := by decide
  refine ((extremes_attained_iff hq hgroupBy server ⟨10⟩).mpr ?_ rows).2
  rintro name hname ⟨d, map, key, hd, hcolumn⟩
  obtain rfl := List.mem_singleton.mp hname
  obtain rfl : _ = d := Option.some.inj hd
  exact nomatch hcolumn

open ExtremesExample in
/-- The map is no column of the groups, so ClickHouse refuses the query. -/
theorem phone_source_extremes_fail :
    ∃ q, buildExtremesQuery (request "goals" "phone_source" .goals) = .ok q ∧
      ∀ ch ctx rows answer, ¬ q.Answer ch ctx rows answer := by
  refine ⟨_, rfl, fun ch ctx rows answer h => ?_⟩
  have hmem := h.1 (.entry "properties" "source") List.mem_cons_self
  revert hmem
  decide

end Veridian.Analytics
