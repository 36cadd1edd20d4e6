/-
Custom dashboard widgets and what is checked before one is stored.

Kinds, tables and granularities are closed lists that the request's DTO checks, so they are
enumerations here.  Which metrics and dimensions a widget may name, and on which tables they
can be queried, are constants of the source and enter as a `WidgetCatalog`.
-/
import Mathlib.Data.List.Nodup
import Veridian.Lib.Json
import Veridian.Lib.Text

namespace Veridian

inductive WidgetKind where
  | metricCard | timeSeries | dimensionTable
  deriving DecidableEq

def WidgetKind.text : WidgetKind → String
  | .metricCard => "metric_card"
  | .timeSeries => "time_series"
  | .dimensionTable => "dimension_table"

inductive WidgetTable where
  | sessions | pages | goals
  deriving DecidableEq

def WidgetTable.text : WidgetTable → String
  | .sessions => "sessions"
  | .pages => "pages"
  | .goals => "goals"

inductive WidgetGranularity where
  | hour | day | week | month | year
  deriving DecidableEq

inductive WidgetFilterOperator where
  | equals | notEquals | in | notIn | contains | notContains | isNull | isNotNull | isEmpty
  | isNotEmpty
  deriving DecidableEq

def WidgetFilterOperator.text : WidgetFilterOperator → String
  | .equals => "equals"
  | .notEquals => "notEquals"
  | .in => "in"
  | .notIn => "notIn"
  | .contains => "contains"
  | .notContains => "notContains"
  | .isNull => "isNull"
  | .isNotNull => "isNotNull"
  | .isEmpty => "isEmpty"
  | .isNotEmpty => "isNotEmpty"

/-- The values are kept as the texts of their JSON. -/
structure WidgetFilter where
  dimension : String
  operator : WidgetFilterOperator
  values : Option (List String)
  deriving DecidableEq

structure DashboardWidget where
  id : String
  kind : WidgetKind
  title : String
  metric : String
  table : Option WidgetTable
  dimension : Option String
  granularity : Option WidgetGranularity
  filters : Option (List WidgetFilter)
  limit : Option Int
  deriving DecidableEq

/-- The native widgets. -/
def DASHBOARD_WIDGET_KEYS : List String :=
  ["pages", "sources", "campaigns", "countries", "heatmap", "devices", "page_views", "goals"]

def isKnownDashboardWidget (value : String) : Bool := DASHBOARD_WIDGET_KEYS.contains value

/-! ### The catalog -/

/-- `widget-catalog.json`, and the tables of `METRICS` and `DIMENSIONS`. -/
structure WidgetCatalog where
  safeMetrics : List (String × List WidgetTable)
  safeDimensions : List (String × List WidgetTable)
  metrics : List (String × List WidgetTable)
  dimensions : List (String × List WidgetTable)

/-- `entries[key]?.tables.includes(table) ?? false` -/
def availableOn (entries : List (String × List WidgetTable)) (key : String)
    (table : WidgetTable) : Bool :=
  (entries.lookup key).any fun tables => tables.contains table

/-- The safe keys that can be queried on the table, for a message. -/
def safeKeysFor (safe known : List (String × List WidgetTable)) (table : WidgetTable) : String :=
  ", ".intercalate ((safe.map (·.1)).filter fun key => availableOn known key table)

/-! ### One widget -/

def isSlugEnd (c : Char) : Bool := ('a' ≤ c && c ≤ 'z') || ('0' ≤ c && c ≤ '9')

def isSlugChar (c : Char) : Bool := isSlugEnd c || c = '_' || c = '-'

/-- `WIDGET_ID_RE.test(id)` -/
def isSlug (id : String) : Bool :=
  id.toList.head?.any isSlugEnd && id.toList.getLast?.any isSlugEnd && id.toList.all isSlugChar &&
    id.toList.length ≤ 64

/-- The check of a metric or a dimension, which is the same but for the words. -/
def keyErrors (field plural : String) (safe known : List (String × List WidgetTable))
    (key : String) (table : WidgetTable) : List String :=
  let unavailable := "widget." ++ field ++ " '" ++ key ++ "' is not available for table '" ++
    table.text ++ "' (valid " ++ plural ++ " for '" ++ table.text ++ "': " ++
    safeKeysFor safe known table ++ ")"
  if availableOn safe key table = false then
    if (known.lookup key).isSome && !availableOn known key table then [unavailable]
    else ["widget." ++ field ++ " '" ++ key ++ "' is not a widget-safe " ++ field ++
      " for table '" ++ table.text ++ "' (allowed: " ++ ", ".intercalate (safe.map (·.1)) ++ ")"]
  else if availableOn known key table = false then [unavailable]
  else []

/-- `dimension` belongs to a table and `granularity` to a series: required there, and to be
left out everywhere else. -/
def presenceErrors (field : String) (owner kind : WidgetKind) (given : Bool) : List String :=
  if kind = owner then
    if given then [] else ["widget." ++ field ++ " is required for kind '" ++ owner.text ++ "'"]
  else if given then ["widget." ++ field ++ " must be omitted for kind '" ++ kind.text ++ "'"]
  else []

def NO_VALUE_OPERATORS : List WidgetFilterOperator := [.isNull, .isNotNull, .isEmpty, .isNotEmpty]

def filterErrors (catalog : WidgetCatalog) (table : WidgetTable) (i : Nat) (f : WidgetFilter) :
    List String :=
  (if availableOn catalog.safeDimensions f.dimension table &&
      availableOn catalog.dimensions f.dimension table then []
    else ["widget.filters[" ++ toString i ++ "].dimension '" ++ f.dimension ++
      "' is not a widget-safe dimension for table '" ++ table.text ++ "'"]) ++
  if NO_VALUE_OPERATORS.contains f.operator ||
      f.values.any (fun values => 0 < values.length && values.length ≤ 100) then []
  else ["widget.filters[" ++ toString i ++
    "].values must be a non-empty array (max 100) for operator '" ++ f.operator.text ++ "'"]

def validateWidgetConfig (catalog : WidgetCatalog) (w : DashboardWidget) : List String :=
  let table := w.table.getD .sessions
  (if isSlug w.id then []
    else ["widget.id must be a slug (lowercase alphanumeric, dashes/underscores, 1-64 chars), got "
      ++ String.ofList (Json.quote w.id)]) ++
  (if Text.trim w.title ≠ "" ∧ Text.utf16Length w.title ≤ 120 then []
    else ["widget.title must be a non-empty string (max 120 chars)"]) ++
  keyErrors "metric" "metrics" catalog.safeMetrics catalog.metrics w.metric table ++
  presenceErrors "dimension" .dimensionTable w.kind w.dimension.isSome ++
  (w.dimension.elim [] fun dimension =>
    keyErrors "dimension" "dimensions" catalog.safeDimensions catalog.dimensions dimension table) ++
  presenceErrors "granularity" .timeSeries w.kind w.granularity.isSome ++
  (if w.limit.all fun limit => 1 ≤ limit && limit ≤ 1000 then []
    else ["widget.limit must be an integer between 1 and 1000"]) ++
  (w.filters.getD []).zipIdx.flatMap fun (f, i) => filterErrors catalog table i f

/-- What a widget without an error has. -/
structure WellFormedWidget (catalog : WidgetCatalog) (w : DashboardWidget) : Prop where
  metric : availableOn catalog.metrics w.metric (w.table.getD .sessions) = true
  dimension : ∀ d ∈ w.dimension, availableOn catalog.dimensions d (w.table.getD .sessions) = true
  hasDimension : w.dimension.isSome = decide (w.kind = .dimensionTable)
  hasGranularity : w.granularity.isSome = decide (w.kind = .timeSeries)
  limit : ∀ l ∈ w.limit, 1 ≤ l ∧ l ≤ 1000
  filters : ∀ f ∈ w.filters.getD [],
    availableOn catalog.dimensions f.dimension (w.table.getD .sessions) = true

theorem available_of_keyErrors {field plural key : String}
    {safe known : List (String × List WidgetTable)} {table : WidgetTable}
    (h : keyErrors field plural safe known key table = []) : availableOn known key table = true := by
  simp only [keyErrors] at h
  by_contra hknown
  simp only [Bool.not_eq_true] at hknown
  simp only [hknown] at h
  split at h
  · split at h
    all_goals exact absurd h (by simp)
  · exact absurd h (by simp)

theorem given_of_presenceErrors {field : String} {owner kind : WidgetKind} {given : Bool}
    (h : presenceErrors field owner kind given = []) : given = decide (kind = owner) := by
  unfold presenceErrors at h
  by_cases hkind : kind = owner
  · rw [if_pos hkind] at h
    cases given with
    | true => exact (decide_eq_true hkind).symm
    | false => exact absurd h (by simp)
  · rw [if_neg hkind] at h
    cases given with
    | true => exact absurd h (by simp)
    | false => exact (decide_eq_false hkind).symm

theorem available_of_filterErrors {catalog : WidgetCatalog} {table : WidgetTable} {i : Nat}
    {f : WidgetFilter} (h : filterErrors catalog table i f = []) :
    availableOn catalog.dimensions f.dimension table = true := by
  have hboth := (List.append_eq_nil_iff.mp h).1
  by_contra hdimension
  rw [if_neg (by simp [hdimension])] at hboth
  exact absurd hboth (by simp)

/-- **A widget that is stored is well formed.** -/
theorem wellFormed_of_validateWidgetConfig {catalog : WidgetCatalog} {w : DashboardWidget}
    (h : validateWidgetConfig catalog w = []) : WellFormedWidget catalog w := by
  simp only [validateWidgetConfig, List.append_eq_nil_iff, List.flatMap_eq_nil_iff] at h
  obtain ⟨⟨⟨⟨⟨⟨⟨-, -⟩, hmetric⟩, hpresent⟩, hdimension⟩, hgranularity⟩, hlimit⟩, hfilters⟩ := h
  refine ⟨available_of_keyErrors hmetric, fun d hd => ?_, given_of_presenceErrors hpresent,
    given_of_presenceErrors hgranularity, fun l hl => ?_, fun f hf => ?_⟩
  · rw [Option.mem_def.mp hd] at hdimension
    exact available_of_keyErrors hdimension
  · rw [Option.mem_def.mp hl] at hlimit
    by_contra hrange
    rw [if_neg (by simpa using hrange)] at hlimit
    exact absurd hlimit (by simp)
  · obtain ⟨i, hi⟩ := List.mem_iff_getElem?.mp hf
    exact available_of_filterErrors (hfilters (f, i) (List.mem_zipIdx_iff_getElem?.mpr hi))

/-! ### The list of a layout -/

def MAX_CUSTOM_WIDGETS : Nat := 50

/-- The loop of `validateWidgetsArray`, from the `i`-th widget on. -/
def widgetErrors (catalog : WidgetCatalog) : Nat → List String → List DashboardWidget → List String
  | _, _, [] => []
  | i, seen, w :: rest =>
      let label := "widgets[" ++ toString i ++ "]: "
      (validateWidgetConfig catalog w).map (label ++ ·) ++
      (if w.id ∈ seen then [label ++ "duplicate widget id '" ++ w.id ++ "'"] else []) ++
      widgetErrors catalog (i + 1) (w.id :: seen) rest

def validateWidgetsArray (catalog : WidgetCatalog) (widgets : List DashboardWidget) :
    List String :=
  if MAX_CUSTOM_WIDGETS < widgets.length then
    ["dashboard_layout.widgets must not exceed " ++ toString MAX_CUSTOM_WIDGETS ++
      " widgets (got " ++ toString widgets.length ++ ")"]
  else widgetErrors catalog 0 [] widgets

theorem widgetErrors_eq_nil {catalog : WidgetCatalog} :
    ∀ {widgets : List DashboardWidget} {i : Nat} {seen : List String},
      widgetErrors catalog i seen widgets = [] →
      (∀ w ∈ widgets, validateWidgetConfig catalog w = [] ∧ w.id ∉ seen) ∧
        (widgets.map (·.id)).Nodup := by
  intro widgets
  induction widgets with
  | nil =>
      intro i seen _
      exact ⟨fun w hw => absurd hw List.not_mem_nil, List.nodup_nil⟩
  | cons w rest ih =>
      intro i seen h
      obtain ⟨hboth, hrest⟩ := List.append_eq_nil_iff.mp h
      obtain ⟨hvalid, hseen⟩ := List.append_eq_nil_iff.mp hboth
      obtain ⟨hall, hnodup⟩ := ih hrest
      have hnew : w.id ∉ seen := by
        intro hmem
        rw [if_pos hmem] at hseen
        exact absurd hseen (by simp)
      refine ⟨List.forall_mem_cons.mpr ⟨⟨List.map_eq_nil_iff.mp hvalid, hnew⟩, ?_⟩, ?_⟩
      · exact fun x hx => ⟨(hall x hx).1, fun hmem => (hall x hx).2 (List.mem_cons_of_mem _ hmem)⟩
      · refine List.nodup_cons.mpr ⟨fun hmem => ?_, hnodup⟩
        obtain ⟨x, hx, hid⟩ := List.mem_map.mp hmem
        exact (hall x hx).2 (hid ▸ List.mem_cons_self)

/-- **Widgets without an error are valid, each has an id of its own, and they are not too
many.** -/
theorem validateWidgetsArray_eq_nil {catalog : WidgetCatalog} {widgets : List DashboardWidget}
    (h : validateWidgetsArray catalog widgets = []) :
    (∀ w ∈ widgets, validateWidgetConfig catalog w = []) ∧ (widgets.map (·.id)).Nodup ∧
      widgets.length ≤ MAX_CUSTOM_WIDGETS := by
  unfold validateWidgetsArray at h
  split at h
  · exact absurd h (by simp)
  · rename_i hlength
    obtain ⟨hall, hnodup⟩ := widgetErrors_eq_nil h
    exact ⟨fun w hw => (hall w hw).1, hnodup, Nat.le_of_not_lt hlength⟩

/-- A valid widget is valid by itself. -/
theorem validateWidgetsArray_singleton {catalog : WidgetCatalog} {w : DashboardWidget}
    (h : validateWidgetConfig catalog w = []) : validateWidgetsArray catalog [w] = [] := by
  show widgetErrors catalog 0 [] [w] = []
  simp [widgetErrors, h]

/-- A stored widget is found by its id. -/
theorem find_widget {widgets : List DashboardWidget} {w : DashboardWidget}
    (hnodup : (widgets.map (·.id)).Nodup) (hw : w ∈ widgets) :
    widgets.find? (·.id = w.id) = some w := by
  obtain ⟨x, hx⟩ : ∃ x, widgets.find? (·.id = w.id) = some x :=
    Option.isSome_iff_exists.mp (List.find?_isSome.mpr ⟨w, hw, by simp⟩)
  have hid : x.id = w.id := by simpa using List.find?_some hx
  rw [hx, List.inj_on_of_nodup_map hnodup (List.mem_of_find?_eq_some hx) hw hid]

end Veridian
