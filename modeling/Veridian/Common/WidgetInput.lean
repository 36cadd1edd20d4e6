/-
The check of dashboard widgets, for any JSON value.

Every part of a widget is read as it came, and each check goes on after the ones before it
found errors.  An empty list of errors therefore says that every part was found to be as it
should.  What a check calls on the way may throw: a member of `null`, a table list that an
inherited name of a catalogue has not, and the text of an object with a `toString` of its own.
-/
import Veridian.Common.DashboardWidget
import Veridian.Lib.Json

namespace Veridian

def WidgetGranularity.text : WidgetGranularity → String
  | .hour => "hour"
  | .day => "day"
  | .week => "week"
  | .month => "month"
  | .year => "year"

namespace WidgetInput

structure Runtime (N : Type) where
  /-- `JSON.stringify(value)` -/
  stringify : Json N → String
  /-- `String(n)` -/
  numberText : N → String
  /-- The integer that a number is, if `Number.isInteger`. -/
  integer : N → Option Int

/-- What a check gives: its errors, unless it throws. -/
abbrev Checked := Except String (List String)

def TYPE_ERROR : String := "TypeError"

/-! ### The language -/

/-- The names every object inherits. -/
def OBJECT_PROTOTYPE : List String :=
  ["constructor", "__defineGetter__", "__defineSetter__", "hasOwnProperty", "__lookupGetter__",
    "__lookupSetter__", "isPrototypeOf", "propertyIsEnumerable", "toString", "valueOf",
    "__proto__", "toLocaleString"]

/-- `value.name`, for a name nothing inherits and a value that is not `null`: none is
`undefined`. -/
def member {N : Type} (value : Json N) (name : String) : Option (Json N) :=
  match value with
  | .obj members => members.lookup name
  | _ => none

/-- `entries[key].tables.includes(table)`, false without an entry.  What is inherited has no
`tables`. -/
def includesTable (entries : List (String × List WidgetTable)) (key : String)
    (table : WidgetTable) : Except String Bool :=
  match entries.lookup key with
  | some tables => .ok (tables.contains table)
  | none => if key ∈ OBJECT_PROTOTYPE then .error TYPE_ERROR else .ok false

/-- `!!entries[key]` -/
def hasEntry (entries : List (String × List WidgetTable)) (key : String) : Bool :=
  (entries.lookup key).isSome || OBJECT_PROTOTYPE.contains key

section

variable {N : Type} (runtime : Runtime N)

mutual

/-- `String(value)`: none when it throws. -/
def toText : Json N → Option String
  | .null => some "null"
  | .bool b => some (if b then "true" else "false")
  | .num n => some (runtime.numberText n)
  | .str s => some s
  | .arr l => (elementTexts l).map (",".intercalate ·)
  | .obj members => if (members.lookup "toString").isSome then none else some "[object Object]"

/-- The texts that `join` puts together, of `null` an empty one. -/
def elementTexts : List (Json N) → Option (List String)
  | [] => some []
  | .null :: rest => (elementTexts rest).map ("" :: ·)
  | v :: rest => (toText v).bind fun text => (elementTexts rest).map (text :: ·)

end

/-- `JSON.stringify` of what may be `undefined`. -/
def shown (value : Option (Json N)) : String := value.elim "undefined" runtime.stringify

/-! ### The closed lists -/

def WIDGET_KINDS : List WidgetKind := [.metricCard, .timeSeries, .dimensionTable]

def WIDGET_TABLES : List WidgetTable := [.sessions, .pages, .goals]

def WIDGET_GRANULARITIES : List WidgetGranularity := [.hour, .day, .week, .month, .year]

def WIDGET_FILTER_OPERATORS : List WidgetFilterOperator :=
  [.equals, .notEquals, .in, .notIn, .contains, .notContains, .isNull, .isNotNull, .isEmpty,
    .isNotEmpty]

/-- The string that a value is. -/
def string? : Option (Json N) → Option String
  | some (.str s) => some s
  | _ => none

/-- The member of a closed list that a value names. -/
def oneOf {α : Type} (options : List α) (text : α → String) (value : Option (Json N)) : Option α :=
  (string? value).bind fun s => options.find? fun option => text option = s

/-- `value !== undefined && value !== null` -/
def given : Option (Json N) → Bool
  | none | some .null => false
  | _ => true

/-! ### The parts of a widget -/

/-- The errors of checks that are made one after the other. -/
def collect : List Checked → Checked
  | [] => .ok []
  | check :: rest => do
      let errors ← check
      let more ← collect rest
      return errors ++ more

def idErrors (id : Option (Json N)) : List String :=
  if (string? id).any isSlug then []
  else ["widget.id must be a slug (lowercase alphanumeric, dashes/underscores, 1-64 chars), got " ++
    shown runtime id]

def kindErrors (kind : Option (Json N)) : List String :=
  if (oneOf WIDGET_KINDS WidgetKind.text kind).isSome then []
  else ["widget.kind must be one of: " ++ ", ".intercalate (WIDGET_KINDS.map WidgetKind.text) ++
    ", got " ++ shown runtime kind]

def titleErrors (title : Option (Json N)) : List String :=
  if (string? title).any fun s => Text.trim s ≠ "" && Text.utf16Length s ≤ 120 then []
  else ["widget.title must be a non-empty string (max 120 chars)"]

def tableErrors (table : Option (Json N)) : List String :=
  if table.isNone || (oneOf WIDGET_TABLES WidgetTable.text table).isSome then []
  else ["widget.table must be one of: " ++ ", ".intercalate (WIDGET_TABLES.map WidgetTable.text) ++
    ", got " ++ shown runtime table]

/-- The table the other checks go by. -/
def effectiveTable (table : Option (Json N)) : WidgetTable :=
  (oneOf WIDGET_TABLES WidgetTable.text table).getD .sessions

/-- The check of a metric or a dimension, which is the same but for the words. -/
def keyCheck (field plural : String) (safe known : List (String × List WidgetTable))
    (key : String) (table : WidgetTable) : Checked := do
  let unavailable := "widget." ++ field ++ " '" ++ key ++ "' is not available for table '" ++
    table.text ++ "' (valid " ++ plural ++ " for '" ++ table.text ++ "': " ++
    safeKeysFor safe known table ++ ")"
  if (← includesTable safe key table) = false then
    if hasEntry known key = true ∧ (← includesTable known key table) = false then
      return [unavailable]
    else
      return ["widget." ++ field ++ " '" ++ key ++ "' is not a widget-safe " ++ field ++
        " for table '" ++ table.text ++ "' (allowed: " ++ ", ".intercalate (safe.map (·.1)) ++ ")"]
  else if (← includesTable known key table) = false then return [unavailable]
  else return []

def metricCheck (catalog : WidgetCatalog) (table : WidgetTable) (metric : Option (Json N)) :
    Checked :=
  match metric with
  | some (.str key) =>
      keyCheck "metric" "metrics" catalog.safeMetrics catalog.metrics key table
  | _ => .ok ["widget.metric is required and must be a string"]

def dimensionCheck (catalog : WidgetCatalog) (table : WidgetTable)
    (dimension : Option (Json N)) : Checked :=
  match dimension with
  | none | some .null => .ok []
  | some (.str key) =>
      keyCheck "dimension" "dimensions" catalog.safeDimensions catalog.dimensions key table
  | _ => .ok ["widget.dimension must be a string"]

/-- A part that belongs to one kind: required there, and to be left out everywhere else. -/
def partErrors (field : String) (owner : WidgetKind) (kind part : Option (Json N)) :
    List String :=
  if string? kind = some owner.text then
    if given part then [] else ["widget." ++ field ++ " is required for kind '" ++ owner.text ++ "'"]
  else if given part then
    ["widget." ++ field ++ " must be omitted for kind '" ++ (string? kind).getD "unknown" ++ "'"]
  else []

def granularityErrors (granularity : Option (Json N)) : List String :=
  if given granularity &&
      (oneOf WIDGET_GRANULARITIES WidgetGranularity.text granularity).isNone then
    ["widget.granularity must be one of: " ++
      ", ".intercalate (WIDGET_GRANULARITIES.map WidgetGranularity.text) ++ ", got " ++
      shown runtime granularity]
  else []

def limitErrors (limit : Option (Json N)) : List String :=
  let fits : Bool :=
    match limit with
    | none => true
    | some (.num n) => (runtime.integer n).any fun k => 1 ≤ k && k ≤ 1000
    | _ => false
  if fits then [] else ["widget.limit must be an integer between 1 and 1000"]

/-! ### The filters of a widget -/

/-- The error of a filter's dimension, which names it. -/
def dimensionRejected (table : WidgetTable) (i : Nat) (dimension : Option (Json N)) : Checked :=
  match dimension.elim (some "undefined") (toText runtime) with
  | none => .error TYPE_ERROR
  | some text => .ok ["widget.filters[" ++ toString i ++ "].dimension '" ++ text ++
      "' is not a widget-safe dimension for table '" ++ table.text ++ "'"]

def filterDimensionCheck (catalog : WidgetCatalog) (table : WidgetTable) (i : Nat)
    (dimension : Option (Json N)) : Checked :=
  match dimension with
  | some (.str key) => do
      if (← includesTable catalog.safeDimensions key table) = false then
        dimensionRejected runtime table i dimension
      else if (← includesTable catalog.dimensions key table) = false then
        dimensionRejected runtime table i dimension
      else return []
  | _ => dimensionRejected runtime table i dimension

/-- A non-empty array of a hundred values at most. -/
def fewValues : Option (Json N) → Bool
  | some (.arr l) => 0 < l.length && l.length ≤ 100
  | _ => false

def filterOperatorErrors (i : Nat) (operator values : Option (Json N)) : List String :=
  match oneOf WIDGET_FILTER_OPERATORS WidgetFilterOperator.text operator with
  | none => ["widget.filters[" ++ toString i ++ "].operator must be one of: " ++
      ", ".intercalate (WIDGET_FILTER_OPERATORS.map WidgetFilterOperator.text)]
  | some operator =>
      if NO_VALUE_OPERATORS.contains operator || fewValues values then []
      else ["widget.filters[" ++ toString i ++
        "].values must be a non-empty array (max 100) for operator '" ++ operator.text ++ "'"]

def filterCheck (catalog : WidgetCatalog) (table : WidgetTable) (f : Json N) (i : Nat) : Checked :=
  match f with
  | .obj _ | .arr _ =>
      collect
        [filterDimensionCheck runtime catalog table i (member f "dimension"),
          .ok (filterOperatorErrors i (member f "operator") (member f "values"))]
  | _ => .ok ["widget.filters[" ++ toString i ++ "] must be an object"]

def filtersCheck (catalog : WidgetCatalog) (table : WidgetTable) (filters : Option (Json N)) :
    Checked :=
  match filters with
  | none => .ok []
  | some (.arr l) => collect (l.zipIdx.map fun (f, i) => filterCheck runtime catalog table f i)
  | _ => .ok ["widget.filters must be an array"]

/-! ### Widgets -/

def validateWidgetConfig (catalog : WidgetCatalog) (w : Json N) : Checked :=
  match w with
  | .null => .error TYPE_ERROR
  | _ =>
      let kind := member w "kind"
      let table := effectiveTable (member w "table")
      collect
        [.ok (idErrors runtime (member w "id")),
          .ok (kindErrors runtime kind),
          .ok (titleErrors (member w "title")),
          .ok (tableErrors runtime (member w "table")),
          metricCheck catalog table (member w "metric"),
          .ok (partErrors "dimension" .dimensionTable kind (member w "dimension")),
          dimensionCheck catalog table (member w "dimension"),
          .ok (partErrors "granularity" .timeSeries kind (member w "granularity")),
          .ok (granularityErrors runtime (member w "granularity")),
          .ok (limitErrors runtime (member w "limit")),
          filtersCheck runtime catalog table (member w "filters")]

def repeatedErrors (label : String) (seen : List String) (id : Option String) : List String :=
  (id.filter (· ∈ seen)).toList.map fun id => label ++ "duplicate widget id '" ++ id ++ "'"

/-- The loop of `validateWidgetsArray`, from the `i`-th widget on. -/
def widgetErrors (catalog : WidgetCatalog) : Nat → List String → List (Json N) → Checked
  | _, _, [] => .ok []
  | i, seen, w :: rest => do
      let errors ← validateWidgetConfig runtime catalog w
      let more ← widgetErrors catalog (i + 1) ((string? (member w "id")).toList ++ seen) rest
      return errors.map ("widgets[" ++ toString i ++ "]: " ++ ·) ++
        repeatedErrors ("widgets[" ++ toString i ++ "]: ") seen (string? (member w "id")) ++ more

def validateWidgetsArray (catalog : WidgetCatalog) (widgets : Json N) : Checked :=
  match widgets with
  | .null => .ok []
  | .arr l =>
      if MAX_CUSTOM_WIDGETS < l.length then
        .ok ["dashboard_layout.widgets must not exceed " ++ toString MAX_CUSTOM_WIDGETS ++
          " widgets (got " ++ toString l.length ++ ")"]
      else widgetErrors runtime catalog 0 [] l
  | _ => .ok ["dashboard_layout.widgets must be an array"]

end

/-! ### Checks one after the other -/

theorem collect_eq_nil {checks : List Checked} (h : collect checks = .ok []) :
    ∀ check ∈ checks, check = .ok [] := by
  induction checks with
  | nil => exact fun _ hc => absurd hc List.not_mem_nil
  | cons check rest ih =>
      unfold collect at h
      cases check with
      | error e => exact absurd h nofun
      | ok errors =>
          cases hrest : collect rest with
          | error e =>
              rw [hrest] at h
              exact absurd h nofun
          | ok more =>
              rw [hrest] at h
              obtain ⟨rfl, rfl⟩ := List.append_eq_nil_iff.mp (Except.ok.inj h)
              exact List.forall_mem_cons.mpr ⟨rfl, ih hrest⟩

/-- The check does not throw. -/
def Returns (check : Checked) : Prop := ∃ errors, check = .ok errors

theorem returns_ok (errors : List String) : Returns (.ok errors) := ⟨errors, rfl⟩

theorem returns_collect {checks : List Checked} (h : ∀ check ∈ checks, Returns check) :
    Returns (collect checks) := by
  induction checks with
  | nil => exact returns_ok []
  | cons check rest ih =>
      obtain ⟨⟨errors, herrors⟩, hrest⟩ := List.forall_mem_cons.mp h
      obtain ⟨more, hmore⟩ := ih hrest
      refine ⟨errors ++ more, ?_⟩
      unfold collect
      rw [herrors, hmore]
      rfl

/-! ### The catalogues -/

theorem available_of_includesTable {entries : List (String × List WidgetTable)} {key : String}
    {table : WidgetTable} {b : Bool} (h : includesTable entries key table = .ok b) :
    availableOn entries key table = b := by
  unfold includesTable at h
  unfold availableOn
  cases hlookup : entries.lookup key with
  | some tables =>
      rw [hlookup] at h
      exact Except.ok.inj h
  | none =>
      rw [hlookup] at h
      dsimp only at h
      split at h
      · exact absurd h nofun
      · exact Except.ok.inj h

theorem includesTable_returns {key : String} (h : key ∉ OBJECT_PROTOTYPE)
    (entries : List (String × List WidgetTable)) (table : WidgetTable) :
    includesTable entries key table = .ok (availableOn entries key table) := by
  unfold includesTable availableOn
  cases entries.lookup key with
  | some tables => rfl
  | none => exact if_neg h

section

variable {field plural key : String} {safe known : List (String × List WidgetTable)}
variable {table : WidgetTable}

/-- A key without an error is an own entry of both, on the table. -/
theorem available_of_keyCheck (h : keyCheck field plural safe known key table = .ok []) :
    availableOn safe key table = true ∧ availableOn known key table = true := by
  unfold keyCheck at h
  cases hsafe : includesTable safe key table with
  | error e =>
      rw [hsafe] at h
      exact absurd h nofun
  | ok safeOn =>
      cases hknown : includesTable known key table with
      | error e =>
          rw [hsafe, hknown] at h
          cases safeOn <;> exact absurd h nofun
      | ok knownOn =>
          rw [hsafe, hknown] at h
          rw [available_of_includesTable hsafe, available_of_includesTable hknown]
          cases safeOn with
          | false =>
              simp only [bind, Except.bind, pure, Except.pure, if_true] at h
              split at h <;> exact absurd h nofun
          | true =>
              cases knownOn with
              | false => exact absurd h nofun
              | true => exact ⟨rfl, rfl⟩

theorem returns_keyCheck (h : key ∉ OBJECT_PROTOTYPE) :
    Returns (keyCheck field plural safe known key table) := by
  unfold keyCheck
  rw [includesTable_returns h, includesTable_returns h]
  simp only [bind, Except.bind, pure, Except.pure]
  split
  · split <;> exact returns_ok _
  · split <;> exact returns_ok _

end

/-! ### What an accepted part is -/

section

variable {N : Type} (runtime : Runtime N)

theorem string?_eq_some {value : Option (Json N)} {s : String} :
    string? value = some s ↔ value = some (.str s) := by
  constructor
  · intro h
    unfold string? at h
    split at h
    · rw [Option.some.inj h]
    · exact absurd h nofun
  · rintro rfl
    rfl

theorem oneOf_eq_some {α : Type} {options : List α} {text : α → String}
    {value : Option (Json N)} {a : α} (h : oneOf options text value = some a) :
    value = some (.str (text a)) := by
  obtain ⟨s, hs, hfind⟩ := Option.bind_eq_some_iff.mp h
  have htext : text a = s := by simpa using List.find?_some hfind
  rw [htext]
  exact string?_eq_some.mp hs

theorem string_of_any {value : Option (Json N)} {p : String → Bool}
    (h : (string? value).any p = true) : ∃ s, value = some (.str s) ∧ p s = true := by
  cases hs : string? value with
  | none =>
      rw [hs] at h
      exact absurd h nofun
  | some s =>
      rw [hs] at h
      exact ⟨s, string?_eq_some.mp hs, h⟩

theorem holds_of_no_error {p : Prop} [Decidable p] {error : String}
    (h : (if p then [] else [error]) = []) : p := by
  by_contra hp
  exact List.cons_ne_nil _ _ ((if_neg hp).symm.trans h)

/-- A text of the catalogues, which is an own entry on the table of both. -/
structure KeyOk (safe known : List (String × List WidgetTable)) (table : WidgetTable)
    (value : Option (Json N)) : Prop where
  key : ∃ key, value = some (.str key) ∧ availableOn safe key table = true ∧
    availableOn known key table = true

structure FilterOk (catalog : WidgetCatalog) (table : WidgetTable) (f : Json N) : Prop where
  object : ∃ members, f = .obj members
  dimension : KeyOk catalog.safeDimensions catalog.dimensions table (member f "dimension")
  operator : ∃ operator : WidgetFilterOperator,
    member f "operator" = some (.str operator.text) ∧
      (operator ∈ NO_VALUE_OPERATORS ∨
        ∃ l, member f "values" = some (.arr l) ∧ 0 < l.length ∧ l.length ≤ 100)

/-- What a widget of the kind has, and has not. -/
structure ShapeOk (catalog : WidgetCatalog) (table : WidgetTable) (kind : WidgetKind)
    (w : Json N) : Prop where
  named : member w "kind" = some (.str kind.text)
  dimension : if kind = .dimensionTable then
      KeyOk catalog.safeDimensions catalog.dimensions table (member w "dimension")
    else given (member w "dimension") = false
  granularity : if kind = .timeSeries then
      ∃ granularity : WidgetGranularity,
        member w "granularity" = some (.str granularity.text)
    else given (member w "granularity") = false

structure WidgetOk (catalog : WidgetCatalog) (w : Json N) : Prop where
  object : ∃ members, w = .obj members
  id : ∃ id, member w "id" = some (.str id) ∧ isSlug id = true
  title : ∃ title, member w "title" = some (.str title) ∧ Text.trim title ≠ "" ∧
    Text.utf16Length title ≤ 120
  table : member w "table" = none ∨
    member w "table" = some (.str (effectiveTable (member w "table")).text)
  metric : KeyOk catalog.safeMetrics catalog.metrics (effectiveTable (member w "table"))
    (member w "metric")
  shape : ∃ kind, ShapeOk catalog (effectiveTable (member w "table")) kind w
  limit : ∀ limit ∈ member w "limit", ∃ n k, limit = .num n ∧ runtime.integer n = some k ∧
    1 ≤ k ∧ k ≤ 1000
  filters : ∀ filters ∈ member w "filters", ∃ l, filters = .arr l ∧
    ∀ f ∈ l, FilterOk catalog (effectiveTable (member w "table")) f

theorem object_of_member {w v : Json N} {name : String} (h : member w name = some v) :
    ∃ members, w = .obj members := by
  cases w with
  | obj members => exact ⟨members, rfl⟩
  | _ => exact absurd h nofun

theorem keyOk_of_dimensionCheck {catalog : WidgetCatalog} {table : WidgetTable}
    {dimension : Option (Json N)} (hgiven : given dimension = true)
    (h : dimensionCheck catalog table dimension = .ok []) :
    KeyOk catalog.safeDimensions catalog.dimensions table dimension := by
  match dimension with
  | none => exact absurd hgiven nofun
  | some .null => exact absurd hgiven nofun
  | some (.str key) => exact ⟨key, rfl, available_of_keyCheck h⟩
  | some (.bool _) => exact absurd h nofun
  | some (.num _) => exact absurd h nofun
  | some (.arr _) => exact absurd h nofun
  | some (.obj _) => exact absurd h nofun

theorem keyOk_of_metricCheck {catalog : WidgetCatalog} {table : WidgetTable}
    {metric : Option (Json N)} (h : metricCheck catalog table metric = .ok []) :
    KeyOk catalog.safeMetrics catalog.metrics table metric := by
  unfold metricCheck at h
  split at h
  · exact ⟨_, rfl, available_of_keyCheck h⟩
  · exact absurd h nofun

theorem given_of_partErrors {field : String} {owner kind : WidgetKind}
    {raw part : Option (Json N)} (hkind : raw = some (.str kind.text))
    (h : partErrors field owner raw part = []) : given part = decide (kind = owner) := by
  have htext : string? raw = some owner.text ↔ kind = owner := by
    rw [hkind]
    cases kind <;> cases owner <;> simp [string?, WidgetKind.text]
  unfold partErrors at h
  by_cases howner : kind = owner
  · rw [if_pos (htext.mpr howner)] at h
    rw [decide_eq_true howner]
    by_contra hmissing
    rw [if_neg hmissing] at h
    exact absurd h (List.cons_ne_nil _ _)
  · rw [if_neg (mt htext.mp howner)] at h
    rw [decide_eq_false howner]
    by_contra hpresent
    rw [if_pos (by simpa using hpresent)] at h
    exact absurd h (List.cons_ne_nil _ _)

theorem dimensionRejected_ne_nil (table : WidgetTable) (i : Nat)
    (dimension : Option (Json N)) : dimensionRejected runtime table i dimension ≠ .ok [] := by
  unfold dimensionRejected
  split <;> exact nofun

theorem keyOk_of_filterDimensionCheck {catalog : WidgetCatalog} {table : WidgetTable} {i : Nat}
    {dimension : Option (Json N)}
    (h : filterDimensionCheck runtime catalog table i dimension = .ok []) :
    KeyOk catalog.safeDimensions catalog.dimensions table dimension := by
  have hrejected := dimensionRejected_ne_nil runtime table i dimension
  unfold filterDimensionCheck at h
  split at h
  · rename_i key
    cases hsafe : includesTable catalog.safeDimensions key table with
    | error e =>
        rw [hsafe] at h
        exact absurd h nofun
    | ok safeOn =>
        rw [hsafe] at h
        cases safeOn with
        | false => exact absurd h hrejected
        | true =>
            cases hknown : includesTable catalog.dimensions key table with
            | error e =>
                rw [hknown] at h
                exact absurd h nofun
            | ok knownOn =>
                rw [hknown] at h
                cases knownOn with
                | false => exact absurd h hrejected
                | true =>
                    exact ⟨key, rfl, available_of_includesTable hsafe,
                      available_of_includesTable hknown⟩
  · exact absurd h hrejected

theorem operatorOk_of_filterOperatorErrors {i : Nat} {operator values : Option (Json N)}
    (h : filterOperatorErrors i operator values = []) :
    ∃ op : WidgetFilterOperator, operator = some (.str op.text) ∧
      (op ∈ NO_VALUE_OPERATORS ∨ ∃ l, values = some (.arr l) ∧ 0 < l.length ∧ l.length ≤ 100) := by
  unfold filterOperatorErrors at h
  cases hop : oneOf WIDGET_FILTER_OPERATORS WidgetFilterOperator.text operator with
  | none =>
      rw [hop] at h
      exact absurd h (List.cons_ne_nil _ _)
  | some op =>
      rw [hop] at h
      refine ⟨op, oneOf_eq_some hop, ?_⟩
      by_cases hnone : NO_VALUE_OPERATORS.contains op = true
      · exact Or.inl (List.contains_iff_mem.mp hnone)
      · have hfew : fewValues values = true := by
          by_contra hmany
          have hneither : ¬(NO_VALUE_OPERATORS.contains op || fewValues values) = true := by
            rw [Bool.or_eq_true, not_or]
            exact ⟨hnone, hmany⟩
          exact absurd ((if_neg hneither).symm.trans h) (List.cons_ne_nil _ _)
        unfold fewValues at hfew
        split at hfew
        · rename_i l
          simp only [Bool.and_eq_true, decide_eq_true_eq] at hfew
          exact Or.inr ⟨l, rfl, hfew⟩
        · exact absurd hfew nofun

theorem filterOk_of_filterCheck {catalog : WidgetCatalog} {table : WidgetTable} {f : Json N}
    {i : Nat} (h : filterCheck runtime catalog table f i = .ok []) :
    FilterOk catalog table f := by
  have hparts : ∀ g : Json N, collect
      [filterDimensionCheck runtime catalog table i (member g "dimension"),
        .ok (filterOperatorErrors i (member g "operator") (member g "values"))] = .ok [] →
      FilterOk catalog table g := by
    intro g hg
    have hall := collect_eq_nil hg
    have hdimension := keyOk_of_filterDimensionCheck runtime (hall _ List.mem_cons_self)
    have hoperator := Except.ok.inj (hall _ (List.mem_cons_of_mem _ List.mem_cons_self))
    obtain ⟨key, hkey, -⟩ := hdimension.key
    exact ⟨object_of_member hkey, hdimension, operatorOk_of_filterOperatorErrors hoperator⟩
  cases f with
  | obj members => exact hparts _ h
  | arr l => exact hparts _ h
  | _ => exact absurd h nofun

theorem filtersOk_of_filtersCheck {catalog : WidgetCatalog} {table : WidgetTable}
    {filters : Option (Json N)} (h : filtersCheck runtime catalog table filters = .ok []) :
    ∀ value ∈ filters, ∃ l, value = .arr l ∧ ∀ f ∈ l, FilterOk catalog table f := by
  intro value hvalue
  rw [Option.mem_def.mp hvalue] at h
  cases value with
  | arr l =>
      refine ⟨l, rfl, fun f hf => ?_⟩
      obtain ⟨i, hi⟩ := List.mem_iff_getElem?.mp hf
      have hcheck := collect_eq_nil h (filterCheck runtime catalog table f i)
      refine filterOk_of_filterCheck runtime (hcheck ?_)
      exact List.mem_map.mpr ⟨(f, i), List.mem_zipIdx_iff_getElem?.mpr hi, rfl⟩
  | _ => exact absurd h nofun

/-- **A widget without an error has every part as it should be.** -/
theorem widgetOk_of_validateWidgetConfig {catalog : WidgetCatalog} {w : Json N}
    (h : validateWidgetConfig runtime catalog w = .ok []) : WidgetOk runtime catalog w := by
  have hparts : collect
      [.ok (idErrors runtime (member w "id")),
        .ok (kindErrors runtime (member w "kind")),
        .ok (titleErrors (member w "title")),
        .ok (tableErrors runtime (member w "table")),
        metricCheck catalog (effectiveTable (member w "table")) (member w "metric"),
        .ok (partErrors "dimension" .dimensionTable (member w "kind") (member w "dimension")),
        dimensionCheck catalog (effectiveTable (member w "table")) (member w "dimension"),
        .ok (partErrors "granularity" .timeSeries (member w "kind") (member w "granularity")),
        .ok (granularityErrors runtime (member w "granularity")),
        .ok (limitErrors runtime (member w "limit")),
        filtersCheck runtime catalog (effectiveTable (member w "table"))
          (member w "filters")] = .ok [] := by
    unfold validateWidgetConfig at h
    split at h
    · exact absurd h nofun
    · exact h
  have hall := collect_eq_nil hparts
  simp only [List.forall_mem_cons, Except.ok.injEq] at hall
  obtain ⟨hid, hkind, htitle, htable, hmetric, hdimensionPart, hdimension, hgranularityPart,
    hgranularity, hlimit, hfilters, -⟩ := hall
  obtain ⟨id, hidText, hslug⟩ := string_of_any (holds_of_no_error hid)
  obtain ⟨kind, hoption⟩ := Option.isSome_iff_exists.mp (holds_of_no_error hkind)
  have hnamed := oneOf_eq_some hoption
  refine ⟨object_of_member hidText, ⟨id, hidText, hslug⟩, ?_, ?_, keyOk_of_metricCheck hmetric,
    ⟨kind, hnamed, ?_, ?_⟩, ?_, filtersOk_of_filtersCheck runtime hfilters⟩
  · obtain ⟨title, htext, hfits⟩ := string_of_any (holds_of_no_error htitle)
    simp only [Bool.and_eq_true, decide_eq_true_eq] at hfits
    exact ⟨title, htext, by simpa using hfits.1, hfits.2⟩
  · rcases Bool.or_eq_true_iff.mp (holds_of_no_error htable) with hnone | hsome
    · exact Or.inl (Option.isNone_iff_eq_none.mp hnone)
    · obtain ⟨table, hoption⟩ := Option.isSome_iff_exists.mp hsome
      refine Or.inr ?_
      rw [effectiveTable, hoption, Option.getD_some]
      exact oneOf_eq_some hoption
  · have hgiven := given_of_partErrors hnamed hdimensionPart
    by_cases howner : kind = .dimensionTable
    · rw [if_pos howner]
      exact keyOk_of_dimensionCheck (hgiven.trans (decide_eq_true howner)) hdimension
    · rw [if_neg howner, hgiven]
      exact decide_eq_false howner
  · have hgiven := given_of_partErrors hnamed hgranularityPart
    by_cases howner : kind = .timeSeries
    · rw [if_pos howner]
      rw [granularityErrors, hgiven, decide_eq_true howner, Bool.true_and] at hgranularity
      cases hoption : oneOf WIDGET_GRANULARITIES WidgetGranularity.text
          (member w "granularity") with
      | none =>
          rw [hoption] at hgranularity
          exact absurd hgranularity (List.cons_ne_nil _ _)
      | some granularity => exact ⟨granularity, oneOf_eq_some hoption⟩
    · rw [if_neg howner, hgiven]
      exact decide_eq_false howner
  · intro limit hmem
    have hfits := holds_of_no_error hlimit
    rw [Option.mem_def.mp hmem] at hfits
    cases limit with
    | num n =>
        cases hk : runtime.integer n with
        | none =>
            simp only [hk] at hfits
            exact absurd hfits nofun
        | some k =>
            simp only [hk, Option.any_some, Bool.and_eq_true, decide_eq_true_eq] at hfits
            exact ⟨n, k, rfl, hk, hfits⟩
    | _ => exact absurd hfits nofun

/-- The widgets and their ids, when the loop finds no error. -/
theorem widgetErrors_eq_nil {catalog : WidgetCatalog} {widgets : List (Json N)} :
    ∀ {i : Nat} {seen : List String}, widgetErrors runtime catalog i seen widgets = .ok [] →
      (∀ w ∈ widgets, WidgetOk runtime catalog w) ∧
        (widgets.filterMap fun w => string? (member w "id")).Nodup ∧
        ∀ w ∈ widgets, ∀ id ∈ string? (member w "id"), id ∉ seen := by
  induction widgets with
  | nil => exact fun _ => ⟨by simp, by simp, by simp⟩
  | cons w rest ih =>
      intro i seen h
      unfold widgetErrors at h
      cases herrors : validateWidgetConfig runtime catalog w with
      | error e =>
          rw [herrors] at h
          exact absurd h nofun
      | ok errors =>
          cases hmore : widgetErrors runtime catalog (i + 1)
              ((string? (member w "id")).toList ++ seen) rest with
          | error e =>
              rw [herrors, hmore] at h
              exact absurd h nofun
          | ok more =>
              rw [herrors, hmore] at h
              obtain ⟨hboth, rfl⟩ := List.append_eq_nil_iff.mp (Except.ok.inj h)
              obtain ⟨hown, hrepeated⟩ := List.append_eq_nil_iff.mp hboth
              rw [List.map_eq_nil_iff.mp hown] at herrors
              have hok := widgetOk_of_validateWidgetConfig runtime herrors
              obtain ⟨hrestOk, hnodup, hfresh⟩ := ih hmore
              obtain ⟨id, hid, -⟩ := hok.id
              have hidText : string? (member w "id") = some id := string?_eq_some.mpr hid
              rw [hidText] at hrepeated hfresh
              have hnew : id ∉ seen := by
                intro hmem
                simp [repeatedErrors, hmem] at hrepeated
              refine ⟨List.forall_mem_cons.mpr ⟨hok, hrestOk⟩, ?_, ?_⟩
              · have hcons : ((w :: rest).filterMap fun w => string? (member w "id")) =
                    id :: rest.filterMap fun w => string? (member w "id") :=
                  List.filterMap_cons_some hidText
                rw [hcons]
                refine List.nodup_cons.mpr ⟨fun hmem => ?_, hnodup⟩
                obtain ⟨x, hx, hxid⟩ := List.mem_filterMap.mp hmem
                exact hfresh x hx id hxid (List.mem_append_left _ List.mem_cons_self)
              · refine List.forall_mem_cons.mpr ⟨fun a ha => ?_, fun x hx a ha hmem => ?_⟩
                · rw [hidText] at ha
                  rw [← Option.some.inj ha]
                  exact hnew
                · exact hfresh x hx a ha (List.mem_append_right _ hmem)

/-! ### What throws -/

/-- The value is a name that every object inherits. -/
def inherited (value : Option (Json N)) : Bool := (string? value).any OBJECT_PROTOTYPE.contains

/-- Nothing that the checks call on the widget throws. -/
structure Readable (w : Json N) : Prop where
  notNull : w ≠ .null
  metric : inherited (member w "metric") = false
  dimension : inherited (member w "dimension") = false
  filters : ∀ l, member w "filters" = some (.arr l) → ∀ f ∈ l,
    inherited (member f "dimension") = false ∧
      ∀ dimension ∈ member f "dimension", toText runtime dimension ≠ none

theorem not_mem_of_not_inherited {key : String}
    (h : inherited (some (Json.str key : Json N)) = false) : key ∉ OBJECT_PROTOTYPE :=
  fun hmem => Bool.noConfusion (h.symm.trans (List.contains_iff_mem.mpr hmem))

theorem returns_metricCheck (catalog : WidgetCatalog) (table : WidgetTable)
    {metric : Option (Json N)} (h : inherited metric = false) :
    Returns (metricCheck catalog table metric) := by
  unfold metricCheck
  split
  · exact returns_keyCheck (not_mem_of_not_inherited h)
  · exact returns_ok _

theorem returns_dimensionCheck (catalog : WidgetCatalog) (table : WidgetTable)
    {dimension : Option (Json N)} (h : inherited dimension = false) :
    Returns (dimensionCheck catalog table dimension) := by
  unfold dimensionCheck
  split
  · exact returns_ok _
  · exact returns_ok _
  · exact returns_keyCheck (not_mem_of_not_inherited h)
  · exact returns_ok _

theorem returns_filterDimensionCheck (catalog : WidgetCatalog) (table : WidgetTable) (i : Nat)
    {dimension : Option (Json N)} (h : inherited dimension = false)
    (htext : ∀ value ∈ dimension, toText runtime value ≠ none) :
    Returns (filterDimensionCheck runtime catalog table i dimension) := by
  have hrejected : Returns (dimensionRejected runtime table i dimension) := by
    unfold dimensionRejected
    split
    · rename_i hnone
      cases dimension with
      | none => exact absurd hnone nofun
      | some value => exact absurd hnone (htext value rfl)
    · exact returns_ok _
  unfold filterDimensionCheck
  split
  · rename_i key
    rw [includesTable_returns (not_mem_of_not_inherited h),
      includesTable_returns (not_mem_of_not_inherited h)]
    simp only [bind, Except.bind, pure, Except.pure]
    split
    · exact hrejected
    · split
      · exact hrejected
      · exact returns_ok _
  · exact hrejected

theorem returns_filtersCheck (catalog : WidgetCatalog) (table : WidgetTable)
    {filters : Option (Json N)} (h : ∀ l, filters = some (.arr l) → ∀ f ∈ l,
      inherited (member f "dimension") = false ∧
        ∀ dimension ∈ member f "dimension", toText runtime dimension ≠ none) :
    Returns (filtersCheck runtime catalog table filters) := by
  unfold filtersCheck
  split
  · exact returns_ok _
  · rename_i l
    refine returns_collect fun check hcheck => ?_
    obtain ⟨⟨f, i⟩, hf, rfl⟩ := List.mem_map.mp hcheck
    obtain ⟨hname, htext⟩ := h l rfl f (List.fst_mem_of_mem_zipIdx hf)
    have hparts : Returns (collect
        [filterDimensionCheck runtime catalog table i (member f "dimension"),
          .ok (filterOperatorErrors i (member f "operator") (member f "values"))]) :=
      returns_collect (List.forall_mem_cons.mpr ⟨returns_filterDimensionCheck runtime catalog table i hname htext,
        List.forall_mem_singleton.mpr (returns_ok _)⟩)
    dsimp only
    cases f with
    | obj members => exact hparts
    | arr l => exact hparts
    | _ => exact returns_ok _
  · exact returns_ok _

theorem returns_validateWidgetConfig (catalog : WidgetCatalog) {w : Json N}
    (h : Readable runtime w) : Returns (validateWidgetConfig runtime catalog w) := by
  unfold validateWidgetConfig
  split
  · exact absurd rfl h.notNull
  · refine returns_collect ?_
    simp only [List.forall_mem_cons]
    exact ⟨returns_ok _, returns_ok _, returns_ok _, returns_ok _,
      returns_metricCheck catalog _ h.metric, returns_ok _,
      returns_dimensionCheck catalog _ h.dimension, returns_ok _, returns_ok _, returns_ok _,
      returns_filtersCheck runtime catalog _ h.filters, by simp⟩

theorem returns_widgetErrors (catalog : WidgetCatalog) {widgets : List (Json N)}
    (h : ∀ w ∈ widgets, Readable runtime w) :
    ∀ (i : Nat) (seen : List String), Returns (widgetErrors runtime catalog i seen widgets) := by
  induction widgets with
  | nil => exact fun _ _ => returns_ok []
  | cons w rest ih =>
      intro i seen
      obtain ⟨hw, hrest⟩ := List.forall_mem_cons.mp h
      obtain ⟨errors, herrors⟩ := returns_validateWidgetConfig runtime catalog hw
      obtain ⟨more, hmore⟩ := ih hrest (i + 1) ((string? (member w "id")).toList ++ seen)
      unfold widgetErrors
      rw [herrors, hmore]
      exact returns_ok _

/-- **Widgets that pass are widgets, and what can be read is checked to its end.**

For every JSON value: no errors are found only in `null` and in a list of widgets, each with
every part as it should be and an id of its own; and the check returns on every value whose
widgets are readable. -/
theorem widgets_checked (catalog : WidgetCatalog) (widgets : Json N) :
    (validateWidgetsArray runtime catalog widgets = .ok [] → widgets = .null ∨
      ∃ l, widgets = .arr l ∧ l.length ≤ MAX_CUSTOM_WIDGETS ∧
        (∀ w ∈ l, WidgetOk runtime catalog w) ∧
        (l.filterMap fun w => string? (member w "id")).Nodup) ∧
    ((∀ l, widgets = .arr l → ∀ w ∈ l, Readable runtime w) →
      Returns (validateWidgetsArray runtime catalog widgets)) := by
  unfold validateWidgetsArray
  cases widgets with
  | null => exact ⟨fun _ => Or.inl rfl, fun _ => returns_ok []⟩
  | arr l =>
      dsimp only
      by_cases hmany : MAX_CUSTOM_WIDGETS < l.length
      · rw [if_pos hmany]
        exact ⟨fun h => absurd h nofun, fun _ => returns_ok _⟩
      · rw [if_neg hmany]
        refine ⟨fun h => Or.inr ?_, fun h => returns_widgetErrors runtime catalog (h l rfl) 0 []⟩
        obtain ⟨hok, hnodup, -⟩ := widgetErrors_eq_nil runtime h
        exact ⟨l, rfl, Nat.not_lt.mp hmany, hok, hnodup⟩
  | _ => exact ⟨fun h => absurd h nofun, fun _ => returns_ok _⟩

end

namespace WidgetExample

def runtime : Runtime Empty where
  stringify := fun _ => ""
  numberText := nofun
  integer := nofun

def catalog : WidgetCatalog where
  safeMetrics := [("sessions", [.sessions])]
  safeDimensions := [("device", [.sessions, .goals])]
  metrics := [("sessions", [.sessions]), ("pageviews", [.sessions])]
  dimensions := [("device", [.sessions, .goals])]

def devices : Json Empty :=
  .obj [("id", .str "devices"), ("kind", .str "dimension_table"), ("title", .str "Devices"),
    ("metric", .str "sessions"), ("dimension", .str "device")]

end WidgetExample

open WidgetExample in
theorem devices_ok : WidgetOk runtime catalog devices ∧
    Returns (validateWidgetsArray runtime catalog (.arr [devices])) := by
  have hchecked : validateWidgetsArray runtime catalog (.arr [devices]) = .ok [] := by
    decide
  refine ⟨?_, [], hchecked⟩
  rcases (widgets_checked runtime catalog (.arr [devices])).1 hchecked with hnull | ⟨l, hl, -, hok, -⟩
  · exact absurd hnull nofun
  · obtain rfl := Json.arr.inj hl
    exact hok devices List.mem_cons_self

open WidgetExample in
/-- No errors are found in `null`, which is no list, and a list with `null` in it makes the
check throw. -/
theorem null_widgets : validateWidgetsArray runtime catalog .null = .ok [] ∧
    (∀ l, (Json.null : Json Empty) ≠ .arr l) ∧
    validateWidgetsArray runtime catalog (.arr [.null]) = .error TYPE_ERROR :=
  ⟨rfl, fun _ => nofun, rfl⟩

end WidgetInput

end Veridian
