/-
The three mutations of a filter backfill.

One SET clause is run against `events`, `sessions` and `goals`.  The statement is well
formed when there is something to set and every column it names is a column of the
table.  What a filter may write all three have; of what a condition may read, `sessions`
has no `path`, and the checks before a backfill look for neither.
-/
import Veridian.Filters.Service
import Veridian.Filters.SetClause

namespace Veridian

/-! ### Validation -/

/-- What is wrong with a filter; the message also has its name. -/
inductive BackfillFault where
  | emptyField (filterId : String)
  | invalidRegex (filterId pattern : String)
  | unsupportedRE2 (filterId : String)
  | emptyDimension (filterId : String)
  | missingValue (filterId : String) (action : FilterAction) (dimension : WritableDimension)
  deriving DecidableEq, Repr

/-- Lookahead or lookbehind, by their opening. -/
def hasUnsupportedRE2Features (pattern : String) : Bool :=
  pattern.toList.tails.any fun
    | open' :: mark :: kind :: _ =>
        open' == '(' && mark == '?' && (kind == '=' || kind == '!' || kind == '<')
    | _ => false

/-- `name.trim() === ''`. -/
def isBlank (name : String) : Bool := name.toList.all Char.isWhitespace

def conditionFaults (compiles : String → Bool) (filterId : String) (c : FilterCondition) :
    List BackfillFault :=
  let regexValue := c.value.getD ""
  (if isBlank c.field.name then [.emptyField filterId] else []) ++
    if c.operator = .regex then
      (if compiles regexValue then [] else [.invalidRegex filterId regexValue]) ++
        (if hasUnsupportedRE2Features regexValue then [.unsupportedRE2 filterId] else [])
    else []

def operationFaults (filterId : String) (op : FilterOperation) : List BackfillFault :=
  (if isBlank op.dimension.name then [.emptyDimension filterId] else []) ++
    if op.action ≠ .unsetValue ∧ op.value = none then
      [.missingValue filterId op.action op.dimension]
    else []

/-- The errors of all enabled filters; the backfill goes on without any. -/
def validateFiltersForBackfill (compiles : String → Bool) (filters : List FilterDefinition) :
    List BackfillFault :=
  (filters.filter (·.enabled)).flatMap fun f =>
    f.conditions.flatMap (conditionFaults compiles f.id) ++
      f.operations.flatMap (operationFaults f.id)

/-! ### The tables -/

inductive MutatedTable where
  | events | sessions | goals
  deriving DecidableEq, Repr

def MutatedTable.name : MutatedTable → String
  | .events => "events"
  | .sessions => "sessions"
  | .goals => "goals"

def eventsColumns : List String :=
  ["id", "session_id", "workspace_id", "received_at", "created_at", "updated_at", "name",
   "path", "duration", "page_duration", "previous_path", "referrer", "referrer_domain",
   "referrer_path", "is_direct", "landing_page", "landing_domain", "landing_path", "utm_source",
   "utm_medium", "utm_campaign", "utm_term", "utm_content", "utm_id", "utm_id_from", "channel",
   "channel_group", "stm_1", "stm_2", "stm_3", "stm_4", "stm_5", "stm_6", "stm_7", "stm_8",
   "stm_9", "stm_10", "screen_width", "screen_height", "viewport_width", "viewport_height",
   "device", "browser", "browser_type", "os", "user_agent", "connection_type", "language",
   "timezone", "country", "region", "city", "latitude", "longitude", "max_scroll",
   "page_number", "_version", "goal_name", "goal_value", "dedup_token", "sdk_version",
   "properties", "entered_at", "exited_at", "goal_timestamp", "user_id", "visitor_id",
   "fingerprint", "ip"]

def sessionsColumns : List String :=
  ["id", "workspace_id", "created_at", "updated_at", "duration", "pageview_count",
   "median_page_duration", "year", "month", "day", "day_of_week", "week_number", "hour",
   "is_weekend", "referrer", "referrer_domain", "referrer_path", "is_direct", "landing_page",
   "landing_domain", "landing_path", "exit_path", "utm_source", "utm_medium", "utm_campaign",
   "utm_term", "utm_content", "utm_id", "utm_id_from", "channel", "channel_group",
   "first_touch_channel", "first_touch_channel_group", "stm_1", "stm_2", "stm_3", "stm_4",
   "stm_5", "stm_6", "stm_7", "stm_8", "stm_9", "stm_10", "screen_width", "screen_height",
   "viewport_width", "viewport_height", "user_agent", "language", "timezone", "country",
   "region", "city", "latitude", "longitude", "browser", "browser_type", "os", "device",
   "connection_type", "max_scroll", "goal_count", "goal_value", "sdk_version", "user_id",
   "visitor_id", "fingerprint", "ip"]

def goalsColumns : List String :=
  ["id", "session_id", "workspace_id", "goal_name", "goal_value", "goal_timestamp", "path",
   "page_number", "properties", "referrer", "referrer_domain", "is_direct", "landing_page",
   "landing_path", "utm_source", "utm_medium", "utm_campaign", "utm_term", "utm_content",
   "channel", "channel_group", "first_touch_channel", "first_touch_channel_group", "stm_1",
   "stm_2", "stm_3", "stm_4", "stm_5", "stm_6", "stm_7", "stm_8", "stm_9", "stm_10", "device",
   "browser", "os", "country", "region", "city", "language", "browser_type", "screen_width",
   "screen_height", "viewport_width", "viewport_height", "user_agent", "connection_type",
   "referrer_path", "landing_domain", "utm_id", "utm_id_from", "timezone", "latitude",
   "longitude", "year", "month", "day", "day_of_week", "week_number", "hour", "is_weekend",
   "user_id", "visitor_id", "fingerprint", "ip", "_version"]

def MutatedTable.columns : MutatedTable → List String
  | .events => eventsColumns
  | .sessions => sessionsColumns
  | .goals => goalsColumns

/-- The space in front of the clauses of a mutation. -/
def MutatedTable.margin : MutatedTable → String
  | .events => "\n       "
  | .sessions | .goals => "\n         "

/-- The text of a mutation, before the table is qualified. -/
def mutationStatement (table : MutatedTable) (setClause partition : String) : String :=
  "ALTER TABLE " ++ table.name ++ " UPDATE" ++ table.margin ++ "  " ++ setClause ++
    table.margin ++ "IN PARTITION '" ++ partition ++ "'" ++ table.margin ++ "WHERE 1=1"

/-! ### What the tables have -/

theorem mem_mutatedTables (table : MutatedTable) :
    table ∈ [MutatedTable.events, .sessions, .goals] := by
  cases table <;> simp

/-- Every table has every writable dimension. -/
theorem dimension_mem_columns (table : MutatedTable) (d : WritableDimension) :
    d.name ∈ table.columns := by
  have hcheck : ∀ t ∈ [MutatedTable.events, .sessions, .goals], ∀ d ∈ WRITABLE_DIMENSIONS,
      d.name ∈ t.columns := by decide
  exact hcheck table (mem_mutatedTables table) d (mem_WRITABLE_DIMENSIONS d)

/-- Every table has every source field, except that `sessions` has no `path`. -/
theorem field_mem_columns_iff (table : MutatedTable) (field : SourceField) :
    field.name ∈ table.columns ↔ ¬(table = .sessions ∧ field = .path) := by
  have hcheck : ∀ t ∈ [MutatedTable.events, .sessions, .goals], ∀ f ∈ SOURCE_FIELDS,
      (f.name ∈ t.columns ↔ ¬(t = .sessions ∧ f = .path)) := by decide
  exact hcheck table (mem_mutatedTables table) field (mem_SOURCE_FIELDS field)

/-! ### The clause on a table -/

/-- There is something to set, and every column written or read is one of the table. -/
structure WellFormedOn (table : MutatedTable) (filters : List FilterDefinition) : Prop where
  nonempty : renderSetClause (compileFiltersToSQL filters) ≠ ""
  written : ∀ clause ∈ compileFiltersToSQL filters, clause.1.name ∈ table.columns
  read : ∀ clause ∈ compileFiltersToSQL filters, ∀ field,
    Sql.Term.column field ∈ clause.2.atoms → field.name ∈ table.columns

/-- All three mutations of a backfill are well formed. -/
def Backfillable (filters : List FilterDefinition) : Prop :=
  ∀ table, WellFormedOn table filters

/-- Some enabled filter has an operation. -/
def SetsSomething (filters : List FilterDefinition) : Prop :=
  ∃ f ∈ filters, f.enabled = true ∧ f.operations ≠ []

/-- Some enabled filter with an operation has a condition on `path`. -/
def ReadsPath (filters : List FilterDefinition) : Prop :=
  ∃ f ∈ filters, f.enabled = true ∧ f.operations ≠ [] ∧ ∃ c ∈ f.conditions, c.field = .path

theorem compileFiltersToSQL_ne_nil_iff {filters : List FilterDefinition} :
    compileFiltersToSQL filters ≠ [] ↔ SetsSomething filters := by
  constructor
  · intro h
    obtain ⟨⟨d, e⟩, hclause⟩ := List.exists_mem_of_ne_nil _ h
    obtain ⟨b, hb⟩ := List.exists_mem_of_ne_nil _ (mem_compileFiltersToSQL.mp hclause).1
    obtain ⟨f, hf, henabled, op, hop, -, -⟩ := mem_branchesFor.mp hb
    exact ⟨f, hf, henabled, List.ne_nil_of_mem hop⟩
  · rintro ⟨f, hf, henabled, hops⟩
    obtain ⟨op, hop⟩ := List.exists_mem_of_ne_nil _ hops
    have hb : branchOf (f, op) ∈ branchesFor filters op.dimension :=
      mem_branchesFor.mpr ⟨f, hf, henabled, op, hop, rfl, rfl⟩
    exact List.ne_nil_of_mem (mem_compileFiltersToSQL.mpr ⟨List.ne_nil_of_mem hb, rfl⟩)

theorem renderSetClause_ne_empty_iff {clauses : List (WritableDimension × Sql.Case SourceField)} :
    renderSetClause clauses ≠ "" ↔ clauses ≠ [] := by
  cases clauses with
  | nil => simp [renderSetClause]
  | cons clause rest =>
      cases rest with
      | nil => simp [renderSetClause]
      | cons next rest => simp [renderSetClause, String.intercalate_cons_cons]

/-- **The clause on one table.** -/
theorem wellFormedOn_iff (table : MutatedTable) (filters : List FilterDefinition) :
    WellFormedOn table filters ↔
      SetsSomething filters ∧ ¬(table = .sessions ∧ ReadsPath filters) := by
  constructor
  · rintro ⟨hnonempty, -, hread⟩
    refine ⟨compileFiltersToSQL_ne_nil_iff.mp (renderSetClause_ne_empty_iff.mp hnonempty), ?_⟩
    rintro ⟨htable, f, hf, henabled, hops, c, hc, hpath⟩
    have hcolumn : Sql.Term.column c.field ∈ (compileCondition c).atoms :=
      column_mem_compileCondition_of_ne (by rw [hpath]; decide)
    obtain ⟨clause, hclause, hmem⟩ :=
      condition_mem_compileFiltersToSQL hf henabled hops hc hcolumn
    exact (field_mem_columns_iff table c.field).mp (hread clause hclause c.field hmem)
      ⟨htable, hpath⟩
  · rintro ⟨hsets, hpath⟩
    refine ⟨?_, fun clause _ => dimension_mem_columns table clause.1, ?_⟩
    · exact renderSetClause_ne_empty_iff.mpr (compileFiltersToSQL_ne_nil_iff.mpr hsets)
    · intro clause hclause field hmem
      refine (field_mem_columns_iff table field).mpr ?_
      rintro ⟨htable, rfl⟩
      rcases column_mem_compileFiltersToSQL hclause hmem with hdim | hcond
      · exact absurd hdim (by cases clause.1 <;> simp [WritableDimension.field?])
      · exact hpath ⟨htable, hcond⟩

/--
**Which filter lists can be backfilled.**

All three mutations are well formed exactly when some enabled filter has an operation and
none that has one reads `path`.
-/
theorem backfillable_iff (filters : List FilterDefinition) :
    Backfillable filters ↔ SetsSomething filters ∧ ¬ReadsPath filters := by
  constructor
  · intro h
    obtain ⟨hsets, hpath⟩ := (wellFormedOn_iff .sessions filters).mp (h .sessions)
    exact ⟨hsets, fun hc => hpath ⟨rfl, hc⟩⟩
  · rintro ⟨hsets, hpath⟩ table
    exact (wellFormedOn_iff table filters).mpr ⟨hsets, fun hc => hpath hc.2⟩

/-! ### Lists that cannot be backfilled -/

namespace MutationExample

/-- Classifies the visitors of the pricing page. -/
def pricing : CreateFilterDto where
  priority := none
  conditions := [⟨.path, .equals, some "/pricing"⟩]
  operations := [⟨.channel, .setValue, some "pricing", rfl⟩]
  enabled := none
  priority_bounds := by simp
  conditions_ne := List.cons_ne_nil _ _
  operations_ne := List.cons_ne_nil _ _

def filter : FilterDefinition :=
  FiltersService.newFilter "f" pricing
    [⟨.channel, .setValue, some "pricing", Or.inr rfl⟩]

theorem stored : FiltersService.Stored (fun _ => true) "w" [filter] :=
  .create .empty (show FiltersService.create (fun _ => true) "f" pricing [] = .ok [filter] from rfl)

end MutationExample

open MutationExample in
/-- No filters leave nothing to set, and a condition on `path` reads a column that
`sessions` does not have. -/
theorem stored_not_backfillable :
    ¬Backfillable [] ∧ ¬Backfillable [filter] ∧
    ¬∀ (compiles : String → Bool) (workspaceId : String) (filters : List FilterDefinition),
      FiltersService.Stored compiles workspaceId filters →
      validateFiltersForBackfill compiles filters = [] → Backfillable filters := by
  have hempty : ¬Backfillable [] := by
    intro h
    exact (h .events).nonempty rfl
  have hpath : ¬Backfillable [filter] := by
    intro h
    have hread : ReadsPath [filter] :=
      ⟨filter, List.mem_cons_self, rfl, List.cons_ne_nil _ _, _, List.mem_cons_self, rfl⟩
    exact ((wellFormedOn_iff .sessions [filter]).mp (h .sessions)).2 ⟨rfl, hread⟩
  refine ⟨hempty, hpath, fun hall => hpath ?_⟩
  exact hall (fun _ => true) "w" [filter] stored (by decide)

end Veridian
