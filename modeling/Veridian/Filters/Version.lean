/-
The version of a workspace's filters.

`computeFilterVersion` sorts the filters by id, writes five of their fields as JSON and
hashes the text.  Conditions and operations are written as they are stored, so their keys
come in the order the request had them, and a stored filter keeps its objects beside what
they say.

What the text loses is the order of the list, and the order of the list is what decides
between filters of one priority.  So equal texts say that the filters are the same
(`definitions_perm_of_versionContent`), and that they classify the same as far as filters
of one priority that write one dimension stand in the same order in both lists.
-/
import Mathlib.Data.Rat.Encodable
import Veridian.Lib.Json
import Veridian.Access.Resources
import Veridian.Filters.Compiler
import Veridian.Filters.Meaning
import Veridian.Filters.Service

namespace Veridian

/-! ### Filters as they are stored -/

def FilterOperator.text : FilterOperator → String
  | .equals => "equals"
  | .notEquals => "not_equals"
  | .contains => "contains"
  | .notContains => "not_contains"
  | .isEmpty => "is_empty"
  | .isNotEmpty => "is_not_empty"
  | .regex => "regex"

abbrev JsonObject := List (String × Json ℚ)

/-- `object` says what `c` is; a condition without a value has no such key. -/
def FilterCondition.IsStoredAs (c : FilterCondition) (object : JsonObject) : Prop :=
  object.lookup "field" = some (.str c.field.name) ∧
    object.lookup "operator" = some (.str c.operator.text) ∧
    object.lookup "value" = c.value.map .str

def FilterOperation.IsStoredAs (op : FilterOperation) (object : JsonObject) : Prop :=
  object.lookup "dimension" = some (.str op.dimension.name) ∧
    object.lookup "action" = some (.str op.action.text) ∧
    object.lookup "value" = op.value.map .str

/-- A filter with the objects its conditions and operations are stored as. -/
structure StoredFilter where
  definition : FilterDefinition
  conditions : List JsonObject
  operations : List JsonObject
  conditions_stored : List.Forall₂ FilterCondition.IsStoredAs definition.conditions conditions
  operations_stored : List.Forall₂ FilterOperation.IsStoredAs definition.operations operations

/-- The filters that the engine runs on. -/
def definitions (filters : List StoredFilter) : List FilterDefinition :=
  filters.map (·.definition)

/-! ### The version -/

/-- What the host sorts ids by, and how it writes numbers. -/
structure VersionHost where
  localeCompare : String → String → ℤ
  numerals : Json.Numerals ℚ

/-- The object that is hashed for one filter. -/
def StoredFilter.hashed (f : StoredFilter) : Json ℚ :=
  .obj
    [("id", .str f.definition.id),
     ("conditions", .arr (f.conditions.map .obj)),
     ("operations", .arr (f.operations.map .obj)),
     ("enabled", .bool f.definition.enabled),
     ("priority", .num f.definition.priority)]

/-- `[...filters].sort((a, b) => a.id.localeCompare(b.id))` -/
def sortedById (host : VersionHost) (filters : List StoredFilter) : List StoredFilter :=
  filters.insertionSort fun a b => host.localeCompare a.definition.id b.definition.id ≤ 0

/-- The string that is hashed. -/
def versionContent (host : VersionHost) (filters : List StoredFilter) : String :=
  Json.stringify host.numerals (.arr ((sortedById host filters).map (·.hashed)))

/-- `md5` is the digest in hexadecimal. -/
def computeFilterVersion (host : VersionHost) (md5 : String → String)
    (filters : List StoredFilter) : String :=
  String.ofList ((md5 (versionContent host filters)).toList.take 8)

/-! ### Names are told apart -/

theorem SourceField.name_injective : Function.Injective SourceField.name := by
  have hnames : (SOURCE_FIELDS.map SourceField.name).Nodup := by decide
  intro a b h
  exact List.inj_on_of_nodup_map hnames (mem_SOURCE_FIELDS a) (mem_SOURCE_FIELDS b) h

theorem FilterOperator.text_injective : Function.Injective FilterOperator.text := by
  intro a b h
  cases a <;> cases b <;> first | rfl | simp [FilterOperator.text] at h

theorem FilterAction.text_injective : Function.Injective FilterAction.text := by
  intro a b h
  cases a <;> cases b <;> first | rfl | simp [FilterAction.text] at h

theorem WritableDimension.name_injective : Function.Injective WritableDimension.name := by
  have hnames : (WRITABLE_DIMENSIONS.map WritableDimension.name).Nodup := by decide
  intro a b h
  exact List.inj_on_of_nodup_map hnames (mem_WRITABLE_DIMENSIONS a) (mem_WRITABLE_DIMENSIONS b) h

/-! ### What is hashed says what the filters are -/

theorem str_inj_of_some {a b : String} (h : some (Json.str a : Json ℚ) = some (.str b)) :
    a = b :=
  Json.str.inj (Option.some.inj h)

theorem map_str_inj {a b : Option String}
    (h : a.map (Json.str : String → Json ℚ) = b.map .str) : a = b :=
  Option.map_injective (fun _ _ => Json.str.inj) h

theorem leftUnique_isStoredAs : Relator.LeftUnique FilterCondition.IsStoredAs := by
  intro c d object hc hd
  have hfield : c.field = d.field :=
    SourceField.name_injective (str_inj_of_some (hc.1.symm.trans hd.1))
  have hoperator : c.operator = d.operator :=
    FilterOperator.text_injective (str_inj_of_some (hc.2.1.symm.trans hd.2.1))
  have hvalue : c.value = d.value := map_str_inj (hc.2.2.symm.trans hd.2.2)
  cases c
  cases d
  rw [FilterCondition.mk.injEq]
  exact ⟨hfield, hoperator, hvalue⟩

theorem leftUnique_operation_isStoredAs : Relator.LeftUnique FilterOperation.IsStoredAs := by
  intro op op' object h h'
  have hdimension : op.dimension = op'.dimension :=
    WritableDimension.name_injective (str_inj_of_some (h.1.symm.trans h'.1))
  have haction : op.action = op'.action :=
    FilterAction.text_injective (str_inj_of_some (h.2.1.symm.trans h'.2.1))
  have hvalue : op.value = op'.value := map_str_inj (h.2.2.symm.trans h'.2.2)
  cases op
  cases op'
  obtain rfl := hdimension
  obtain rfl := haction
  obtain rfl := hvalue
  rfl

theorem obj_injective : Function.Injective (Json.obj : JsonObject → Json ℚ) :=
  fun _ _ => Json.obj.inj

theorem StoredFilter.definition_eq_of_hashed {f g : StoredFilter} (h : f.hashed = g.hashed) :
    f.definition = g.definition := by
  obtain ⟨⟨id, priority, conditions, operations, enabled, hpriority⟩, cs, ops, hcs, hops⟩ := f
  obtain ⟨⟨id', priority', conditions', operations', enabled', hpriority'⟩, cs', ops', hcs',
    hops'⟩ := g
  simp only [StoredFilter.hashed, Json.obj.injEq, List.cons.injEq, Prod.mk.injEq, true_and,
    Json.str.injEq, Json.arr.injEq, Json.bool.injEq, Json.num.injEq, and_true] at h
  obtain ⟨rfl, hcsEq, hopsEq, rfl, rfl⟩ := h
  obtain rfl : cs = cs' := List.map_injective_iff.mpr obj_injective hcsEq
  obtain rfl : ops = ops' := List.map_injective_iff.mpr obj_injective hopsEq
  obtain rfl : conditions = conditions' :=
    List.left_unique_forall₂' leftUnique_isStoredAs hcs hcs'
  obtain rfl : operations = operations' :=
    List.left_unique_forall₂' leftUnique_operation_isStoredAs hops hops'
  rfl

theorem definitions_eq_of_hashed :
    ∀ {l m : List StoredFilter}, l.map (·.hashed) = m.map (·.hashed) →
      definitions l = definitions m := by
  intro l
  induction l with
  | nil =>
      intro m h
      rw [List.map_eq_nil_iff.mp h.symm]
  | cons f l ih =>
      intro m h
      cases m with
      | nil => simp at h
      | cons g m =>
          obtain ⟨hfg, hrest⟩ := List.cons.inj h
          show f.definition :: definitions l = g.definition :: definitions m
          rw [StoredFilter.definition_eq_of_hashed hfg, ih hrest]

theorem perm_sortedById (host : VersionHost) (filters : List StoredFilter) :
    (definitions (sortedById host filters)).Perm (definitions filters) :=
  (List.perm_insertionSort _ filters).map _

/-- Equal strings are hashed for rearrangements of one list only. -/
theorem definitions_perm_of_versionContent {host : VersionHost} {F G : List StoredFilter}
    (h : versionContent host F = versionContent host G) :
    (definitions F).Perm (definitions G) := by
  have hvalues := Json.stringify_injective host.numerals h
  have hsorted : definitions (sortedById host F) = definitions (sortedById host G) :=
    definitions_eq_of_hashed (Json.arr.inj hvalues)
  exact (perm_sortedById host F).symm.trans (hsorted ▸ perm_sortedById host G)

/-! ### What is left of the order of the list -/

def FilterDefinition.writes (d : WritableDimension) (f : FilterDefinition) : Bool :=
  f.operations.any (·.dimension = d)

theorem rulesOn_of_not_writes {d : WritableDimension} {f : FilterDefinition}
    (h : f.writes d = false) : f.rulesOn d = [] := by
  unfold FilterDefinition.writes at h
  unfold FilterDefinition.rulesOn
  rw [List.filter_eq_nil_iff.mpr (List.any_eq_false.mp h)]
  rfl

/-- The filters that write `d` give all operations on it. -/
theorem flatMap_rulesOn_filter (d : WritableDimension) :
    ∀ fs : List FilterDefinition,
      fs.flatMap (·.rulesOn d) = (fs.filter (·.writes d)).flatMap (·.rulesOn d) := by
  intro fs
  induction fs with
  | nil => rfl
  | cons f rest ih =>
      by_cases h : f.writes d = true
      · rw [List.filter_cons_of_pos h, List.flatMap_cons, List.flatMap_cons, ih]
      · rw [List.filter_cons_of_neg h, List.flatMap_cons,
          rulesOn_of_not_writes (Bool.eq_false_iff.mpr h), List.nil_append, ih]

/-- The filters that apply and write `d`, in processing order. -/
theorem filter_writes_processed (host : Host) (filters : List FilterDefinition)
    (fieldValues : SourceField → Option String) (d : WritableDimension) :
    (processed host filters fieldValues).filter (·.writes d) =
      ((filters.filter (·.applies host fieldValues)).filter (·.writes d)).insertionSort
        (Sorting.Descending (·.priority)) :=
  Sorting.filter_insertionSort _ _ _

/-- Two different filters of one priority that both apply and write one dimension stand in
the same order in both lists. -/
def TiesInOrder (host : Host) (fieldValues : SourceField → Option String)
    (fs gs : List FilterDefinition) : Prop :=
  ∀ f ∈ fs, ∀ g ∈ fs, f ≠ g → f.priority = g.priority →
    f.applies host fieldValues = true → g.applies host fieldValues = true →
    (∃ d, f.writes d = true ∧ g.writes d = true) → Sorting.SameOrder f g fs gs

/-- A rearrangement that keeps the ties in order is not seen. -/
theorem evaluateFilters_eq_of_tiesInOrder {host : Host} {fs gs : List FilterDefinition}
    {fieldValues : SourceField → Option String} (hperm : fs.Perm gs)
    (hties : TiesInOrder host fieldValues fs gs) :
    evaluateFilters host fs fieldValues = evaluateFilters host gs fieldValues := by
  funext d
  rw [evaluateFilters_eq_declared, evaluateFilters_eq_declared]
  unfold rulesOn
  rw [flatMap_rulesOn_filter d (processed host fs fieldValues),
    flatMap_rulesOn_filter d (processed host gs fieldValues), filter_writes_processed,
    filter_writes_processed]
  have hsort := Sorting.insertionSort_eq_of_sameOrder (fun f : FilterDefinition => f.priority)
    ((hperm.filter (·.applies host fieldValues)).filter (·.writes d)) ?_
  · rw [hsort]
  · intro f hf g hg hne hpriority
    obtain ⟨hfApplies, hfWrites⟩ := List.mem_filter.mp hf
    obtain ⟨hgApplies, hgWrites⟩ := List.mem_filter.mp hg
    have horder := hties f (List.mem_of_mem_filter hfApplies) g
      (List.mem_of_mem_filter hgApplies) hne hpriority (List.mem_filter.mp hfApplies).2
      (List.mem_filter.mp hgApplies).2 ⟨d, hfWrites, hgWrites⟩
    exact (horder.filter _).filter _

/--
**Equal hashed strings classify alike, the order of ties apart.**

If the same string is hashed for `F` and for `G`, then `G` is a rearrangement of `F`; and
for all field values, if every two filters of one priority that apply and write one
dimension stand in the same order in both lists, `evaluateFilters` gives the same for both.
-/
theorem version_content_sound (versionHost : VersionHost) (host : Host)
    (F G : List StoredFilter) (h : versionContent versionHost F = versionContent versionHost G) :
    (definitions F).Perm (definitions G) ∧
      ∀ fieldValues, TiesInOrder host fieldValues (definitions F) (definitions G) →
        evaluateFilters host (definitions F) fieldValues =
          evaluateFilters host (definitions G) fieldValues := by
  have hperm := definitions_perm_of_versionContent h
  exact ⟨hperm, fun _ hties => evaluateFilters_eq_of_tiesInOrder hperm hties⟩

/-! ### Whether a backfill is needed -/

structure BackfillSummary where
  needsBackfill : Bool
  currentFilterVersion : String
  lastCompletedFilterVersion : Option String
  activeTask : Option BackfillTaskProgress

/-- `task.filters_snapshot || '[]'` -/
def snapshotText (task : BackfillTask) : String :=
  if task.filtersSnapshot = "" then "[]" else task.filtersSnapshot

/-- The version of the snapshot that the last completed task ran with. -/
def lastCompletedVersion (versionOf : String → Option String) :
    Option BackfillTask → Except HttpException (Option String)
  | none => .ok none
  | some lastCompleted =>
      match versionOf (snapshotText lastCompleted) with
      | none => .error .internal
      | some version => .ok (some version)

def activeProgress (backend : Backend) :
    Option BackfillTask → Except HttpException (Option BackfillTaskProgress)
  | none => .ok none
  | some activeTaskRaw => (toProgress backend activeTaskRaw).map some

/-- `filters` are those of the workspace and `tasks` its rows, newest first; `parse` is
`JSON.parse`, `none` where it throws. -/
def getBackfillSummary (versionHost : VersionHost) (md5 : String → String)
    (parse : String → Option (List StoredFilter)) (backend : Backend)
    (filters : List StoredFilter) (tasks : List BackfillTask) :
    Except HttpException BackfillSummary := do
  let currentVersion := computeFilterVersion versionHost md5 filters
  let versionOf := fun text => (parse text).map (computeFilterVersion versionHost md5)
  let activeTaskRaw := tasks.find? fun t => t.status = .pending || t.status = .running
  let lastCompleted := tasks.find? fun t => t.status = .completed
  let lastCompletedFilterVersion ← lastCompletedVersion versionOf lastCompleted
  let needsBackfill :=
    lastCompleted.isNone || lastCompletedFilterVersion != some currentVersion
  let activeTask ← activeProgress { backend with filterVersion := versionOf } activeTaskRaw
  .ok ⟨needsBackfill, currentVersion, lastCompletedFilterVersion, activeTask⟩

/-- What comes back from two steps came back from both. -/
theorem exists_ok_of_bind {ε α β : Type} {x : Except ε α} {f : α → Except ε β} {b : β}
    (h : x >>= f = .ok b) : ∃ a, x = .ok a ∧ f a = .ok b := by
  cases x with
  | error e => simp [bind, Except.bind] at h
  | ok a => exact ⟨a, rfl, h⟩

theorem lastCompletedVersion_eq_some {versionOf : String → Option String}
    {lastCompleted : Option BackfillTask} {version : String}
    (h : lastCompletedVersion versionOf lastCompleted = .ok (some version)) :
    ∃ task, lastCompleted = some task ∧ versionOf (snapshotText task) = some version := by
  unfold lastCompletedVersion at h
  cases lastCompleted with
  | none => simp at h
  | some task =>
      refine ⟨task, rfl, ?_⟩
      cases hversion : versionOf (snapshotText task) with
      | none => simp [hversion] at h
      | some v =>
          simp only [hversion, Except.ok.injEq] at h
          exact h

/-- No backfill is needed only where the newest completed one ran with filters of the
current version. -/
theorem version_eq_of_no_backfill_needed {versionHost : VersionHost} {md5 : String → String}
    {parse : String → Option (List StoredFilter)} {backend : Backend}
    {filters : List StoredFilter} {tasks : List BackfillTask} {summary : BackfillSummary}
    (h : getBackfillSummary versionHost md5 parse backend filters tasks = .ok summary)
    (hneeds : summary.needsBackfill = false) :
    ∃ task last, (tasks.find? fun t => t.status = .completed) = some task ∧
      parse (snapshotText task) = some last ∧
      computeFilterVersion versionHost md5 last =
        computeFilterVersion versionHost md5 filters := by
  obtain ⟨version, hversion, hrest⟩ := exists_ok_of_bind h
  obtain ⟨activeTask, -, hsummary⟩ := exists_ok_of_bind hrest
  obtain rfl := Except.ok.inj hsummary
  obtain ⟨-, hsame⟩ := Bool.or_eq_false_iff.mp hneeds
  obtain rfl : version = some (computeFilterVersion versionHost md5 filters) := by
    simpa using hsame
  obtain ⟨task, htask, hparsed⟩ := lastCompletedVersion_eq_some hversion
  obtain ⟨last, hlast, hlastVersion⟩ := Option.map_eq_some_iff.mp hparsed
  exact ⟨task, last, htask, hlast, hlastVersion⟩

namespace VersionExample

/-- Whole numbers as the host writes them, every other one as some numeral of its own. -/
def numeral (x : ℚ) : List Char :=
  if x.den = 1 ∧ 0 ≤ x.num then Nat.toDigits 10 x.num.toNat
  else '.' :: Nat.toDigits 10 (Encodable.encode x)

theorem isNumeral_of_digit {n : Nat} {c : Char} (hc : c ∈ Nat.toDigits 10 n) :
    Json.isNumeral c = true := by
  unfold Json.isNumeral
  rw [Nat.isDigit_of_mem_toDigits (by decide) (by decide) hc]
  rfl

theorem toDigits_ne_point {m : Nat} {rest : List Char} : Nat.toDigits 10 m ≠ '.' :: rest := by
  intro h
  have hdigit := Nat.isDigit_of_mem_toDigits (by decide) (by decide)
    (h ▸ List.mem_cons_self : '.' ∈ Nat.toDigits 10 m)
  exact absurd hdigit (by decide)

theorem numeral_injective : Function.Injective numeral := by
  intro x y h
  unfold numeral at h
  by_cases hx : x.den = 1 ∧ 0 ≤ x.num
  · by_cases hy : y.den = 1 ∧ 0 ≤ y.num
    · rw [if_pos hx, if_pos hy] at h
      have hnum := Text.toDigits_inj h
      exact Rat.ext (by omega) (hx.1.trans hy.1.symm)
    · rw [if_pos hx, if_neg hy] at h
      exact absurd h toDigits_ne_point
  · by_cases hy : y.den = 1 ∧ 0 ≤ y.num
    · rw [if_neg hx, if_pos hy] at h
      exact absurd h.symm toDigits_ne_point
    · rw [if_neg hx, if_neg hy] at h
      exact Encodable.encode_injective (Text.toDigits_inj (List.cons.inj h).2)

def numerals : Json.Numerals ℚ where
  numeral := numeral
  injective := numeral_injective
  nonempty := by
    intro x
    unfold numeral
    split
    · exact Nat.toDigits_ne_nil
    · exact List.cons_ne_nil _ _
  plain := by
    intro x c hc
    unfold numeral at hc
    split at hc
    · exact isNumeral_of_digit hc
    · rcases List.mem_cons.mp hc with rfl | hc'
      · rfl
      · exact isNumeral_of_digit hc'

/-- Ids in lower case compare as their characters do. -/
def host : VersionHost where
  localeCompare := fun a b => if a < b then -1 else if a = b then 0 else 1
  numerals := numerals

theorem value_given (channel : String) :
    FilterAction.setValue = .unsetValue ∨ (some channel).isSome = true :=
  .inr rfl

theorem default_nonneg : (0 : ℚ) ≤ 500 := by decide

/-- A filter that sets the channel of visits from one source. -/
def filter (id channel : String) (priority : ℚ) (h : 0 ≤ priority) : StoredFilter where
  definition :=
    { id := id
      priority := priority
      conditions := [⟨.utmSource, .equals, some "google"⟩]
      operations := [⟨.channel, .setValue, some channel, value_given channel⟩]
      enabled := true
      priority_nonneg := h }
  conditions :=
    [[("field", .str "utm_source"), ("operator", .str "equals"), ("value", .str "google")]]
  operations :=
    [[("dimension", .str "channel"), ("action", .str "set_value"), ("value", .str channel)]]
  conditions_stored := .cons ⟨rfl, rfl, rfl⟩ .nil
  operations_stored := .cons ⟨rfl, rfl, rfl⟩ .nil

def paid : StoredFilter := filter "a" "paid" 500 default_nonneg

def search : StoredFilter := filter "b" "search" 500 default_nonneg

def urgent : StoredFilter := filter "c" "ads" 900 (by decide)

/-- A visit from the source of the filters. -/
def visit : SourceField → Option String
  | .utmSource => some "google"
  | _ => none

theorem versionContent_of_sorted {F G sorted : List StoredFilter}
    (hF : sortedById host F = sorted) (hG : sortedById host G = sorted) :
    versionContent host F = versionContent host G := by
  unfold versionContent
  rw [hF, hG]

end VersionExample

open VersionExample

/-- Two filters of one priority that set the channel: the string that is hashed is the same
in either order, and the visit is classified by the one that stands last. -/
theorem version_blind_to_ties :
    versionContent host [paid, search] = versionContent host [search, paid] ∧
      evaluateFilters .bare (definitions [paid, search]) visit .channel = some (some "search") ∧
      evaluateFilters .bare (definitions [search, paid]) visit .channel = some (some "paid") := by
  refine ⟨versionContent_of_sorted (rfl : _ = [paid, search]) rfl, ?_, ?_⟩
  · rfl
  · rfl

/-- The filter of the higher priority may stand anywhere. -/
theorem version_content_sound_ranked :
    versionContent host [urgent, paid, search] = versionContent host [paid, search, urgent] ∧
      ∀ fieldValues, evaluateFilters .bare (definitions [urgent, paid, search]) fieldValues =
        evaluateFilters .bare (definitions [paid, search, urgent]) fieldValues := by
  have hcontent :
      versionContent host [urgent, paid, search] = versionContent host [paid, search, urgent] :=
    versionContent_of_sorted (rfl : _ = [paid, search, urgent]) rfl
  have horder : ∀ f ∈ definitions [urgent, paid, search],
      ∀ g ∈ definitions [urgent, paid, search], f ≠ g → f.priority = g.priority →
        Sorting.SameOrder f g (definitions [urgent, paid, search])
          (definitions [paid, search, urgent]) := by decide
  refine ⟨hcontent, fun fieldValues => ?_⟩
  refine (version_content_sound host .bare _ _ hcontent).2 fieldValues ?_
  intro f hf g hg hne hpriority _ _ _
  exact horder f hf g hg hne hpriority

end Veridian
