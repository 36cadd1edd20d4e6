/-
Running a filter backfill again.

The mutation writes every targeted dimension at once, from the row as it was.  The
dimensions the filters classify into (`channel`, `stm_n`) are read by no condition, but
the standard fields are both read and written, so what a second run does depends on what
the first one wrote there.  And a dimension no filter targets any more is not reset: it
keeps what an earlier list gave it.
-/
import Veridian.Lib.Assign
import Veridian.Filters.SetClause

namespace Veridian

/-! ### Rows -/

/-- A dimension filters classify into. -/
abbrev CustomDimension := {d : WritableDimension // d.isCustom = true}

/-- The columns a SET clause reads or writes. -/
inductive Column where
  | source (field : SourceField)
  | custom (d : CustomDimension)
  deriving DecidableEq

/-- The column of a dimension. -/
def WritableDimension.column : WritableDimension → Column
  | .channel => .custom ⟨.channel, rfl⟩
  | .channelGroup => .custom ⟨.channelGroup, rfl⟩
  | .stm k => .custom ⟨.stm k, rfl⟩
  | .utmSource => .source .utmSource
  | .utmMedium => .source .utmMedium
  | .utmCampaign => .source .utmCampaign
  | .utmTerm => .source .utmTerm
  | .utmContent => .source .utmContent
  | .referrerDomain => .source .referrerDomain
  | .isDirect => .source .isDirect

/-- The dimension a column is, if filters may write it. -/
def Column.dimension? : Column → Option WritableDimension
  | .custom d => some d.1
  | .source .utmSource => some .utmSource
  | .source .utmMedium => some .utmMedium
  | .source .utmCampaign => some .utmCampaign
  | .source .utmTerm => some .utmTerm
  | .source .utmContent => some .utmContent
  | .source .referrerDomain => some .referrerDomain
  | .source .isDirect => some .isDirect
  | .source _ => none

theorem Column.dimension?_eq_some_iff {c : Column} {d : WritableDimension} :
    c.dimension? = some d ↔ c = d.column := by
  constructor
  · intro h
    cases c with
    | custom d' =>
        obtain ⟨d', hd'⟩ := d'
        obtain rfl := Option.some.inj h
        cases d' <;> first | rfl | exact absurd hd' (by decide)
    | source field =>
        cases field <;> simp [Column.dimension?] at h <;> subst h <;> rfl
  · rintro rfl
    cases d <;> rfl

theorem column_of_field? {d : WritableDimension} {field : SourceField}
    (h : d.field? = some field) : d.column = .source field := by
  cases d <;> simp [WritableDimension.field?] at h <;> subst h <;> rfl

theorem field?_of_dimension? {d : WritableDimension} {field : SourceField}
    (h : (Column.source field).dimension? = some d) : d.field? = some field := by
  cases field <;> simp [Column.dimension?] at h <;> subst h <;> rfl

theorem column_of_isCustom {d : WritableDimension} (hd : d.isCustom = true) :
    d.column = .custom ⟨d, hd⟩ := by
  cases d <;> first | rfl | exact absurd hd (by decide)

theorem not_isCustom_iff {d : WritableDimension} :
    ¬d.isCustom = true ↔ ∃ field, d.field? = some field := by
  cases d <;> simp [WritableDimension.isCustom, WritableDimension.field?]

/-- `is_direct` is a `Bool`, every other column a `String`. -/
def Column.Admits : Column → Sql.Value → Prop
  | .source .isDirect, v => v = .num 0 ∨ v = .num 1
  | _, v => ∃ s, v = .text s

/-- A row, as far as filters go. -/
structure TableRow where
  value : Column → Sql.Value
  admits : ∀ c : Column, c.Admits (value c)

def TableRow.source (row : TableRow) (field : SourceField) : Sql.Value := row.value (.source field)

/-! ### The mutation -/

/-- `UPDATE` with these SET clauses. -/
def updateColumns (engine : String → String → Bool)
    (clauses : List (WritableDimension × Sql.Case SourceField)) :
    Assign.Assignment Column Sql.Value := fun row c =>
  (c.dimension?.bind fun d => clauses.lookup d).map fun e =>
    e.eval engine fun field => row (.source field)

/-- An enabled filter has an operation on the dimension. -/
def Targets (filters : List FilterDefinition) (d : WritableDimension) : Prop :=
  ∃ f ∈ filters, f.enabled = true ∧ ∃ op ∈ f.operations, op.dimension = d

/-- The dimension holds something, which switches a default off. -/
def holdsIn (source : SourceField → Sql.Value) (d : WritableDimension) : Bool :=
  match d.field? with
  | none => false
  | some .isDirect => source .isDirect != .num 0
  | some field => source field != .text ""

/-- The operation that decides a dimension: the first on it whose filter matches, where a
default matches only on a field that holds nothing. -/
def deciding (engine : String → String → Bool) (filters : List FilterDefinition)
    (source : SourceField → Sql.Value) (d : WritableDimension) : Option FilterOperation :=
  ((operationsOn d (sortedFilters filters)).find? fun entry =>
    (compileConditions entry.1.conditions).eval engine source &&
      (entry.2.action != .setDefaultValue || !holdsIn source d)).map Prod.snd

theorem buildDimension_eval_deciding (engine : String → String → Bool)
    (filters : List FilterDefinition) (source : SourceField → Sql.Value) (d : WritableDimension) :
    (buildDimension d (branchesFor filters d)).eval engine source =
      (deciding engine filters source d).elim (d.otherwise.eval source)
        fun op => literalValue d op.written := by
  have hguard : ∀ p : Sql.Cond SourceField,
      (guarded d.guard p).eval engine source = (p.eval engine source && !holdsIn source d) := by
    intro p
    unfold WritableDimension.guard holdsIn
    cases d.field? with
    | none => simp [guarded]
    | some field =>
        cases field <;> simp [guarded, Sql.Cond.eval, bne]
  have hliteral : ∀ v, (d.literal v).eval source = literalValue d v := by
    intro v
    unfold WritableDimension.literal literalValue
    split
    · cases hv : isTrueWord v <;> simp [boolValue, boolLiteral, hv]
    · rfl
  have hempty : literalValue d (some "") = literalValue d none := by
    unfold literalValue
    split <;> rfl
  rw [buildDimension_eq, branchesFor, eval_whenClauses d.otherwise hguard hliteral hempty]
  unfold deciding
  cases (operationsOn d (sortedFilters filters)).find? _ <;> rfl

theorem branchesFor_ne_nil_iff {filters : List FilterDefinition} {d : WritableDimension} :
    branchesFor filters d ≠ [] ↔ Targets filters d := by
  constructor
  · intro h
    obtain ⟨b, hb⟩ := List.exists_mem_of_ne_nil _ h
    obtain ⟨f, hf, henabled, op, hop, hd, -⟩ := mem_branchesFor.mp hb
    exact ⟨f, hf, henabled, op, hop, hd⟩
  · rintro ⟨f, hf, henabled, op, hop, hd⟩
    exact List.ne_nil_of_mem (mem_branchesFor.mpr ⟨f, hf, henabled, op, hop, hd, rfl⟩)

theorem lookup_of_targets {filters : List FilterDefinition} {d : WritableDimension}
    (h : Targets filters d) : (compileFiltersToSQL filters).lookup d =
      some (buildDimension d (branchesFor filters d)) := by
  rw [Assoc.lookup_eq_some_iff_mem (nodup_compileFiltersToSQL filters)]
  exact mem_compileFiltersToSQL.mpr ⟨branchesFor_ne_nil_iff.mpr h, rfl⟩

theorem lookup_of_not_targets {filters : List FilterDefinition} {d : WritableDimension}
    (h : ¬Targets filters d) : (compileFiltersToSQL filters).lookup d = none := by
  have hnil : branchesFor filters d = [] := by
    by_contra hne
    exact h (branchesFor_ne_nil_iff.mp hne)
  rw [lookup_compileFiltersToSQL, hnil]
  rfl

theorem deciding_of_not_targets {engine : String → String → Bool}
    {filters : List FilterDefinition} {source : SourceField → Sql.Value} {d : WritableDimension}
    (h : ¬Targets filters d) : deciding engine filters source d = none := by
  have hnil : operationsOn d (sortedFilters filters) = [] := by
    refine List.eq_nil_iff_forall_not_mem.mpr fun entry hentry => h ?_
    obtain ⟨hf, hop, hd⟩ := mem_operationsOn.mp hentry
    obtain ⟨hmem, henabled⟩ := mem_sortedFilters.mp hf
    exact ⟨entry.1, hmem, henabled, entry.2, hop, hd⟩
  rw [deciding, hnil]
  rfl

/-! ### The mutation as decisions

Writing back what is there and writing nothing come to the same.
-/

/-- What a targeted dimension that filters classify into is given. -/
def classOf (engine : String → String → Bool) (filters : List FilterDefinition)
    (source : SourceField → Sql.Value) (d : WritableDimension) : String :=
  ((deciding engine filters source d).bind FilterOperation.written).getD ""

/-- A targeted custom dimension is always written, a standard field when an operation
decides it. -/
def decisions (engine : String → String → Bool) (filters : List FilterDefinition) :
    Assign.Assignment Column Sql.Value := fun row c =>
  c.dimension?.bind fun d =>
    let source := fun field => row (.source field)
    if d.isCustom = true then
      ((compileFiltersToSQL filters).lookup d).map fun _ =>
        .text (classOf engine filters source d)
    else (deciding engine filters source d).map fun op => literalValue d op.written

theorem literalValue_of_isCustom {d : WritableDimension} (h : d.isCustom = true)
    (v : Option String) : literalValue d v = .text (v.getD "") := by
  unfold literalValue
  rw [if_neg]
  rintro rfl
  exact absurd h (by decide)

theorem decide_of_isCustom {d : WritableDimension} (h : d.isCustom = true)
    (engine : String → String → Bool) (filters : List FilterDefinition)
    (source : SourceField → Sql.Value) :
    (buildDimension d (branchesFor filters d)).eval engine source =
      .text (classOf engine filters source d) := by
  have hother : d.otherwise.eval source = .text "" := by
    cases d <;> first | rfl | exact absurd h (by decide)
  rw [buildDimension_eval_deciding, hother, classOf]
  cases deciding engine filters source d with
  | none => rfl
  | some op => exact literalValue_of_isCustom h _

theorem otherwise_of_not_isCustom {d : WritableDimension} (h : ¬d.isCustom = true)
    (row : Column → Sql.Value) :
    d.otherwise.eval (fun field => row (.source field)) = row d.column := by
  cases d <;> first | rfl | exact absurd rfl h

theorem apply_updateColumns (engine : String → String → Bool) (filters : List FilterDefinition)
    (row : Column → Sql.Value) :
    Assign.apply (updateColumns engine (compileFiltersToSQL filters)) row =
      Assign.apply (decisions engine filters) row := by
  funext c
  unfold Assign.apply updateColumns decisions
  cases hc : c.dimension? with
  | none => rfl
  | some d =>
      obtain rfl := Column.dimension?_eq_some_iff.mp hc
      simp only [Option.bind_some]
      by_cases htargets : Targets filters d
      · rw [lookup_of_targets htargets, Option.map_some, Option.getD_some]
        by_cases hd : d.isCustom = true
        · rw [if_pos hd, decide_of_isCustom hd]
          rfl
        · rw [if_neg hd, buildDimension_eval_deciding, otherwise_of_not_isCustom hd]
          cases deciding engine filters (fun field => row (.source field)) d <;> rfl
      · rw [lookup_of_not_targets htargets, deciding_of_not_targets htargets]
        split <;> rfl

theorem admits_decisions {engine : String → String → Bool} {filters : List FilterDefinition}
    {row : Column → Sql.Value} {c : Column} {v : Sql.Value}
    (h : decisions engine filters row c = some v) : c.Admits v := by
  unfold decisions at h
  obtain ⟨d, hc, hv⟩ := Option.bind_eq_some_iff.mp h
  obtain rfl := Column.dimension?_eq_some_iff.mp hc
  simp only at hv
  split at hv
  · rename_i hd
    obtain ⟨e, -, rfl⟩ := Option.map_eq_some_iff.mp hv
    cases d <;> first | exact ⟨_, rfl⟩ | exact absurd hd (by decide)
  · obtain ⟨op, -, rfl⟩ := Option.map_eq_some_iff.mp hv
    cases d with
    | isDirect =>
        show literalValue .isDirect op.written = _ ∨ literalValue .isDirect op.written = _
        unfold literalValue
        cases isTrueWord op.written
        · exact Or.inl rfl
        · exact Or.inr rfl
    | _ => exact ⟨_, rfl⟩

/-- A row after the mutation. -/
def backfill (engine : String → String → Bool) (filters : List FilterDefinition)
    (row : TableRow) : TableRow where
  value := Assign.apply (updateColumns engine (compileFiltersToSQL filters)) row.value
  admits := by
    intro c
    rw [apply_updateColumns]
    cases hc : decisions engine filters row.value c with
    | none =>
        rw [Assign.apply_of_none hc]
        exact row.admits c
    | some v =>
        rw [Assign.apply_of_some hc]
        exact admits_decisions hc

theorem backfill_value (engine : String → String → Bool) (filters : List FilterDefinition)
    (row : TableRow) :
    (backfill engine filters row).value = Assign.apply (decisions engine filters) row.value :=
  apply_updateColumns engine filters row.value

/-- The source fields, with the decided ones rewritten. -/
def rewritten (engine : String → String → Bool) (filters : List FilterDefinition)
    (source : SourceField → Sql.Value) : SourceField → Sql.Value := fun field =>
  (((Column.source field).dimension?.bind fun d => deciding engine filters source d).map
    fun op => literalValue op.dimension op.written).getD (source field)

theorem deciding_dimension {engine : String → String → Bool} {filters : List FilterDefinition}
    {source : SourceField → Sql.Value} {d : WritableDimension} {op : FilterOperation}
    (h : deciding engine filters source d = some op) : op.dimension = d := by
  obtain ⟨entry, hentry, rfl⟩ := Option.map_eq_some_iff.mp h
  exact (mem_operationsOn.mp (List.mem_of_find?_eq_some hentry)).2.2

theorem decisions_field {d : WritableDimension} {field : SourceField}
    (h : d.field? = some field) (engine : String → String → Bool)
    (filters : List FilterDefinition) (row : Column → Sql.Value) :
    decisions engine filters row (.source field) =
      (deciding engine filters (fun f => row (.source f)) d).map
        fun op => literalValue d op.written := by
  unfold decisions
  rw [← column_of_field? h, Column.dimension?_eq_some_iff.mpr rfl]
  simp only [Option.bind_some]
  rw [if_neg (not_isCustom_iff.mpr ⟨field, h⟩)]

theorem rewritten_field {d : WritableDimension} {field : SourceField}
    (h : d.field? = some field) (engine : String → String → Bool)
    (filters : List FilterDefinition) (source : SourceField → Sql.Value) :
    rewritten engine filters source field = ((deciding engine filters source d).map
      fun op => literalValue d op.written).getD (source field) := by
  unfold rewritten
  rw [← column_of_field? h, Column.dimension?_eq_some_iff.mpr rfl, Option.bind_some]
  cases hop : deciding engine filters source d with
  | none => rfl
  | some op => rw [Option.map_some, Option.map_some, deciding_dimension hop]

theorem backfill_source (engine : String → String → Bool) (filters : List FilterDefinition)
    (row : TableRow) :
    (backfill engine filters row).source = rewritten engine filters row.source := by
  funext field
  show (backfill engine filters row).value (.source field) = _
  rw [backfill_value, Assign.apply]
  cases hc : (Column.source field).dimension? with
  | none => simp [decisions, rewritten, hc, TableRow.source]
  | some d =>
      have hfield := field?_of_dimension? hc
      rw [decisions_field hfield, rewritten_field hfield]
      rfl

theorem decisions_custom {d : WritableDimension} (hd : d.isCustom = true)
    (engine : String → String → Bool) (filters : List FilterDefinition)
    (row : Column → Sql.Value) :
    decisions engine filters row d.column = ((compileFiltersToSQL filters).lookup d).map
      fun _ => .text (classOf engine filters (fun f => row (.source f)) d) := by
  unfold decisions
  rw [Column.dimension?_eq_some_iff.mpr rfl]
  simp only [Option.bind_some]
  rw [if_pos hd]

theorem decisions_of_targets {filters : List FilterDefinition} {d : WritableDimension}
    (hd : d.isCustom = true) (h : Targets filters d) (engine : String → String → Bool)
    (row : Column → Sql.Value) :
    decisions engine filters row d.column =
      some (.text (classOf engine filters (fun f => row (.source f)) d)) := by
  rw [decisions_custom hd, lookup_of_targets h]
  rfl

theorem decisions_of_not_targets {filters : List FilterDefinition} {d : WritableDimension}
    (h : ¬Targets filters d) (engine : String → String → Bool) (row : Column → Sql.Value) :
    decisions engine filters row d.column = none := by
  unfold decisions
  rw [Column.dimension?_eq_some_iff.mpr rfl]
  simp only [Option.bind_some]
  rw [lookup_of_not_targets h, deciding_of_not_targets h]
  split <;> rfl

/-- A targeted custom dimension is given its class. -/
theorem backfill_of_targets {filters : List FilterDefinition} {d : WritableDimension}
    (hd : d.isCustom = true) (h : Targets filters d) (engine : String → String → Bool)
    (row : TableRow) :
    (backfill engine filters row).value d.column =
      .text (classOf engine filters row.source d) := by
  rw [backfill_value]
  exact Assign.apply_of_some (decisions_of_targets hd h engine row.value)

/-- Any other one is kept. -/
theorem backfill_of_not_targets {filters : List FilterDefinition} {d : WritableDimension}
    (h : ¬Targets filters d) (engine : String → String → Bool) (row : TableRow) :
    (backfill engine filters row).value d.column = row.value d.column := by
  rw [backfill_value]
  exact Assign.apply_of_none (decisions_of_not_targets h engine row.value)

/-! ### Independence of history -/

/-- After `f₁` and then `f₂` every row has the classes `f₂` alone gives it. -/
def IndependentOfHistory (engine : String → String → Bool) (f₁ f₂ : List FilterDefinition) :
    Prop :=
  ∀ (row : TableRow) (d : WritableDimension), d.isCustom = true →
    (backfill engine f₂ (backfill engine f₁ row)).value d.column =
      (backfill engine f₂ row).value d.column

/-- Whatever the standard fields of a row, `f₂` classifies it alike before and after `f₁`
rewrote them. -/
def ClassifiesAlike (engine : String → String → Bool) (f₁ f₂ : List FilterDefinition) : Prop :=
  ∀ (row : TableRow) (d : WritableDimension), d.isCustom = true → Targets f₂ d →
    classOf engine f₂ (rewritten engine f₁ row.source) d = classOf engine f₂ row.source d

/-- `row` with another value in one custom dimension. -/
def TableRow.setCustom (row : TableRow) (d : CustomDimension) (s : String) : TableRow where
  value c := if c = .custom d then .text s else row.value c
  admits c := by
    split
    · rename_i hc
      subst hc
      exact ⟨s, rfl⟩
    · exact row.admits c

def TableRow.empty : TableRow where
  value
    | .source .isDirect => .num 0
    | _ => .text ""
  admits c := by
    cases c with
    | custom d => exact ⟨"", rfl⟩
    | source field => cases field <;> first | exact Or.inl rfl | exact ⟨"", rfl⟩

/-- Some row holds in a custom dimension what no filter of the list would give it. -/
theorem exists_row_without_class (engine : String → String → Bool)
    (filters : List FilterDefinition) {d : WritableDimension} (hd : d.isCustom = true) :
    ∃ row : TableRow, row.value d.column ≠ .text (classOf engine filters row.source d) := by
  let class_ := classOf engine filters TableRow.empty.source d
  refine ⟨TableRow.empty.setCustom ⟨d, hd⟩ (class_ ++ "?"), ?_⟩
  have hvalue : (TableRow.empty.setCustom ⟨d, hd⟩ (class_ ++ "?")).value d.column =
      .text (class_ ++ "?") := by
    rw [column_of_isCustom hd]
    exact if_pos rfl
  have hsource : (TableRow.empty.setCustom ⟨d, hd⟩ (class_ ++ "?")).source =
      TableRow.empty.source := rfl
  rw [hvalue, hsource]
  intro h
  have hlength := congrArg String.length (Sql.Value.text.inj h)
  rw [String.length_append] at hlength
  simp [class_] at hlength

/-- What a second pass decides: a custom dimension is given the class it was given, and the
operation that decides a standard field, if there is one, writes what is there. -/
def DecidesAlike (engine : String → String → Bool) (filters : List FilterDefinition)
    (source : SourceField → Sql.Value) : Prop :=
  ∀ d, Targets filters d →
    (d.isCustom = true → classOf engine filters (rewritten engine filters source) d =
      classOf engine filters source d) ∧
    ∀ field, d.field? = some field → ∀ op,
      deciding engine filters (rewritten engine filters source) d = some op →
        literalValue d op.written = rewritten engine filters source field

theorem TableRow.ext_value {row row' : TableRow} (h : row.value = row'.value) : row = row' := by
  cases row
  cases row'
  subst h
  rfl

/-- A filter that runs has a condition on the field, or a default for it. -/
def ReadsField (filters : List FilterDefinition) (field : SourceField) : Prop :=
  ∃ f ∈ filters, f.enabled = true ∧ ∃ op ∈ f.operations,
    (∃ c ∈ f.conditions, c.field = field) ∨
      op.action = .setDefaultValue ∧ op.dimension.field? = some field

/-- Some enabled operation of `f₁` writes a field `f₂` reads. -/
def WritesRead (f₁ f₂ : List FilterDefinition) : Prop :=
  ∃ d field, Targets f₁ d ∧ d.field? = some field ∧ ReadsField f₂ field

theorem deciding_congr {engine : String → String → Bool} {filters : List FilterDefinition}
    {source source' : SourceField → Sql.Value}
    (h : ∀ field, ReadsField filters field → source field = source' field)
    (d : WritableDimension) :
    deciding engine filters source d = deciding engine filters source' d := by
  unfold deciding
  refine congrArg (Option.map Prod.snd) (List.find?_congr fun entry hentry => ?_)
  obtain ⟨hf, hop, hd⟩ := mem_operationsOn.mp hentry
  obtain ⟨hmem, henabled⟩ := mem_sortedFilters.mp hf
  have hcondition : (compileConditions entry.1.conditions).eval engine source =
      (compileConditions entry.1.conditions).eval engine source' := by
    refine Sql.Cond.eval_congr fun field hfield => ?_
    rcases Sql.mem_atoms_conj hfield with hempty | ⟨p, hp, hcolumn⟩
    · simp [Sql.Cond.atoms, Sql.Term.atoms] at hempty
    · obtain ⟨c, hc, rfl⟩ := List.mem_map.mp hp
      exact h field ⟨entry.1, hmem, henabled, entry.2, hop,
        Or.inl ⟨c, hc, (column_mem_compileCondition hcolumn).symm⟩⟩
  rw [hcondition]
  by_cases haction : entry.2.action = .setDefaultValue
  · have hholds : holdsIn source d = holdsIn source' d := by
      unfold holdsIn
      cases hfield : d.field? with
      | none => rfl
      | some field =>
          have hsource := h field ⟨entry.1, hmem, henabled, entry.2, hop,
            Or.inr ⟨haction, hd ▸ hfield⟩⟩
          cases field <;> simp only [hsource]
    rw [hholds]
  · rw [bne_iff_ne.mpr haction, Bool.true_or, Bool.true_or]

/-- The columns `filters` look at. -/
def readColumns (filters : List FilterDefinition) : Set Column :=
  {c | ∃ field, c = .source field ∧ ReadsField filters field}

theorem readsOnly_decisions (engine : String → String → Bool) (filters : List FilterDefinition) :
    Assign.ReadsOnly (decisions engine filters) (readColumns filters) := by
  intro row row' h
  have hdeciding : ∀ d, deciding engine filters (fun field => row (.source field)) d =
      deciding engine filters (fun field => row' (.source field)) d :=
    deciding_congr fun field hfield => h _ ⟨field, rfl, hfield⟩
  funext c
  simp only [decisions, classOf, hdeciding]

theorem decisions_of_unread {f₁ f₂ : List FilterDefinition} (h : ¬WritesRead f₁ f₂)
    (engine : String → String → Bool) (row : Column → Sql.Value) :
    ∀ c ∈ readColumns f₂, decisions engine f₁ row c = none := by
  rintro c ⟨field, rfl, hread⟩
  cases hd : (Column.source field).dimension? with
  | none => simp [decisions, hd]
  | some d =>
      have hfield := field?_of_dimension? hd
      rw [← column_of_field? hfield]
      exact decisions_of_not_targets (fun htargets => h ⟨d, field, htargets, hfield, hread⟩)
        engine row

/-- **A list that writes nothing it reads** can be run again. -/
theorem backfill_twice_of_unread {filters : List FilterDefinition}
    (h : ¬WritesRead filters filters) (engine : String → String → Bool) (row : TableRow) :
    backfill engine filters (backfill engine filters row) = backfill engine filters row := by
  refine TableRow.ext_value ?_
  rw [backfill_value, backfill_value]
  exact (readsOnly_decisions engine filters).apply_apply (decisions_of_unread h engine row.value)

/-- **What `f₁` does not write, `f₂` classifies by alike.** -/
theorem classifiesAlike_of_unread {f₁ f₂ : List FilterDefinition} (h : ¬WritesRead f₁ f₂)
    (engine : String → String → Bool) : ClassifiesAlike engine f₁ f₂ := by
  intro row d hd h₂
  have hafter := (readsOnly_decisions engine f₂).after (decisions_of_unread h engine row.value)
  rw [← backfill_value] at hafter
  have hclass := congrFun hafter d.column
  rw [decisions_of_targets hd h₂, decisions_of_targets hd h₂] at hclass
  rw [← backfill_source]
  exact Sql.Value.text.inj (Option.some.inj hclass)

/-! ### A filter is taken out, and a list that flips -/

namespace RerunExample

/-- A filter on the visitors without a `utm_medium`. -/
def unmarked (priority : ℕ) (operation : FilterOperation) : FilterDefinition :=
  { AgreementExample.pricing priority operation with
    id := "unmarked"
    conditions := [⟨.utmMedium, .isEmpty, none⟩] }

def setTo (d : WritableDimension) (value : String) : FilterOperation :=
  { AgreementExample.setChannel value with dimension := d }

/-- The filter on `channel` is gone from the second list. -/
def before : List FilterDefinition := [unmarked 500 (setTo .channel "none")]

def after : List FilterDefinition := [unmarked 500 (setTo (.stm 0) "none")]

/-- A default ahead of a set. -/
def flipping : List FilterDefinition :=
  [unmarked 900 (AgreementExample.defaultTo .utmSource "a"),
    unmarked 100 (setTo .utmSource "b")]

end RerunExample

end Veridian
