/-
What the compiled SET clause is made of.

A dimension is set exactly when an enabled filter has an operation on it, once, to the
CASE of the branches collected for it.  Read off from that: the columns the clause reads
are those of the conditions of the filters that have operations, and of the standard
dimensions it writes; the literals it quotes are the values of these conditions and
operations.
-/
import Veridian.Filters.Agreement

namespace Veridian

/-! ### Which dimensions are set -/

theorem mem_branchesFor {filters : List FilterDefinition} {d : WritableDimension}
    {b : CaseBranch} :
    b ∈ branchesFor filters d ↔ ∃ f ∈ filters, f.enabled = true ∧
      ∃ op ∈ f.operations, op.dimension = d ∧ b = branchOf (f, op) := by
  unfold branchesFor
  rw [List.mem_map]
  constructor
  · rintro ⟨⟨f, op⟩, hentry, rfl⟩
    obtain ⟨hf, hop, hd⟩ := mem_operationsOn.mp hentry
    obtain ⟨hmem, henabled⟩ := mem_sortedFilters.mp hf
    exact ⟨f, hmem, henabled, op, hop, hd, rfl⟩
  · rintro ⟨f, hmem, henabled, op, hop, hd, rfl⟩
    exact ⟨(f, op), mem_operationsOn.mpr ⟨mem_sortedFilters.mpr ⟨hmem, henabled⟩, hop, hd⟩, rfl⟩

theorem nodup_foldl_groupFilter (fs : List FilterDefinition) {m : DimensionBranches}
    (h : (m.map Prod.fst).Nodup) : ((fs.foldl groupFilter m).map Prod.fst).Nodup := by
  induction fs generalizing m with
  | nil => exact h
  | cons f rest ih =>
      refine ih ?_
      unfold groupFilter
      induction f.operations generalizing m with
      | nil => exact h
      | cons op ops ihops => exact ihops (Assoc.nodup_push h _ _)

/-- No column is assigned twice. -/
theorem nodup_compileFiltersToSQL (filters : List FilterDefinition) :
    ((compileFiltersToSQL filters).map Prod.fst).Nodup := by
  have hcustom : ∀ {m : DimensionBranches} {dim : WritableDimension} {clause},
      customSetClause m dim = some clause → clause.1 = dim := by
    intro m dim clause h
    unfold customSetClause at h
    split at h
    · rw [← Option.some.inj h]
    · exact absurd h (by simp)
  have hmap := nodup_foldl_groupFilter (sortedFilters filters) (m := []) List.nodup_nil
  unfold compileFiltersToSQL
  simp only
  generalize (sortedFilters filters).foldl groupFilter [] = m at hmap
  rw [List.map_append, List.nodup_append]
  refine ⟨?_, ?_, ?_⟩
  · rw [List.Nodup, List.pairwise_map, List.pairwise_filterMap]
    have hnodup : CUSTOM_DIMENSIONS.Nodup := by decide
    refine hnodup.imp fun hne c hc c' hc' heq => hne ?_
    rw [← hcustom hc, ← hcustom hc', heq]
  · rw [List.map_map]
    exact (hmap.sublist (List.filter_sublist.map Prod.fst))
  · intro d hd d' hd' heq
    obtain ⟨clause, hclause, rfl⟩ := List.mem_map.mp hd
    obtain ⟨dim, hdim, hc⟩ := List.mem_filterMap.mp hclause
    obtain ⟨clause', hclause', rfl⟩ := List.mem_map.mp hd'
    obtain ⟨entry, hentry, rfl⟩ := List.mem_map.mp hclause'
    have hnot : entry.1 ∉ CUSTOM_DIMENSIONS := by
      simpa using (List.mem_filter.mp hentry).2
    refine hnot ?_
    rw [← show clause.1 = entry.1 from heq, hcustom hc]
    exact hdim

/-- **The SET clause, as a set:** a CASE for each dimension that has branches. -/
theorem mem_compileFiltersToSQL {filters : List FilterDefinition} {d : WritableDimension}
    {e : Sql.Case SourceField} :
    (d, e) ∈ compileFiltersToSQL filters ↔
      branchesFor filters d ≠ [] ∧ e = buildDimension d (branchesFor filters d) := by
  rw [← Assoc.lookup_eq_some_iff_mem (nodup_compileFiltersToSQL filters),
    lookup_compileFiltersToSQL]
  cases branchesFor filters d with
  | nil => simp [Assoc.entryOf]
  | cons b bs =>
      show some (buildDimension d (b :: bs)) = some e ↔ _
      rw [Option.some_inj]
      exact ⟨fun h => ⟨List.cons_ne_nil b bs, h.symm⟩, fun h => h.2.symm⟩

/-! ### What a CASE is made of -/

/-- The value a branch writes: none for an unset. -/
def CaseBranch.writes (b : CaseBranch) : Option String :=
  if b.action = .unsetValue then none else b.value

theorem branchOf_writes (f : FilterDefinition) (op : FilterOperation) :
    (branchOf (f, op)).writes = if op.action = .unsetValue then none else op.value := rfl

theorem mem_atoms_whenClauses {guard : Option (Sql.Cond SourceField)}
    {literal : Option String → Sql.Term SourceField} {otherwise t : Sql.Term SourceField}
    {branches : List CaseBranch} :
    t ∈ (Sql.Case.mk (branches.map (whenClause guard literal)) otherwise).atoms ↔
      (∃ b ∈ branches, t ∈ b.conditionSQL.atoms ∨
        (b.action = .setDefaultValue ∧ ∃ g, guard = some g ∧ t ∈ g.atoms) ∨
        t ∈ (literal b.writes).atoms) ∨ t ∈ otherwise.atoms := by
  have hwhen : ∀ b : CaseBranch,
      (t ∈ (whenClause guard literal b).1.atoms ++ (whenClause guard literal b).2.atoms ↔
        t ∈ b.conditionSQL.atoms ∨
          (b.action = .setDefaultValue ∧ ∃ g, guard = some g ∧ t ∈ g.atoms) ∨
          t ∈ (literal b.writes).atoms) := by
    intro b
    rw [List.mem_append]
    unfold whenClause CaseBranch.writes
    cases haction : b.action with
    | setValue => simp
    | unsetValue => simp
    | setDefaultValue =>
        cases guard with
        | none => simp [guarded]
        | some g => simp [guarded, or_assoc]
  unfold Sql.Case.atoms
  rw [List.mem_append, List.flatMap_map, List.mem_flatMap]
  simp only [hwhen]

/-- What a default adds to its condition. -/
def WritableDimension.guard (d : WritableDimension) : Option (Sql.Cond SourceField) :=
  match d.field? with
  | none => none
  | some .isDirect => some (.eq (.column .isDirect) (.num 0))
  | some field => some (.paren (.or (.eq (.column field) (.text "")) (.isNull (.column field))))

/-- How a value is written. -/
def WritableDimension.literal (d : WritableDimension) : Option String → Sql.Term SourceField :=
  if d = .isDirect then boolValue else textValue

/-- What the ELSE gives. -/
def WritableDimension.otherwise (d : WritableDimension) : Sql.Term SourceField :=
  match d.field? with
  | none => .text ""
  | some field => .column field

/-- The three kinds of CASE as one. -/
theorem buildDimension_eq (d : WritableDimension) (branches : List CaseBranch) :
    buildDimension d branches = ⟨branches.map (whenClause d.guard d.literal), d.otherwise⟩ := by
  cases d <;> rfl

/-! ### Columns -/

theorem column_mem_compileCondition {c : FilterCondition} {field : SourceField}
    (h : Sql.Term.column field ∈ (compileCondition c).atoms) : field = c.field := by
  unfold compileCondition at h
  split at h
  · rename_i hdirect
    rw [hdirect] at h
    cases hop : c.operator <;> simp [hop, boolLiteral] at h <;>
      exact h.trans hdirect.symm
  · cases hop : c.operator <;> simp [hop] at h <;> exact h

theorem column_mem_compileCondition_of_ne {c : FilterCondition} (h : c.field ≠ .isDirect) :
    Sql.Term.column c.field ∈ (compileCondition c).atoms := by
  unfold compileCondition
  rw [if_neg h]
  cases c.operator <;> simp

theorem column_mem_guard {d : WritableDimension} {field : SourceField} {g : Sql.Cond SourceField}
    (hg : d.guard = some g) (h : Sql.Term.column field ∈ g.atoms) : d.field? = some field := by
  unfold WritableDimension.guard at hg
  split at hg
  · exact absurd hg (by simp)
  · rename_i hd
    obtain rfl := Option.some.inj hg
    simp at h
    rw [hd, h]
  · rename_i hd
    obtain rfl := Option.some.inj hg
    simp at h
    rw [hd, h]

theorem column_not_mem_literal (d : WritableDimension) (v : Option String) (field : SourceField) :
    Sql.Term.column field ∉ (d.literal v).atoms := by
  unfold WritableDimension.literal
  split
  · simp [boolValue, boolLiteral]
  · simp [textValue]

theorem column_mem_otherwise {d : WritableDimension} {field : SourceField}
    (h : Sql.Term.column field ∈ d.otherwise.atoms) : d.field? = some field := by
  unfold WritableDimension.otherwise at h
  split at h
  · simp at h
  · rename_i hd
    simp at h
    rw [hd, h]

/-- The clause reads the columns of the conditions of filters with operations, and of the
dimensions it sets. -/
theorem column_mem_compileFiltersToSQL {filters : List FilterDefinition} {d : WritableDimension}
    {e : Sql.Case SourceField} {field : SourceField} (he : (d, e) ∈ compileFiltersToSQL filters)
    (h : Sql.Term.column field ∈ e.atoms) :
    d.field? = some field ∨ ∃ f ∈ filters, f.enabled = true ∧ f.operations ≠ [] ∧
      ∃ c ∈ f.conditions, c.field = field := by
  obtain ⟨-, rfl⟩ := mem_compileFiltersToSQL.mp he
  rw [buildDimension_eq] at h
  rcases mem_atoms_whenClauses.mp h with ⟨b, hb, hcond | ⟨-, g, hg, hguard⟩ | hlit⟩ | hother
  · obtain ⟨f, hf, henabled, op, hop, -, rfl⟩ := mem_branchesFor.mp hb
    refine Or.inr ⟨f, hf, henabled, List.ne_nil_of_mem hop, ?_⟩
    rcases Sql.mem_atoms_conj hcond with hempty | ⟨p, hp, ht⟩
    · simp at hempty
    · obtain ⟨c, hc, rfl⟩ := List.mem_map.mp hp
      exact ⟨c, hc, (column_mem_compileCondition ht).symm⟩
  · exact Or.inl (column_mem_guard hg hguard)
  · exact absurd hlit (column_not_mem_literal d b.writes field)
  · exact Or.inl (column_mem_otherwise hother)

/-- What a condition of a filter with operations is made of, the clause is. -/
theorem condition_mem_compileFiltersToSQL {filters : List FilterDefinition} {f : FilterDefinition}
    {c : FilterCondition} {t : Sql.Term SourceField} (hf : f ∈ filters)
    (henabled : f.enabled = true) (hops : f.operations ≠ []) (hc : c ∈ f.conditions)
    (ht : t ∈ (compileCondition c).atoms) :
    ∃ clause ∈ compileFiltersToSQL filters, t ∈ clause.2.atoms := by
  obtain ⟨op, hop⟩ := List.exists_mem_of_ne_nil _ hops
  have hb : branchOf (f, op) ∈ branchesFor filters op.dimension :=
    mem_branchesFor.mpr ⟨f, hf, henabled, op, hop, rfl, rfl⟩
  refine ⟨_, mem_compileFiltersToSQL.mpr ⟨List.ne_nil_of_mem hb, rfl⟩, ?_⟩
  rw [buildDimension_eq]
  refine mem_atoms_whenClauses.mpr (Or.inl ⟨_, hb, Or.inl ?_⟩)
  exact Sql.mem_atoms_conj_of_mem (List.mem_map.mpr ⟨c, hc, rfl⟩) ht

/-! ### Literals -/

/-- The value of the condition is quoted in the clause. -/
def FilterCondition.quotes (c : FilterCondition) : Bool :=
  c.field != .isDirect && c.operator != .isEmpty && c.operator != .isNotEmpty

/-- The value of the operation is quoted in the clause. -/
def FilterOperation.quotes (op : FilterOperation) : Bool :=
  op.dimension != .isDirect && op.action != .unsetValue

/-- The values a filter brings into the clause. -/
def FilterDefinition.quotedValues (f : FilterDefinition) : List String :=
  if f.operations = [] then []
  else (f.conditions.filter (·.quotes)).map (fun c => c.value.getD "") ++
    (f.operations.filter (·.quotes)).map FilterOperation.text

def quotedValues (filters : List FilterDefinition) : List String :=
  (filters.filter (·.enabled)).flatMap FilterDefinition.quotedValues

theorem text_mem_compileCondition {c : FilterCondition} {v : String}
    (h : Sql.Term.text v ∈ (compileCondition c).atoms) :
    v = "" ∨ c.quotes = true ∧ v = c.value.getD "" := by
  unfold compileCondition at h
  split at h
  · cases hop : c.operator <;> simp [hop, boolLiteral] at h
  · rename_i hne
    cases hop : c.operator <;> simp [hop] at h <;>
      simp [FilterCondition.quotes, hop, hne, h]

theorem text_mem_compileCondition_of_quotes {c : FilterCondition} (h : c.quotes = true) :
    Sql.Term.text (c.value.getD "") ∈ (compileCondition c).atoms := by
  simp only [FilterCondition.quotes, Bool.and_eq_true, bne_iff_ne] at h
  obtain ⟨⟨hfield, hempty⟩, hnotEmpty⟩ := h
  unfold compileCondition
  rw [if_neg hfield]
  cases hop : c.operator <;> simp
  · exact absurd hop hempty
  · exact absurd hop hnotEmpty

theorem text_mem_guard {d : WritableDimension} {v : String} {g : Sql.Cond SourceField}
    (hg : d.guard = some g) (h : Sql.Term.text v ∈ g.atoms) : v = "" := by
  unfold WritableDimension.guard at hg
  split at hg
  · exact absurd hg (by simp)
  · obtain rfl := Option.some.inj hg
    simp at h
  · obtain rfl := Option.some.inj hg
    simpa using h

theorem text_mem_literal {d : WritableDimension} {w : Option String} {v : String} :
    Sql.Term.text v ∈ (d.literal w).atoms ↔ d ≠ .isDirect ∧ v = w.getD "" := by
  unfold WritableDimension.literal
  split
  · rename_i hd
    simp [boolValue, boolLiteral, hd]
  · rename_i hd
    simp [textValue, hd]

theorem text_mem_otherwise {d : WritableDimension} {v : String}
    (h : Sql.Term.text v ∈ d.otherwise.atoms) : v = "" := by
  unfold WritableDimension.otherwise at h
  split at h
  · simpa using h
  · simp at h

/-- Every literal of the clause is empty or a value of the filters. -/
theorem text_mem_compileFiltersToSQL {filters : List FilterDefinition} {d : WritableDimension}
    {e : Sql.Case SourceField} {v : String} (he : (d, e) ∈ compileFiltersToSQL filters)
    (h : Sql.Term.text v ∈ e.atoms) : v = "" ∨ v ∈ quotedValues filters := by
  obtain ⟨-, rfl⟩ := mem_compileFiltersToSQL.mp he
  rw [buildDimension_eq] at h
  have hvalue : ∀ {f : FilterDefinition} {op : FilterOperation}, f ∈ filters →
      f.enabled = true → op ∈ f.operations →
      (v ∈ (f.conditions.filter (·.quotes)).map (fun c => c.value.getD "") ∨
        v ∈ (f.operations.filter (·.quotes)).map FilterOperation.text) →
      v ∈ quotedValues filters := by
    intro f op hf henabled hop hv
    refine List.mem_flatMap.mpr ⟨f, List.mem_filter.mpr ⟨hf, henabled⟩, ?_⟩
    rw [FilterDefinition.quotedValues, if_neg (List.ne_nil_of_mem hop)]
    exact List.mem_append.mpr hv
  rcases mem_atoms_whenClauses.mp h with ⟨b, hb, hcond | ⟨-, g, hg, hguard⟩ | hlit⟩ | hother
  · obtain ⟨f, hf, henabled, op, hop, -, rfl⟩ := mem_branchesFor.mp hb
    rcases Sql.mem_atoms_conj hcond with hempty | ⟨p, hp, ht⟩
    · simp at hempty
    · obtain ⟨c, hc, rfl⟩ := List.mem_map.mp hp
      rcases text_mem_compileCondition ht with hnil | ⟨hquotes, rfl⟩
      · exact Or.inl hnil
      · exact Or.inr (hvalue hf henabled hop
          (Or.inl (List.mem_map.mpr ⟨c, List.mem_filter.mpr ⟨hc, hquotes⟩, rfl⟩)))
  · exact Or.inl (text_mem_guard hg hguard)
  · obtain ⟨hd, hv⟩ := text_mem_literal.mp hlit
    obtain ⟨f, hf, henabled, op, hop, hdim, rfl⟩ := mem_branchesFor.mp hb
    by_cases haction : op.action = .unsetValue
    · rw [branchOf_writes, if_pos haction] at hv
      exact Or.inl hv
    · rw [branchOf_writes, if_neg haction] at hv
      refine Or.inr (hvalue hf henabled hop
        (Or.inr (List.mem_map.mpr ⟨op, List.mem_filter.mpr ⟨hop, ?_⟩, hv.symm⟩)))
      rw [← hdim] at hd
      simp [FilterOperation.quotes, hd, haction]
  · exact Or.inl (text_mem_otherwise hother)

/-- Every quoted value of the filters is a literal of the clause. -/
theorem quotedValues_mem_compileFiltersToSQL {filters : List FilterDefinition} {v : String}
    (h : v ∈ quotedValues filters) :
    ∃ clause ∈ compileFiltersToSQL filters, Sql.Term.text v ∈ clause.2.atoms := by
  obtain ⟨f, hf, hv⟩ := List.mem_flatMap.mp h
  obtain ⟨hmem, henabled⟩ := List.mem_filter.mp hf
  unfold FilterDefinition.quotedValues at hv
  split at hv
  · exact absurd hv List.not_mem_nil
  · rename_i hops
    rcases List.mem_append.mp hv with hcond | hop
    · obtain ⟨c, hc, rfl⟩ := List.mem_map.mp hcond
      obtain ⟨hcmem, hquotes⟩ := List.mem_filter.mp hc
      exact condition_mem_compileFiltersToSQL hmem henabled hops hcmem
        (text_mem_compileCondition_of_quotes hquotes)
    · obtain ⟨op, hopmem, rfl⟩ := List.mem_map.mp hop
      obtain ⟨hopmem, hquotes⟩ := List.mem_filter.mp hopmem
      simp only [FilterOperation.quotes, Bool.and_eq_true, bne_iff_ne] at hquotes
      have hb : branchOf (f, op) ∈ branchesFor filters op.dimension :=
        mem_branchesFor.mpr ⟨f, hmem, henabled, op, hopmem, rfl, rfl⟩
      refine ⟨_, mem_compileFiltersToSQL.mpr ⟨List.ne_nil_of_mem hb, rfl⟩, ?_⟩
      rw [buildDimension_eq]
      refine mem_atoms_whenClauses.mpr (Or.inl ⟨_, hb, Or.inr (Or.inr ?_)⟩)
      refine text_mem_literal.mpr ⟨hquotes.1, ?_⟩
      rw [branchOf_writes, if_neg hquotes.2]
      rfl

end Veridian
