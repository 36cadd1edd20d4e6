/-
The values of the filters in the statement that is sent.

The clause quotes the values of conditions and operations and escapes them, so the text
reads back as what was stored.  Then the tables are qualified, in the literals as well: a
value that has a table reference in it, or the placeholder, reaches the database changed.
-/
import Veridian.Backfill.LookbackCoverage
import Veridian.Backfill.Mutations
import Veridian.Database.Qualify

namespace Veridian

/-! ### Quoted text -/

/-- A text whose quotes and backslashes all belong to these literals. -/
def QuotedText (s : String) (values : List String) : Prop :=
  Substitute.Quoted isBreak Sql.backslash Sql.quote s.toList (values.map String.toList)

theorem isBreak_quote : isBreak Sql.quote = true := by decide

theorem toList_escapeSQL (s : String) :
    (escapeSQL s).toList = Substitute.escape isBreak Sql.backslash s.toList := by
  rw [escapeSQL, String.toList_ofList]
  induction s.toList with
  | nil => rfl
  | cons c cs ih =>
      rw [List.flatMap_cons, List.flatMap_append, ih]
      refine congrArg (· ++ Substitute.escape isBreak Sql.backslash cs) ?_
      by_cases hb : c = Sql.backslash
      · subst hb
        rfl
      · by_cases hq : c = Sql.quote
        · subst hq
          rfl
        · simp [isBreak, hb, hq]

namespace QuotedText

theorem of_clean {s : String} (h : ∀ c ∈ s.toList, isBreak c = false) : QuotedText s [] :=
  Substitute.Quoted.plain h

theorem plain {s : String} (h : s.toList.all (fun c => !isBreak c) = true) : QuotedText s [] :=
  of_clean (clean_of_all h)

theorem append {s t : String} {vs ws : List String} (h : QuotedText s vs) (h' : QuotedText t ws) :
    QuotedText (s ++ t) (vs ++ ws) := by
  unfold QuotedText
  rw [String.toList_append, List.map_append]
  exact Substitute.Quoted.append h h'

theorem between {s t : String} {vs ws : List String} (hs : QuotedText s vs) (sep : String)
    (hsep : sep.toList.all (fun c => !isBreak c) = true) (ht : QuotedText t ws) :
    QuotedText (s ++ sep ++ t) (vs ++ ws) := by
  have hall := (hs.append (plain hsep)).append ht
  rwa [List.append_nil] at hall

theorem followed {s : String} {vs : List String} (hs : QuotedText s vs) (after : String)
    (hafter : after.toList.all (fun c => !isBreak c) = true) : QuotedText (s ++ after) vs := by
  have hall := hs.append (plain hafter)
  rwa [List.append_nil] at hall

theorem literal (v : String) : QuotedText ("'" ++ escapeSQL v ++ "'") [v] := by
  have hnil : ∀ c ∈ ([] : List Char), isBreak c = false := fun c hc => absurd hc List.not_mem_nil
  unfold QuotedText
  rw [String.toList_append, String.toList_append, toList_escapeSQL]
  exact Substitute.Quoted.literal hnil (.plain hnil)

theorem intercalate (sep : String) (hsep : sep.toList.all (fun c => !isBreak c) = true) :
    ∀ {parts : List (String × List String)}, (∀ part ∈ parts, QuotedText part.1 part.2) →
      QuotedText (sep.intercalate (parts.map Prod.fst)) (parts.flatMap Prod.snd) := by
  intro parts
  induction parts with
  | nil => exact fun _ => plain rfl
  | cons part rest ih =>
      intro h
      have hpart := h part List.mem_cons_self
      have hrest := ih fun q hq => h q (List.mem_cons_of_mem part hq)
      cases rest with
      | nil => simpa using hpart
      | cons next rest =>
          rw [List.map_cons, List.map_cons, String.intercalate_cons_cons]
          exact hpart.between sep hsep hrest

end QuotedText

/-! ### What is rendered is quoted -/

theorem isBreak_of_isDigit {c : Char} (h : c.isDigit = true) : isBreak c = false :=
  isBreak_of_isWord (isWord_iff.mpr (Or.inl (Or.inr h)))

theorem fieldName_plain (field : SourceField) : QuotedText field.name [] := by
  have hall : SOURCE_FIELDS.all (fun field => field.name.toList.all fun c => !isBreak c) = true := by
    decide
  exact .plain (List.all_eq_true.mp hall field (mem_SOURCE_FIELDS field))

theorem dimensionName_plain (d : WritableDimension) : QuotedText d.name [] := by
  have hall : WRITABLE_DIMENSIONS.all (fun d => d.name.toList.all fun c => !isBreak c) = true := by
    decide
  exact .plain (List.all_eq_true.mp hall d (mem_WRITABLE_DIMENSIONS d))

theorem term_quoted (t : Sql.Term SourceField) :
    QuotedText (t.render SourceField.name escapeSQL) (t.atoms.filterMap Sql.Term.literal?) := by
  induction t with
  | column c => exact fieldName_plain c
  | text s => exact .literal s
  | num n => exact .of_clean fun c hc => isBreak_of_isDigit (Text.isDigit_of_mem_toString hc)
  | position h n ihh ihn =>
      have hopen : QuotedText "position(" [] := .plain (by decide)
      have hcomma : QuotedText ", " [] := .plain (by decide)
      have hclose : QuotedText ")" [] := .plain (by decide)
      have hall := (((hopen.append ihh).append hcomma).append ihn).append hclose
      simpa [Sql.Term.render] using hall

theorem cond_quoted (p : Sql.Cond SourceField) :
    QuotedText (p.render SourceField.name escapeSQL) (p.atoms.filterMap Sql.Term.literal?) := by
  induction p with
  | eq a b =>
      simpa [Sql.Cond.render] using
        (term_quoted a).between " = " (by decide) (term_quoted b)
  | ne a b =>
      simpa [Sql.Cond.render] using
        (term_quoted a).between " != " (by decide) (term_quoted b)
  | gt a b =>
      simpa [Sql.Cond.render] using
        (term_quoted a).between " > " (by decide) (term_quoted b)
  | isNull a => exact (term_quoted a).followed " IS NULL" (by decide)
  | isNotNull a => exact (term_quoted a).followed " IS NOT NULL" (by decide)
  | regex subject pattern =>
      have hopen : QuotedText "match(" [] := .plain (by decide)
      have hall := ((hopen.append (term_quoted subject)).between ", " (by decide)
        (term_quoted pattern)).followed ")" (by decide)
      simpa [Sql.Cond.render] using hall
  | and p q ihp ihq =>
      simpa [Sql.Cond.render] using ihp.between " AND " (by decide) ihq
  | or p q ihp ihq =>
      simpa [Sql.Cond.render] using ihp.between " OR " (by decide) ihq
  | paren p ih =>
      have hopen : QuotedText "(" [] := .plain (by decide)
      exact (hopen.append ih).followed ")" (by decide)

theorem case_quoted (e : Sql.Case SourceField) :
    QuotedText (e.render SourceField.name escapeSQL) (e.atoms.filterMap Sql.Term.literal?) := by
  let branch := fun b : Sql.Cond SourceField × Sql.Term SourceField =>
    ("WHEN " ++ b.1.render SourceField.name escapeSQL ++ " THEN " ++
      b.2.render SourceField.name escapeSQL,
      (b.1.atoms ++ b.2.atoms).filterMap Sql.Term.literal?)
  have hbranch : ∀ part ∈ e.branches.map branch, QuotedText part.1 part.2 := by
    intro part hpart
    obtain ⟨b, -, rfl⟩ := List.mem_map.mp hpart
    have hwhen : QuotedText "WHEN " [] := .plain (by decide)
    have hall := (hwhen.append (cond_quoted b.1)).between " THEN " (by decide) (term_quoted b.2)
    simpa [branch] using hall
  have hbranches := QuotedText.intercalate "\n    " (by decide) hbranch
  have hcase : QuotedText "CASE\n    " [] := .plain (by decide)
  have hall := ((hcase.append hbranches).between "\n    ELSE " (by decide)
    (term_quoted e.otherwise)).followed "\n  END" (by decide)
  rw [List.map_map, List.flatMap_map] at hall
  unfold Sql.Case.render Sql.Case.atoms
  rw [List.filterMap_append, List.filterMap_flatMap]
  exact hall

/-- The literals of the clauses, in the order of the text. -/
def clauseLiterals (clauses : List (WritableDimension × Sql.Case SourceField)) : List String :=
  clauses.flatMap fun clause => clause.2.atoms.filterMap Sql.Term.literal?

theorem setClause_quoted (clauses : List (WritableDimension × Sql.Case SourceField)) :
    QuotedText (renderSetClause clauses) (clauseLiterals clauses) := by
  let part := fun clause : WritableDimension × Sql.Case SourceField =>
    (clause.1.name ++ " = " ++ clause.2.render SourceField.name escapeSQL,
      clause.2.atoms.filterMap Sql.Term.literal?)
  have hpart : ∀ p ∈ clauses.map part, QuotedText p.1 p.2 := by
    intro p hp
    obtain ⟨clause, -, rfl⟩ := List.mem_map.mp hp
    exact (dimensionName_plain clause.1).between " = " (by decide) (case_quoted clause.2)
  have hall := QuotedText.intercalate ",\n  " (by decide) hpart
  rw [List.map_map, List.flatMap_map] at hall
  exact hall

/-! ### The statement -/

/-- The partition a chunk mutates. -/
def partitionOf (table : MutatedTable) (date : Int) : String :=
  match table with
  | .events => formatEventPartition date
  | .sessions | .goals => formatMonthlyPartition date

/-- A digit, or the sign of a year. -/
def isNumeral (c : Char) : Bool := c.isDigit || c == '-'

theorem partitionOf_isNumeral (table : MutatedTable) (date : Int) :
    ∀ c ∈ (partitionOf table date).toList, isNumeral c = true := by
  have hnat : ∀ (n : Nat), ∀ c ∈ (toString n).toList, isNumeral c = true := by
    intro n c hc
    rw [isNumeral, Text.isDigit_of_mem_toString hc]
    rfl
  have hint : ∀ (n : Int), ∀ c ∈ (toString n).toList, isNumeral c = true := by
    intro n
    cases n with
    | ofNat n => exact hnat n
    | negSucc n =>
        show ∀ c ∈ ("-" ++ toString (n + 1)).toList, isNumeral c = true
        rw [String.toList_append]
        exact List.forall_mem_append.mpr ⟨List.all_eq_true.mp (by decide), hnat (n + 1)⟩
  have hpad : ∀ (n : Nat), ∀ c ∈ (padStart2 n).toList, isNumeral c = true := by
    intro n
    unfold padStart2
    split
    · rw [String.toList_append]
      exact List.forall_mem_append.mpr ⟨List.all_eq_true.mp (by decide), hnat n⟩
    · exact hnat n
  have hmonth : ∀ c ∈ (formatMonthlyPartition date).toList, isNumeral c = true := by
    unfold formatMonthlyPartition
    rw [String.toList_append]
    exact List.forall_mem_append.mpr ⟨hint _, hpad _⟩
  cases table with
  | events =>
      show ∀ c ∈ (formatMonthlyPartition date ++ padStart2 (Calendar.civil date).day).toList, _
      rw [String.toList_append]
      exact List.forall_mem_append.mpr ⟨hmonth, hpad _⟩
  | sessions | goals => exact hmonth

/-- The mutation as it is sent. -/
def sentMutation (workspaceId : String) (table : MutatedTable) (filters : List FilterDefinition)
    (date : Int) : List Char :=
  commandWorkspaceWithParams workspaceId
    (mutationStatement table (renderSetClause (compileFiltersToSQL filters))
      (partitionOf table date))

/-- The literals of the mutation as it was composed. -/
def statementLiterals (table : MutatedTable) (filters : List FilterDefinition) (date : Int) :
    List String :=
  clauseLiterals (compileFiltersToSQL filters) ++ [partitionOf table date]

theorem isBreak_of_isNumeral {c : Char} (h : isNumeral c = true) : isBreak c = false := by
  rcases Bool.or_eq_true_iff.mp h with hdigit | hsign
  · exact isBreak_of_isDigit hdigit
  · rw [beq_iff_eq.mp hsign]
    decide

theorem escapeSQL_clean {s : String} (h : ∀ c ∈ s.toList, isBreak c = false) :
    escapeSQL s = s := by
  refine String.toList_injective ?_
  rw [toList_escapeSQL, Substitute.escape_clean Sql.backslash h]

/-- The partition is a literal of the statement, behind those of the clause. -/
theorem mutationStatement_eq (table : MutatedTable) (setClause partition : String) :
    mutationStatement table setClause partition =
      "ALTER TABLE " ++ table.name ++ (" UPDATE" ++ table.margin ++ "  ") ++ setClause ++
        (table.margin ++ "IN PARTITION ") ++ ("'" ++ partition ++ "'") ++
        (table.margin ++ "WHERE 1=1") := by
  have hquote : "IN PARTITION '" = "IN PARTITION " ++ "'" := by decide
  unfold mutationStatement
  rw [hquote]
  simp only [String.append_assoc]

theorem statement_quoted (table : MutatedTable) (setClause : String) {vs : List String}
    (hclause : QuotedText setClause vs) {partition : String}
    (hpartition : ∀ c ∈ partition.toList, isBreak c = false) :
    QuotedText (mutationStatement table setClause partition) (vs ++ [partition]) := by
  have hopen : QuotedText
      ("ALTER TABLE " ++ table.name ++ (" UPDATE" ++ table.margin ++ "  ")) [] := by
    cases table <;> exact .plain (by decide)
  have hliteral : QuotedText ("'" ++ partition ++ "'") [partition] := by
    have hescaped := QuotedText.literal partition
    rwa [escapeSQL_clean hpartition] at hescaped
  have hbefore : (table.margin ++ "IN PARTITION ").toList.all (fun c => !isBreak c) = true := by
    cases table <;> decide
  have hafter : (table.margin ++ "WHERE 1=1").toList.all (fun c => !isBreak c) = true := by
    cases table <;> decide
  rw [mutationStatement_eq]
  exact ((hopen.append hclause).between _ hbefore hliteral).followed _ hafter

/-- The reader finds the values of a quoted text. -/
theorem readLiterals_quoted {l : List Char} {vs : List (List Char)}
    (h : Substitute.Quoted isBreak Sql.backslash Sql.quote l vs) :
    Sql.readLiterals l = some vs := by
  have hplain : ∀ {l : List Char}, (∀ c ∈ l, isBreak c = false) → ∀ c ∈ l, c ≠ Sql.quote := by
    intro l hl c hc hq
    rw [hq] at hc
    exact Bool.false_ne_true ((hl _ hc).symm.trans isBreak_quote)
  induction h with
  | @plain l hl =>
      have hread := Sql.readLiterals_plain (hplain hl) []
      rw [List.append_nil] at hread
      rw [hread]
      exact Sql.readLiterals.eq_1
  | @literal l v rest vs hl _ ih =>
      have hread := readLiteral_escapeSQL (String.ofList v) rest
      rw [toList_escapeSQL, String.toList_ofList] at hread
      rw [Sql.readLiterals_plain (hplain hl), Sql.readLiterals_quote hread, ih]
      rfl

/-- The literals of the sent statement are those of the composed one, rewritten. -/
theorem sentMutation_literals (workspaceId : String) (table : MutatedTable)
    (filters : List FilterDefinition) (date : Int) :
    Sql.readLiterals (sentMutation workspaceId table filters date) =
      some ((statementLiterals table filters date).map fun v =>
        Substitute.replaceEach (patterns workspaceId) v.toList) := by
  have hpartition : ∀ c ∈ (partitionOf table date).toList, isBreak c = false :=
    fun c hc => isBreak_of_isNumeral (partitionOf_isNumeral table date c hc)
  have hquoted := statement_quoted table (renderSetClause (compileFiltersToSQL filters))
    (setClause_quoted (compileFiltersToSQL filters)) hpartition
  obtain ⟨rest, hstart⟩ : ∃ rest, (mutationStatement table
      (renderSetClause (compileFiltersToSQL filters)) (partitionOf table date)).toList =
      'A' :: rest := by
    rw [mutationStatement_eq]
    simp only [String.append_assoc, String.toList_append]
    exact ⟨_, rfl⟩
  have hsent := commandWorkspaceWithParams_quoted workspaceId hstart hquoted
  have hread := readLiterals_quoted hsent
  rw [List.map_map] at hread
  exact hread

/-! ### When the values arrive unchanged -/

/-- The literals of the sent statement are those of the composed one. -/
def LiteralsKept (workspaceId : String) (table : MutatedTable) (filters : List FilterDefinition)
    (date : Int) : Prop :=
  Sql.readLiterals (sentMutation workspaceId table filters date) =
    some ((statementLiterals table filters date).map String.toList)

theorem mem_clauseLiterals {clauses : List (WritableDimension × Sql.Case SourceField)}
    {v : String} :
    v ∈ clauseLiterals clauses ↔ ∃ clause ∈ clauses, Sql.Term.text v ∈ clause.2.atoms := by
  unfold clauseLiterals
  rw [List.mem_flatMap]
  simp only [Sql.mem_filterMap_literal?]

theorem not_isUpper_toUpper_of_isDigit {c : Char} (h : c.isDigit = true) :
    ¬c.toUpper.isUpper = true := by
  intro hupper
  have hletter := isUpper_or_isLower_of_toUpper hupper
  rw [isUpper_iff, isLower_iff] at hletter
  rw [isDigit_iff] at h
  omega

theorem partitionOf_not_looksLikeSql (workspaceId : String) (table : MutatedTable) (date : Int) :
    ¬LooksLikeSql workspaceId (partitionOf table date) := by
  refine not_looksLikeSql (fun c hc => ?_) workspaceId
  rintro (rfl | hletter)
  · exact absurd (partitionOf_isNumeral table date _ hc) (by decide)
  · rcases Bool.or_eq_true_iff.mp (partitionOf_isNumeral table date c hc) with hdigit | hsign
    · exact not_isUpper_toUpper_of_isDigit hdigit hletter
    · rw [beq_iff_eq.mp hsign] at hletter
      exact absurd hletter (by decide)

/--
**Which values reach the database as they were stored.**

The literals of a mutation are those of its filters exactly when no quoted value has the
placeholder or a table reference in it.
-/
theorem literals_kept_iff (workspaceId : String) (table : MutatedTable)
    (filters : List FilterDefinition) (date : Int) :
    LiteralsKept workspaceId table filters date ↔
      ∀ v ∈ quotedValues filters, ¬LooksLikeSql workspaceId v := by
  have hempty : ¬LooksLikeSql workspaceId "" :=
    not_looksLikeSql (fun c hc => absurd hc List.not_mem_nil) workspaceId
  unfold LiteralsKept
  rw [sentMutation_literals, Option.some_inj, List.map_inj_left]
  simp only [replaceEach_value_iff]
  constructor
  · intro h v hv
    refine h v (List.mem_append_left _ (mem_clauseLiterals.mpr ?_))
    exact quotedValues_mem_compileFiltersToSQL hv
  · intro h v hv
    rcases List.mem_append.mp hv with hclause | hpartition
    · obtain ⟨clause, hclause, htext⟩ := mem_clauseLiterals.mp hclause
      rcases text_mem_compileFiltersToSQL hclause htext with rfl | hquoted
      · exact hempty
      · exact h v hquoted
    · rw [List.mem_singleton.mp hpartition]
      exact partitionOf_not_looksLikeSql workspaceId table date

/-! ### A value that is changed -/

namespace LiteralExample

/-- Groups the visitors a search engine sent. -/
def grouping : CreateFilterDto :=
  { MutationExample.pricing with
    conditions := [⟨.utmSource, .equals, some "google"⟩]
    operations := [⟨.channelGroup, .setValue, some "traffic from google", rfl⟩]
    conditions_ne := List.cons_ne_nil _ _
    operations_ne := List.cons_ne_nil _ _ }

def filter : FilterDefinition :=
  FiltersService.newFilter "f" grouping
    [⟨.channelGroup, .setValue, some "traffic from google", Or.inr rfl⟩]

theorem stored : FiltersService.Stored (fun _ => true) "w" [filter] :=
  .create .empty (show FiltersService.create (fun _ => true) "f" grouping [] = .ok [filter] from rfl)

end LiteralExample

open LiteralExample in
/-- The group is sent as `traffic FROM staminads_ws_w.google`. -/
theorem literal_changed :
    Sql.readLiterals (sentMutation "w" .sessions [filter] 0) =
      some (["", "google", "traffic FROM staminads_ws_w.google", "", "197001"].map
        String.toList) ∧
    ¬∀ (compiles : String → Bool) (workspaceId : String) (filters : List FilterDefinition),
      FiltersService.Stored compiles workspaceId filters →
      ∀ (table : MutatedTable) (date : Int), LiteralsKept workspaceId table filters date := by
  have hsent : Sql.readLiterals (sentMutation "w" .sessions [filter] 0) =
      some (["", "google", "traffic FROM staminads_ws_w.google", "", "197001"].map
        String.toList) := by
    rw [sentMutation_literals]
    decide
  refine ⟨hsent, fun hall => ?_⟩
  have hkept := hall (fun _ => true) "w" [filter] stored .sessions 0
  unfold LiteralsKept at hkept
  rw [hsent] at hkept
  exact absurd hkept (by decide)

end Veridian
