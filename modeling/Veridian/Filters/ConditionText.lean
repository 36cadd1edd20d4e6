/-
The text of compiled conditions.

`compileCondition` writes text, and this is the text: the terms of the compiler as they are
rendered, with the source's templates read off (`compileConditionText_eq`).  It is read
back as the very same condition whatever characters the values have, so it is one boolean
expression, and its literals are the stored values.  On a column of text that condition
then means what the evaluator means.
-/
import Veridian.Filters.SetClause
import Veridian.Lib.SqlParse

namespace Veridian

/-! ### How columns and values are spelled -/

/-- The columns a statement can name, with the escaping of the compiler. -/
def conditionSpelling : Sql.Spelling SourceField where
  name := SourceField.name
  column? w := SOURCE_FIELDS.find? (·.name = w)
  escape := escapeSQL
  name_ne_nil c := by cases c <;> decide
  isNameChar_of_mem c := by
    have hall : SOURCE_FIELDS.all (fun field => field.name.toList.all Sql.isNameChar) = true := by
      decide
    exact List.all_eq_true.mp (List.all_eq_true.mp hall c (mem_SOURCE_FIELDS c))
  name_not_reserved c := by cases c <;> decide
  numeral?_name c := by cases c <;> rfl
  column?_name c := by cases c <;> rfl
  readLiteral_escape := readLiteral_escapeSQL

/-! ### The text -/

def compileConditionText (c : FilterCondition) : String :=
  let field := c.field.name
  let value := escapeSQL (c.value.getD "")
  if c.field = .isDirect then
    let boolValue := if isTrueWord c.value then "1" else "0"
    match c.operator with
    | .equals => "is_direct = " ++ boolValue
    | .notEquals => "is_direct != " ++ boolValue
    | .isEmpty => "is_direct = 0"
    | .isNotEmpty => "is_direct = 1"
    | .contains | .notContains | .regex => "0 = 1"
  else
    match c.operator with
    | .equals => "(" ++ field ++ " != '' AND " ++ field ++ " = '" ++ value ++ "')"
    | .notEquals => "(" ++ field ++ " != '' AND " ++ field ++ " != '" ++ value ++ "')"
    | .contains =>
        "(" ++ field ++ " != '' AND position(" ++ field ++ ", '" ++ value ++ "') > 0)"
    | .notContains =>
        "(" ++ field ++ " != '' AND position(" ++ field ++ ", '" ++ value ++ "') = 0)"
    | .isEmpty => "(" ++ field ++ " = '' OR " ++ field ++ " IS NULL)"
    | .isNotEmpty => "(" ++ field ++ " != '' AND " ++ field ++ " IS NOT NULL)"
    | .regex => "(" ++ field ++ " != '' AND match(" ++ field ++ ", '" ++ value ++ "'))"

/-- Joined by ` AND `; no condition always matches. -/
def compileConditionsText (conditions : List FilterCondition) : String :=
  if conditions = [] then "1 = 1" else " AND ".intercalate (conditions.map compileConditionText)

theorem escapeSQL_empty : escapeSQL "" = "" := by decide

/-- The templates are the rendering of the compiled term. -/
theorem compileConditionText_eq (c : FilterCondition) :
    compileConditionText c = (compileCondition c).render SourceField.name escapeSQL := by
  unfold compileConditionText compileCondition
  by_cases hdirect : c.field = .isDirect
  · simp only [if_pos hdirect]
    rw [hdirect]
    cases c.operator <;> cases isTrueWord c.value <;> rfl
  · simp only [if_neg hdirect]
    apply String.toList_injective
    cases c.operator <;>
      simp [Sql.Cond.render, Sql.Term.render, escapeSQL_empty, String.toList_append]

theorem compileConditionsText_eq (conditions : List FilterCondition) :
    compileConditionsText conditions =
      (compileConditions conditions).render SourceField.name escapeSQL := by
  unfold compileConditionsText compileConditions
  by_cases hnil : conditions = []
  · rw [if_pos hnil, hnil]
    rfl
  · rw [if_neg hnil, Sql.conj_render _ _ _ (by simpa using hnil), List.map_map]
    exact congrArg " AND ".intercalate
      (List.map_congr_left fun c _ => compileConditionText_eq c)

/-! ### Reading the text -/

/-- A compiled condition brings its own parentheses. -/
theorem compileCondition_isExplicit (c : FilterCondition) :
    (compileCondition c).isExplicit = true ∧ (compileCondition c).strength = 0 := by
  unfold compileCondition
  by_cases hdirect : c.field = .isDirect
  · simp only [if_pos hdirect]
    cases c.operator <;> exact ⟨rfl, rfl⟩
  · simp only [if_neg hdirect]
    cases c.operator <;> exact ⟨rfl, rfl⟩

theorem parse_compileConditionText (c : FilterCondition) :
    Sql.parse conditionSpelling (compileConditionText c) = some (compileCondition c) := by
  rw [compileConditionText_eq]
  exact Sql.parse_render conditionSpelling (compileCondition_isExplicit c).1

theorem parse_compileConditionsText (conditions : List FilterCondition) :
    Sql.parse conditionSpelling (compileConditionsText conditions) =
      some (compileConditions conditions) := by
  have hexplicit : (compileConditions conditions).isExplicit = true := by
    refine (Sql.conj_isExplicit ⟨rfl, rfl⟩ ?_).1
    intro p hp
    obtain ⟨c, -, rfl⟩ := List.mem_map.mp hp
    exact compileCondition_isExplicit c
  rw [compileConditionsText_eq]
  exact Sql.parse_render conditionSpelling hexplicit

/-! ### Literals -/

/-- The empty text a field is compared with, and the value. -/
def FilterCondition.literals (c : FilterCondition) : List String :=
  if c.field = .isDirect then []
  else if c.quotes then ["", c.value.getD ""]
  else [""]

theorem literals_compileCondition (c : FilterCondition) :
    (compileCondition c).atoms.filterMap Sql.Term.literal? = c.literals := by
  unfold compileCondition FilterCondition.literals FilterCondition.quotes
  by_cases hdirect : c.field = .isDirect
  · simp only [if_pos hdirect]
    cases c.operator <;> rfl
  · have hfield : (c.field != .isDirect) = true := by simpa using hdirect
    simp only [if_neg hdirect, hfield]
    cases c.operator <;> rfl

theorem literalsOf_compileConditionsText (conditions : List FilterCondition) :
    Sql.literalsOf (compileConditionsText conditions) =
      some (conditions.flatMap FilterCondition.literals) := by
  rw [compileConditionsText_eq]
  refine (Sql.literalsOf_render conditionSpelling _).trans (congrArg some ?_)
  rw [compileConditions, Sql.conj_atoms rfl, List.flatMap_map]
  exact congrArg (conditions.flatMap ·) (funext literals_compileCondition)

/-! ### The text on a row -/

/-- **The text of a condition selects what the evaluator matches**, on every row that holds
the field's value as text; and the text of any conditions is one boolean expression, with
the stored values as its literals. -/
theorem compiled_text_means_evaluated :
    (∀ (host : Host) (engine : String → String → Bool) (c : FilterCondition)
      (row : SourceField → Sql.Value) (fieldValues : SourceField → Option String)
      (fieldValue : String), c.field ≠ .isDirect → c.operator ≠ .regex →
        row c.field = .text fieldValue → fieldValues c.field = some fieldValue →
        (Sql.parse conditionSpelling (compileConditionText c)).map (·.eval engine row) =
          some (evaluateCondition host c fieldValues)) ∧
    (∀ conditions : List FilterCondition,
      Sql.parse conditionSpelling (compileConditionsText conditions) =
          some (compileConditions conditions) ∧
        Sql.literalsOf (compileConditionsText conditions) =
          some (conditions.flatMap FilterCondition.literals)) := by
  refine ⟨?_, fun conditions =>
    ⟨parse_compileConditionsText conditions, literalsOf_compileConditionsText conditions⟩⟩
  intro host engine c row fieldValues fieldValue hfield hop hrow hvalue
  have hs : (fieldValues c.field).getD "" = fieldValue := by rw [hvalue, Option.getD_some]
  rw [parse_compileConditionText, Option.map_some,
    compileCondition_eval_value host hfield hrow hs fun hc => absurd hc hop]

namespace ConditionExample

/-- A value with a quote and a backslash. -/
def condition : FilterCondition := ⟨.utmCampaign, .contains, some "o'n\\e"⟩

def fieldValue : String := "two o'n\\e"

theorem campaign_selected :
    (Sql.parse conditionSpelling (compileConditionText condition)).map
        (·.eval (fun _ _ => false) fun _ => .text fieldValue) = some true ∧
      Sql.literalsOf (compileConditionsText [condition]) = some ["", "o'n\\e"] :=
  ⟨(compiled_text_means_evaluated.1 .bare _ condition _ (fun _ => some fieldValue) fieldValue
      (by decide) (by decide) rfl rfl).trans (by decide),
    (compiled_text_means_evaluated.2 [condition]).2⟩

end ConditionExample

end Veridian
