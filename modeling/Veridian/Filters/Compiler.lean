/-
Compiling a workspace's filters to the SET clause of a ClickHouse UPDATE.

Every enabled filter contributes its operations as branches of one CASE per
dimension, highest priority first.  The three kinds of CASE differ in what a
default adds to its condition, in how a value is written, and in the ELSE; that is
what `whenClause` takes as parameters.

A column of the statement is a source field: the custom dimensions are written but
never read, and each writable standard field is a source field as well.
-/
import Veridian.Lib.Assoc
import Veridian.Lib.Sql
import Veridian.Filters.Entity

namespace Veridian

/-! ### Names -/

/-- The column of a source field. -/
def SourceField.name : SourceField → String
  | .utmSource => "utm_source"
  | .utmMedium => "utm_medium"
  | .utmCampaign => "utm_campaign"
  | .utmTerm => "utm_term"
  | .utmContent => "utm_content"
  | .utmId => "utm_id"
  | .utmIdFrom => "utm_id_from"
  | .referrer => "referrer"
  | .referrerDomain => "referrer_domain"
  | .referrerPath => "referrer_path"
  | .isDirect => "is_direct"
  | .landingPage => "landing_page"
  | .landingDomain => "landing_domain"
  | .landingPath => "landing_path"
  | .path => "path"
  | .device => "device"
  | .browser => "browser"
  | .browserType => "browser_type"
  | .os => "os"
  | .userAgent => "user_agent"
  | .connectionType => "connection_type"
  | .language => "language"
  | .timezone => "timezone"

/-- The column of a writable dimension. -/
def WritableDimension.name : WritableDimension → String
  | .channel => "channel"
  | .channelGroup => "channel_group"
  | .stm k => s!"stm_{k.val + 1}"
  | .utmSource => "utm_source"
  | .utmMedium => "utm_medium"
  | .utmCampaign => "utm_campaign"
  | .utmTerm => "utm_term"
  | .utmContent => "utm_content"
  | .referrerDomain => "referrer_domain"
  | .isDirect => "is_direct"

/-- The source field a standard dimension is; a custom one is none. -/
def WritableDimension.field? : WritableDimension → Option SourceField
  | .channel | .channelGroup | .stm _ => none
  | .utmSource => some .utmSource
  | .utmMedium => some .utmMedium
  | .utmCampaign => some .utmCampaign
  | .utmTerm => some .utmTerm
  | .utmContent => some .utmContent
  | .referrerDomain => some .referrerDomain
  | .isDirect => some .isDirect

/-! ### Literals -/

/-- Backslashes first, then single quotes.  `escapeRegex` has the same body. -/
def escapeSQL (value : String) : String :=
  let doubled := value.toList.flatMap fun c =>
    if c = Sql.backslash then [Sql.backslash, Sql.backslash] else [c]
  String.ofList (doubled.flatMap fun c => if c = Sql.quote then [Sql.backslash, Sql.quote] else [c])

/-- **A value is read back as it was, and nothing of it gets past the closing quote.** -/
theorem readLiteral_escapeSQL (value : String) (rest : List Char) :
    Sql.readLiteral ((escapeSQL value).toList ++ Sql.quote :: rest) =
      some (value.toList, rest) := by
  rw [escapeSQL, String.toList_ofList]
  induction value.toList with
  | nil => exact Sql.readLiteral_quote rest
  | cons c cs ih =>
      by_cases hb : c = Sql.backslash
      · subst hb
        simpa [Sql.backslash_ne_quote] using Sql.readLiteral_escaped (Or.inl rfl) ih
      · by_cases hq : c = Sql.quote
        · subst hq
          simpa [Sql.backslash_ne_quote.symm] using Sql.readLiteral_escaped (Or.inr rfl) ih
        · simpa [hb, hq] using Sql.readLiteral_plain hb hq ih

/-! ### Conditions -/

/-- The words that stand for `true` in a condition on `is_direct` or a value of it. -/
def isTrueWord (value : Option String) : Bool := value == some "true" || value == some "1"

def boolLiteral (b : Bool) : Sql.Term SourceField := .num (if b then 1 else 0)

def compileCondition (c : FilterCondition) : Sql.Cond SourceField :=
  let field : Sql.Term SourceField := .column c.field
  let value : Sql.Term SourceField := .text (c.value.getD "")
  if c.field = .isDirect then
    match c.operator with
    | .equals => .eq field (boolLiteral (isTrueWord c.value))
    | .notEquals => .ne field (boolLiteral (isTrueWord c.value))
    | .isEmpty => .eq field (.num 0)
    | .isNotEmpty => .eq field (.num 1)
    | .contains | .notContains | .regex => .eq (.num 0) (.num 1)
  else
    match c.operator with
    | .equals => .paren (.and (.ne field (.text "")) (.eq field value))
    | .notEquals => .paren (.and (.ne field (.text "")) (.ne field value))
    | .contains => .paren (.and (.ne field (.text "")) (.gt (.position field value) (.num 0)))
    | .notContains => .paren (.and (.ne field (.text "")) (.eq (.position field value) (.num 0)))
    | .isEmpty => .paren (.or (.eq field (.text "")) (.isNull field))
    | .isNotEmpty => .paren (.and (.ne field (.text "")) (.isNotNull field))
    | .regex => .paren (.and (.ne field (.text "")) (.regex field value))

def compileConditions (conditions : List FilterCondition) : Sql.Cond SourceField :=
  Sql.conj (.eq (.num 1) (.num 1)) (conditions.map compileCondition)

/-! ### The CASE of one dimension -/

structure CaseBranch where
  conditionSQL : Sql.Cond SourceField
  action : FilterAction
  value : Option String
  deriving DecidableEq, Repr

/-- `condition AND guard`, for a default that has a guard. -/
def guarded (guard : Option (Sql.Cond SourceField)) (condition : Sql.Cond SourceField) :
    Sql.Cond SourceField :=
  match guard with
  | none => condition
  | some g => .and condition g

/-- The WHEN of a branch: a default is guarded, an unset writes the literal of no
value. -/
def whenClause (guard : Option (Sql.Cond SourceField))
    (literal : Option String → Sql.Term SourceField) (b : CaseBranch) :
    Sql.Cond SourceField × Sql.Term SourceField :=
  match b.action with
  | .setValue => (b.conditionSQL, literal b.value)
  | .unsetValue => (b.conditionSQL, literal none)
  | .setDefaultValue => (guarded guard b.conditionSQL, literal b.value)

/-- `'value'`, and `''` for an unset. -/
def textValue (value : Option String) : Sql.Term SourceField := .text (value.getD "")

/-- `1` or `0`, and `0` for an unset. -/
def boolValue (value : Option String) : Sql.Term SourceField := boolLiteral (isTrueWord value)

/-- Custom dimensions are evaluated from scratch: ELSE resets them. -/
def buildCaseExpression (branches : List CaseBranch) : Sql.Case SourceField :=
  { branches := branches.map (whenClause none textValue)
    otherwise := .text "" }

/-- Standard fields keep their value, and a default needs it to be empty. -/
def buildStandardFieldCaseExpression (dimension : SourceField) (branches : List CaseBranch) :
    Sql.Case SourceField :=
  let empty : Sql.Cond SourceField :=
    .paren (.or (.eq (.column dimension) (.text "")) (.isNull (.column dimension)))
  { branches := branches.map (whenClause (some empty) textValue)
    otherwise := .column dimension }

def buildBooleanCaseExpression (branches : List CaseBranch) : Sql.Case SourceField :=
  { branches := branches.map (whenClause (some (.eq (.column .isDirect) (.num 0))) boolValue)
    otherwise := .column .isDirect }

/-! ### All dimensions -/

def CUSTOM_DIMENSIONS : List WritableDimension :=
  [.channel, .channelGroup] ++ (List.finRange 10).map .stm

/-- `Map<string, CaseBranch[]>`, in insertion order. -/
abbrev DimensionBranches := List (WritableDimension × List CaseBranch)

def groupFilter (branches : DimensionBranches) (filter : FilterDefinition) : DimensionBranches :=
  let conditionSQL := compileConditions filter.conditions
  filter.operations.foldl
    (fun m op => Assoc.push m op.dimension ⟨conditionSQL, op.action, op.value⟩) branches

/-- The right-hand side of a SET, by the kind of dimension. -/
def buildDimension (d : WritableDimension) (branches : List CaseBranch) : Sql.Case SourceField :=
  match d.field? with
  | none => buildCaseExpression branches
  | some .isDirect => buildBooleanCaseExpression branches
  | some field => buildStandardFieldCaseExpression field branches

/-- One round of the loop over `CUSTOM_DIMENSIONS`. -/
def customSetClause (dimensionBranches : DimensionBranches) (dim : WritableDimension) :
    Option (WritableDimension × Sql.Case SourceField) :=
  match dimensionBranches.lookup dim with
  | some (b :: bs) => some (dim, buildDimension dim (b :: bs))
  | _ => none

/-- The SET clauses, as terms: the custom dimensions in their fixed order, then the
standard fields in the order the filters mention them. -/
def compileFiltersToSQL (filters : List FilterDefinition) :
    List (WritableDimension × Sql.Case SourceField) :=
  let dimensionBranches := (sortedFilters filters).foldl groupFilter []
  let custom := CUSTOM_DIMENSIONS.filterMap (customSetClause dimensionBranches)
  let standard := (dimensionBranches.filter fun entry => !CUSTOM_DIMENSIONS.contains entry.1).map
    fun entry => (entry.1, buildDimension entry.1 entry.2)
  custom ++ standard

/-- `setClause`. -/
def renderSetClause (setClauses : List (WritableDimension × Sql.Case SourceField)) : String :=
  ",\n  ".intercalate (setClauses.map fun clause =>
    clause.1.name ++ " = " ++ clause.2.render SourceField.name escapeSQL)

end Veridian
