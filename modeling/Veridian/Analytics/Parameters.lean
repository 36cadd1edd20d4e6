/-
The parameters of a query.

The SQL text mentions a parameter with its type; the value travels beside it, in an object
that has one field for each parameter.  Filters number their parameters by their position,
so no two of them write the same field.
-/
import Veridian.Analytics.QueryBuilder

namespace Veridian.Analytics

variable {N : Type}

/-! ### Values and types -/

inductive ParamType where
  | string | stringArray | float64
  deriving DecidableEq

def isString : Json N → Bool
  | .str _ => true
  | _ => false

/-- The value is one of the declared type. -/
def hasType : ParamType → Json N → Bool
  | .string, v => isString v
  | .stringArray, .arr vs => vs.all isString
  | .float64, .num _ => true
  | _, _ => false

mutual

/-- `String(value)` -/
def stringOf (numeral : N → String) : Json N → String
  | .null => "null"
  | .bool true => "true"
  | .bool false => "false"
  | .num n => numeral n
  | .str s => s
  | .arr vs => ",".intercalate (elementStrings numeral vs)
  | .obj _ => "[object Object]"

/-- The elements of an array as `join` writes them. -/
def elementStrings (numeral : N → String) : List (Json N) → List String
  | [] => []
  | .null :: rest => "" :: elementStrings numeral rest
  | v :: rest => stringOf numeral v :: elementStrings numeral rest

end

/-- What one parameter of a filter adds to the filter's own name, with its type in the SQL
text and its value; `undefined` is `none`. -/
structure Argument (N : Type) where
  suffix : String
  type : ParamType
  value : Option (Json N)

structure Parameter (N : Type) where
  name : String
  type : ParamType
  value : Option (Json N)

/-! ### Filters -/

/-- What a condition with the operator mentions and binds. -/
def argumentsOf (numeral : N → String) (values : Option (List (Json N))) :
    FilterOperator → List (Argument N)
  | .equals | .notEquals => [⟨"", .string, values.bind (·[0]?)⟩]
  | .in | .notIn => [⟨"", .stringArray, values.map .arr⟩]
  | .contains | .notContains =>
      let text := ((values.bind (·[0]?)).map (stringOf numeral)).getD "undefined"
      [⟨"", .string, some (.str ("%" ++ text ++ "%"))⟩]
  | .gt | .gte | .lt | .lte => [⟨"", .float64, values.bind (·[0]?)⟩]
  | .isNull | .isNotNull | .isEmpty | .isNotEmpty => []
  | .between => [⟨"a", .float64, values.bind (·[0]?)⟩, ⟨"b", .float64, values.bind (·[1]?)⟩]

/-- A metric filter compares like a filter. -/
def MetricFilterOperator.asFilter : MetricFilterOperator → FilterOperator
  | .gt => .gt
  | .gte => .gte
  | .lt => .lt
  | .lte => .lte
  | .between => .between

/-- `paramPrefix` and the position -/
def paramName (paramPrefix : String) (i : Nat) : String := paramPrefix ++ toString i

def Argument.parameter (paramPrefix : String) (i : Nat) (a : Argument N) : Parameter N :=
  ⟨paramName paramPrefix i ++ a.suffix, a.type, a.value⟩

/-- The parameters of the filters, one after the other. -/
def numbered (paramPrefix : String) (filters : List (List (Argument N))) : List (Parameter N) :=
  filters.zipIdx.flatMap fun (arguments, i) => arguments.map (·.parameter paramPrefix i)

namespace Clauses

variable (numeral : N → String) (c : Clauses N)

def dateParameters : List (Parameter N) :=
  [⟨"date_start", .string, c.start.map .str⟩, ⟨"date_end", .string, c.stop.map .str⟩]

def filterParameters : List (Parameter N) :=
  numbered "f" (c.conditions.map fun f => argumentsOf numeral f.values f.operator)

def metricParameters : List (Parameter N) :=
  numbered "mf" (c.metricConditions.map fun f =>
    argumentsOf numeral (some f.values) f.operator.asFilter)

/-- What goes beside the SQL text. -/
def parameters : List (Parameter N) :=
  c.dateParameters ++ (c.filterParameters numeral ++ c.metricParameters numeral)

/-- What the SQL text mentions; the metric filters are in HAVING. -/
def mentioned (having : Bool) : List (Parameter N) :=
  c.dateParameters ++ (c.filterParameters numeral ++
    if having then c.metricParameters numeral else [])

end Clauses

/-- The value of the last field with the name. -/
def param? (parameters : List (Parameter N)) (name : String) : Option (Json N) :=
  (parameters.reverse.find? (·.name = name)).bind (·.value)

namespace BuiltQuery

def hasHaving : BuiltQuery N → Bool
  | .totals _ => true
  | .grouped q => q.hasGroups

/-- Every parameter that is mentioned has a value of the declared type. -/
def Bound (numeral : N → String) (q : BuiltQuery N) : Prop :=
  ∀ p ∈ q.toClauses.mentioned numeral q.hasHaving,
    ∃ v, param? (q.toClauses.parameters numeral) p.name = some v ∧ hasType p.type v = true

end BuiltQuery

/-! ### Names of parameters -/

/-- What stands behind the number tells the arguments apart, and is no part of the number. -/
structure Suffixed (arguments : List (Argument N)) : Prop where
  noDigit : ∀ a ∈ arguments, a.suffix.toList.takeWhile Char.isDigit = []
  distinct : ∀ a ∈ arguments, ∀ b ∈ arguments, a.suffix = b.suffix → a = b

theorem suffixed_argumentsOf (numeral : N → String) (values : Option (List (Json N)))
    (operator : FilterOperator) : Suffixed (argumentsOf numeral values operator) := by
  refine ⟨?_, ?_⟩
  · cases operator
    all_goals simp [argumentsOf]
  · cases operator
    all_goals simp [argumentsOf]

theorem takeWhile_toString (i : Nat) (rest : List Char) :
    ((toString i).toList ++ rest).takeWhile Char.isDigit =
      (toString i).toList ++ rest.takeWhile Char.isDigit := by
  refine List.takeWhile_append_of_pos fun c hc => ?_
  have hdigit : c ∈ Nat.toDigits 10 i := by simpa using hc
  exact Nat.isDigit_of_mem_toDigits (by omega) (by omega) hdigit

theorem toString_inj {m n : Nat} (h : toString m = toString n) : m = n :=
  Text.toDigits_inj (by simpa using congrArg String.toList h)

/-- A name tells the number of the filter and what is behind it. -/
theorem name_inj {paramPrefix s t : String} {i j : Nat}
    (hs : s.toList.takeWhile Char.isDigit = []) (ht : t.toList.takeWhile Char.isDigit = [])
    (h : paramName paramPrefix i ++ s = paramName paramPrefix j ++ t) : i = j ∧ s = t := by
  have hlist := congrArg String.toList h
  simp only [paramName, String.toList_append, List.append_assoc,
    List.append_cancel_left_eq] at hlist
  have hnumber : (toString i).toList = (toString j).toList := by
    have htake := congrArg (List.takeWhile Char.isDigit) hlist
    rwa [takeWhile_toString, takeWhile_toString, hs, ht, List.append_nil, List.append_nil] at htake
  rw [hnumber, List.append_cancel_left_eq] at hlist
  exact ⟨toString_inj (String.toList_inj.mp hnumber), String.toList_inj.mp hlist⟩

theorem mem_numbered {paramPrefix : String} {filters : List (List (Argument N))}
    {p : Parameter N} : p ∈ numbered paramPrefix filters ↔
      ∃ (i : Nat) (arguments : List (Argument N)), filters[i]? = some arguments ∧
        ∃ a ∈ arguments, a.parameter paramPrefix i = p := by
  simp only [numbered, List.mem_flatMap, List.mem_map, Prod.exists,
    List.mem_zipIdx_iff_getElem?]
  exact ⟨fun ⟨arguments, i, h⟩ => ⟨i, arguments, h⟩, fun ⟨i, arguments, h⟩ => ⟨arguments, i, h⟩⟩

theorem forall_mem_numbered {paramPrefix : String} {filters : List (List (Argument N))}
    {P : ParamType → Option (Json N) → Prop} :
    (∀ p ∈ numbered paramPrefix filters, P p.type p.value) ↔
      ∀ arguments ∈ filters, ∀ a ∈ arguments, P a.type a.value := by
  constructor
  · intro h arguments hargs a ha
    obtain ⟨i, hi⟩ := List.mem_iff_getElem?.mp hargs
    exact h _ (mem_numbered.mpr ⟨i, arguments, hi, a, ha, rfl⟩)
  · intro h p hp
    obtain ⟨i, arguments, hi, a, ha, rfl⟩ := mem_numbered.mp hp
    exact h arguments (List.mem_of_getElem? hi) a ha

/-- **No two parameters of the filters have the same name.** -/
theorem numbered_inj {paramPrefix : String} {filters : List (List (Argument N))}
    (hfilters : ∀ arguments ∈ filters, Suffixed arguments) {p q : Parameter N}
    (hp : p ∈ numbered paramPrefix filters) (hq : q ∈ numbered paramPrefix filters)
    (h : p.name = q.name) : p = q := by
  obtain ⟨i, args, hi, a, ha, rfl⟩ := mem_numbered.mp hp
  obtain ⟨j, args', hj, b, hb, rfl⟩ := mem_numbered.mp hq
  have hargs := hfilters args (List.mem_of_getElem? hi)
  have hargs' := hfilters args' (List.mem_of_getElem? hj)
  obtain ⟨rfl, hsuffix⟩ := name_inj (hargs.noDigit a ha) (hargs'.noDigit b hb) h
  obtain rfl := Option.some.inj (hi.symm.trans hj)
  rw [hargs.distinct a ha b hb hsuffix]

/-- A name that no other parameter has stands for its value. -/
theorem param?_of_inj {parameters : List (Parameter N)} {p : Parameter N}
    (hinj : ∀ q ∈ parameters, q.name = p.name → q = p) (hp : p ∈ parameters) :
    param? parameters p.name = p.value := by
  have hfind : ∃ q, parameters.reverse.find? (·.name = p.name) = some q :=
    Option.isSome_iff_exists.mp (List.find?_isSome.mpr ⟨p, List.mem_reverse.mpr hp, by simp⟩)
  obtain ⟨q, hq⟩ := hfind
  have hname : q.name = p.name := by simpa using List.find?_some hq
  have hmem : q ∈ parameters := List.mem_reverse.mp (List.mem_of_find?_eq_some hq)
  rw [param?, hq, hinj q hmem hname]
  rfl

/-- Names of other parameters start otherwise. -/
theorem name_head_of_mem_numbered (first : Char) (rest : String)
    {filters : List (List (Argument N))} {p : Parameter N}
    (hp : p ∈ numbered (String.singleton first ++ rest) filters) :
    p.name.toList.head? = some first := by
  obtain ⟨i, args, -, a, -, rfl⟩ := mem_numbered.mp hp
  simp [Argument.parameter, paramName]

namespace Clauses

variable {numeral : N → String} {c : Clauses N}

theorem head_of_mem_dateParameters {p : Parameter N} (hp : p ∈ c.dateParameters) :
    p.name.toList.head? = some 'd' := by
  simp only [dateParameters, List.mem_cons, List.not_mem_nil, or_false] at hp
  rcases hp with rfl | rfl
  · show "date_start".toList.head? = some 'd'
    decide
  · show "date_end".toList.head? = some 'd'
    decide

theorem dateParameters_inj {p q : Parameter N} (hp : p ∈ c.dateParameters)
    (hq : q ∈ c.dateParameters) (h : p.name = q.name) : p = q := by
  simp only [dateParameters, List.mem_cons, List.not_mem_nil, or_false] at hp hq
  rcases hp with rfl | rfl
  all_goals rcases hq with rfl | rfl
  all_goals simp_all

theorem head_of_mem_filterParameters {p : Parameter N} (hp : p ∈ c.filterParameters numeral) :
    p.name.toList.head? = some 'f' :=
  name_head_of_mem_numbered 'f' "" hp

theorem head_of_mem_metricParameters {p : Parameter N} (hp : p ∈ c.metricParameters numeral) :
    p.name.toList.head? = some 'm' :=
  name_head_of_mem_numbered 'm' "f" hp

/-- **A name stands for one parameter.** -/
theorem parameters_inj {p q : Parameter N} (hp : p ∈ c.parameters numeral)
    (hq : q ∈ c.parameters numeral) (h : p.name = q.name) : p = q := by
  have hhead : p.name.toList.head? = q.name.toList.head? := by rw [h]
  simp only [parameters, List.mem_append] at hp hq
  rcases hp with hp | hp | hp
  · rcases hq with hq | hq | hq
    · exact dateParameters_inj hp hq h
    · rw [head_of_mem_dateParameters hp, head_of_mem_filterParameters hq] at hhead
      exact absurd hhead (by decide)
    · rw [head_of_mem_dateParameters hp, head_of_mem_metricParameters hq] at hhead
      exact absurd hhead (by decide)
  · rcases hq with hq | hq | hq
    · rw [head_of_mem_filterParameters hp, head_of_mem_dateParameters hq] at hhead
      exact absurd hhead (by decide)
    · refine numbered_inj (fun args hargs => ?_) hp hq h
      obtain ⟨f, -, rfl⟩ := List.mem_map.mp hargs
      exact suffixed_argumentsOf numeral _ _
    · rw [head_of_mem_filterParameters hp, head_of_mem_metricParameters hq] at hhead
      exact absurd hhead (by decide)
  · rcases hq with hq | hq | hq
    · rw [head_of_mem_metricParameters hp, head_of_mem_dateParameters hq] at hhead
      exact absurd hhead (by decide)
    · rw [head_of_mem_metricParameters hp, head_of_mem_filterParameters hq] at hhead
      exact absurd hhead (by decide)
    · refine numbered_inj (fun args hargs => ?_) hp hq h
      obtain ⟨f, -, rfl⟩ := List.mem_map.mp hargs
      exact suffixed_argumentsOf numeral _ _

/-- So what is read under its name is its own value. -/
theorem param?_eq {p : Parameter N} (hp : p ∈ c.parameters numeral) :
    param? (c.parameters numeral) p.name = p.value :=
  param?_of_inj (fun _ hq h => parameters_inj hq hp h) hp

theorem mentioned_subset {having : Bool} : c.mentioned numeral having ⊆ c.parameters numeral := by
  intro p hp
  simp only [mentioned, parameters, List.mem_append] at hp ⊢
  refine hp.imp_right fun h => h.imp_right fun h => ?_
  cases having with
  | true => exact h
  | false => exact absurd h List.not_mem_nil

end Clauses

/-- **A query is bound when every parameter that it mentions carries a value of its type.** -/
theorem BuiltQuery.bound_iff {numeral : N → String} {q : BuiltQuery N} : q.Bound numeral ↔
    ∀ p ∈ q.toClauses.mentioned numeral q.hasHaving, p.value.any (hasType p.type) = true := by
  refine forall₂_congr fun p hp => ?_
  rw [Clauses.param?_eq (Clauses.mentioned_subset hp), Option.any_eq_true]

end Veridian.Analytics
