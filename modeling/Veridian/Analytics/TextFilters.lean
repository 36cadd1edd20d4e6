/-
What the text filters of a request find.

`contains` and `notContains` are written as LIKE and NOT LIKE, with the first value between
two `%` as the parameter.  The value is not escaped, and the other values are not used.  So a
filter means its values literally when the first one has nothing special, and whatever has
one of the others has the first one too.
-/
import Veridian.Analytics.Parameters
import Veridian.Lib.Like

namespace Veridian.Analytics

variable {N : Type} (numeral : N → String)

/-! ### The condition -/

/-- `params` of `buildFilters`. -/
def filterParams (paramPrefix : String) (conditions : List (Condition N)) : List (Parameter N) :=
  numbered paramPrefix (conditions.map fun c => argumentsOf numeral c.values c.operator)

/-- `col LIKE {name:String}` on a cell; NULL is `none`, and so is what is no text. -/
def likeParam (parameters : List (Parameter N)) (name : String) (cell : Cell) : Option Bool :=
  match cell, param? parameters name with
  | .text s, some (.str pattern) => some (Like.like s pattern)
  | _, _ => none

/-- The rows that the condition at the position selects, by their cell. -/
def selectsText (paramPrefix : String) (conditions : List (Condition N)) (i : Nat)
    (operator : FilterOperator) (cell : Cell) : Prop :=
  likeParam (filterParams numeral paramPrefix conditions) (paramName paramPrefix i) cell =
    some (decide (operator = .contains))

/-! ### What it should select -/

/-- The text has one of the values. -/
def HasOne (values : Option (List (Json N))) (s : String) : Prop :=
  ∃ v ∈ values.getD [], (stringOf numeral v).toList <:+: s.toList

/-- The filter selects the texts that have one of its values, or those that have none. -/
def ReadsLiterally (paramPrefix : String) (conditions : List (Condition N)) (i : Nat)
    (f : FilterDto N) : Prop :=
  ∀ cell, selectsText numeral paramPrefix conditions i f.operator cell ↔
    ∃ s, cell = Cell.text s ∧ (HasOne numeral f.values s ↔ f.operator = .contains)

variable {numeral}

/-- The condition of a filter has its operator and its values. -/
theorem condition_of_buildFilters {filters : List (FilterDto N)} {table : AnalyticsTable}
    {conditions : List (Condition N)} (h : buildFilters filters table = .ok conditions)
    {i : Nat} {f : FilterDto N} (hf : filters[i]? = some f) :
    ∃ c, conditions[i]? = some c ∧ c.operator = f.operator ∧ c.values = f.values := by
  have hall := Checked.mapM_eq_ok_iff.mp h
  clear h
  induction hall generalizing i with
  | nil => exact nomatch hf
  | cons hc _ ih =>
      cases i with
      | zero =>
          obtain rfl := Option.some.inj hf
          obtain ⟨column, -, hcondition⟩ := Checked.bind_eq_ok_iff.mp hc
          obtain rfl := Except.ok.inj hcondition
          exact ⟨_, rfl, rfl, rfl⟩
      | succ i => exact ih hf

/-- The text that goes between the two `%`. -/
def patternText (numeral : N → String) (values : Option (List (Json N))) : String :=
  ((values.bind (·[0]?)).map (stringOf numeral)).getD "undefined"

theorem param?_text {paramPrefix : String} {conditions : List (Condition N)} {i : Nat}
    {c : Condition N} (hc : conditions[i]? = some c)
    (hop : c.operator = .contains ∨ c.operator = .notContains) :
    param? (filterParams numeral paramPrefix conditions) (paramName paramPrefix i) =
      some (.str ("%" ++ patternText numeral c.values ++ "%")) := by
  have harguments : argumentsOf numeral c.values c.operator =
      [⟨"", .string, some (.str ("%" ++ patternText numeral c.values ++ "%"))⟩] := by
    rcases hop with hop | hop <;> rw [hop] <;> rfl
  have hmem : (⟨"", .string, some (.str ("%" ++ patternText numeral c.values ++ "%"))⟩ :
      Argument N).parameter paramPrefix i ∈ filterParams numeral paramPrefix conditions := by
    refine mem_numbered.mpr ⟨i, _, ?_, _, List.mem_singleton_self _, rfl⟩
    rw [List.getElem?_map, hc, Option.map_some, harguments]
  have hvalue := param?_of_inj (fun q hq hname => numbered_inj (fun arguments harg => by
    obtain ⟨f, -, rfl⟩ := List.mem_map.mp harg
    exact suffixed_argumentsOf numeral _ _) hq hmem hname) hmem
  simpa [Argument.parameter, filterParams] using hvalue

theorem selectsText_text_iff {filters : List (FilterDto N)} {table : AnalyticsTable}
    {conditions : List (Condition N)} (h : buildFilters filters table = .ok conditions)
    {i : Nat} {f : FilterDto N} (hf : filters[i]? = some f)
    (hop : f.operator = .contains ∨ f.operator = .notContains) (paramPrefix s : String) :
    selectsText numeral paramPrefix conditions i f.operator (.text s) ↔
      (Like.accepts (Like.parse
        ('%' :: ((patternText numeral f.values).toList ++ ['%']))) s.toList = true ↔
          f.operator = .contains) := by
  obtain ⟨c, hc, hoperator, hvalues⟩ := condition_of_buildFilters h hf
  have hparam : param? (filterParams numeral paramPrefix conditions) (paramName paramPrefix i) =
      some (.str ("%" ++ patternText numeral c.values ++ "%")) :=
    param?_text hc (by rwa [hoperator])
  rw [hvalues] at hparam
  have hlike : likeParam (filterParams numeral paramPrefix conditions)
      (paramName paramPrefix i) (.text s) =
        some (Like.accepts (Like.parse
          ('%' :: ((patternText numeral f.values).toList ++ ['%']))) s.toList) := by
    simp [likeParam, hparam, Like.like, String.toList_append]
  unfold selectsText
  rw [hlike, Option.some.injEq, Bool.eq_iff_iff, decide_eq_true_iff]

/-- A filter reads literally when its pattern matches what has one of its values. -/
theorem readsLiterally_iff {filters : List (FilterDto N)} {table : AnalyticsTable}
    {conditions : List (Condition N)} (h : buildFilters filters table = .ok conditions)
    {i : Nat} {f : FilterDto N} (hf : filters[i]? = some f)
    (hop : f.operator = .contains ∨ f.operator = .notContains) (paramPrefix : String) :
    ReadsLiterally numeral paramPrefix conditions i f ↔
      ∀ s : String, Like.accepts (Like.parse
        ('%' :: ((patternText numeral f.values).toList ++ ['%']))) s.toList = true ↔
          HasOne numeral f.values s := by
  have hselects : ∀ s : String, selectsText numeral paramPrefix conditions i f.operator (.text s) ↔
      (Like.accepts (Like.parse
        ('%' :: ((patternText numeral f.values).toList ++ ['%']))) s.toList = true ↔
          f.operator = .contains) :=
    selectsText_text_iff h hf hop paramPrefix
  have hother : ∀ cell, (∀ s, cell ≠ Cell.text s) →
      ¬ selectsText numeral paramPrefix conditions i f.operator cell := by
    intro cell hcell hselect
    cases cell with
    | text s => exact hcell s rfl
    | number x => exact nomatch hselect
    | boolean b => exact nomatch hselect
    | null => exact nomatch hselect
  constructor
  · intro hreads s
    have hcell := hreads (.text s)
    rw [hselects s] at hcell
    have hright : (∃ s', Cell.text s = .text s' ∧
        (HasOne numeral f.values s' ↔ f.operator = .contains)) ↔
          (HasOne numeral f.values s ↔ f.operator = .contains) :=
      ⟨fun ⟨s', heq, hs⟩ => by rwa [Cell.text.inj heq], fun hs => ⟨s, rfl, hs⟩⟩
    rw [hright] at hcell
    rcases hop with hop | hop
    · simpa [hop] using hcell
    · rw [← not_iff_not]
      simpa [hop] using hcell
  · intro hpattern cell
    constructor
    · intro hselect
      by_cases htext : ∃ s, cell = Cell.text s
      · obtain ⟨s, rfl⟩ := htext
        refine ⟨s, rfl, ?_⟩
        rw [← hpattern s]
        exact (hselects s).mp hselect
      · exact absurd hselect (hother cell fun s heq => htext ⟨s, heq⟩)
    · rintro ⟨s, rfl, hs⟩
      rw [hselects s, hpattern s]
      exact hs

theorem patternText_cons (v : Json N) (rest : List (Json N)) :
    patternText numeral (some (v :: rest)) = stringOf numeral v := rfl

/-- Texts that have themselves, and nothing that has less. -/
theorem hasOne_self {values : Option (List (Json N))} {v : Json N} (hv : v ∈ values.getD []) :
    HasOne numeral values (stringOf numeral v) := ⟨v, hv, List.infix_rfl⟩

/-- **When a text filter is literal.**

With a first value that has nothing special, exactly when every other value has it; with one
value, exactly when that has nothing special; and never without a value. -/
theorem text_filter_literal_iff {filters : List (FilterDto N)} {table : AnalyticsTable}
    {conditions : List (Condition N)} (h : buildFilters filters table = .ok conditions)
    {i : Nat} {f : FilterDto N} (hf : filters[i]? = some f)
    (hop : f.operator = .contains ∨ f.operator = .notContains) (paramPrefix : String) :
    (∀ v rest, f.values = some (v :: rest) →
      Like.literal (stringOf numeral v).toList = true →
      (ReadsLiterally numeral paramPrefix conditions i f ↔
        ∀ w ∈ rest, (stringOf numeral v).toList <:+: (stringOf numeral w).toList)) ∧
      (∀ v, f.values = some [v] →
        (ReadsLiterally numeral paramPrefix conditions i f ↔
          Like.literal (stringOf numeral v).toList = true)) ∧
      (f.values.getD [] = [] → ¬ ReadsLiterally numeral paramPrefix conditions i f) := by
  rw [readsLiterally_iff h hf hop paramPrefix]
  refine ⟨fun v rest hvalues hliteral => ?_, fun v hvalues => ?_, fun hvalues hreads => ?_⟩
  · rw [hvalues, patternText_cons]
    simp only [Like.accepts_around_of_literal hliteral]
    constructor
    · intro hreads w hw
      exact (hreads _).mpr (hasOne_self (List.mem_cons_of_mem _ hw))
    · intro hrest s
      refine ⟨fun hv => ⟨v, List.mem_cons_self, hv⟩, ?_⟩
      rintro ⟨w, hw, hinfix⟩
      rcases List.mem_cons.mp hw with rfl | hw
      · exact hinfix
      · exact (hrest w hw).trans hinfix
  · rw [hvalues, patternText_cons, ← Like.accepts_around_iff]
    have hone : ∀ s : String, HasOne numeral (some [v]) s ↔
        (stringOf numeral v).toList <:+: s.toList := by
      intro s
      simp [HasOne]
    simp only [hone]
    exact ⟨fun hs s => by simpa using hs (String.ofList s), fun hs s => hs s.toList⟩
  · have htext : patternText numeral f.values = "undefined" := by
      unfold patternText
      cases hv : f.values with
      | none => rfl
      | some values =>
          rw [hv] at hvalues
          obtain rfl : values = [] := hvalues
          rfl
    have hliteral : Like.literal "undefined".toList = true := by simp [Like.literal, Like.special]
    rw [htext] at hreads
    obtain ⟨v, hv, -⟩ := (hreads "undefined").mp
      ((Like.accepts_around_of_literal hliteral).mpr List.infix_rfl)
    rw [hvalues] at hv
    exact List.not_mem_nil hv

namespace TextFilterExample

def campaign (operator : FilterOperator) (values : List String) : FilterDto Nat where
  dimension := "utm_campaign"
  operator := operator
  values := some (values.map .str)

theorem conditions_ok (operator : FilterOperator) (values : List String) :
    ∃ conditions, buildFilters [campaign operator values] .sessions = .ok conditions :=
  ⟨_, rfl⟩

end TextFilterExample

open TextFilterExample in
theorem summer_literal : ∃ conditions,
    buildFilters [campaign .notContains ["summer"]] .sessions = .ok conditions ∧
      ReadsLiterally toString "f" conditions 0 (campaign .notContains ["summer"]) := by
  obtain ⟨conditions, h⟩ := conditions_ok .notContains ["summer"]
  have hliteral : Like.literal "summer".toList = true := by simp [Like.literal, Like.special]
  have hf : [campaign .notContains ["summer"]][0]? = some (campaign .notContains ["summer"]) := rfl
  exact ⟨conditions, h, ((text_filter_literal_iff h hf (Or.inr rfl) "f").2.1 (.str "summer")
    rfl).mpr hliteral⟩

open TextFilterExample in
/-- A percent sign finds every campaign, and the second of two values is not looked for. -/
theorem percent_not_literal :
    (∃ conditions, buildFilters [campaign .contains ["%"]] .sessions = .ok conditions ∧
      selectsText toString "f" conditions 0 .contains (.text "spring") ∧
      ¬ HasOne toString (campaign .contains ["%"]).values "spring") ∧
    ∃ conditions, buildFilters [campaign .notContains ["a", "b"]] .sessions = .ok conditions ∧
      selectsText toString "f" conditions 0 .notContains (.text "b") ∧
      HasOne toString (campaign .notContains ["a", "b"]).values "b" := by
  constructor
  · obtain ⟨conditions, h⟩ := conditions_ok .contains ["%"]
    have hf : [campaign .contains ["%"]][0]? = some (campaign .contains ["%"]) := rfl
    refine ⟨conditions, h, (selectsText_text_iff h hf (Or.inl rfl) "f" "spring").mpr ?_, ?_⟩
    · have hparse : Like.parse ('%' :: ("%".toList ++ ['%'])) = [.any, .any, .any] := by
        simp [Like.parse]
      refine iff_of_true ?_ rfl
      show Like.accepts (Like.parse ('%' :: ("%".toList ++ ['%']))) _ = true
      rw [hparse]
      exact Like.accepts_any_iff.mpr ⟨[], List.nil_suffix, rfl⟩
    · rintro ⟨v, hv, hinfix⟩
      obtain rfl := List.mem_singleton.mp hv
      have hmem : '%' ∈ "spring".toList := hinfix.subset (List.mem_singleton_self '%')
      exact absurd hmem (by decide)
  · obtain ⟨conditions, h⟩ := conditions_ok .notContains ["a", "b"]
    have hf : [campaign .notContains ["a", "b"]][0]? =
        some (campaign .notContains ["a", "b"]) := rfl
    refine ⟨conditions, h, (selectsText_text_iff h hf (Or.inr rfl) "f" "b").mpr ?_, ?_⟩
    · refine iff_of_false ?_ (by decide)
      have hliteral : Like.literal "a".toList = true := by simp [Like.literal, Like.special]
      show ¬ Like.accepts (Like.parse ('%' :: ("a".toList ++ ['%']))) _ = true
      rw [Like.accepts_around_of_literal hliteral]
      decide
    · exact ⟨.str "b", List.mem_cons_of_mem _ List.mem_cons_self, List.infix_rfl⟩

end Veridian.Analytics
