/-
The filter of a Person lookup.

`TwentyClient` writes the identity between double quotes and puts a backslash in front of
the quotes it has.  The backslashes it has stay as they are, and a filter is read with
backslash escapes, so an identity with a backslash does not come back: it may end the
literal early, or keep it from ending.
-/
import Veridian.Lib.Quoted
import Veridian.Webhooks.TwentyEventMapper

namespace Veridian.TwentyClient

open TwentyEventMapper

/-! ### What the client writes -/

/-- `value.replace(/"/g, '\\"')` -/
def escapeFilter (value : String) : String :=
  String.ofList (Quoted.escapeQuotes '"' '\\' value.toList)

/-- `<field>[eq]:"<value>"` -/
def eqFilter (field value : String) : String :=
  field ++ "[eq]:\"" ++ escapeFilter value ++ "\""

/-- A character of the name of a field. -/
def isFieldChar (c : Char) : Bool := c.isAlphanum || c == '_' || c == '.'

/-- `field.replace(/[^a-zA-Z0-9_.]/g, '')` -/
def safeField (field : String) : String := String.ofList (field.toList.filter isFieldChar)

/-- The field a Person is looked up by; `none` when nothing is left of its name. -/
def lookupField (identity : String) (kind : Option IdentityKind) (field : Option String) :
    Option String :=
  match kind, field.filter (· ≠ "") with
  | some .field, some field => if safeField field = "" then none else some (safeField field)
  | some .email, _ => some "emails.primaryEmail"
  | some .slug, _ => some "auditSlug"
  | _, _ => some (if Text.includes identity "@" then "emails.primaryEmail" else "auditSlug")

/-- The filter `resolvePerson` asks with. -/
def resolvePerson (identity : String) (kind : Option IdentityKind) (field : Option String) :
    Option String :=
  (lookupField identity kind field).map fun name => eqFilter name identity

/-! ### What a filter says -/

structure Comparison where
  field : String
  operator : String
  literal : String
  deriving DecidableEq, Repr

/-- One comparison, `field[operator]:"literal"`, and nothing behind it. -/
def readComparison (filter : String) : Option Comparison :=
  match filter.toList.dropWhile isFieldChar with
  | '[' :: rest =>
      match rest.dropWhile Char.isAlpha with
      | ']' :: ':' :: '"' :: quoted =>
          match Quoted.read '"' '\\' quoted with
          | some (literal, []) =>
              some ⟨String.ofList (filter.toList.takeWhile isFieldChar),
                String.ofList (rest.takeWhile Char.isAlpha), String.ofList literal⟩
          | _ => none
      | _ => none
  | _ => none

theorem readComparison_eqFilter {field : String} (hfield : ∀ c ∈ field.toList, isFieldChar c = true)
    (value : String) :
    readComparison (eqFilter field value) =
      match Quoted.read '"' '\\' (Quoted.escapeQuotes '"' '\\' value.toList ++ ['"']) with
      | some (literal, []) => some ⟨field, "eq", String.ofList literal⟩
      | _ => none := by
  have hlist : (eqFilter field value).toList = field.toList ++ '[' :: 'e' :: 'q' :: ']' :: ':' ::
      '"' :: (Quoted.escapeQuotes '"' '\\' value.toList ++ ['"']) := by
    simp [eqFilter, escapeFilter]
  have hbracket : isFieldChar '[' = false := by decide
  unfold readComparison
  rw [hlist, List.dropWhile_append_of_pos hfield, List.takeWhile_append_of_pos hfield,
    List.dropWhile_cons_of_neg (by simp [hbracket]), List.takeWhile_cons_of_neg (by simp [hbracket]),
    List.append_nil]
  simp only [String.ofList_toList]
  rfl

theorem lookupField_isFieldChar {identity name : String} {kind : Option IdentityKind}
    {field : Option String} (h : lookupField identity kind field = some name) :
    ∀ c ∈ name.toList, isFieldChar c = true := by
  have hemail : ∀ c ∈ "emails.primaryEmail".toList, isFieldChar c = true :=
    List.all_eq_true.mp (by decide +kernel)
  have hslug : ∀ c ∈ "auditSlug".toList, isFieldChar c = true :=
    List.all_eq_true.mp (by decide +kernel)
  unfold lookupField at h
  split at h
  · split at h
    · exact absurd h (by simp)
    · obtain rfl := Option.some.inj h
      intro c hc
      rw [safeField, String.toList_ofList] at hc
      exact (List.mem_filter.mp hc).2
  · obtain rfl := Option.some.inj h
    exact hemail
  · obtain rfl := Option.some.inj h
    exact hslug
  · obtain rfl := Option.some.inj h
    split
    · exact hemail
    · exact hslug

/-- The literal is the value, exactly when the value has no backslash. -/
theorem readComparison_eqFilter_iff {field : String}
    (hfield : ∀ c ∈ field.toList, isFieldChar c = true) (value : String) :
    readComparison (eqFilter field value) = some ⟨field, "eq", value⟩ ↔
      '\\' ∉ value.toList := by
  have hquote : '\\' ≠ '"' := by decide
  rw [readComparison_eqFilter hfield, ← Quoted.read_escapeQuotes_iff hquote]
  constructor
  · intro h
    split at h
    · rename_i literal hread
      have hliteral := congrArg Comparison.literal (Option.some.inj h)
      rw [hread, ← show String.ofList literal = value from hliteral, String.toList_ofList]
    · exact absurd h (by simp)
  · intro h
    rw [h]
    exact congrArg (fun v => some (Comparison.mk field "eq" v)) String.ofList_toList

/-- **A Person lookup is one comparison with the identity exactly when the identity has no
backslash.** -/
theorem lookup_is_comparison_iff (identity : String) (kind : Option IdentityKind)
    (field : Option String) {filter : String}
    (h : resolvePerson identity kind field = some filter) :
    (∃ name, lookupField identity kind field = some name ∧
      readComparison filter = some ⟨name, "eq", identity⟩) ↔ '\\' ∉ identity.toList := by
  obtain ⟨name, hname, rfl⟩ := Option.map_eq_some_iff.mp h
  have hread := readComparison_eqFilter_iff (lookupField_isFieldChar hname) identity
  constructor
  · rintro ⟨name', hname', hcomparison⟩
    obtain rfl : name = name' := Option.some.inj (hname.symm.trans hname')
    exact hread.mp hcomparison
  · exact fun hback => ⟨name, hname, hread.mpr hback⟩

namespace LookupExample

/-- The identity ends the literal and goes on with a comparison of its own. -/
def widening : String := "x\\\",doNotContact[eq]:\"false"

theorem lookup_widened :
    resolvePerson widening (some .slug) none = some (eqFilter "auditSlug" widening) ∧
      readComparison (eqFilter "auditSlug" widening) = none ∧
      Quoted.read '"' '\\' (Quoted.escapeQuotes '"' '\\' widening.toList ++ ['"']) =
        some ("x\\".toList, ",doNotContact[eq]:\\\"false\"".toList) := by
  have hfilter : resolvePerson widening (some .slug) none =
      some (eqFilter "auditSlug" widening) := rfl
  have hread : Quoted.read '"' '\\' (Quoted.escapeQuotes '"' '\\' widening.toList ++ ['"']) =
      some ("x\\".toList, ",doNotContact[eq]:\\\"false\"".toList) := by decide +kernel
  have hname : ∀ c ∈ "auditSlug".toList, isFieldChar c = true :=
    List.all_eq_true.mp (by decide +kernel)
  refine ⟨hfilter, ?_, hread⟩
  rw [readComparison_eqFilter hname]
  decide +kernel

theorem lookup_quoted : ∃ name, lookupField "o\"neil" (some .slug) none = some name ∧
    readComparison (eqFilter "auditSlug" "o\"neil") = some ⟨name, "eq", "o\"neil"⟩ := by
  have hfilter : resolvePerson "o\"neil" (some .slug) none =
      some (eqFilter "auditSlug" "o\"neil") := rfl
  exact (lookup_is_comparison_iff "o\"neil" (some .slug) none hfilter).mpr (by decide +kernel)

end LookupExample

end Veridian.TwentyClient
