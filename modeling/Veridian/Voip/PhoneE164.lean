/-
The numbers that `toE164` gives.

The cleaned text is read by four patterns, one after the other.  Two of them overlap on no
text, so each number has one image, which is a `+` with six to fifteen digits, and of which
the image is itself.
-/
import Veridian.Voip.VoipSync

namespace Veridian.VoipSync

/-- `/^\+\d{6,15}$/` -/
def IsE164 (e : String) : Prop :=
  ∃ digits, e.toList = '+' :: digits ∧ isDigits 6 15 digits = true

/-- The text without its separators. -/
def cleanPhone (l : List Char) : List Char := l.filter fun c => !isPhoneSeparator c

theorem toE164_congr {raw raw' : String} (h : cleanPhone raw.toList = cleanPhone raw'.toList) :
    toE164 raw = toE164 raw' := by
  unfold cleanPhone at h
  unfold toE164
  rw [h]

theorem isPhoneSeparator_of_isDigit {c : Char} (h : c.isDigit = true) :
    isPhoneSeparator c = false := by
  have hcode : 48 ≤ c.toNat ∧ c.toNat ≤ 57 := Char.isDigit_iff_toNat.mp h
  have hne : ∀ d : Char, d.toNat < 48 → c ≠ d := by
    rintro d hd rfl
    omega
  have hspace : Text.isSpace c = false := by
    simp only [Text.isSpace, Bool.or_eq_false_iff, Bool.and_eq_false_iff, decide_eq_false_iff_not]
    omega
  unfold isPhoneSeparator
  rw [hspace, decide_eq_false (hne '.' (by decide)), decide_eq_false (hne '-' (by decide)),
    decide_eq_false (hne '(' (by decide)), decide_eq_false (hne ')' (by decide))]
  rfl

theorem cleanPhone_digits {l : List Char} (h : l.all Char.isDigit = true) : cleanPhone l = l := by
  refine List.filter_eq_self.mpr fun c hc => ?_
  rw [isPhoneSeparator_of_isDigit (List.all_eq_true.mp h c hc)]
  rfl

theorem isDigits_iff {low high : Nat} {l : List Char} :
    isDigits low high l = true ↔
      l.all Char.isDigit = true ∧ low ≤ l.length ∧ l.length ≤ high := by
  unfold isDigits
  rw [Bool.and_eq_true, Bool.and_eq_true, decide_eq_true_iff, decide_eq_true_iff, and_assoc]

/-- What is read as E.164 already. -/
theorem toE164_self {e : String} (h : IsE164 e) : toE164 e = some e := by
  obtain ⟨digits, he, hdigits⟩ := h
  have hclean : cleanPhone e.toList = '+' :: digits := by
    rw [he]
    show List.filter _ _ = _
    rw [List.filter_cons_of_pos (by decide)]
    exact congrArg ('+' :: ·) (cleanPhone_digits (isDigits_iff.mp hdigits).1)
  unfold cleanPhone at hclean
  unfold toE164
  simp only [hclean, hdigits, if_true]
  rw [← he, String.ofList_toList]

/-- A national number with its prefix. -/
theorem isE164_french {l : List Char} (h : isDigits 9 9 l = true) :
    IsE164 (String.ofList ('+' :: '3' :: '3' :: l)) := by
  obtain ⟨hall, hlow, hhigh⟩ := isDigits_iff.mp h
  refine ⟨'3' :: '3' :: l, String.toList_ofList, isDigits_iff.mpr ⟨?_, ?_, ?_⟩⟩
  · simpa using hall
  · show 6 ≤ l.length + 2
    omega
  · show l.length + 2 ≤ 15
    omega

theorem isE164_of_toE164 {raw e : String} (h : toE164 raw = some e) : IsE164 e := by
  unfold toE164 at h
  dsimp only at h
  split at h
  · rename_i digits hclean
    split at h
    · rename_i hdigits
      obtain rfl := Option.some.inj h
      exact ⟨digits, by rw [hclean, String.toList_ofList], hdigits⟩
    · cases h
  · rename_i rest hclean
    split at h
    · rename_i digits
      split at h
      · rename_i hdigits
        obtain rfl := Option.some.inj h
        exact ⟨digits, String.toList_ofList, hdigits⟩
      · split at h
        · rename_i hrest
          obtain rfl := Option.some.inj h
          exact isE164_french hrest
        · cases h
    · split at h
      · rename_i hrest
        obtain rfl := Option.some.inj h
        exact isE164_french hrest
      · cases h
  · split at h
    · rename_i hclean
      obtain rfl := Option.some.inj h
      exact isE164_french hclean
    · cases h

/-- Separators anywhere in a text. -/
theorem toE164_separators {separators : List Char} (h : ∀ c ∈ separators, isPhoneSeparator c = true)
    (before behind : List Char) :
    toE164 (String.ofList (before ++ separators ++ behind)) =
      toE164 (String.ofList (before ++ behind)) := by
  refine toE164_congr ?_
  have hnone : cleanPhone separators = [] := by
    refine List.filter_eq_nil_iff.mpr fun c hc => ?_
    rw [h c hc]
    exact Bool.false_ne_true
  unfold cleanPhone at *
  rw [String.toList_ofList, String.toList_ofList, List.filter_append, List.filter_append,
    List.filter_append, hnone, List.append_nil]

/-- A French number as it is dialled in the country, without its zero, and from abroad. -/
theorem toE164_french {n : List Char} (hn : isDigits 9 9 n = true) (hzero : n.head? ≠ some '0') :
    ∀ raw ∈ ['0' :: n, n, '0' :: '0' :: '3' :: '3' :: n, '+' :: '3' :: '3' :: n],
      toE164 (String.ofList raw) = some (String.ofList ('+' :: '3' :: '3' :: n)) := by
  obtain ⟨hall, hlow, hhigh⟩ := isDigits_iff.mp hn
  obtain ⟨d, rest, rfl⟩ : ∃ d rest, n = d :: rest :=
    List.exists_cons_of_length_pos (by omega)
  have hd : d.isDigit = true := List.all_eq_true.mp hall d List.mem_cons_self
  have hdzero : d ≠ '0' := fun heq => hzero (by rw [heq]; rfl)
  have hdplus : d ≠ '+' := by
    rintro rfl
    exact absurd hd (by decide)
  have hclean : ∀ l : List Char, l.all Char.isDigit = true →
      (String.ofList l).toList.filter (fun c => !isPhoneSeparator c) = l := by
    intro l hl
    rw [String.toList_ofList]
    exact cleanPhone_digits hl
  have hlong : isDigits 6 15 ('3' :: '3' :: d :: rest) = true := by
    refine isDigits_iff.mpr ⟨by simpa using hall, ?_, ?_⟩ <;> simp only [List.length_cons] at * <;>
      omega
  intro raw hraw
  simp only [List.mem_cons, List.not_mem_nil, or_false] at hraw
  rcases hraw with rfl | rfl | rfl | rfl
  · unfold toE164
    dsimp only
    rw [hclean _ (by simpa using hall)]
    split
    · rename_i heq
      exact absurd (List.cons.inj heq).1 (by decide)
    · rename_i heq
      obtain ⟨-, rfl⟩ := List.cons.inj heq
      split
      · rename_i heq
        exact absurd (List.cons.inj heq).1 hdzero
      · rw [if_pos hn]
    · rename_i hnot
      exact absurd rfl (hnot (d :: rest))
  · unfold toE164
    dsimp only
    rw [hclean _ hall]
    split
    · rename_i heq
      exact absurd (List.cons.inj heq).1 hdplus
    · rename_i heq
      exact absurd (List.cons.inj heq).1 hdzero
    · rw [if_pos hn]
  · unfold toE164
    dsimp only
    rw [hclean _ (by simpa using hall)]
    exact if_pos hlong
  · exact toE164_self ⟨_, String.toList_ofList, hlong⟩

/-- **Numbers have one image.**

It is a `+` with six to fifteen digits and its own image; separators anywhere do not matter,
nor does it in which of the French ways a number is written. -/
theorem toE164_canonical :
    (∀ raw e, toE164 raw = some e → IsE164 e ∧ toE164 e = some e) ∧
      (∀ before separators behind : List Char,
        (∀ c ∈ separators, isPhoneSeparator c = true) →
        toE164 (String.ofList (before ++ separators ++ behind)) =
          toE164 (String.ofList (before ++ behind))) ∧
      ∀ n, isDigits 9 9 n = true → n.head? ≠ some '0' →
        ∀ raw ∈ ['0' :: n, n, '0' :: '0' :: '3' :: '3' :: n, '+' :: '3' :: '3' :: n],
          toE164 (String.ofList raw) = some (String.ofList ('+' :: '3' :: '3' :: n)) := by
  refine ⟨fun raw e h => ?_, fun before separators behind h => ?_, fun n hn hzero => ?_⟩
  · have he := isE164_of_toE164 h
    exact ⟨he, toE164_self he⟩
  · exact toE164_separators h before behind
  · exact toE164_french hn hzero

/-- As a provider trims it. -/
theorem trimmed_number_e164 :
    toE164 (String.ofList ['6', '1', '2', '3', '4', '5', '6', '7', '8']) =
      some (String.ofList ['+', '3', '3', '6', '1', '2', '3', '4', '5', '6', '7', '8']) :=
  toE164_canonical.2.2 ['6', '1', '2', '3', '4', '5', '6', '7', '8'] (by decide) (by decide) _
    (List.mem_cons_of_mem _ List.mem_cons_self)

end Veridian.VoipSync
