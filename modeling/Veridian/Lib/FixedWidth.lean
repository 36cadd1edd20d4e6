/-
Decimal numerals of a fixed width.

`padded w n` writes `n` with `w` digits, and `number w` reads so many off the front of a
text.  What is written is read back (`number_padded`), and texts that begin with numerals of
one width are ordered by the numbers first and by what follows them second
(`padded_append_lt_iff`), which is what makes a timestamp with its fields in falling order
compare as the time it stands for.
-/
import Mathlib.Data.String.Basic
import Mathlib.Tactic.Ring

namespace Veridian.FixedWidth

/-- `String(n).padStart(w, '0')`, for a number that fits. -/
def padded : Nat → Nat → List Char
  | 0, _ => []
  | w + 1, n => Nat.digitChar (n / 10 ^ w) :: padded w (n % 10 ^ w)

/-- The number that `w` digits continue, and what follows them. -/
def numberFrom : Nat → Nat → List Char → Option (Nat × List Char)
  | acc, 0, cs => some (acc, cs)
  | _, _ + 1, [] => none
  | acc, w + 1, c :: cs =>
      if c.isDigit then numberFrom (10 * acc + (c.toNat - 48)) w cs else none

def number (w : Nat) (cs : List Char) : Option (Nat × List Char) := numberFrom 0 w cs

/-! ### One digit -/

theorem digitChar_isDigit : ∀ d < 10, (Nat.digitChar d).isDigit = true := by decide

theorem digitChar_toNat : ∀ d < 10, (Nat.digitChar d).toNat - 48 = d := by decide

theorem digitChar_lt_iff : ∀ a < 10, ∀ b < 10, Nat.digitChar a < Nat.digitChar b ↔ a < b := by
  decide

theorem digitChar_inj {a b : Nat} (ha : a < 10) (hb : b < 10) :
    Nat.digitChar a = Nat.digitChar b ↔ a = b := by
  refine ⟨fun h => ?_, congrArg _⟩
  rw [← digitChar_toNat a ha, ← digitChar_toNat b hb, h]

theorem div_lt_ten {w n : Nat} (h : n < 10 ^ (w + 1)) : n / 10 ^ w < 10 := by
  rw [Nat.div_lt_iff_lt_mul (Nat.pow_pos (by omega)), Nat.mul_comm]
  exact h

/-! ### Reading back -/

theorem numberFrom_padded : ∀ (w acc n : Nat) (rest : List Char), n < 10 ^ w →
    numberFrom acc w (padded w n ++ rest) = some (acc * 10 ^ w + n, rest) := by
  intro w
  induction w with
  | zero =>
      intro acc n rest hn
      obtain rfl : n = 0 := by omega
      simp [padded, numberFrom]
  | succ w ih =>
      intro acc n rest hn
      have hdigit := div_lt_ten hn
      rw [padded, List.cons_append, numberFrom, if_pos (digitChar_isDigit _ hdigit),
        digitChar_toNat _ hdigit, ih _ _ _ (Nat.mod_lt n (Nat.pow_pos (by omega)))]
      have hsplit : 10 ^ w * (n / 10 ^ w) + n % 10 ^ w = n := Nat.div_add_mod n (10 ^ w)
      have hvalue : (10 * acc + n / 10 ^ w) * 10 ^ w + n % 10 ^ w = acc * 10 ^ (w + 1) + n := by
        calc (10 * acc + n / 10 ^ w) * 10 ^ w + n % 10 ^ w
            = acc * 10 ^ (w + 1) + (10 ^ w * (n / 10 ^ w) + n % 10 ^ w) := by ring
          _ = acc * 10 ^ (w + 1) + n := by rw [hsplit]
      rw [hvalue]

/-- **What is written is read back.** -/
theorem number_padded {w n : Nat} (h : n < 10 ^ w) (rest : List Char) :
    number w (padded w n ++ rest) = some (n, rest) := by
  rw [number, numberFrom_padded w 0 n rest h, Nat.zero_mul, Nat.zero_add]

/-! ### The order of texts -/

/-- Numbers are ordered by their quotients first and their remainders second. -/
theorem lt_iff_div_mod (m n p : Nat) :
    m < n ↔ m / p < n / p ∨ m / p = n / p ∧ m % p < n % p := by
  have hm := Nat.div_add_mod m p
  have hn := Nat.div_add_mod n p
  constructor
  · intro h
    rcases Nat.lt_or_eq_of_le (Nat.div_le_div_right (c := p) (Nat.le_of_lt h)) with hlt | heq
    · exact Or.inl hlt
    · rw [heq] at hm
      exact Or.inr ⟨heq, by omega⟩
  · rintro (hlt | ⟨heq, hlt⟩)
    · exact Nat.lt_of_div_lt_div hlt
    · rw [heq] at hm
      omega

/-- **Texts that begin with numerals of one width.** -/
theorem padded_append_lt_iff : ∀ {w m n : Nat} {r s : List Char}, m < 10 ^ w → n < 10 ^ w →
    (padded w m ++ r < padded w n ++ s ↔ m < n ∨ m = n ∧ r < s) := by
  intro w
  induction w with
  | zero =>
      intro m n r s hm hn
      obtain rfl : m = 0 := by omega
      obtain rfl : n = 0 := by omega
      simp [padded]
  | succ w ih =>
      intro m n r s hm hn
      have hpos : 0 < 10 ^ w := Nat.pow_pos (by omega)
      have hm' := div_lt_ten hm
      have hn' := div_lt_ten hn
      have heq : m = n ↔ m / 10 ^ w = n / 10 ^ w ∧ m % 10 ^ w = n % 10 ^ w := by
        refine ⟨fun h => h ▸ ⟨rfl, rfl⟩, fun ⟨hdiv, hmod⟩ => ?_⟩
        rw [← Nat.div_add_mod m (10 ^ w), ← Nat.div_add_mod n (10 ^ w), hdiv, hmod]
      rw [padded, padded, List.cons_append, List.cons_append, List.cons_lt_cons_iff,
        digitChar_lt_iff _ hm' _ hn', digitChar_inj hm' hn',
        ih (Nat.mod_lt m hpos) (Nat.mod_lt n hpos), lt_iff_div_mod m n (10 ^ w), heq,
        and_or_left, or_assoc, and_assoc]

end Veridian.FixedWidth
