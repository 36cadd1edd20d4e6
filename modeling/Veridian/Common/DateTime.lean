/-
ClickHouse timestamps as the services write, read and compare them.

A timestamp is the ISO text of a `Date` with a blank for the `T` and without the `Z`, and two
of them are compared as strings.  For a year of four digits every field has its width, so the
strings are in the order of the times (`toClickHouseDateTime_lt_iff`) and are read back
(`parse_toClickHouseDateTime`).  Any other year is written with a sign and six digits, and a
sign stands before every digit.
-/
import Veridian.Lib.Calendar
import Veridian.Lib.FixedWidth

namespace Veridian

open FixedWidth

/-- The year of an ISO text. -/
def yearText (year : Int) : List Char :=
  if 0 ≤ year ∧ year ≤ 9999 then padded 4 year.toNat
  else (if year < 0 then '-' else '+') :: padded 6 year.natAbs

/-- `date.toISOString().replace('T', ' ').slice(0, -1)`, for the `Date` of `ms`. -/
def toClickHouseDateTime (ms : Int) : String :=
  let date := Calendar.civil (ms / 86400000)
  let time := (ms % 86400000).toNat
  String.ofList <|
    yearText date.year ++ '-' :: (padded 2 date.month ++ '-' :: (padded 2 date.day ++
      ' ' :: (padded 2 (time / 3600000) ++ ':' :: (padded 2 (time / 60000 % 60) ++
        ':' :: (padded 2 (time / 1000 % 60) ++ '.' :: (padded 3 (time % 1000) ++ []))))))

/-- What follows the character `c`. -/
def literal (c : Char) : List Char → Option (List Char)
  | [] => none
  | d :: cs => if d = c then some cs else none

def parseYear : List Char → Option (Int × List Char)
  | [] => none
  | c :: cs =>
      if c = '+' then (number 6 cs).map fun (n, rest) => ((n : Int), rest)
      else if c = '-' then
        (number 6 cs).bind fun (n, rest) => if n = 0 then none else some (-(n : Int), rest)
      else (number 4 (c :: cs)).map fun (n, rest) => ((n : Int), rest)

/-- `new Date(datetime.replace(' ', 'T') + 'Z')` for a text of this form; `none` is an invalid
date. -/
def parseClickHouseDateTime (datetime : String) : Option Int :=
  (parseYear datetime.toList).bind fun (year, cs) =>
  (literal '-' cs).bind fun cs => (number 2 cs).bind fun (month, cs) =>
  (literal '-' cs).bind fun cs => (number 2 cs).bind fun (day, cs) =>
  (literal ' ' cs).bind fun cs => (number 2 cs).bind fun (hour, cs) =>
  (literal ':' cs).bind fun cs => (number 2 cs).bind fun (minute, cs) =>
  (literal ':' cs).bind fun cs => (number 2 cs).bind fun (second, cs) =>
  (literal '.' cs).bind fun cs => (number 3 cs).bind fun (milli, cs) =>
    if cs = [] ∧ 1 ≤ month ∧ month ≤ 12 ∧ 1 ≤ day ∧ day ≤ 31 ∧ minute ≤ 59 ∧ second ≤ 59 ∧
        (hour ≤ 23 ∨ hour = 24 ∧ minute = 0 ∧ second = 0 ∧ milli = 0) then
      some (86400000 * Calendar.ofCivil ⟨year, month, day⟩ +
        (3600000 * hour + 60000 * minute + 1000 * second + milli : Nat))
    else none

/-- The last time a `Date` can have. -/
def MAX_TIME : Int := 8640000000000000

/-- `bumpMillis`; `toISOString` throws for a `Date` that is invalid. -/
def bumpMillis (datetime : String) : Option String :=
  (parseClickHouseDateTime datetime).bind fun ms =>
    if ms + 1 ≤ MAX_TIME then some (toClickHouseDateTime (ms + 1)) else none

/-! ### Years of four digits -/

/-- The first and the last instant of a year of four digits. -/
def FIRST_INSTANT : Int := -62167219200000

def LAST_INSTANT : Int := 253402300799999

def FourDigits (ms : Int) : Prop := FIRST_INSTANT ≤ ms ∧ ms ≤ LAST_INSTANT

instance (ms : Int) : Decidable (FourDigits ms) := inferInstanceAs (Decidable (_ ∧ _))

theorem FourDigits.year {ms : Int} (h : FourDigits ms) :
    0 ≤ (Calendar.civil (ms / 86400000)).year ∧ (Calendar.civil (ms / 86400000)).year ≤ 9999 := by
  obtain ⟨h0, h1⟩ := h
  unfold FIRST_INSTANT at h0
  unfold LAST_INSTANT at h1
  exact Calendar.civil_year_bounds (by omega) (by omega)

theorem FourDigits.of_year {ms : Int} (h : 0 ≤ (Calendar.civil (ms / 86400000)).year ∧
    (Calendar.civil (ms / 86400000)).year ≤ 9999) : FourDigits ms := by
  have hfirst : (Calendar.civil (-719528)).year = 0 ∧ (Calendar.civil (-719528)).month = 1 ∧
      (Calendar.civil (-719528)).day = 1 := by decide
  have hlast : (Calendar.civil 2932896).year = 9999 ∧ (Calendar.civil 2932896).month = 12 ∧
      (Calendar.civil 2932896).day = 31 := by decide
  have hmonth := (Calendar.civil_bounds (ms / 86400000)).1
  have hday := (Calendar.civil_bounds (ms / 86400000)).2
  have hnot_before : ¬ms / 86400000 < -719528 := by
    intro hlt
    have hbefore := Calendar.civil_before hlt
    unfold Calendar.Civil.Before at hbefore
    omega
  have hnot_after : ¬2932896 < ms / 86400000 := by
    intro hlt
    have hbefore := Calendar.civil_before hlt
    unfold Calendar.Civil.Before at hbefore
    omega
  unfold FourDigits FIRST_INSTANT LAST_INSTANT
  omega

/-- A later time is later in one of its fields, and as late in the ones before. -/
theorem fields_before {a b : Int} (h : a < b) :
    (Calendar.civil (a / 86400000)).Before (Calendar.civil (b / 86400000)) ∨
      a / 86400000 = b / 86400000 ∧ (a % 86400000).toNat < (b % 86400000).toNat := by
  rcases Int.lt_or_eq_of_le (Int.ediv_le_ediv (by omega : (0 : Int) < 86400000) (Int.le_of_lt h))
    with hlt | heq
  · exact Or.inl (Calendar.civil_before hlt)
  · exact Or.inr ⟨heq, by omega⟩

/-- **Timestamps of years of four digits are in the order of their times.** -/
theorem toClickHouseDateTime_lt {a b : Int} (ha : FourDigits a) (hb : FourDigits b) (h : a < b) :
    toClickHouseDateTime a < toClickHouseDateTime b := by
  have hya := ha.year
  have hyb := hb.year
  obtain ⟨hma, hda⟩ := Calendar.civil_bounds (a / 86400000)
  obtain ⟨hmb, hdb⟩ := Calendar.civil_bounds (b / 86400000)
  have hta : (a % 86400000).toNat < 86400000 := by omega
  have htb : (b % 86400000).toNat < 86400000 := by omega
  unfold toClickHouseDateTime
  dsimp only
  rw [String.lt_iff_toList_lt, String.toList_ofList, String.toList_ofList, yearText, yearText,
    if_pos hya, if_pos hyb]
  rw [padded_append_lt_iff (by omega) (by omega), List.cons_lt_cons_self,
    padded_append_lt_iff (by omega) (by omega), List.cons_lt_cons_self,
    padded_append_lt_iff (by omega) (by omega), List.cons_lt_cons_self,
    padded_append_lt_iff (by omega) (by omega), List.cons_lt_cons_self,
    padded_append_lt_iff (by omega) (by omega), List.cons_lt_cons_self,
    padded_append_lt_iff (by omega) (by omega), List.cons_lt_cons_self,
    padded_append_lt_iff (by omega) (by omega)]
  rcases fields_before h with hdate | ⟨hdate, htime⟩
  · unfold Calendar.Civil.Before at hdate
    omega
  · rw [hdate]
    omega

theorem toClickHouseDateTime_lt_iff {a b : Int} (ha : FourDigits a) (hb : FourDigits b) :
    toClickHouseDateTime a < toClickHouseDateTime b ↔ a < b := by
  refine ⟨fun h => ?_, toClickHouseDateTime_lt ha hb⟩
  rcases lt_trichotomy a b with hlt | rfl | hgt
  · exact hlt
  · exact absurd h (lt_irrefl _)
  · exact absurd h (lt_asymm (toClickHouseDateTime_lt hb ha hgt))

/-- The sign of any other year stands before every digit. -/
theorem toClickHouseDateTime_lt_of_signed {a b : Int} (ha : ¬FourDigits a) (hb : FourDigits b) :
    toClickHouseDateTime a < toClickHouseDateTime b := by
  have hya : ¬(0 ≤ (Calendar.civil (a / 86400000)).year ∧
      (Calendar.civil (a / 86400000)).year ≤ 9999) := fun h => ha (FourDigits.of_year h)
  have hyb := hb.year
  have hdigit : ∀ d < 10, ('-' : Char) < Nat.digitChar d ∧ ('+' : Char) < Nat.digitChar d := by
    decide
  obtain ⟨hminus, hplus⟩ :=
    hdigit ((Calendar.civil (b / 86400000)).year.toNat / 10 ^ 3) (by omega)
  have hyear (n : Nat) : padded 4 n = Nat.digitChar (n / 10 ^ 3) :: padded 3 (n % 10 ^ 3) := rfl
  unfold toClickHouseDateTime
  dsimp only
  rw [String.lt_iff_toList_lt, String.toList_ofList, String.toList_ofList, yearText, yearText,
    if_neg hya, if_pos hyb, hyear, List.cons_append, List.cons_append, List.cons_lt_cons_iff]
  left
  split
  · exact hminus
  · exact hplus

theorem parseYear_padded {n : Nat} (h : n < 10 ^ 4) (rest : List Char) :
    parseYear (padded 4 n ++ rest) = some ((n : Int), rest) := by
  have hdigit : ∀ d < 10, Nat.digitChar d ≠ '+' ∧ Nat.digitChar d ≠ '-' := by decide
  obtain ⟨hplus, hminus⟩ := hdigit (n / 10 ^ 3) (div_lt_ten h)
  have hnumber := number_padded h rest
  rw [padded, List.cons_append] at hnumber ⊢
  rw [parseYear, if_neg hplus, if_neg hminus, hnumber]
  rfl

theorem literal_cons (c : Char) (cs : List Char) : literal c (c :: cs) = some cs :=
  if_pos rfl

/-- **A timestamp is read back.** -/
theorem parse_toClickHouseDateTime {ms : Int} (h : FourDigits ms) :
    parseClickHouseDateTime (toClickHouseDateTime ms) = some ms := by
  have hy := h.year
  obtain ⟨hm, hd⟩ := Calendar.civil_bounds (ms / 86400000)
  have ht : (ms % 86400000).toNat < 86400000 := by omega
  unfold parseClickHouseDateTime toClickHouseDateTime
  dsimp only
  rw [String.toList_ofList, yearText, if_pos hy, parseYear_padded (by omega), Option.bind_some,
    literal_cons, Option.bind_some, number_padded (by omega), Option.bind_some,
    literal_cons, Option.bind_some, number_padded (by omega), Option.bind_some,
    literal_cons, Option.bind_some, number_padded (by omega), Option.bind_some,
    literal_cons, Option.bind_some, number_padded (by omega), Option.bind_some,
    literal_cons, Option.bind_some, number_padded (by omega), Option.bind_some,
    literal_cons, Option.bind_some, number_padded (by omega), Option.bind_some]
  rw [if_pos ⟨rfl, hm.1, hm.2, hd.1, hd.2, by omega, by omega, by omega⟩]
  have hdate : (⟨((Calendar.civil (ms / 86400000)).year.toNat : Int),
      (Calendar.civil (ms / 86400000)).month, (Calendar.civil (ms / 86400000)).day⟩ :
        Calendar.Civil) = Calendar.civil (ms / 86400000) := by
    rw [Int.toNat_of_nonneg hy.1]
  rw [hdate, Calendar.ofCivil_civil]
  congr 1
  omega

theorem bumpMillis_toClickHouseDateTime {ms : Int} (h : FourDigits ms) :
    bumpMillis (toClickHouseDateTime ms) = some (toClickHouseDateTime (ms + 1)) := by
  have hmax : ms + 1 ≤ MAX_TIME := by
    have hlast := h.2
    unfold LAST_INSTANT at hlast
    unfold MAX_TIME
    omega
  rw [bumpMillis, parse_toClickHouseDateTime h, Option.bind_some, if_pos hmax]

end Veridian
