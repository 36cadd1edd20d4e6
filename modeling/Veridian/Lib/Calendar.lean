/-
The civil calendar, as days counted from 1970-01-01.

A day is placed in its era of 400 years, its century, its cycle of four years and its
year, all beginning in March so that a leap day comes last.  `ofCivil` counts back, and
`ofCivil_civil` says that nothing is lost: two days with the same date are the same.  And
dates are in the order of their days (`civil_before`).

`civil_valid` and `civil_ofCivil` say that the dates are those of the Gregorian months.  A
month later is the same day of the next month, or the last one it has (`addMonth`).
-/
import Mathlib.Algebra.Order.Ring.Int

namespace Veridian.Calendar

structure Civil where
  year : Int
  month : Nat
  day : Nat
deriving DecidableEq

/-! ### Years that begin in March -/

/-- A day of a 400-year era, by century, cycle, year of the cycle and day of the year. -/
structure Place where
  century : Int
  cycle : Int
  year : Int
  day : Int

def place (dayOfEra : Int) : Place :=
  let century := min (dayOfEra / 36524) 3
  let dayOfCentury := dayOfEra - 36524 * century
  let cycle := dayOfCentury / 1461
  let dayOfCycle := dayOfCentury - 1461 * cycle
  let year := min (dayOfCycle / 365) 3
  ⟨century, cycle, year, dayOfCycle - 365 * year⟩

structure Place.Valid (p : Place) : Prop where
  century : 0 ≤ p.century ∧ p.century ≤ 3
  cycle : 0 ≤ p.cycle ∧ p.cycle ≤ 24
  year : 0 ≤ p.year ∧ p.year ≤ 3
  day : 0 ≤ p.day ∧ p.day ≤ 365

theorem place_valid (days : Int) : (place (days % 146097)).Valid := by
  have h0 : 0 ≤ days % 146097 := by omega
  have h1 : days % 146097 < 146097 := by omega
  unfold place
  refine ⟨?_, ?_, ?_, ?_⟩ <;> dsimp only <;> omega

/-- The days in front of a place. -/
theorem place_day (dayOfEra : Int) :
    36524 * (place dayOfEra).century + 1461 * (place dayOfEra).cycle +
      365 * (place dayOfEra).year + (place dayOfEra).day = dayOfEra := by
  unfold place
  dsimp only
  omega

/-! ### Dates -/

/-- The month, from March, of a day of such a year. -/
def marchMonth (dayOfYear : Int) : Int := (5 * dayOfYear + 2) / 153

def ofPlace (era : Int) (p : Place) : Civil :=
  let mp := marchMonth p.day
  let month := if mp < 10 then mp + 3 else mp - 9
  let year := 400 * era + 100 * p.century + 4 * p.cycle + p.year
  { year := if month ≤ 2 then year + 1 else year
    month := month.toNat
    day := (p.day - (153 * mp + 2) / 5 + 1).toNat }

def civil (days : Int) : Civil :=
  ofPlace ((days + 719468) / 146097) (place ((days + 719468) % 146097))

def ofCivil (date : Civil) : Int :=
  let year := if date.month ≤ 2 then date.year - 1 else date.year
  let mp := if date.month ≤ 2 then (date.month : Int) + 9 else (date.month : Int) - 3
  let yearOfEra := year % 400
  146097 * (year / 400) + 36524 * (yearOfEra / 100) + 1461 * (yearOfEra % 100 / 4) +
    365 * (yearOfEra % 4) + (153 * mp + 2) / 5 + date.day - 1 - 719468

theorem marchMonth_bounds {d : Int} (h0 : 0 ≤ d) (h1 : d ≤ 365) :
    0 ≤ marchMonth d ∧ marchMonth d ≤ 11 ∧ 0 ≤ d - (153 * marchMonth d + 2) / 5 ∧
      d - (153 * marchMonth d + 2) / 5 ≤ 30 := by
  unfold marchMonth
  omega

/-- A date has one of twelve months and a day of that month. -/
theorem ofPlace_bounds (era : Int) {p : Place} (hp : p.Valid) :
    (1 ≤ (ofPlace era p).month ∧ (ofPlace era p).month ≤ 12) ∧
      1 ≤ (ofPlace era p).day ∧ (ofPlace era p).day ≤ 31 := by
  obtain ⟨hm0, hm1, hday0, hday1⟩ := marchMonth_bounds hp.day.1 hp.day.2
  unfold ofPlace
  dsimp only
  by_cases hmonth : marchMonth p.day < 10
  · rw [if_pos hmonth]
    omega
  · rw [if_neg hmonth]
    omega

theorem ofCivil_ofPlace (era : Int) {p : Place} (hp : p.Valid) :
    ofCivil (ofPlace era p) = 146097 * era +
      (36524 * p.century + 1461 * p.cycle + 365 * p.year + p.day) - 719468 := by
  obtain ⟨hm0, hm1, hday0, hday1⟩ := marchMonth_bounds hp.day.1 hp.day.2
  obtain ⟨hc, hq, hy, -⟩ := hp
  unfold ofCivil ofPlace
  dsimp only
  by_cases hmonth : marchMonth p.day < 10
  · have hlate : ¬marchMonth p.day + 3 ≤ 2 := by omega
    have hlate' : ¬(marchMonth p.day + 3).toNat ≤ 2 := by omega
    simp only [if_pos hmonth, if_neg hlate, if_neg hlate']
    omega
  · have hearly : marchMonth p.day - 9 ≤ 2 := by omega
    have hearly' : (marchMonth p.day - 9).toNat ≤ 2 := by omega
    simp only [if_neg hmonth, if_pos hearly, if_pos hearly']
    omega

theorem civil_bounds (days : Int) :
    (1 ≤ (civil days).month ∧ (civil days).month ≤ 12) ∧
      1 ≤ (civil days).day ∧ (civil days).day ≤ 31 :=
  ofPlace_bounds _ (place_valid _)

/-- **A date determines its day.** -/
theorem ofCivil_civil (days : Int) : ofCivil (civil days) = days := by
  unfold civil
  rw [ofCivil_ofPlace _ (place_valid _), place_day]
  omega

theorem civil_injective {d d' : Int} (h : civil d = civil d') : d = d' := by
  rw [← ofCivil_civil d, ← ofCivil_civil d', h]

/-! ### The order of dates -/

/-- The year, counted from March, of a place. -/
def marchYear (era : Int) (p : Place) : Int := 400 * era + 100 * p.century + 4 * p.cycle + p.year

/-- Later days of an era are in later years, or later in the year. -/
theorem place_lt {a b : Int} (h : a < b) (ha : 0 ≤ a) (hb : b < 146097) :
    marchYear 0 (place a) < marchYear 0 (place b) ∨
      marchYear 0 (place a) = marchYear 0 (place b) ∧ (place a).day < (place b).day := by
  unfold marchYear place
  dsimp only
  omega

/-- The dates of a calendar in the order of its year, month and day. -/
def Civil.Before (a b : Civil) : Prop :=
  a.year < b.year ∨ a.year = b.year ∧
    (a.month < b.month ∨ a.month = b.month ∧ a.day < b.day)

theorem ofPlace_before {e e' : Int} {p q : Place} (hp : p.Valid) (hq : q.Valid)
    (h : marchYear e p < marchYear e' q ∨ marchYear e p = marchYear e' q ∧ p.day < q.day) :
    (ofPlace e p).Before (ofPlace e' q) := by
  obtain ⟨hm0, hm1, hday0, hday1⟩ := marchMonth_bounds hp.day.1 hp.day.2
  obtain ⟨hm0', hm1', hday0', hday1'⟩ := marchMonth_bounds hq.day.1 hq.day.2
  have hmono : p.day < q.day → marchMonth p.day ≤ marchMonth q.day := by
    unfold marchMonth
    omega
  unfold marchYear at h
  unfold ofPlace Civil.Before
  dsimp only
  by_cases hmonth : marchMonth p.day < 10
  · by_cases hmonth' : marchMonth q.day < 10
    · rw [if_pos hmonth, if_pos hmonth']
      omega
    · rw [if_pos hmonth, if_neg hmonth']
      omega
  · by_cases hmonth' : marchMonth q.day < 10
    · rw [if_neg hmonth, if_pos hmonth']
      omega
    · rw [if_neg hmonth, if_neg hmonth']
      omega

/-- **Later days have later dates.** -/
theorem civil_before {d d' : Int} (h : d < d') : (civil d).Before (civil d') := by
  refine ofPlace_before (place_valid _) (place_valid _) ?_
  have hvalid := place_valid (d + 719468)
  have hvalid' := place_valid (d' + 719468)
  have hera : (d + 719468) / 146097 ≤ (d' + 719468) / 146097 := by omega
  rcases Int.lt_or_eq_of_le hera with hlt | heq
  · left
    obtain ⟨hc, hq, hy, -⟩ := hvalid
    obtain ⟨hc', hq', hy', -⟩ := hvalid'
    unfold marchYear
    omega
  · have hday : (d + 719468) % 146097 < (d' + 719468) % 146097 := by omega
    have hplace := place_lt hday (by omega) (by omega)
    unfold marchYear at hplace ⊢
    rw [heq]
    omega

/-- The years of four digits begin on day -719528 and end on day 2932896. -/
theorem civil_year_bounds {d : Int} (h0 : -719528 ≤ d) (h1 : d ≤ 2932896) :
    0 ≤ (civil d).year ∧ (civil d).year ≤ 9999 := by
  have hfirst : (civil (-719529)).year = -1 ∧ (civil (-719529)).month = 12 ∧
      (civil (-719529)).day = 31 := by decide
  have hlast : (civil 2932897).year = 10000 ∧ (civil 2932897).month = 1 ∧
      (civil 2932897).day = 1 := by decide
  have hafter : (civil (-719529)).Before (civil d) := civil_before (by omega)
  have hbefore : (civil d).Before (civil 2932897) := civil_before (by omega)
  have hmonth := (civil_bounds d).1
  have hday := (civil_bounds d).2
  unfold Civil.Before at hafter hbefore
  omega

example : civil 0 = ⟨1970, 1, 1⟩ ∧ civil 19782 = ⟨2024, 2, 29⟩ := by decide

/-! ### Months -/

def leap (year : Int) : Bool := year % 4 = 0 ∧ (year % 100 ≠ 0 ∨ year % 400 = 0)

def monthLength (year : Int) (month : Nat) : Nat :=
  match month with
  | 2 => if leap year then 29 else 28
  | 4 | 6 | 9 | 11 => 30
  | _ => 31

structure Civil.Valid (date : Civil) : Prop where
  month : 1 ≤ date.month ∧ date.month ≤ 12
  day : 1 ≤ date.day ∧ date.day ≤ monthLength date.year date.month

theorem monthLength_bounds (year : Int) (month : Nat) :
    28 ≤ monthLength year month ∧ monthLength year month ≤ 31 := by
  unfold monthLength
  split
  · split <;> omega
  all_goals omega

/-- The months other than February, counted from March. -/
theorem monthLength_march (year : Int) {mp : Int} (h0 : 0 ≤ mp) (h1 : mp ≤ 10) :
    (monthLength year (if mp < 10 then mp + 3 else mp - 9).toNat : Int) =
      (153 * mp + 155) / 5 - (153 * mp + 2) / 5 := by
  have hcases : mp = 0 ∨ mp = 1 ∨ mp = 2 ∨ mp = 3 ∨ mp = 4 ∨ mp = 5 ∨ mp = 6 ∨ mp = 7 ∨
      mp = 8 ∨ mp = 9 ∨ mp = 10 := by omega
  rcases hcases with rfl | rfl | rfl | rfl | rfl | rfl | rfl | rfl | rfl | rfl | rfl <;> rfl

/-- The last day of a year that begins in March is there only before a leap year. -/
theorem place_last {dayOfEra : Int} (h1 : dayOfEra < 146097)
    (hlast : 364 < (place dayOfEra).day) :
    (place dayOfEra).year = 3 ∧ ((place dayOfEra).cycle < 24 ∨ (place dayOfEra).century = 3) := by
  unfold place at hlast ⊢
  dsimp only at hlast ⊢
  omega

theorem leap_iff (era : Int) {p : Place} (hp : p.Valid) :
    leap (marchYear era p + 1) = true ↔ p.year = 3 ∧ (p.cycle < 24 ∨ p.century = 3) := by
  obtain ⟨hc, hq, hy, -⟩ := hp
  unfold leap marchYear
  rw [decide_eq_true_iff]
  constructor
  · rintro ⟨h4, h100 | h400⟩
    · have hy3 : p.year = 3 := by omega
      refine ⟨hy3, Or.inl ?_⟩
      rw [hy3] at h100
      by_contra hq'
      have hq24 : p.cycle = 24 := by omega
      rw [hq24] at h100
      omega
    · have hy3 : p.year = 3 := by omega
      rw [hy3] at h400
      exact ⟨hy3, by omega⟩
  · rintro ⟨hy3, hcycle⟩
    rw [hy3]
    refine ⟨by omega, ?_⟩
    by_cases hq' : p.cycle < 24
    · left
      omega
    · right
      rw [hcycle.resolve_left hq', show p.cycle = 24 by omega]
      omega

/-- A day of a year that begins in March: the last one is there only before a leap year. -/
structure Place.Dated (p : Place) : Prop where
  valid : p.Valid
  last : 364 < p.day → p.year = 3 ∧ (p.cycle < 24 ∨ p.century = 3)

theorem place_dated (days : Int) : (place (days % 146097)).Dated :=
  ⟨place_valid days, place_last (by omega)⟩

/-- Every such day has its place. -/
theorem place_eq {p : Place} (hp : p.Dated) :
    place (36524 * p.century + 1461 * p.cycle + 365 * p.year + p.day) = p := by
  obtain ⟨⟨hc, hq, hy, hd⟩, hlast⟩ := hp
  have hcentury : min ((36524 * p.century + 1461 * p.cycle + 365 * p.year + p.day) / 36524) 3 =
      p.century := by omega
  have hcycle : (1461 * p.cycle + 365 * p.year + p.day) / 1461 = p.cycle := by omega
  have hyear : min ((365 * p.year + p.day) / 365) 3 = p.year := by omega
  unfold place
  dsimp only
  rw [hcentury]
  rw [show 36524 * p.century + 1461 * p.cycle + 365 * p.year + p.day - 36524 * p.century =
    1461 * p.cycle + 365 * p.year + p.day by omega, hcycle]
  rw [show 1461 * p.cycle + 365 * p.year + p.day - 1461 * p.cycle = 365 * p.year + p.day by omega,
    hyear]
  rw [show 365 * p.year + p.day - 365 * p.year = p.day by omega]

theorem ofPlace_valid (era : Int) {p : Place} (hp : p.Dated) : (ofPlace era p).Valid := by
  refine ⟨(ofPlace_bounds era hp.valid).1, (ofPlace_bounds era hp.valid).2.1, ?_⟩
  obtain ⟨hd0, hd1⟩ := hp.valid.day
  obtain ⟨hm0, hm1, hday0, -⟩ := marchMonth_bounds hd0 hd1
  have hstart : p.day < (153 * marchMonth p.day + 155) / 5 := by
    unfold marchMonth
    omega
  by_cases hmonth : marchMonth p.day ≤ 10
  · have hlen := monthLength_march (ofPlace era p).year hm0 hmonth
    show (p.day - (153 * marchMonth p.day + 2) / 5 + 1).toNat ≤
      monthLength (ofPlace era p).year (if marchMonth p.day < 10 then marchMonth p.day + 3
        else marchMonth p.day - 9).toNat
    omega
  · have hfeb : marchMonth p.day = 11 := by omega
    have hyear : (ofPlace era p).year = marchYear era p + 1 := by
      unfold ofPlace marchYear
      simp [hfeb]
    have hmonth' : (ofPlace era p).month = 2 := by
      unfold ofPlace
      simp [hfeb]
    rw [hyear, hmonth']
    show (p.day - (153 * marchMonth p.day + 2) / 5 + 1).toNat ≤
      if Calendar.leap (marchYear era p + 1) = true then 29 else 28
    rw [hfeb]
    by_cases hlast : 364 < p.day
    · rw [if_pos ((leap_iff era hp.valid).mpr (hp.last hlast))]
      omega
    · split <;> omega

/-- **The date of a day is in its month.** -/
theorem civil_valid (days : Int) : (civil days).Valid :=
  ofPlace_valid _ (place_dated (days + 719468))


/-- The place of a date in its era. -/
def placeOf (date : Civil) : Place :=
  let year := if date.month ≤ 2 then date.year - 1 else date.year
  let mp := if date.month ≤ 2 then (date.month : Int) + 9 else (date.month : Int) - 3
  ⟨year % 400 / 100, year % 400 % 100 / 4, year % 400 % 4, (153 * mp + 2) / 5 + date.day - 1⟩

theorem monthLength_of_ne (year : Int) {month : Nat} (h0 : 1 ≤ month) (h1 : month ≤ 12)
    (hne : month ≠ 2) {mp : Int}
    (hmp : mp = if month ≤ 2 then (month : Int) + 9 else (month : Int) - 3) :
    (0 ≤ mp ∧ mp ≤ 10) ∧
      (monthLength year month : Int) = (153 * mp + 155) / 5 - (153 * mp + 2) / 5 := by
  have hbounds : 0 ≤ mp ∧ mp ≤ 10 := by split at hmp <;> omega
  have hlen := monthLength_march year hbounds.1 hbounds.2
  have hmonth : (if mp < 10 then mp + 3 else mp - 9).toNat = month := by
    split at hmp <;> split <;> omega
  rw [hmonth] at hlen
  exact ⟨hbounds, hlen⟩

theorem placeOf_valid {date : Civil} (h : date.Valid) : (placeOf date).Valid := by
  obtain ⟨⟨hm0, hm1⟩, hd0, hd1⟩ := h
  unfold placeOf
  dsimp only
  refine ⟨by dsimp only; omega, by dsimp only; omega, by dsimp only; omega, ?_⟩
  dsimp only
  by_cases hfeb : date.month = 2
  · have hlen : monthLength date.year date.month ≤ 29 := by
      rw [hfeb]
      show (if leap date.year = true then 29 else 28) ≤ 29
      split <;> omega
    rw [if_pos (by omega), hfeb]
    omega
  · generalize hmp : (if date.month ≤ 2 then (date.month : Int) + 9
      else (date.month : Int) - 3) = mp
    obtain ⟨hbounds, hlen⟩ := monthLength_of_ne date.year hm0 hm1 hfeb hmp.symm
    omega

theorem placeOf_dated {date : Civil} (h : date.Valid) : (placeOf date).Dated := by
  have hvalid := placeOf_valid h
  refine ⟨hvalid, fun hlast => ?_⟩
  obtain ⟨⟨hm0, hm1⟩, hd0, hd1⟩ := h
  have hfeb : date.month = 2 := by
    by_contra hne
    obtain ⟨hbounds, hlen⟩ := monthLength_of_ne date.year hm0 hm1 hne rfl
    unfold placeOf at hlast
    dsimp only at hlast
    omega
  have hyear : marchYear ((date.year - 1) / 400) (placeOf date) + 1 = date.year := by
    unfold marchYear placeOf
    rw [if_pos (by omega)]
    dsimp only
    omega
  have hleap : leap date.year = true := by
    by_contra hnot
    have hlen : monthLength date.year date.month = 28 := by
      rw [hfeb]
      exact if_neg hnot
    unfold placeOf at hlast
    rw [hfeb] at hlast
    dsimp only at hlast
    rw [if_pos (le_refl 2)] at hlast
    omega
  rw [← hyear] at hleap
  exact (leap_iff _ hvalid).mp hleap

theorem ofCivil_eq (date : Civil) : ofCivil date =
    146097 * ((if date.month ≤ 2 then date.year - 1 else date.year) / 400) +
      (36524 * (placeOf date).century + 1461 * (placeOf date).cycle + 365 * (placeOf date).year +
        (placeOf date).day) - 719468 := by
  unfold ofCivil placeOf
  dsimp only
  omega

/-- The day of the month is within its month, counted from March. -/
theorem placeOf_month {date : Civil} (h : date.Valid) :
    marchMonth (placeOf date).day =
      if date.month ≤ 2 then (date.month : Int) + 9 else (date.month : Int) - 3 := by
  have hd1 := (placeOf_valid h).day.2
  obtain ⟨⟨hm0, hm1⟩, hd0, hlen⟩ := h
  unfold placeOf at hd1 ⊢
  unfold marchMonth
  dsimp only at hd1 ⊢
  by_cases hfeb : date.month = 2
  · rw [if_pos (by omega), hfeb] at hd1 ⊢
    omega
  · generalize hmp : (if date.month ≤ 2 then (date.month : Int) + 9
      else (date.month : Int) - 3) = mp
    obtain ⟨hbounds, hlen'⟩ := monthLength_of_ne date.year hm0 hm1 hfeb hmp.symm
    omega

theorem ofPlace_placeOf {date : Civil} (h : date.Valid) {era : Int}
    (hyear : marchYear era (placeOf date) =
      if date.month ≤ 2 then date.year - 1 else date.year) :
    ofPlace era (placeOf date) = date := by
  have hmonth := placeOf_month h
  have hday : (placeOf date).day =
      (153 * marchMonth (placeOf date).day + 2) / 5 + date.day - 1 := by
    rw [hmonth]
    rfl
  obtain ⟨⟨hm0, hm1⟩, hd0, -⟩ := h
  unfold marchYear at hyear
  unfold ofPlace
  dsimp only
  generalize marchMonth (placeOf date).day = mp at *
  obtain ⟨year, month, day⟩ := date
  dsimp only at hm0 hm1 hd0 hmonth hyear hday ⊢
  rw [Civil.mk.injEq]
  by_cases hearly : month ≤ 2
  · rw [if_pos hearly] at hmonth hyear
    have hlate : ¬mp < 10 := by omega
    have hwrap : mp - 9 ≤ 2 := by omega
    simp only [if_neg hlate, if_pos hwrap]
    omega
  · rw [if_neg hearly] at hmonth hyear
    have hlate : mp < 10 := by omega
    have hwrap : ¬mp + 3 ≤ 2 := by omega
    simp only [if_pos hlate, if_neg hwrap]
    omega

/-- **Every date of a month is the date of a day.** -/
theorem civil_ofCivil {date : Civil} (h : date.Valid) : civil (ofCivil date) = date := by
  have hdated := placeOf_dated h
  have hplace := place_eq hdated
  have heq := ofCivil_eq date
  have hyear : marchYear ((if date.month ≤ 2 then date.year - 1 else date.year) / 400)
      (placeOf date) = if date.month ≤ 2 then date.year - 1 else date.year := by
    unfold marchYear placeOf
    dsimp only
    omega
  generalize (if date.month ≤ 2 then date.year - 1 else date.year) / 400 = era at *
  have hdoe : 0 ≤ 36524 * (placeOf date).century + 1461 * (placeOf date).cycle +
      365 * (placeOf date).year + (placeOf date).day ∧
      36524 * (placeOf date).century + 1461 * (placeOf date).cycle +
      365 * (placeOf date).year + (placeOf date).day < 146097 := by
    obtain ⟨⟨hc, hq, hy, hd⟩, hlast⟩ := hdated
    omega
  have hera : (ofCivil date + 719468) / 146097 = era := by omega
  have hoffset : (ofCivil date + 719468) % 146097 = 36524 * (placeOf date).century +
      1461 * (placeOf date).cycle + 365 * (placeOf date).year + (placeOf date).day := by omega
  unfold civil
  rw [hera, hoffset, hplace]
  exact ofPlace_placeOf h hyear

theorem lt_of_before {d d' : Int} (h : (civil d).Before (civil d')) : d < d' := by
  by_contra hnot
  rcases Int.lt_or_eq_of_le (not_lt.mp hnot) with hlt | heq
  · have hback := civil_before hlt
    unfold Civil.Before at h hback
    omega
  · rw [heq] at h
    unfold Civil.Before at h
    omega

/-- The day of the month of a day is `k`. -/
def inMonth (days k : Int) : Int := days - (civil days).day + k

theorem civil_inMonth (days : Int) {k : Nat} (h0 : 1 ≤ k)
    (h1 : k ≤ monthLength (civil days).year (civil days).month) :
    civil (inMonth days k) = ⟨(civil days).year, (civil days).month, k⟩ := by
  have hvalid : Civil.Valid ⟨(civil days).year, (civil days).month, k⟩ :=
    ⟨(civil_valid days).month, h0, h1⟩
  have hday : ofCivil ⟨(civil days).year, (civil days).month, k⟩ = inMonth days k := by
    have hsame := ofCivil_civil days
    unfold ofCivil at hsame ⊢
    unfold inMonth
    dsimp only at hsame ⊢
    omega
  rw [← hday]
  exact civil_ofCivil hvalid

/-- The month after the one of a date, with another day. -/
def Civil.following (date : Civil) (day : Nat) : Civil :=
  if date.month = 12 then ⟨date.year + 1, 1, day⟩ else ⟨date.year, date.month + 1, day⟩

@[simp] theorem Civil.following_day (date : Civil) (day : Nat) :
    (date.following day).day = day := by
  unfold Civil.following
  split <;> rfl

/-- The same day of the next month, or the last one it has. -/
def addMonth (days : Int) : Int :=
  let next := (civil days).following 1
  ofCivil { next with day := min (civil days).day (monthLength next.year next.month) }

theorem civil_addMonth (days : Int) : civil (addMonth days) =
    (civil days).following (min (civil days).day
      (monthLength ((civil days).following 1).year ((civil days).following 1).month)) := by
  have hmonth := (civil_valid days).month
  have hday := (civil_valid days).day.1
  have hlen := monthLength_bounds ((civil days).following 1).year ((civil days).following 1).month
  unfold addMonth
  rw [civil_ofCivil]
  · unfold Civil.following
    split <;> rfl
  · refine ⟨?_, ?_, ?_⟩
    · unfold Civil.following
      dsimp only
      split <;> dsimp only <;> omega
    · dsimp only
      omega
    · dsimp only
      omega

/-- A month later is later. -/
theorem lt_addMonth (days : Int) : days < addMonth days := by
  refine lt_of_before ?_
  rw [civil_addMonth]
  unfold Civil.following Civil.Before
  split <;> dsimp only <;> omega

/-- The next month has no day before the ones of a month later but those of this month. -/
theorem same_month {days d : Int} (h0 : days ≤ d) {k : Nat}
    (h1 : (civil d).Before ((civil days).following k)) (hk : k ≤ (civil d).day) :
    (civil d).year = (civil days).year ∧ (civil d).month = (civil days).month := by
  have hafter : ¬(civil d).Before (civil days) := fun h => absurd (lt_of_before h) (by omega)
  have hm := (civil_valid d).month
  have hm' := (civil_valid days).month
  unfold Civil.following at h1
  unfold Civil.Before at h1 hafter
  split at h1 <;> dsimp only at h1 <;> omega

/-- The day before the first of a month. -/
def Civil.preceding (date : Civil) : Civil :=
  if date.month = 1 then ⟨date.year - 1, 12, 31⟩
  else ⟨date.year, date.month - 1, monthLength date.year (date.month - 1)⟩

theorem civil_preceding (days : Int) : civil (inMonth days 0) = (civil days).preceding := by
  have hm := (civil_valid days).month
  have hlen := monthLength_bounds (civil days).year ((civil days).month - 1)
  have hvalid : (civil days).preceding.Valid := by
    unfold Civil.preceding
    split
    · exact ⟨by dsimp only; omega, by dsimp only; omega, le_refl 31⟩
    · exact ⟨by dsimp only; omega, by dsimp only; omega, le_refl _⟩
  have hfirst : civil (inMonth days 1) = ⟨(civil days).year, (civil days).month, 1⟩ :=
    civil_inMonth days (k := 1) (le_refl 1)
      (le_trans (by omega) (monthLength_bounds _ _).1)
  have hx := civil_ofCivil hvalid
  -- nothing is between the last day of the one and the first of the other
  have hlt : ofCivil (civil days).preceding < inMonth days 1 := by
    refine lt_of_before ?_
    rw [hx, hfirst]
    unfold Civil.preceding Civil.Before
    split <;> dsimp only <;> omega
  have hge : ¬ofCivil (civil days).preceding + 1 < inMonth days 1 := by
    intro hbetween
    have hbefore := civil_before hbetween
    have hafter := civil_before (Int.lt_succ (ofCivil (civil days).preceding))
    have hv := civil_valid (ofCivil (civil days).preceding + 1)
    rw [hx] at hafter
    rw [hfirst] at hbefore
    generalize civil (ofCivil (civil days).preceding + 1) = date at hafter hbefore hv
    obtain ⟨hv0, hv1⟩ := hv
    unfold Civil.preceding at hafter
    unfold Civil.Before at hafter hbefore
    dsimp only at hbefore
    split at hafter
    · have hlen' := monthLength_bounds date.year date.month
      dsimp only at hafter
      omega
    · dsimp only at hafter
      have hyear : date.year = (civil days).year := by omega
      have hmonth : date.month = (civil days).month - 1 := by omega
      rw [hyear, hmonth] at hv1
      omega
  have heq : ofCivil (civil days).preceding = inMonth days 0 := by
    unfold inMonth at *
    omega
  rw [← heq, hx]

/-- The last day that the month of a date and the month before both have. -/
def Civil.lastShared (date : Civil) : Nat :=
  min date.preceding.day (monthLength date.year date.month)

/-- The day before the first of a month, a month later. -/
theorem addMonth_preceding (days : Int) :
    addMonth (inMonth days 0) = inMonth days (civil days).lastShared := by
  unfold Civil.lastShared
  have hm := (civil_valid days).month
  have hlen := monthLength_bounds (civil days).year (civil days).month
  have hlen' := monthLength_bounds (civil days).year ((civil days).month - 1)
  have hback : ∀ k, (civil days).preceding.following k =
      ⟨(civil days).year, (civil days).month, k⟩ := by
    intro k
    unfold Civil.following Civil.preceding
    by_cases hfirst : (civil days).month = 1
    · simp [hfirst]
    · rw [if_neg hfirst, if_neg (by dsimp only; omega), Civil.mk.injEq]
      dsimp only
      omega
  have hday : 28 ≤ (civil days).preceding.day := by
    unfold Civil.preceding
    split <;> dsimp only <;> omega
  refine civil_injective ?_
  rw [civil_addMonth, civil_preceding, hback, hback, civil_inMonth]
  · omega
  · omega

/-! ### Weeks -/

/-- The day of the week, from Sunday: 1970-01-01 was a Thursday. -/
def weekday (days : Int) : Int := (days + 4) % 7

end Veridian.Calendar
