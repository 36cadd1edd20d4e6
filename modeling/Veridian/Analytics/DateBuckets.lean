/-
The dates of a time series.

`fillGaps` steps from the start of a range to its end, in UTC, and writes down each date it
comes to.  A month later is the same day or the last one of the month, so no month is left
out.  Weeks begin on Monday, but the end of the range is compared by weeks that begin on
Sunday: a range that ends on a Sunday gets the week after it as well (`dateLoop_eq`).
-/
import Veridian.Common.DashboardWidget
import Veridian.Lib.Calendar
import Veridian.Lib.Text

namespace Veridian.Analytics.DateBuckets

open Calendar

/-! ### Instants and buckets -/

def hourMs : Int := 3600000

def dayMs : Int := 86400000

def dayOf (t : Int) : Int := t / dayMs

/-- The number of the bucket that an instant is in. -/
def bucket (g : WidgetGranularity) (t : Int) : Int :=
  match g with
  | .hour => t / hourMs
  | .day => dayOf t
  | .week => (dayOf t + 3) / 7
  | .month => (civil (dayOf t)).year * 12 + ((civil (dayOf t)).month - 1)
  | .year => (civil (dayOf t)).year

/-- The same day of the next year, or the last one of its month. -/
def addYear (days : Int) : Int :=
  let date := civil days
  ofCivil { date with
    year := date.year + 1, day := min date.day (monthLength (date.year + 1) date.month) }

/-- `current.add(1, unit)` -/
def addUnit (g : WidgetGranularity) (t : Int) : Int :=
  match g with
  | .hour => t + hourMs
  | .day => t + dayMs
  | .week => t + 7 * dayMs
  | .month => addMonth (dayOf t) * dayMs + t % dayMs
  | .year => addYear (dayOf t) * dayMs + t % dayMs

/-- `current.startOf('isoWeek')` -/
def startOfIsoWeek (t : Int) : Int := (bucket .week t * 7 - 3) * dayMs

/-- `current.isSame(endDate, unit)`: the weeks of dayjs begin on Sunday. -/
def isSame (g : WidgetGranularity) (t stop : Int) : Prop :=
  match g with
  | .week => (dayOf t + 4) / 7 = (dayOf stop + 4) / 7
  | g => bucket g t = bucket g stop

instance decidableIsSame (g : WidgetGranularity) (t stop : Int) : Decidable (isSame g t stop) := by
  cases g <;> exact inferInstanceAs (Decidable (_ = _))

/-! ### Formats -/

/-- `String(n).padStart(w, '0')` -/
def padStart (w : Nat) (n : Int) : List Char := (toString n).toList.leftpad w '0'

/-- `YYYY-MM-DD` -/
def formatDay (days : Int) : List Char :=
  let date := civil days
  padStart 4 date.year ++ '-' :: padStart 2 date.month ++ '-' :: padStart 2 date.day

/-- `current.format(dateFormat)` -/
def format (g : WidgetGranularity) (t : Int) : List Char :=
  let date := civil (dayOf t)
  match g with
  | .hour => formatDay (dayOf t) ++ ' ' :: padStart 2 (t % dayMs / hourMs) ++ ":00:00".toList
  | .day | .week => formatDay (dayOf t)
  | .month => padStart 4 date.year ++ '-' :: padStart 2 date.month ++ "-01".toList
  | .year => padStart 4 date.year ++ "-01-01".toList

/-! ### Steps -/

theorem addYear_civil (days : Int) : civil (addYear days) =
    { civil days with
      year := (civil days).year + 1
      day := min (civil days).day (monthLength ((civil days).year + 1) (civil days).month) } := by
  have hvalid := civil_valid days
  have hlen := monthLength_bounds ((civil days).year + 1) (civil days).month
  refine civil_ofCivil ⟨hvalid.month, ?_, ?_⟩
  · have hday := hvalid.day.1
    dsimp only
    omega
  · dsimp only
    omega

theorem dayOf_add {days time : Int} (h0 : 0 ≤ time) (h1 : time < dayMs) :
    dayOf (days * dayMs + time) = days := by
  unfold dayOf dayMs at *
  omega

/-- **A step goes to the next bucket.** -/
theorem bucket_addUnit (g : WidgetGranularity) (t : Int) :
    bucket g (addUnit g t) = bucket g t + 1 := by
  have htime : 0 ≤ t % dayMs ∧ t % dayMs < dayMs := by
    unfold dayMs
    omega
  cases g with
  | hour =>
      show (t + hourMs) / hourMs = t / hourMs + 1
      unfold hourMs
      omega
  | day =>
      show (t + dayMs) / dayMs = t / dayMs + 1
      unfold dayMs
      omega
  | week =>
      show ((t + 7 * dayMs) / dayMs + 3) / 7 = (t / dayMs + 3) / 7 + 1
      unfold dayMs
      omega
  | month =>
      have hmonth := (civil_valid (dayOf t)).month
      show (civil (dayOf _)).year * 12 + ((civil (dayOf _)).month - 1) = _
      rw [addUnit, dayOf_add htime.1 htime.2, civil_addMonth]
      unfold bucket Civil.following
      split <;> dsimp only <;> push_cast <;> omega
  | year =>
      show (civil (dayOf _)).year = _
      rw [addUnit, dayOf_add htime.1 htime.2, addYear_civil]
      rfl

theorem bucket_mono (g : WidgetGranularity) {t t' : Int} (h : t ≤ t') :
    bucket g t ≤ bucket g t' := by
  have hday : dayOf t ≤ dayOf t' := Int.ediv_le_ediv (by decide) h
  have hcivil : dayOf t = dayOf t' ∨ (civil (dayOf t)).Before (civil (dayOf t')) := by
    rcases Int.lt_or_eq_of_le hday with hlt | heq
    · exact Or.inr (civil_before hlt)
    · exact Or.inl heq
  cases g with
  | hour => exact Int.ediv_le_ediv (by decide) h
  | day => exact hday
  | week =>
      show (dayOf t + 3) / 7 ≤ (dayOf t' + 3) / 7
      omega
  | month =>
      have hmonth := (civil_valid (dayOf t)).month
      have hmonth' := (civil_valid (dayOf t')).month
      show (civil (dayOf t)).year * 12 + ((civil (dayOf t)).month - 1) ≤ _
      rcases hcivil with heq | hbefore
      · rw [heq]
        exact Int.le_refl _
      · unfold Civil.Before at hbefore
        show _ ≤ (civil (dayOf t')).year * 12 + ((civil (dayOf t')).month - 1)
        omega
  | year =>
      show (civil (dayOf t)).year ≤ (civil (dayOf t')).year
      rcases hcivil with heq | hbefore
      · rw [heq]
      · unfold Civil.Before at hbefore
        omega

/-- The loop goes one bucket beyond the range at most. -/
theorem bucket_le_of_continue {g : WidgetGranularity} {t stop : Int}
    (h : t < stop ∨ isSame g t stop) : bucket g t ≤ bucket g stop + 1 := by
  rcases h with hlt | hsame
  · have hmono := bucket_mono g (Int.le_of_lt hlt)
    omega
  · cases g with
    | week =>
        have hweek : (dayOf t + 4) / 7 = (dayOf stop + 4) / 7 := hsame
        show (dayOf t + 3) / 7 ≤ (dayOf stop + 3) / 7 + 1
        omega
    | hour => exact Int.le_of_lt (Int.lt_add_one_of_le (Int.le_of_eq hsame))
    | day => exact Int.le_of_lt (Int.lt_add_one_of_le (Int.le_of_eq hsame))
    | month => exact Int.le_of_lt (Int.lt_add_one_of_le (Int.le_of_eq hsame))
    | year => exact Int.le_of_lt (Int.lt_add_one_of_le (Int.le_of_eq hsame))

/-! ### The loop -/

def dateLoop (g : WidgetGranularity) (stop current : Int) : List String :=
  if current < stop ∨ isSame g current stop then
    String.ofList (format g current) :: dateLoop g stop (addUnit g current)
  else []
termination_by (bucket g stop + 2 - bucket g current).toNat
decreasing_by
  rename_i hcontinue
  have hle := bucket_le_of_continue hcontinue
  have hnext := bucket_addUnit g current
  omega

def allDates (g : WidgetGranularity) (start stop : Int) : List String :=
  dateLoop g stop (if g = .week then startOfIsoWeek start else start)

/-! ### The first instant of a bucket -/

def bucketStart (g : WidgetGranularity) (k : Int) : Int :=
  match g with
  | .hour => k * hourMs
  | .day => k * dayMs
  | .week => (k * 7 - 3) * dayMs
  | .month => ofCivil ⟨k / 12, (k % 12).toNat + 1, 1⟩ * dayMs
  | .year => ofCivil ⟨k, 1, 1⟩ * dayMs

/-- What a bucket is called. -/
def label (g : WidgetGranularity) (k : Int) : String := String.ofList (format g (bucketStart g k))

theorem dayOf_mul (days : Int) : dayOf (days * dayMs) = days := by
  have h := @dayOf_add days 0 (by decide) (by decide)
  rwa [Int.add_zero] at h

theorem civil_first {year : Int} {month : Nat} (h : 1 ≤ month ∧ month ≤ 12) :
    civil (ofCivil ⟨year, month, 1⟩) = ⟨year, month, 1⟩ := by
  have hlen := monthLength_bounds year month
  refine civil_ofCivil ⟨h, ?_, ?_⟩
  · exact Nat.le_refl 1
  · dsimp only
    omega

theorem civil_month (k : Int) :
    civil (ofCivil ⟨k / 12, (k % 12).toNat + 1, 1⟩) = ⟨k / 12, (k % 12).toNat + 1, 1⟩ :=
  civil_first (by omega)

theorem bucket_bucketStart (g : WidgetGranularity) (k : Int) : bucket g (bucketStart g k) = k := by
  cases g with
  | hour =>
      show k * hourMs / hourMs = k
      exact Int.mul_ediv_cancel k (by decide)
  | day => exact dayOf_mul k
  | week =>
      show (dayOf ((k * 7 - 3) * dayMs) + 3) / 7 = k
      rw [dayOf_mul]
      omega
  | month =>
      show (civil (dayOf _)).year * 12 + ((civil (dayOf _)).month - 1) = k
      rw [bucketStart, dayOf_mul, civil_month]
      dsimp only
      omega
  | year =>
      show (civil (dayOf _)).year = k
      rw [bucketStart, dayOf_mul, civil_first (by omega)]

/-- Weeks are stepped through from a Monday. -/
def aligned (g : WidgetGranularity) (t : Int) : Prop := g = .week → t = startOfIsoWeek t

theorem aligned_addUnit {g : WidgetGranularity} {t : Int} (h : aligned g t) :
    aligned g (addUnit g t) := by
  rintro rfl
  have ht := h rfl
  have hnext := bucket_addUnit .week t
  unfold startOfIsoWeek at ht ⊢
  rw [hnext]
  show t + 7 * dayMs = _
  unfold dayMs at *
  omega

/-- **A date names its bucket.** -/
theorem format_bucket {g : WidgetGranularity} {t : Int} (h : aligned g t) :
    String.ofList (format g t) = label g (bucket g t) := by
  have hmonth := (civil_valid (dayOf t)).month
  unfold label
  cases g with
  | hour =>
      have hday : dayOf (bucketStart .hour (bucket .hour t)) = dayOf t := by
        show t / hourMs * hourMs / dayMs = t / dayMs
        unfold hourMs dayMs
        omega
      have hhour : bucketStart .hour (bucket .hour t) % dayMs / hourMs = t % dayMs / hourMs := by
        show t / hourMs * hourMs % dayMs / hourMs = _
        unfold hourMs dayMs
        omega
      simp only [format, hday, hhour]
  | day => simp only [format, bucketStart, dayOf_mul, bucket]
  | week =>
      have hstart : bucketStart .week (bucket .week t) = t := (h rfl).symm
      rw [hstart]
  | month =>
      have hbucket : bucket .month t =
          (civil (dayOf t)).year * 12 + ((civil (dayOf t)).month - 1) := rfl
      have hyear : bucket .month t / 12 = (civil (dayOf t)).year := by omega
      have hnumber : (bucket .month t % 12).toNat + 1 = (civil (dayOf t)).month := by omega
      have hfirst := civil_month (bucket .month t)
      rw [hyear, hnumber] at hfirst
      simp only [format, bucketStart, dayOf_mul, hyear, hnumber, hfirst]
  | year =>
      have hfirst : civil (ofCivil ⟨bucket .year t, 1, 1⟩) = ⟨bucket .year t, 1, 1⟩ :=
        civil_first (by omega)
      simp only [format, bucketStart, dayOf_mul, hfirst]
      rfl

/-- The number of the last bucket that is written down. -/
def lastBucket (g : WidgetGranularity) (stop : Int) : Int :=
  match g with
  | .week => (dayOf stop + 4) / 7
  | g => bucket g stop

theorem lastBucket_eq_iff (g : WidgetGranularity) (stop : Int) :
    lastBucket g stop = bucket g stop ↔ ¬(g = .week ∧ weekday (dayOf stop) = 0) := by
  cases g with
  | week =>
      show (dayOf stop + 4) / 7 = (dayOf stop + 3) / 7 ↔ ¬(_ ∧ (dayOf stop + 4) % 7 = 0)
      rw [eq_self, true_and]
      omega
  | hour | day | month | year =>
      exact ⟨fun _ h => WidgetGranularity.noConfusion h.1, fun _ => rfl⟩

theorem bucket_le_lastBucket (g : WidgetGranularity) (stop : Int) :
    bucket g stop ≤ lastBucket g stop ∧ lastBucket g stop ≤ bucket g stop + 1 := by
  cases g with
  | week =>
      show (dayOf stop + 3) / 7 ≤ (dayOf stop + 4) / 7 ∧ (dayOf stop + 4) / 7 ≤ _ / 7 + 1
      omega
  | hour | day | month | year => exact ⟨Int.le_refl _, Int.le_add_one (Int.le_refl _)⟩

/-- **The loop goes on exactly up to the last bucket.** -/
theorem continue_iff {g : WidgetGranularity} {t stop : Int} (h : aligned g t) :
    (t < stop ∨ isSame g t stop) ↔ bucket g t ≤ lastBucket g stop := by
  have hplain : (t < stop ∨ bucket g t = bucket g stop) ↔ bucket g t ≤ bucket g stop := by
    constructor
    · rintro (hlt | heq)
      · exact bucket_mono g (Int.le_of_lt hlt)
      · exact Int.le_of_eq heq
    · intro hle
      rcases Int.lt_or_eq_of_le hle with hlt | heq
      · left
        by_contra hnot
        have hback := bucket_mono g (Int.not_lt.mp hnot)
        omega
      · exact Or.inr heq
  cases g with
  | week =>
      have hmonday : t = ((dayOf t + 3) / 7 * 7 - 3) * dayMs := h rfl
      have hday : dayOf t = (dayOf t + 3) / 7 * 7 - 3 := by
        have hof := congrArg dayOf hmonday
        rwa [dayOf_mul] at hof
      show (t < stop ∨ (dayOf t + 4) / 7 = (dayOf stop + 4) / 7) ↔
        (dayOf t + 3) / 7 ≤ (dayOf stop + 4) / 7
      unfold dayOf dayMs at *
      omega
  | hour | day | month | year => exact hplain

theorem dateLoop_eq (g : WidgetGranularity) (stop : Int) :
    ∀ (n : Nat) (current : Int), aligned g current →
      (lastBucket g stop + 1 - bucket g current).toNat = n →
      dateLoop g stop current = (List.range n).map fun i : Nat => label g (bucket g current + i) := by
  intro n
  induction n with
  | zero =>
      intro current halign hn
      rw [dateLoop, if_neg (by rw [continue_iff halign]; omega)]
      rfl
  | succ n ih =>
      intro current halign hn
      have hnext := bucket_addUnit g current
      have hfirst : label g (bucket g current) = label g (bucket g current + (0 : Nat)) :=
        congrArg (label g) (Int.add_zero _).symm
      have hrest : ∀ i : Nat, label g (bucket g (addUnit g current) + i) =
          label g (bucket g current + (i + 1 : Nat)) := by
        intro i
        refine congrArg (label g) ?_
        rw [hnext]
        omega
      rw [dateLoop, if_pos (by rw [continue_iff halign]; omega), format_bucket halign,
        ih _ (aligned_addUnit halign) (by omega), List.range_succ_eq_map, List.map_cons,
        List.map_map, ← hfirst]
      exact congrArg (List.cons _) (List.map_congr_left fun i _ => hrest i)

/-! ### The buckets of a range -/

/-- The labels of the buckets from one to another. -/
def labels (g : WidgetGranularity) (lo hi : Int) : List String :=
  (List.range (hi + 1 - lo).toNat).map fun i : Nat => label g (lo + i)

theorem aligned_startOfIsoWeek (t : Int) : startOfIsoWeek t = startOfIsoWeek (startOfIsoWeek t) := by
  have h := bucket_bucketStart .week (bucket .week t)
  show _ = (bucket .week (bucketStart .week (bucket .week t)) * 7 - 3) * dayMs
  rw [h]
  rfl

/-- **The dates of a range are the labels of its buckets up to the last one.** -/
theorem allDates_eq (g : WidgetGranularity) (start stop : Int) :
    allDates g start stop = labels g (bucket g start) (lastBucket g stop) := by
  unfold allDates
  split
  · rename_i hweek
    subst hweek
    rw [dateLoop_eq .week stop _ _ (fun _ => aligned_startOfIsoWeek start) rfl,
      show startOfIsoWeek start = bucketStart .week (bucket .week start) from rfl,
      bucket_bucketStart]
    rfl
  · rename_i hweek
    exact dateLoop_eq g stop _ _ (fun h => absurd h hweek) rfl

/-! ### Labels are distinct -/

theorem ofDigitChars_padStart (w : Nat) (n : Int) :
    Nat.ofDigitChars 10 (padStart w n) 0 = n.natAbs := by
  unfold padStart List.leftpad
  rw [Nat.ofDigitChars_append, Nat.ofDigitChars_replicate_zero, Nat.mul_zero]
  cases n with
  | ofNat n =>
      show Nat.ofDigitChars 10 (toString n).toList 0 = n
      rw [Text.toList_toString, Nat.ofDigitChars_ten_toDigits]
  | negSucc n =>
      show Nat.ofDigitChars 10 ("-" ++ (n + 1).repr).toList 0 = n + 1
      rw [String.toList_append, Nat.ofDigitChars_append, Nat.toList_repr]
      exact Nat.ofDigitChars_ten_toDigits

theorem minus_mem_padStart (w : Nat) (n : Int) : '-' ∈ padStart w n ↔ n < 0 := by
  unfold padStart List.leftpad
  cases n with
  | ofNat n =>
      refine iff_of_false (fun hmem => ?_) (Int.not_lt.mpr (Int.natCast_nonneg n))
      rcases List.mem_append.mp hmem with hmem | hmem
      · exact absurd (List.eq_of_mem_replicate hmem) (by decide)
      · exact absurd (Text.isDigit_of_mem_toString (n := n) hmem) (by decide)
  | negSucc n =>
      refine iff_of_true (List.mem_append_right _ ?_) (Int.negSucc_lt_zero n)
      show '-' ∈ ("-" ++ (n + 1).repr).toList
      simp

theorem padStart_inj {w : Nat} {m n : Int} (h : padStart w m = padStart w n) : m = n := by
  have habs : m.natAbs = n.natAbs := by
    rw [← ofDigitChars_padStart w m, h, ofDigitChars_padStart]
  have hsign : m < 0 ↔ n < 0 := by
    rw [← minus_mem_padStart w m, h, minus_mem_padStart]
  omega

theorem mem_padStart {w : Nat} {n : Int} {c : Char} (h : c ∈ padStart w n) :
    c.isDigit = true ∨ c = '-' := by
  unfold padStart List.leftpad at h
  rcases List.mem_append.mp h with h | h
  · rw [List.eq_of_mem_replicate h]
    exact Or.inl (by decide)
  · cases n with
    | ofNat n => exact Or.inl (Text.isDigit_of_mem_toString (n := n) h)
    | negSucc n =>
        have hmem : c ∈ ("-" ++ (n + 1).repr).toList := h
        rw [String.toList_append] at hmem
        rcases List.mem_append.mp hmem with hminus | hdigit
        · right
          simpa using hminus
        · exact Or.inl (Text.isDigit_of_mem_toString (n := n + 1) hdigit)

theorem padStart_two_length {n : Int} (h0 : 0 ≤ n) (h1 : n < 100) : (padStart 2 n).length = 2 := by
  obtain ⟨k, rfl⟩ := Int.eq_ofNat_of_zero_le h0
  have hlen : ∀ k < 100, (padStart 2 (k : Nat)).length = 2 := by decide
  exact hlen k (by omega)

theorem civil_day_lt (days : Int) : ((civil days).day : Int) < 100 := by
  have hvalid := civil_valid days
  have hlen := monthLength_bounds (civil days).year (civil days).month
  have hday := hvalid.day
  omega

theorem civil_month_lt (days : Int) : ((civil days).month : Int) < 100 := by
  have hmonth := (civil_valid days).month
  omega

/-- Two texts with the same number of characters after a dash. -/
theorem dashed_inj {c : Char} {a b : List Char} {m n : Int} {xs ys : List Char}
    (hm : 0 ≤ m ∧ m < 100) (hn : 0 ≤ n ∧ n < 100) (hlen : xs.length = ys.length)
    (h : a ++ c :: padStart 2 m ++ xs = b ++ c :: padStart 2 n ++ ys) :
    a = b ∧ m = n ∧ xs = ys := by
  obtain ⟨hfront, hback⟩ := List.append_inj' h hlen
  have hpad : (c :: padStart 2 m).length = (c :: padStart 2 n).length := by
    rw [List.length_cons, List.length_cons, padStart_two_length hm.1 hm.2,
      padStart_two_length hn.1 hn.2]
  obtain ⟨hab, hcons⟩ := List.append_inj' hfront hpad
  exact ⟨hab, padStart_inj (List.cons.inj hcons).2, hback⟩

theorem formatDay_inj {d d' : Int} (h : formatDay d = formatDay d') : d = d' := by
  have hsplit : ∀ days : Int, formatDay days =
      (padStart 4 (civil days).year ++ '-' :: padStart 2 (civil days).month ++ []) ++
        '-' :: padStart 2 (civil days).day ++ [] := by
    intro days
    simp [formatDay]
  rw [hsplit d, hsplit d'] at h
  obtain ⟨hfront, hday, -⟩ := dashed_inj ⟨Int.natCast_nonneg _, civil_day_lt d⟩
    ⟨Int.natCast_nonneg _, civil_day_lt d'⟩ rfl h
  obtain ⟨hyear, hmonth, -⟩ := dashed_inj ⟨Int.natCast_nonneg _, civil_month_lt d⟩
    ⟨Int.natCast_nonneg _, civil_month_lt d'⟩ rfl hfront
  refine civil_injective ?_
  rw [Civil.mk.injEq]
  exact ⟨padStart_inj hyear, Int.ofNat_inj.mp hmonth, Int.ofNat_inj.mp hday⟩

/-- **Different buckets have different labels.** -/
theorem label_injective (g : WidgetGranularity) {j k : Int} (h : label g j = label g k) : j = k := by
  have hformat : format g (bucketStart g j) = format g (bucketStart g k) := String.ofList_injective h
  have hbucket : bucket g (bucketStart g j) = bucket g (bucketStart g k) := by
    cases g with
    | hour =>
        have hrange : ∀ t : Int, 0 ≤ t % dayMs / hourMs ∧ t % dayMs / hourMs < 100 := by
          intro t
          unfold dayMs hourMs
          omega
        obtain ⟨hday, hhour, -⟩ := dashed_inj (hrange _) (hrange _) rfl hformat
        have hsame : dayOf (bucketStart .hour j) = dayOf (bucketStart .hour k) := formatDay_inj hday
        show bucketStart .hour j / hourMs = bucketStart .hour k / hourMs
        unfold dayOf dayMs hourMs at *
        omega
    | day => exact formatDay_inj hformat
    | week =>
        have hsame : dayOf (bucketStart .week j) = dayOf (bucketStart .week k) :=
          formatDay_inj hformat
        show (dayOf _ + 3) / 7 = (dayOf _ + 3) / 7
        rw [hsame]
    | month =>
        obtain ⟨hyear, hmonth, -⟩ := dashed_inj ⟨Int.natCast_nonneg _, civil_month_lt _⟩
          ⟨Int.natCast_nonneg _, civil_month_lt _⟩ rfl hformat
        show (civil (dayOf _)).year * 12 + ((civil (dayOf _)).month - 1) =
          (civil (dayOf _)).year * 12 + ((civil (dayOf _)).month - 1)
        rw [padStart_inj hyear, hmonth]
    | year => exact padStart_inj (List.append_inj' hformat rfl).1
  rwa [bucket_bucketStart, bucket_bucketStart] at hbucket

/-! ### Labels hold no separator -/

theorem separator_notMem_padStart (w : Nat) (n : Int) : '|' ∉ padStart w n := by
  intro h
  rcases mem_padStart h with hdigit | hminus
  · exact absurd hdigit (by decide)
  · exact absurd hminus (by decide)

theorem separator_notMem_label (g : WidgetGranularity) (k : Int) : '|' ∉ (label g k).toList := by
  unfold label
  cases g <;> simp [format, formatDay, separator_notMem_padStart]

/-! ### The labels of a range -/

theorem labels_nodup (g : WidgetGranularity) (lo hi : Int) : (labels g lo hi).Nodup := by
  refine List.Nodup.map_on (fun i _ j _ h => ?_) List.nodup_range
  have hbucket := label_injective g h
  omega

theorem mem_labels {g : WidgetGranularity} {lo hi : Int} {s : String} :
    s ∈ labels g lo hi ↔ ∃ k, lo ≤ k ∧ k ≤ hi ∧ label g k = s := by
  unfold labels
  simp only [List.mem_map, List.mem_range]
  constructor
  · rintro ⟨i, hi', rfl⟩
    exact ⟨lo + i, by omega, by omega, rfl⟩
  · rintro ⟨k, hlo, hhi, rfl⟩
    refine ⟨(k - lo).toNat, by omega, congrArg (label g) ?_⟩
    omega

theorem length_labels (g : WidgetGranularity) (lo hi : Int) :
    (labels g lo hi).length = (hi + 1 - lo).toNat := by
  rw [labels, List.length_map, List.length_range]

end Veridian.Analytics.DateBuckets
