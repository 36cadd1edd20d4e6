/-
The period that a preset is compared with.

A preset stands for local days of a timezone, and the period before it is found by moving both
ends back by whole days of 24 hours.  So the two periods meet where the local days of the
preset take a whole number of 24 hours together, and the one before begins with a local day
where its own days take just as long (`comparable_iff`).  The last 30 minutes move back by a
day.

A timezone is the first instants of its local days, whatever transitions there are between.
The process itself runs in UTC.
-/
import Veridian.Analytics.DateBuckets

namespace Veridian.Analytics.ComparisonPeriods

open Calendar DateBuckets

/-- A timezone: how far it is ahead of UTC when a local day begins, and the local day of an
instant. -/
structure Zone where
  offset : Int → Int
  dayAt : Int → Int
  ordered : ∀ d, d * dayMs - offset d < (d + 1) * dayMs - offset (d + 1)
  dayAt_start : ∀ t, dayAt t * dayMs - offset (dayAt t) ≤ t
  dayAt_next : ∀ t, t < (dayAt t + 1) * dayMs - offset (dayAt t + 1)

/-- The first instant of a local day. -/
def Zone.midnight (z : Zone) (d : Int) : Int := d * dayMs - z.offset d

structure ResolvedDateRange where
  start : Int
  stop : Int
  deriving DecidableEq

/-- The local days from `first` to the one before `next`. -/
def Zone.days (z : Zone) (first next : Int) : ResolvedDateRange :=
  ⟨z.midnight first, z.midnight next - 1⟩

/-! ### Presets -/

/-- The presets that stand for local days. -/
inductive DayPreset where
  | today | yesterday | previous7Days | previous14Days | previous28Days | previous30Days
  | previous90Days | previous91Days | thisWeek | previousWeek | thisMonth | previousMonth
  | thisQuarter | previousQuarter | thisYear | previousYear | previous12Months
  deriving DecidableEq

inductive DatePreset where
  | previous30Minutes
  | ofDays (preset : DayPreset)
  | allTime
  deriving DecidableEq

/-- The first day of the ISO week. -/
def weekStart (day : Int) : Int := (day + 3) / 7 * 7 - 3

/-- The number of the month of a day. -/
def monthOf (day : Int) : Int := (civil day).year * 12 + ((civil day).month - 1)

def monthStart (month : Int) : Int := ofCivil ⟨month / 12, (month % 12).toNat + 1, 1⟩

/-- The first day of the period of `n` months that is `k` of them after the one of a day. -/
def periodStart (n k day : Int) : Int := monthStart ((monthOf day / n + k) * n)

/-- The first day of a preset, from `startOf`, and the day after the last one, from `endOf`. -/
def presetDays (today : Int) : DayPreset → Int × Int
  | .today => (today, today + 1)
  | .yesterday => (today - 1, today - 1 + 1)
  | .previous7Days => (today - 7, today - 1 + 1)
  | .previous14Days => (today - 14, today - 1 + 1)
  | .previous28Days => (today - 28, today - 1 + 1)
  | .previous30Days => (today - 30, today - 1 + 1)
  | .previous90Days => (today - 90, today - 1 + 1)
  | .previous91Days => (today - 91, today - 1 + 1)
  | .thisWeek => (weekStart today, today + 1)
  | .previousWeek => (weekStart (today - 7), weekStart (today - 7) + 7)
  | .thisMonth => (periodStart 1 0 today, today + 1)
  | .previousMonth => (periodStart 1 (-1) today, periodStart 1 0 today)
  | .thisQuarter => (periodStart 3 0 today, today + 1)
  | .previousQuarter => (periodStart 3 (-1) today, periodStart 3 0 today)
  | .thisYear => (periodStart 12 0 today, today + 1)
  | .previousYear => (periodStart 12 (-1) today, periodStart 12 0 today)
  | .previous12Months => (periodStart 1 (-12) today, today - 1 + 1)

/-- `dayjs('2020-01-01').startOf('day')` -/
def allTimeStart : Int := 18262 * dayMs

def resolveDatePreset (z : Zone) (now : Int) : DatePreset → ResolvedDateRange
  | .previous30Minutes => ⟨now - 30 * 60000, now⟩
  | .ofDays preset =>
      let (first, next) := presetDays (z.dayAt now) preset
      z.days first next
  | .allTime => ⟨allTimeStart, z.midnight (z.dayAt now + 1) - 1⟩

/-- `dayjs(stop).diff(dayjs(start), 'day')` -/
def diffDays (start stop : Int) : Int := (stop - start).tdiv dayMs

def shiftPresetToPreviousPeriod (z : Zone) (now : Int) (preset : DatePreset) :
    ResolvedDateRange :=
  let current := resolveDatePreset z now preset
  let duration := diffDays current.start current.stop + 1
  ⟨current.start - duration * dayMs, current.stop - duration * dayMs⟩

/-! ### The period before -/

/-- The first day of the calendar unit before the one that a preset is about. -/
def unitBefore (today : Int) : DatePreset → Option Int
  | .ofDays .thisWeek => some (weekStart today - 7)
  | .ofDays .previousWeek => some (weekStart today - 14)
  | .ofDays .thisMonth => some (periodStart 1 (-1) today)
  | .ofDays .previousMonth => some (periodStart 1 (-2) today)
  | .ofDays .thisQuarter => some (periodStart 3 (-1) today)
  | .ofDays .previousQuarter => some (periodStart 3 (-2) today)
  | .ofDays .thisYear => some (periodStart 12 (-1) today)
  | .ofDays .previousYear => some (periodStart 12 (-2) today)
  | _ => none

/-- The day that the period before may begin with: there are as many days up to `first` as from
`first` to `next`, or it is the calendar unit before. -/
def MayBegin (preset : DatePreset) (today first next before : Int) : Prop :=
  first - before = next - first ∨ unitBefore today preset = some before

/-- A period ends with the local day before the first one of the preset, and begins with a
local day that it may begin with. -/
def Comparable (z : Zone) (now : Int) (preset : DatePreset) (previous : ResolvedDateRange) : Prop :=
  ∃ first next, resolveDatePreset z now preset = z.days first next ∧
    ∃ before, MayBegin preset (z.dayAt now) first next before ∧ previous = z.days before first

/-- The local days of a preset; those of all time begin with one where 2020 did. -/
def localDays (z : Zone) (now : Int) : DatePreset → Option (Int × Int)
  | .previous30Minutes => none
  | .ofDays preset => some (presetDays (z.dayAt now) preset)
  | .allTime =>
      if z.midnight (z.dayAt allTimeStart) = allTimeStart then
        some (z.dayAt allTimeStart, z.dayAt now + 1)
      else none

/-! ### Days of a timezone -/

theorem Zone.midnight_lt_add (z : Zone) (d : Int) (n : Nat) :
    z.midnight d < z.midnight (d + n + 1) := by
  induction n with
  | zero =>
      rw [Int.natCast_zero, Int.add_zero]
      exact z.ordered d
  | succ n ih =>
      have hnext : z.midnight (d + n + 1) < z.midnight (d + n + 1 + 1) := z.ordered (d + n + 1)
      rw [Int.natCast_succ, ← Int.add_assoc]
      exact Int.lt_trans ih hnext

theorem Zone.midnight_lt_iff (z : Zone) {a b : Int} : z.midnight a < z.midnight b ↔ a < b := by
  have hlt : ∀ {a b : Int}, a < b → z.midnight a < z.midnight b := by
    intro a b h
    have hadd := z.midnight_lt_add a (b - a - 1).toNat
    rwa [show a + ((b - a - 1).toNat : Int) + 1 = b by omega] at hadd
  refine ⟨fun h => ?_, hlt⟩
  rcases Int.lt_trichotomy a b with hab | rfl | hba
  · exact hab
  · exact absurd h (Int.lt_irrefl _)
  · exact absurd (Int.lt_trans h (hlt hba)) (Int.lt_irrefl _)

theorem Zone.midnight_inj (z : Zone) {a b : Int} (h : z.midnight a = z.midnight b) : a = b := by
  have hab := z.midnight_lt_iff (a := a) (b := b)
  have hba := z.midnight_lt_iff (a := b) (b := a)
  omega

theorem Zone.days_inj {z : Zone} {a b c d : Int} (h : z.days a b = z.days c d) :
    a = c ∧ b = d := by
  rw [Zone.days, Zone.days, ResolvedDateRange.mk.injEq] at h
  exact ⟨z.midnight_inj h.1, z.midnight_inj (by omega)⟩

theorem Zone.dayAt_eq {z : Zone} {t d : Int} (h0 : z.midnight d ≤ t)
    (h1 : t < z.midnight (d + 1)) : z.dayAt t = d := by
  have hstart : z.midnight (z.dayAt t) ≤ t := z.dayAt_start t
  have hnext : t < z.midnight (z.dayAt t + 1) := z.dayAt_next t
  have hle := z.midnight_lt_iff.mp (Int.lt_of_le_of_lt hstart h1)
  have hge := z.midnight_lt_iff.mp (Int.lt_of_le_of_lt h0 hnext)
  omega

theorem Zone.dayAt_midnight (z : Zone) (d : Int) : z.dayAt (z.midnight d) = d :=
  z.dayAt_eq (Int.le_refl _) (z.ordered d)

theorem Zone.dayAt_mono (z : Zone) {t t' : Int} (h : t ≤ t') : z.dayAt t ≤ z.dayAt t' := by
  have hstart : z.midnight (z.dayAt t) ≤ t := z.dayAt_start t
  have hnext : t' < z.midnight (z.dayAt t' + 1) := z.dayAt_next t'
  have hlt := z.midnight_lt_iff.mp (Int.lt_of_le_of_lt (Int.le_trans hstart h) hnext)
  omega

/-! ### A preset has days -/

theorem monthOf_mono {d d' : Int} (h : d ≤ d') : monthOf d ≤ monthOf d' := by
  have hbucket := bucket_mono .month (Int.mul_le_mul_of_nonneg_right h (by decide : 0 ≤ dayMs))
  have hof : ∀ d, bucket .month (d * dayMs) = monthOf d := by
    intro d
    unfold bucket monthOf
    rw [dayOf_mul]
  rwa [hof, hof] at hbucket

theorem monthOf_monthStart (month : Int) : monthOf (monthStart month) = month := by
  unfold monthOf monthStart
  rw [civil_month]
  dsimp only
  omega

theorem monthStart_lt {m m' : Int} (h : m < m') : monthStart m < monthStart m' := by
  by_contra hnot
  have hmono := monthOf_mono (Int.not_lt.mp hnot)
  rw [monthOf_monthStart, monthOf_monthStart] at hmono
  omega

theorem monthStart_le (day : Int) : monthStart (monthOf day) ≤ day := by
  by_contra hnot
  have hvalid := civil_valid day
  have hbefore := civil_before (Int.not_le.mp hnot)
  have hmonth := hvalid.month
  have hfirst : civil (monthStart (monthOf day)) = ⟨(civil day).year, (civil day).month, 1⟩ := by
    unfold monthStart
    rw [civil_month, Civil.mk.injEq]
    unfold monthOf
    omega
  rw [hfirst] at hbefore
  have hday := hvalid.day.1
  unfold Civil.Before at hbefore
  dsimp only at hbefore
  omega

theorem periodStart_lt {n k k' day : Int} (hn : 0 < n) (h : k < k') :
    periodStart n k day < periodStart n k' day :=
  monthStart_lt (Int.mul_lt_mul_of_pos_right (by omega) hn)

theorem periodStart_le {n k day : Int} (hn : 0 < n) (hk : k ≤ 0) : periodStart n k day ≤ day := by
  have hmul : (monthOf day / n + k) * n ≤ monthOf day := by
    have hdiv := Int.ediv_mul_le (monthOf day) (by omega : n ≠ 0)
    have hle := Int.mul_le_mul_of_nonneg_right (by omega : monthOf day / n + k ≤ monthOf day / n)
      (Int.le_of_lt hn)
    omega
  have hmonth : monthStart ((monthOf day / n + k) * n) ≤ monthStart (monthOf day) := by
    rcases Int.lt_or_eq_of_le hmul with hlt | heq
    · exact Int.le_of_lt (monthStart_lt hlt)
    · rw [heq]
  exact Int.le_trans hmonth (monthStart_le day)

/-- **Every preset of days has a day.** -/
theorem presetDays_lt (today : Int) (preset : DayPreset) :
    (presetDays today preset).1 < (presetDays today preset).2 := by
  have hmonths : ∀ n, 0 < n → ∀ k ≤ 0, periodStart n k today ≤ today :=
    fun n hn k hk => periodStart_le hn hk
  cases preset with
  | previousMonth => exact periodStart_lt (by decide) (by decide)
  | previousQuarter => exact periodStart_lt (by decide) (by decide)
  | previousYear => exact periodStart_lt (by decide) (by decide)
  | thisMonth => exact Int.lt_add_one_of_le (hmonths 1 (by decide) 0 (by decide))
  | thisQuarter => exact Int.lt_add_one_of_le (hmonths 3 (by decide) 0 (by decide))
  | thisYear => exact Int.lt_add_one_of_le (hmonths 12 (by decide) 0 (by decide))
  | previous12Months =>
      have hstep : periodStart 1 (-12) today < periodStart 1 0 today :=
        periodStart_lt (by decide) (by decide)
      have hfirst := hmonths 1 (by decide) 0 (by decide)
      show periodStart 1 (-12) today < today - 1 + 1
      omega
  | thisWeek | previousWeek =>
      unfold presetDays weekStart
      dsimp only
      omega
  | today | yesterday | previous7Days | previous14Days | previous28Days | previous30Days
  | previous90Days | previous91Days =>
      unfold presetDays
      dsimp only
      omega

theorem localDays_allTime {z : Zone} {now first next : Int}
    (h : localDays z now .allTime = some (first, next)) :
    z.midnight first = allTimeStart ∧ first = z.dayAt allTimeStart ∧ next = z.dayAt now + 1 := by
  by_cases hstart : z.midnight (z.dayAt allTimeStart) = allTimeStart
  · have hpair : (z.dayAt allTimeStart, z.dayAt now + 1) = (first, next) :=
      Option.some.inj ((if_pos hstart).symm.trans h)
    rw [Prod.mk.injEq] at hpair
    exact ⟨hpair.1 ▸ hstart, hpair.1.symm, hpair.2.symm⟩
  · exact absurd ((if_neg hstart).symm.trans h) (by simp)

theorem localDays_lt {z : Zone} {now : Int} (hnow : allTimeStart ≤ now) {preset : DatePreset}
    {first next : Int} (h : localDays z now preset = some (first, next)) : first < next := by
  cases preset with
  | previous30Minutes => exact absurd h (by simp [localDays])
  | ofDays preset =>
      have hdays := presetDays_lt (z.dayAt now) preset
      rw [Option.some.inj h] at hdays
      exact hdays
  | allTime =>
      have hmono := z.dayAt_mono hnow
      obtain ⟨-, rfl, rfl⟩ := localDays_allTime h
      omega

/-- The days of a preset are the period that it resolves to. -/
theorem resolveDatePreset_of_localDays {z : Zone} {now : Int} {preset : DatePreset}
    {first next : Int} (h : localDays z now preset = some (first, next)) :
    resolveDatePreset z now preset = z.days first next := by
  cases preset with
  | previous30Minutes => exact absurd h (by simp [localDays])
  | ofDays preset =>
      have hpair : presetDays (z.dayAt now) preset = (first, next) := Option.some.inj h
      show z.days (presetDays (z.dayAt now) preset).1 (presetDays (z.dayAt now) preset).2 = _
      rw [hpair]
  | allTime =>
      obtain ⟨hstart, -, rfl⟩ := localDays_allTime h
      rw [Zone.days, hstart, resolveDatePreset]

/-! ### Moving back -/

/-- Days move back onto the days before them when both take a whole number of 24 hours. -/
theorem shift_eq_days_iff {z : Zone} {now : Int} {preset : DatePreset} {first next before : Int}
    (hlt : first < next) (hcurrent : resolveDatePreset z now preset = z.days first next) :
    shiftPresetToPreviousPeriod z now preset = z.days before first ↔
      dayMs ∣ z.offset next - z.offset first ∧
        ((first - before) - (next - first)) * dayMs =
          (z.offset first - z.offset before) - (z.offset next - z.offset first) := by
  have hmidnight := z.midnight_lt_iff.mpr hlt
  unfold shiftPresetToPreviousPeriod diffDays
  rw [hcurrent]
  unfold Zone.days
  rw [ResolvedDateRange.mk.injEq]
  dsimp only
  rw [Int.tdiv_eq_ediv_of_nonneg (by omega)]
  unfold Zone.midnight dayMs at *
  omega

theorem comparable_adjoins {z : Zone} {now : Int} {preset : DatePreset}
    {previous : ResolvedDateRange} (h : Comparable z now preset previous) :
    previous.stop + 1 = (resolveDatePreset z now preset).start := by
  obtain ⟨first, next, hcurrent, before, -, rfl⟩ := h
  rw [hcurrent]
  show z.midnight first - 1 + 1 = z.midnight first
  omega

/-- A preset that is no local days has no period before. -/
theorem localDays_of_comparable {z : Zone} {now : Int} {preset : DatePreset}
    (h : Comparable z now preset (shiftPresetToPreviousPeriod z now preset)) :
    ∃ first next, localDays z now preset = some (first, next) := by
  have hadjoins := comparable_adjoins h
  cases preset with
  | previous30Minutes =>
      exfalso
      unfold shiftPresetToPreviousPeriod resolveDatePreset diffDays at hadjoins
      dsimp only at hadjoins
      rw [Int.tdiv_eq_ediv_of_nonneg (by omega)] at hadjoins
      unfold dayMs at hadjoins
      omega
  | ofDays preset => exact ⟨_, _, rfl⟩
  | allTime =>
      obtain ⟨first, next, hcurrent, -⟩ := h
      have hstart : allTimeStart = z.midnight first := congrArg ResolvedDateRange.start hcurrent
      refine ⟨z.dayAt allTimeStart, z.dayAt now + 1, if_pos ?_⟩
      rw [hstart, z.dayAt_midnight]

/-- **The period that a preset is compared with is the one before it exactly where its days
take a whole number of 24 hours, and the days before take as long.** -/
theorem comparable_iff (z : Zone) {now : Int} (hnow : allTimeStart ≤ now) (preset : DatePreset) :
    Comparable z now preset (shiftPresetToPreviousPeriod z now preset) ↔
      ∃ first next, localDays z now preset = some (first, next) ∧
        dayMs ∣ z.offset next - z.offset first ∧
        ∃ before, MayBegin preset (z.dayAt now) first next before ∧
          ((first - before) - (next - first)) * dayMs =
            (z.offset first - z.offset before) - (z.offset next - z.offset first) := by
  constructor
  · intro h
    obtain ⟨first, next, hlocal⟩ := localDays_of_comparable h
    obtain ⟨first', next', hcurrent, before, hbegin, hshift⟩ := h
    have hresolved := resolveDatePreset_of_localDays hlocal
    obtain ⟨rfl, rfl⟩ := z.days_inj (hcurrent.symm.trans hresolved)
    obtain ⟨hwhole, hlong⟩ := (shift_eq_days_iff (localDays_lt hnow hlocal) hcurrent).mp hshift
    exact ⟨first', next', hlocal, hwhole, before, hbegin, hlong⟩
  · rintro ⟨first, next, hlocal, hwhole, before, hbegin, hlong⟩
    have hresolved := resolveDatePreset_of_localDays hlocal
    exact ⟨first, next, hresolved, before, hbegin,
      (shift_eq_days_iff (localDays_lt hnow hlocal) hresolved).mpr ⟨hwhole, hlong⟩⟩

/-- **In a zone without transitions every preset of days is compared with the days before.** -/
theorem comparable_of_fixed (z : Zone) {now ahead : Int} (hfixed : ∀ d, z.offset d = ahead)
    (preset : DayPreset) : ∃ first next, resolveDatePreset z now (.ofDays preset) =
      z.days first next ∧
        shiftPresetToPreviousPeriod z now (.ofDays preset) = z.days (2 * first - next) first := by
  have hlt := presetDays_lt (z.dayAt now) preset
  have hcurrent : resolveDatePreset z now (.ofDays preset) =
      z.days (presetDays (z.dayAt now) preset).1 (presetDays (z.dayAt now) preset).2 := rfl
  refine ⟨_, _, hcurrent, (shift_eq_days_iff hlt hcurrent).mpr ?_⟩
  rw [hfixed, hfixed, hfixed, Int.sub_self]
  refine ⟨Int.dvd_zero _, ?_⟩
  unfold dayMs
  omega

/-! ### A day of 25 hours -/

namespace TransitionExample

/-- Four hours behind UTC up to 2025-11-02, and five hours from the next day on. -/
def newYork : Zone where
  offset d := if d ≤ 20394 then -4 * hourMs else -5 * hourMs
  dayAt t := if t < 20394 * dayMs + 6 * hourMs then (t - 4 * hourMs) / dayMs
    else (t - 5 * hourMs) / dayMs
  ordered d := by
    unfold dayMs hourMs
    split <;> split <;> omega
  dayAt_start t := by
    unfold dayMs hourMs
    split <;> split <;> omega
  dayAt_next t := by
    unfold dayMs hourMs
    split <;> split <;> omega

/-- `2025-11-03 12:00` in UTC -/
def monday : Int := 20395 * dayMs + 12 * hourMs

/-- Yesterday had 25 hours: it moves back by two days. -/
theorem long_day_moves_two_days :
    ¬Comparable newYork monday (.ofDays .yesterday)
      (shiftPresetToPreviousPeriod newYork monday (.ofDays .yesterday)) := by
  intro h
  exact absurd (comparable_adjoins h) (by decide)

/-- A week later the seven days before have 24 hours each. -/
theorem week_of_plain_days : Comparable newYork (monday + 14 * dayMs) (.ofDays .previous7Days)
    (shiftPresetToPreviousPeriod newYork (monday + 14 * dayMs) (.ofDays .previous7Days)) :=
  (comparable_iff newYork (by decide) _).mpr
    ⟨20402, 20409, by decide, by decide, 20395, Or.inl (by decide), by decide⟩

end TransitionExample

end Veridian.Analytics.ComparisonPeriods
