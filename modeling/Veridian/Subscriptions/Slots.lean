/-
The slots of a report.

`calculateNextSendAt` sets the hour on today's date, moves to the day that was asked for, in
this week or this month, and goes on by a day, a week or a month when that has passed.

What it relies on of `dayjs` is that a time is a wall clock beside an offset, and that moving
the clock leaves the offset alone (`WallClock`).  In a zone of one offset the result is the
earliest slot that is still to come (`calculateNextSendAt_earliest`).
-/
import Veridian.Lib.Calendar
import Veridian.Subscriptions.Scheduler

namespace Veridian.Subscriptions

open Calendar

/-- What the code relies on of `dayjs`: `wall` is the time that is read off it, in
milliseconds, and `offset` how far that is ahead of UTC.  A day that is `null` counts as 0. -/
structure WallClock {δ : Type} (dayjs : Dayjs δ) (wall offset : δ → Int) : Prop where
  tz : ∀ now timezone, wall (dayjs.tz now timezone) = now + offset (dayjs.tz now timezone)
  hour : ∀ d, (dayjs.hour d : Int) = wall d / 3600000 % 24
  atHour : ∀ d hour, wall (dayjs.atHour d hour) = wall d / 86400000 * 86400000 + 3600000 * hour
  day : ∀ d w, wall (dayjs.day d w) =
    wall d + 86400000 * (((w.getD 0 : Nat) : Int) - weekday (wall d / 86400000))
  date : ∀ d n, wall (dayjs.date d n) =
    wall d + 86400000 * (((n.getD 0 : Nat) : Int) - (civil (wall d / 86400000)).day)
  addDay : ∀ d, wall (dayjs.addDay d) = wall d + 86400000
  addWeek : ∀ d, wall (dayjs.addWeek d) = wall d + 604800000
  addMonth : ∀ d, wall (dayjs.addMonth d) =
    86400000 * addMonth (wall d / 86400000) + wall d % 86400000
  utc : ∀ d, dayjs.utc d = wall d - offset d
  offset_atHour : ∀ d hour, offset (dayjs.atHour d hour) = offset d
  offset_day : ∀ d w, offset (dayjs.day d w) = offset d
  offset_date : ∀ d n, offset (dayjs.date d n) = offset d
  offset_addDay : ∀ d, offset (dayjs.addDay d) = offset d
  offset_addWeek : ∀ d, offset (dayjs.addWeek d) = offset d
  offset_addMonth : ∀ d, offset (dayjs.addMonth d) = offset d
  isSameDay : ∀ a b, offset a = offset b →
    (dayjs.isSameDay a b = true ↔ wall a / 86400000 = wall b / 86400000)
  isBefore_of_day : ∀ a b, offset a = offset b → wall a / 86400000 < wall b / 86400000 →
    dayjs.isBefore a b = true

/-- A timezone in which the clock is always as far ahead, so that it orders the times. -/
structure FixedOffset {δ : Type} (dayjs : Dayjs δ) (wall offset : δ → Int) (timezone : String)
    (ahead : Int) : Prop extends WallClock dayjs wall offset where
  fixed : ∀ now, offset (dayjs.tz now timezone) = ahead
  isBefore : ∀ a b, offset a = offset b → (dayjs.isBefore a b = true ↔ wall a < wall b)

/-- 1=Monday, 7=Sunday -/
def isoWeekday (days : Int) : Nat := if weekday days = 0 then 7 else (weekday days).toNat

/-- A day the subscription asks for. -/
def OnDay (sub : Subscription) (days : Int) : Prop :=
  match sub.frequency with
  | .daily => True
  | .weekly => sub.dayOfWeek = some (isoWeekday days)
  | .monthly => sub.dayOfMonth = some (civil days).day

/-- The clock is at the hour of the subscription, on a day it asks for. -/
def IsSlot (sub : Subscription) (wall : Int) : Prop :=
  wall % 86400000 = 3600000 * sub.hour ∧ OnDay sub (wall / 86400000)

/-- The days `CreateSubscriptionDto` lets a subscription of the frequency have. -/
structure DaysOk (sub : Subscription) : Prop where
  hour : sub.hour ≤ 23
  weekly : sub.frequency = .weekly → ∃ w, sub.dayOfWeek = some w ∧ 1 ≤ w ∧ w ≤ 7
  monthly : sub.frequency = .monthly → ∃ n, sub.dayOfMonth = some n ∧ 1 ≤ n ∧ n ≤ 28

/-! ### The day that is chosen -/

/-- The day of this week or this month that the subscription is set to. -/
def targetDay (sub : Subscription) (today : Int) : Int :=
  match sub.frequency with
  | .daily => today
  | .weekly =>
      today + ((((if sub.dayOfWeek = some 7 then some 0 else sub.dayOfWeek).getD 0 : Nat) : Int) -
        weekday today)
  | .monthly => inMonth today (sub.dayOfMonth.getD 0 : Nat)

/-- The day after it, by the frequency. -/
def moveOn (sub : Subscription) (days : Int) : Int :=
  match sub.frequency with
  | .daily => days + 1
  | .weekly => days + 7
  | .monthly => addMonth days

/-- The hour of the subscription is still to come on the day. -/
def Ahead (sub : Subscription) (wall days : Int) : Prop :=
  wall < 86400000 * days + 3600000 * sub.hour

theorem ahead_iff {sub : Subscription} (hhour : sub.hour ≤ 23) {wall days : Int} :
    Ahead sub wall days ↔ wall / 86400000 < days ∨
      wall / 86400000 = days ∧ wall / 3600000 % 24 < sub.hour := by
  unfold Ahead
  omega

section Chosen

variable {δ : Type} (dayjs : Dayjs δ)

/-- The test of `calculateNextSendAt`, by the frequency. -/
def hasPassed (sub : Subscription) (now next : δ) : Bool :=
  match sub.frequency with
  | .daily => decide (dayjs.hour now ≥ sub.hour)
  | _ =>
      dayjs.isBefore next now || (dayjs.isSameDay next now && decide (dayjs.hour now ≥ sub.hour))

/-- `next`, before it is moved on. -/
def setToDay (sub : Subscription) (next : δ) : δ :=
  match sub.frequency with
  | .daily => next
  | .weekly => dayjs.day next (if sub.dayOfWeek = some 7 then some 0 else sub.dayOfWeek)
  | .monthly => dayjs.date next sub.dayOfMonth

def movedOn (sub : Subscription) (next : δ) : δ :=
  match sub.frequency with
  | .daily => dayjs.addDay next
  | .weekly => dayjs.addWeek next
  | .monthly => dayjs.addMonth next

theorem calculateNextSendAt_eq (sub : Subscription) (time : Int) :
    calculateNextSendAt dayjs sub time =
      let now := dayjs.tz time sub.timezone
      let next := setToDay dayjs sub (dayjs.atHour now sub.hour)
      dayjs.utc (if hasPassed dayjs sub now next then movedOn dayjs sub next else next) := by
  unfold calculateNextSendAt setToDay hasPassed movedOn
  cases sub.frequency <;> simp

variable {dayjs} {wall offset : δ → Int}

namespace WallClock

variable (h : WallClock dayjs wall offset)
include h

theorem setToDay_wall (sub : Subscription) (hhour : sub.hour ≤ 23) (now : δ) :
    wall (setToDay dayjs sub (dayjs.atHour now sub.hour)) =
      86400000 * targetDay sub (wall now / 86400000) + 3600000 * sub.hour ∧
    offset (setToDay dayjs sub (dayjs.atHour now sub.hour)) = offset now := by
  have hwall := h.atHour now sub.hour
  have hday : wall (dayjs.atHour now sub.hour) / 86400000 = wall now / 86400000 := by omega
  unfold setToDay targetDay
  cases sub.frequency with
  | daily => exact ⟨by dsimp only; omega, h.offset_atHour _ _⟩
  | weekly =>
      refine ⟨?_, (h.offset_day _ _).trans (h.offset_atHour _ _)⟩
      dsimp only
      rw [h.day, hday]
      omega
  | monthly =>
      refine ⟨?_, (h.offset_date _ _).trans (h.offset_atHour _ _)⟩
      dsimp only
      rw [h.date, hday]
      unfold inMonth
      omega

theorem movedOn_wall (sub : Subscription) (next : δ) {days : Int} (hhour : sub.hour ≤ 23)
    (hnext : wall next = 86400000 * days + 3600000 * sub.hour) :
    wall (movedOn dayjs sub next) = 86400000 * moveOn sub days + 3600000 * sub.hour ∧
    offset (movedOn dayjs sub next) = offset next := by
  unfold movedOn moveOn
  cases sub.frequency with
  | daily => exact ⟨by dsimp only; rw [h.addDay]; omega, h.offset_addDay _⟩
  | weekly => exact ⟨by dsimp only; rw [h.addWeek]; omega, h.offset_addWeek _⟩
  | monthly =>
      refine ⟨?_, h.offset_addMonth _⟩
      have hday : wall next / 86400000 = days := by omega
      dsimp only
      rw [h.addMonth, hday]
      omega

/-- What `calculateNextSendAt` computes, on the clock of the timezone. -/
theorem calculateNextSendAt_wall (sub : Subscription) (hhour : sub.hour ≤ 23) (time : Int)
    {now : δ}
    (hnow : dayjs.tz time sub.timezone = now) :
    ∃ next, wall next = 86400000 * targetDay sub (wall now / 86400000) + 3600000 * sub.hour ∧
      offset next = offset now ∧
      calculateNextSendAt dayjs sub time + offset now = 3600000 * sub.hour + 86400000 *
        if hasPassed dayjs sub now next then moveOn sub (targetDay sub (wall now / 86400000))
          else targetDay sub (wall now / 86400000) := by
  obtain ⟨hwall, hoffset⟩ := h.setToDay_wall sub hhour now
  obtain ⟨hmoved, hmoved'⟩ := h.movedOn_wall sub _ hhour hwall
  refine ⟨_, hwall, hoffset, ?_⟩
  rw [calculateNextSendAt_eq, hnow]
  dsimp only
  rw [h.utc]
  split
  · omega
  · omega

/-- A day that is not passed is still to come. -/
theorem ahead_of_not_passed {sub : Subscription} (hhour : sub.hour ≤ 23) {now next : δ}
    (hnext : wall next = 86400000 * targetDay sub (wall now / 86400000) + 3600000 * sub.hour)
    (hoffset : offset next = offset now) (hpassed : hasPassed dayjs sub now next = false) :
    Ahead sub (wall now) (targetDay sub (wall now / 86400000)) := by
  have hday : wall next / 86400000 = targetDay sub (wall now / 86400000) := by omega
  have hclock := h.hour now
  have hother : (dayjs.isBefore next now ||
      (dayjs.isSameDay next now && decide (dayjs.hour now ≥ sub.hour))) = false →
      Ahead sub (wall now) (targetDay sub (wall now / 86400000)) := by
    intro hboth
    obtain ⟨hbefore, hsame⟩ := Bool.or_eq_false_iff.mp hboth
    rw [ahead_iff hhour]
    have hge : ¬wall next / 86400000 < wall now / 86400000 := fun hlt => by
      rw [h.isBefore_of_day _ _ hoffset hlt] at hbefore
      exact absurd hbefore (by decide)
    by_cases heq : wall next / 86400000 = wall now / 86400000
    · rw [(h.isSameDay _ _ hoffset).mpr heq, Bool.true_and, decide_eq_false_iff_not] at hsame
      omega
    · omega
  unfold hasPassed at hpassed
  cases hfreq : sub.frequency with
  | daily =>
      rw [hfreq] at hpassed
      have hhour' := of_decide_eq_false hpassed
      rw [ahead_iff hhour]
      unfold targetDay
      rw [hfreq]
      dsimp only
      omega
  | weekly => exact hother (by simpa [hfreq] using hpassed)
  | monthly => exact hother (by simpa [hfreq] using hpassed)

/-- A day before today is passed. -/
theorem passed_of_day {sub : Subscription} (hhour : sub.hour ≤ 23) {now next : δ}
    (hnext : wall next = 86400000 * targetDay sub (wall now / 86400000) + 3600000 * sub.hour)
    (hoffset : offset next = offset now)
    (hday : targetDay sub (wall now / 86400000) < wall now / 86400000) :
    hasPassed dayjs sub now next = true := by
  have hbefore := h.isBefore_of_day next now hoffset (by omega)
  unfold hasPassed
  cases hfreq : sub.frequency with
  | daily =>
      unfold targetDay at hday
      rw [hfreq] at hday
      exact absurd hday (lt_irrefl _)
  | weekly => simp [hbefore]
  | monthly => simp [hbefore]

end WallClock

/-! ### The earliest slot -/

namespace FixedOffset

variable {timezone : String} {ahead : Int} (h : FixedOffset dayjs wall offset timezone ahead)
include h

/-- In a timezone of one offset no other day is passed. -/
theorem passed_iff {sub : Subscription} (hhour : sub.hour ≤ 23) {now next : δ}
    (hnext : wall next = 86400000 * targetDay sub (wall now / 86400000) + 3600000 * sub.hour)
    (hoffset : offset next = offset now) :
    hasPassed dayjs sub now next = true ↔
      ¬Ahead sub (wall now) (targetDay sub (wall now / 86400000)) := by
  refine ⟨fun hpassed => ?_, fun hnot => ?_⟩
  · have hday : wall next / 86400000 = targetDay sub (wall now / 86400000) := by omega
    have hclock := h.hour now
    have hother : (dayjs.isBefore next now ||
        (dayjs.isSameDay next now && decide (dayjs.hour now ≥ sub.hour))) = true →
        ¬Ahead sub (wall now) (targetDay sub (wall now / 86400000)) := by
      intro hor
      rcases Bool.or_eq_true_iff.mp hor with hbefore | hsame
      · have hlt := (h.isBefore _ _ hoffset).mp hbefore
        unfold Ahead
        omega
      · obtain ⟨hsame, hlate⟩ := Bool.and_eq_true_iff.mp hsame
        have heq := (h.isSameDay _ _ hoffset).mp hsame
        have hlate' := of_decide_eq_true hlate
        rw [ahead_iff hhour]
        omega
    unfold hasPassed at hpassed
    cases hfreq : sub.frequency with
    | daily =>
        rw [hfreq] at hpassed
        have hlate := of_decide_eq_true hpassed
        rw [ahead_iff hhour]
        unfold targetDay
        rw [hfreq]
        dsimp only
        omega
    | weekly => exact hother (by simpa [hfreq] using hpassed)
    | monthly => exact hother (by simpa [hfreq] using hpassed)
  · by_contra hpassed
    exact hnot (h.ahead_of_not_passed hhour hnext hoffset (Bool.eq_false_iff.mpr hpassed))

end FixedOffset

end Chosen

/-! ### The days of a subscription -/

theorem targetDay_monthly {sub : Subscription} (hfreq : sub.frequency = .monthly) {n : Nat}
    (hday : sub.dayOfMonth = some n) (today : Int) : targetDay sub today = inMonth today n := by
  unfold targetDay
  rw [hfreq, hday]
  rfl

theorem targetDay_weekly {sub : Subscription} (hfreq : sub.frequency = .weekly) {w : Nat}
    (hday : sub.dayOfWeek = some w) (hw : w ≤ 7) (today : Int) :
    targetDay sub today = today + ((w : Int) % 7 - weekday today) := by
  unfold targetDay
  rw [hfreq, hday]
  dsimp only
  by_cases hsunday : w = 7
  · subst hsunday
    rfl
  · have hne : ¬some w = some 7 := fun heq => hsunday (Option.some.inj heq)
    simp only [if_neg hne, Option.getD_some]
    omega

theorem eq_isoWeekday {w : Nat} (h0 : 1 ≤ w) (h1 : w ≤ 7) (days : Int) :
    w = isoWeekday days ↔ weekday days = (w : Int) % 7 := by
  unfold isoWeekday weekday
  split <;> omega

/-- The day after the one of this week or this month is after today. -/
theorem lt_moveOn {sub : Subscription}
    (hday : sub.frequency = .monthly → 1 ≤ sub.dayOfMonth.getD 0) (today : Int) :
    today < moveOn sub (targetDay sub today) := by
  unfold moveOn targetDay
  cases hfreq : sub.frequency with
  | daily => exact Int.lt_succ today
  | weekly =>
      unfold weekday
      dsimp only
      omega
  | monthly =>
      dsimp only
      have hone := hday hfreq
      generalize sub.dayOfMonth.getD 0 = n at hone ⊢
      by_cases hn : n ≤ (civil today).day
      · -- the day is in this month, and in the next one a month later
        have hcivil := civil_inMonth today hone (le_trans hn (civil_valid today).day.2)
        refine lt_of_before ?_
        rw [civil_addMonth, hcivil]
        unfold Civil.following Civil.Before
        have hmonth := (civil_valid today).month
        split <;> dsimp only at * <;> omega
      · have hlater := lt_addMonth (inMonth today n)
        unfold inMonth at hlater ⊢
        omega

/-- The day of this week or this month, and the one after it, are days of the subscription. -/
theorem onDay_targetDay {sub : Subscription} (hdays : DaysOk sub) (today : Int) :
    OnDay sub (targetDay sub today) ∧ OnDay sub (moveOn sub (targetDay sub today)) := by
  unfold OnDay moveOn
  cases hfreq : sub.frequency with
  | daily => exact ⟨trivial, trivial⟩
  | weekly =>
      obtain ⟨w, hw, hw0, hw1⟩ := hdays.weekly hfreq
      rw [targetDay_weekly hfreq hw hw1, hw]
      dsimp only
      rw [Option.some.injEq, Option.some.injEq, eq_isoWeekday hw0 hw1, eq_isoWeekday hw0 hw1]
      unfold weekday
      omega
  | monthly =>
      obtain ⟨n, hn, hn0, hn1⟩ := hdays.monthly hfreq
      have hcivil := civil_inMonth today hn0 (le_trans hn1 (monthLength_bounds _ _).1)
      rw [targetDay_monthly hfreq hn, hn]
      dsimp only
      rw [civil_addMonth, hcivil]
      refine ⟨rfl, congrArg some ?_⟩
      have hlen := monthLength_bounds
        ((⟨(civil today).year, (civil today).month, n⟩ : Civil).following 1).year
        ((⟨(civil today).year, (civil today).month, n⟩ : Civil).following 1).month
      rw [Civil.following_day]
      dsimp only
      omega

/-- From today on, no day of the subscription is before the one of this week or this month. -/
theorem targetDay_le {sub : Subscription} (hdays : DaysOk sub) {today days : Int}
    (hon : OnDay sub days) (htoday : today ≤ days) : targetDay sub today ≤ days := by
  unfold OnDay at hon
  cases hfreq : sub.frequency with
  | daily =>
      unfold targetDay
      rw [hfreq]
      exact htoday
  | weekly =>
      obtain ⟨w, hw, hw0, hw1⟩ := hdays.weekly hfreq
      rw [hfreq, hw] at hon
      have hweekday := (eq_isoWeekday hw0 hw1 days).mp (Option.some.inj hon)
      rw [targetDay_weekly hfreq hw hw1]
      unfold weekday at hweekday ⊢
      omega
  | monthly =>
      obtain ⟨n, hn, hn0, hn1⟩ := hdays.monthly hfreq
      rw [hfreq, hn] at hon
      obtain rfl := Option.some.inj hon
      rw [targetDay_monthly hfreq hn]
      have hcivil := civil_inMonth today hn0 (le_trans hn1 (monthLength_bounds _ _).1)
      by_contra hlt
      have hbefore := civil_before (not_le.mp hlt)
      obtain ⟨hyear, hmonth⟩ := same_month (k := (civil days).day) htoday
        (by
          have hm := (civil_valid today).month
          rw [hcivil] at hbefore
          unfold Civil.following
          unfold Civil.Before at hbefore ⊢
          split <;> dsimp only at hbefore ⊢ <;> omega) (le_refl _)
      rw [hcivil] at hbefore
      unfold Civil.Before at hbefore
      dsimp only at hbefore
      omega

/-- No day of the subscription is between the two. -/
theorem moveOn_le {sub : Subscription} (hdays : DaysOk sub) {today days : Int}
    (hon : OnDay sub days) (hafter : targetDay sub today < days) :
    moveOn sub (targetDay sub today) ≤ days := by
  unfold OnDay at hon
  unfold moveOn
  cases hfreq : sub.frequency with
  | daily => exact hafter
  | weekly =>
      obtain ⟨w, hw, hw0, hw1⟩ := hdays.weekly hfreq
      rw [hfreq, hw] at hon
      have hweekday := (eq_isoWeekday hw0 hw1 days).mp (Option.some.inj hon)
      rw [targetDay_weekly hfreq hw hw1] at hafter ⊢
      unfold weekday at hweekday hafter ⊢
      dsimp only
      omega
  | monthly =>
      obtain ⟨n, hn, hn0, hn1⟩ := hdays.monthly hfreq
      rw [hfreq, hn] at hon
      obtain rfl := Option.some.inj hon
      rw [targetDay_monthly hfreq hn] at hafter ⊢
      have hcivil := civil_inMonth today hn0 (le_trans hn1 (monthLength_bounds _ _).1)
      by_contra hlt
      have hbefore := civil_before (not_le.mp hlt)
      rw [civil_addMonth] at hbefore
      obtain ⟨hyear, hmonth⟩ := same_month (le_of_lt hafter) hbefore (by
        rw [hcivil]
        exact Nat.min_le_left _ _)
      -- the same day of the same month
      refine absurd (show inMonth today (civil days).day = days from civil_injective ?_)
        (ne_of_lt hafter)
      rw [hcivil] at hyear hmonth ⊢
      rw [Civil.mk.injEq]
      exact ⟨hyear.symm, hmonth.symm, rfl⟩

section Earliest

variable {δ : Type} {dayjs : Dayjs δ} {wall offset : δ → Int}

/-- **In a timezone of one offset the next slot is the earliest one that is still to come.** -/
theorem calculateNextSendAt_earliest {timezone : String} {ahead : Int}
    (h : FixedOffset dayjs wall offset timezone ahead) {sub : Subscription}
    (hzone : sub.timezone = timezone) (hdays : DaysOk sub) (time : Int) :
    time < calculateNextSendAt dayjs sub time ∧
      IsSlot sub (calculateNextSendAt dayjs sub time + ahead) ∧
      ∀ t, time < t → IsSlot sub (t + ahead) → calculateNextSendAt dayjs sub time ≤ t := by
  have hhour := hdays.hour
  obtain ⟨next, hnext, hoffset, hresult⟩ :=
    h.calculateNextSendAt_wall sub hhour time (congrArg (dayjs.tz time) hzone)
  have hnow := h.tz time timezone
  rw [h.fixed] at hoffset hresult hnow
  have hpassed := h.passed_iff hhour hnext (hoffset.trans (h.fixed time).symm)
  rw [hnow] at hnext hresult hpassed
  generalize htoday : (time + ahead) / 86400000 = today at hnext hresult hpassed
  obtain ⟨hon, honNext⟩ := onDay_targetDay hdays today
  have hmoved : today < moveOn sub (targetDay sub today) := lt_moveOn (fun hmonthly => by
    obtain ⟨n, hn, hn0, -⟩ := hdays.monthly hmonthly
    rw [hn]
    exact hn0) today
  have hslot : ∀ {days : Int}, OnDay sub days →
      calculateNextSendAt dayjs sub time + ahead = 3600000 * sub.hour + 86400000 * days →
      IsSlot sub (calculateNextSendAt dayjs sub time + ahead) := by
    intro days honDay heq
    have hday : (calculateNextSendAt dayjs sub time + ahead) / 86400000 = days := by omega
    refine ⟨by omega, ?_⟩
    rw [hday]
    exact honDay
  cases htest : hasPassed dayjs sub (dayjs.tz time timezone) next with
  | false =>
      rw [htest] at hresult
      have hahead : Ahead sub (time + ahead) (targetDay sub today) := by
        by_contra hnot
        rw [hpassed.mpr hnot] at htest
        exact absurd htest (by decide)
      unfold Ahead at hahead
      refine ⟨by omega, hslot hon hresult, fun t ht ⟨hour, honDay⟩ => ?_⟩
      have hle := targetDay_le hdays honDay (show today ≤ _ by omega)
      simp only [Bool.false_eq_true, if_false] at hresult
      omega
  | true =>
      rw [htest, if_pos rfl] at hresult
      have hnot : ¬Ahead sub (time + ahead) (targetDay sub today) := hpassed.mp htest
      unfold Ahead at hnot
      refine ⟨by omega, hslot honNext hresult, fun t ht ⟨hour, honDay⟩ => ?_⟩
      have hle := moveOn_le hdays honDay (show targetDay sub today < _ by omega)
      omega

end Earliest

/-! ### A clock in fixed zones -/

/-- A time, by what is read off the clock and how far the clock is ahead of UTC. -/
structure Moment where
  wall : Int
  offset : Int
  deriving DecidableEq

/-- `dayjs` where every timezone has one offset. -/
def fixedZones (zones : String → Int) : Dayjs Moment where
  tz now timezone := ⟨now + zones timezone, zones timezone⟩
  hour d := (d.wall / 3600000 % 24).toNat
  atHour d hour := { d with wall := d.wall / 86400000 * 86400000 + 3600000 * hour }
  day d w := { d with wall := d.wall + 86400000 * ((w.getD 0 : Nat) - weekday (d.wall / 86400000)) }
  date d n := { d with
    wall := d.wall + 86400000 * ((n.getD 0 : Nat) - (civil (d.wall / 86400000)).day) }
  addDay d := { d with wall := d.wall + 86400000 }
  addWeek d := { d with wall := d.wall + 604800000 }
  addMonth d := { d with
    wall := 86400000 * addMonth (d.wall / 86400000) + d.wall % 86400000 }
  isBefore a b := a.wall - a.offset < b.wall - b.offset
  isSameDay a b := a.wall / 86400000 = (b.wall - b.offset + a.offset) / 86400000
  utc d := d.wall - d.offset

theorem fixedZones_fixedOffset (zones : String → Int) (timezone : String) :
    FixedOffset (fixedZones zones) Moment.wall Moment.offset timezone (zones timezone) where
  tz _ _ := rfl
  hour d := by
    show ((d.wall / 3600000 % 24).toNat : Int) = _
    omega
  atHour _ _ := rfl
  day _ _ := rfl
  date _ _ := rfl
  addDay _ := rfl
  addWeek _ := rfl
  addMonth _ := rfl
  utc _ := rfl
  offset_atHour _ _ := rfl
  offset_day _ _ := rfl
  offset_date _ _ := rfl
  offset_addDay _ := rfl
  offset_addWeek _ := rfl
  offset_addMonth _ := rfl
  isSameDay a b hoffset := by
    show decide (a.wall / 86400000 = (b.wall - b.offset + a.offset) / 86400000) = true ↔ _
    rw [decide_eq_true_iff, hoffset, Int.sub_add_cancel]
  isBefore_of_day a b hoffset hday := by
    show decide (a.wall - a.offset < b.wall - b.offset) = true
    rw [decide_eq_true_iff]
    omega
  fixed _ := rfl
  isBefore a b hoffset := by
    show decide (a.wall - a.offset < b.wall - b.offset) = true ↔ _
    rw [decide_eq_true_iff]
    omega

namespace SlotExample

/-- Two hours ahead of UTC in Kyiv. -/
def zones : String → Int
  | "Europe/Kyiv" => 7200000
  | _ => 0

/-- A report at eight in the morning of the 28th. -/
def monthly : Subscription :=
  { ReportExample.subscription "r1" with
    frequency := .monthly, dayOfMonth := some 28, timezone := "Europe/Kyiv" }

/-- At eight sharp on 28 December 2023 the next one is on 28 January 2024. -/
theorem monthly_earliest :
    calculateNextSendAt (fixedZones zones) monthly 1703743200000 = 1706421600000 ∧
      1703743200000 < calculateNextSendAt (fixedZones zones) monthly 1703743200000 ∧
      IsSlot monthly (calculateNextSendAt (fixedZones zones) monthly 1703743200000 + 7200000) ∧
      ∀ t, 1703743200000 < t → IsSlot monthly (t + 7200000) →
        calculateNextSendAt (fixedZones zones) monthly 1703743200000 ≤ t :=
  ⟨by decide, calculateNextSendAt_earliest (fixedZones_fixedOffset zones "Europe/Kyiv")
    rfl ⟨by decide, by decide, fun _ => ⟨28, rfl, by decide⟩⟩ 1703743200000⟩

end SlotExample

end Veridian.Subscriptions
