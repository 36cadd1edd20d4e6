/-
Which partitions a backfill task mutates.

`generateDateChunks` steps through the lookback by `chunk_size_days`, and a chunk mutates
the daily events partition of its own day, if the day is within the TTL, and the monthly
sessions and goals partitions of its own month.  Nothing is done for the days a step
passes over.

Dates at UTC midnight are counted in days, instants in milliseconds, from 1970-01-01.
-/
import Mathlib
import Veridian.Lib.Calendar

namespace Veridian

def MS_PER_DAY : Int := 24 * 60 * 60 * 1000

def EVENTS_TTL_DAYS : Int := 7

/-- The UTC day of an instant. -/
def utcDay (instant : Int) : Int := instant / MS_PER_DAY

/-! ### Partitions -/

/-- `String(n).padStart(2, '0')` -/
def padStart2 (n : Nat) : String := if n < 10 then "0" ++ toString n else toString n

def formatMonthlyPartition (date : Int) : String :=
  let date := Calendar.civil date
  toString date.year ++ padStart2 date.month

def formatEventPartition (date : Int) : String :=
  formatMonthlyPartition date ++ padStart2 (Calendar.civil date).day

/-! ### The processor -/

/-- `while (current <= endUTC)` -/
def chunksFrom (chunkSizeDays : Nat) (endUTC : Int) : Nat → Int → List Int
  | 0, _ => []
  | fuel + 1, current =>
      if current ≤ endUTC then
        current :: chunksFrom chunkSizeDays endUTC fuel (current + chunkSizeDays)
      else []

/-- The days of the chunks.  A step is one day at least, so `lookbackDays` rounds do. -/
def generateDateChunks (lookbackDays chunkSizeDays endDate : Nat) : List Int :=
  let endUTC := utcDay endDate
  let startUTC := endUTC - lookbackDays + 1
  chunksFrom chunkSizeDays endUTC lookbackDays startUTC

def isWithinEventsTTL (now : Nat) (date : Int) : Bool :=
  (now : Int) - EVENTS_TTL_DAYS * MS_PER_DAY ≤ date * MS_PER_DAY

/-- The partitions mutated so far.  Those of sessions and goals are also what the task
keeps in `processedSessionPartitions` and `processedGoalPartitions`. -/
structure Mutated where
  events : List String := []
  sessions : List String := []
  goals : List String := []

/-- A partition that has been processed already is left alone. -/
def mutateOnce (partition : String) (processed : List String) : List String :=
  if partition ∈ processed then processed else processed ++ [partition]

theorem mem_mutateOnce {x p : String} {processed : List String} :
    x ∈ mutateOnce p processed ↔ x ∈ processed ∨ x = p := by
  unfold mutateOnce
  by_cases h : p ∈ processed
  · rw [if_pos h]
    exact ⟨Or.inl, fun hx => hx.elim id fun heq => heq ▸ h⟩
  · simp [h]

namespace Mutated

def processEventsForDate (m : Mutated) (date : Int) : Mutated :=
  { m with events := m.events ++ [formatEventPartition date] }

def processSessionsForDate (m : Mutated) (date : Int) : Mutated :=
  { m with sessions := mutateOnce (formatMonthlyPartition date) m.sessions }

def processGoalsForDate (m : Mutated) (date : Int) : Mutated :=
  { m with goals := mutateOnce (formatMonthlyPartition date) m.goals }

def processDateChunk (now : Nat) (m : Mutated) (date : Int) : Mutated :=
  let m := if isWithinEventsTTL now date then m.processEventsForDate date else m
  (m.processSessionsForDate date).processGoalsForDate date

end Mutated

/-- The loop of `processInternal`, when no chunk fails and the task is not cancelled.
`now date` is what the clock shows while the chunk of `date` is processed. -/
def processChunks (lookbackDays chunkSizeDays endDate : Nat) (now : Int → Nat) : Mutated :=
  (generateDateChunks lookbackDays chunkSizeDays endDate).foldl
    (fun m date => m.processDateChunk (now date) date) {}

/-! ### What is mutated -/

theorem mem_chunksFrom {c : Nat} {endUTC : Int} (hc : 1 ≤ c) {d : Int} :
    ∀ {fuel : Nat} {current : Int}, endUTC - current < fuel →
      (d ∈ chunksFrom c endUTC fuel current ↔ ∃ k : Nat, d = current + k * c ∧ d ≤ endUTC) := by
  intro fuel
  induction fuel with
  | zero =>
      intro current hfuel
      refine ⟨fun h => absurd h List.not_mem_nil, ?_⟩
      rintro ⟨k, rfl, hle⟩
      have hk : (0 : Int) ≤ k * c := by positivity
      omega
  | succ fuel ih =>
      intro current hfuel
      rw [chunksFrom]
      by_cases hle : current ≤ endUTC
      · rw [if_pos hle, List.mem_cons, ih (by omega)]
        constructor
        · rintro (rfl | ⟨k, rfl, hk⟩)
          · exact ⟨0, by simp, hle⟩
          · exact ⟨k + 1, by push_cast; ring, hk⟩
        · rintro ⟨k, rfl, hk⟩
          cases k with
          | zero => exact Or.inl (by simp)
          | succ k => exact Or.inr ⟨k, by push_cast; ring, hk⟩
      · rw [if_neg hle]
        refine ⟨fun h => absurd h List.not_mem_nil, ?_⟩
        rintro ⟨k, rfl, hk⟩
        have hpos : (0 : Int) ≤ k * c := by positivity
        omega

theorem mem_generateDateChunks {lookback c endDate : Nat} (hc : 1 ≤ c) {d : Int} :
    d ∈ generateDateChunks lookback c endDate ↔
      ∃ k : Nat, d = utcDay endDate - lookback + 1 + k * c ∧ d ≤ utcDay endDate :=
  mem_chunksFrom hc (by omega)

/-- A week in steps of three days, on the eighth. -/
example : generateDateChunks 7 3 (7 * 86_400_000) = [1, 4, 7] := by decide +kernel

theorem mem_processDateChunk_events {now : Nat} {m : Mutated} {date : Int} {x : String} :
    x ∈ (m.processDateChunk now date).events ↔
      x ∈ m.events ∨ isWithinEventsTTL now date = true ∧ x = formatEventPartition date := by
  show x ∈ (if isWithinEventsTTL now date then m.processEventsForDate date else m).events ↔ _
  by_cases h : isWithinEventsTTL now date = true
  · simp [h, Mutated.processEventsForDate]
  · simp [h]

theorem processDateChunk_sessions (now : Nat) (m : Mutated) (date : Int) :
    (m.processDateChunk now date).sessions =
      mutateOnce (formatMonthlyPartition date) m.sessions := by
  unfold Mutated.processDateChunk
  split <;> rfl

theorem processDateChunk_goals (now : Nat) (m : Mutated) (date : Int) :
    (m.processDateChunk now date).goals = mutateOnce (formatMonthlyPartition date) m.goals := by
  unfold Mutated.processDateChunk
  split <;> rfl

/-- What a loop over dates adds to one of the three lists. -/
theorem mem_foldl_dates {select : Mutated → List String} {adds : Int → String → Prop}
    {f : Mutated → Int → Mutated}
    (hf : ∀ m date x, x ∈ select (f m date) ↔ x ∈ select m ∨ adds date x) {x : String} :
    ∀ {dates : List Int} {m : Mutated},
      x ∈ select (dates.foldl f m) ↔ x ∈ select m ∨ ∃ date ∈ dates, adds date x := by
  intro dates
  induction dates with
  | nil => intro m; simp
  | cons date rest ih =>
      intro m
      rw [List.foldl_cons, ih, hf, or_assoc, List.exists_mem_cons_iff]

theorem mem_events_processChunks {lookback c endDate : Nat} {now : Int → Nat} {x : String} :
    x ∈ (processChunks lookback c endDate now).events ↔
      ∃ date ∈ generateDateChunks lookback c endDate,
        isWithinEventsTTL (now date) date = true ∧ x = formatEventPartition date := by
  have hstep : ∀ (m : Mutated) (date : Int) (x : String),
      x ∈ (m.processDateChunk (now date) date).events ↔ x ∈ m.events ∨
        isWithinEventsTTL (now date) date = true ∧ x = formatEventPartition date :=
    fun m date x => mem_processDateChunk_events
  unfold processChunks
  rw [mem_foldl_dates hstep]
  simp

theorem mem_sessions_processChunks {lookback c endDate : Nat} {now : Int → Nat} {x : String} :
    x ∈ (processChunks lookback c endDate now).sessions ↔
      ∃ date ∈ generateDateChunks lookback c endDate, x = formatMonthlyPartition date := by
  unfold processChunks
  rw [mem_foldl_dates fun m date x => by rw [processDateChunk_sessions, mem_mutateOnce]]
  simp

theorem mem_goals_processChunks {lookback c endDate : Nat} {now : Int → Nat} {x : String} :
    x ∈ (processChunks lookback c endDate now).goals ↔
      ∃ date ∈ generateDateChunks lookback c endDate, x = formatMonthlyPartition date := by
  unfold processChunks
  rw [mem_foldl_dates fun m date x => by rw [processDateChunk_goals, mem_mutateOnce]]
  simp

/-! ### Partition names -/

theorem padStart2_length {n : Nat} (h : n ≤ 31) : (padStart2 n).toList.length = 2 := by
  have hall : ∀ k ≤ 31, (padStart2 k).toList.length = 2 := by decide
  exact hall n h

theorem padStart2_injective {m n : Nat} (hm : m ≤ 31) (hn : n ≤ 31)
    (h : padStart2 m = padStart2 n) : m = n := by
  have hall : ∀ i ≤ 31, ∀ j ≤ 31, padStart2 i = padStart2 j → i = j := by decide
  exact hall m hm n hn h

/-- A text that ends in a two-digit number splits one way only. -/
theorem append_padStart2_injective {a b : String} {m n : Nat} (hm : m ≤ 31) (hn : n ≤ 31)
    (h : a ++ padStart2 m = b ++ padStart2 n) : a = b ∧ m = n := by
  have hlists := congrArg String.toList h
  rw [String.toList_append, String.toList_append] at hlists
  have hlen : (padStart2 m).toList.length = (padStart2 n).toList.length := by
    rw [padStart2_length hm, padStart2_length hn]
  obtain ⟨ha, hp⟩ := List.append_inj' hlists hlen
  exact ⟨String.toList_inj.mp ha, padStart2_injective hm hn (String.toList_inj.mp hp)⟩

/-- Every day has a partition of its own. -/
theorem formatEventPartition_injective {d d' : Int}
    (h : formatEventPartition d = formatEventPartition d') : d = d' := by
  obtain ⟨⟨-, hm⟩, -, hd⟩ := Calendar.civil_bounds d
  obtain ⟨⟨-, hm'⟩, -, hd'⟩ := Calendar.civil_bounds d'
  obtain ⟨hmonthly, hday⟩ := append_padStart2_injective hd hd' h
  obtain ⟨hyear, hmonth⟩ := append_padStart2_injective (by omega) (by omega) hmonthly
  refine Calendar.civil_injective ?_
  rw [Calendar.Civil.mk.injEq]
  exact ⟨Int.repr_injective hyear, hmonth, hday⟩

/-! ### Coverage -/

/-- The last `lookbackDays` days. -/
def InLookback (lookbackDays endDate : Nat) (day : Int) : Prop :=
  utcDay endDate - lookbackDays < day ∧ day ≤ utcDay endDate

/-- Some event received that day is not past `toDateTime(received_at) + INTERVAL 7 DAY`. -/
def HasLiveEvents (now : Nat) (day : Int) : Prop :=
  ∃ receivedAt : Int, utcDay receivedAt = day ∧
    (now : Int) < receivedAt / 1000 * 1000 + EVENTS_TTL_DAYS * MS_PER_DAY

theorem hasLiveEvents_iff {now : Nat} {day : Int} :
    HasLiveEvents now day ↔ (now : Int) < (day + 8) * MS_PER_DAY - 1000 := by
  unfold HasLiveEvents utcDay EVENTS_TTL_DAYS MS_PER_DAY
  constructor
  · rintro ⟨receivedAt, hday, hlt⟩
    omega
  · intro hlt
    exact ⟨(day + 1) * 86400000 - 1000, by omega, by omega⟩

/-- Every partition of the lookback has been mutated. -/
structure Covered (lookbackDays endDate : Nat) (m : Mutated) : Prop where
  sessions : ∀ day, InLookback lookbackDays endDate day → formatMonthlyPartition day ∈ m.sessions
  goals : ∀ day, InLookback lookbackDays endDate day → formatMonthlyPartition day ∈ m.goals
  events : ∀ day, InLookback lookbackDays endDate day → HasLiveEvents endDate day →
    formatEventPartition day ∈ m.events

/-- A day of the lookback is a chunk of its own when no step passes over one. -/
theorem mem_chunks_of_inLookback {lookback c endDate : Nat} (hc : 1 ≤ c)
    (hstep : lookback = 1 ∨ c = 1) {day : Int} (hday : InLookback lookback endDate day) :
    day ∈ generateDateChunks lookback c endDate := by
  obtain ⟨hlow, hhigh⟩ := hday
  rw [mem_generateDateChunks hc]
  rcases hstep with rfl | rfl
  · exact ⟨0, by push_cast; omega, hhigh⟩
  · refine ⟨(day - (utcDay endDate - lookback + 1)).toNat, ?_, hhigh⟩
    push_cast
    omega

/-- Two neighbouring days are chunks only if the step is one day. -/
theorem step_eq_one {lookback c endDate : Nat} (hc : 1 ≤ c) {day : Int}
    (h : day ∈ generateDateChunks lookback c endDate)
    (h' : day - 1 ∈ generateDateChunks lookback c endDate) : c = 1 := by
  obtain ⟨k, hk, -⟩ := (mem_generateDateChunks hc).mp h
  obtain ⟨k', hk', -⟩ := (mem_generateDateChunks hc).mp h'
  have hdvd : (c : Int) ∣ 1 := ⟨k - k', by rw [mul_sub, mul_comm, mul_comm (c : Int)]; omega⟩
  have hle := Int.le_of_dvd one_pos hdvd
  omega

/-- An events partition is mutated by the chunk of its own day, within the TTL. -/
theorem mem_events_iff {lookback c endDate : Nat} {now : Int → Nat} {day : Int} :
    formatEventPartition day ∈ (processChunks lookback c endDate now).events ↔
      day ∈ generateDateChunks lookback c endDate ∧
        (now day : Int) ≤ (day + EVENTS_TTL_DAYS) * MS_PER_DAY := by
  have hwithin : ∀ day, isWithinEventsTTL (now day) day = true ↔
      (now day : Int) ≤ (day + EVENTS_TTL_DAYS) * MS_PER_DAY := by
    intro day
    unfold isWithinEventsTTL
    rw [decide_eq_true_iff, add_mul, sub_le_iff_le_add]
  rw [mem_events_processChunks]
  constructor
  · rintro ⟨date, hdate, httl, hname⟩
    obtain rfl := formatEventPartition_injective hname
    exact ⟨hdate, (hwithin _).mp httl⟩
  · rintro ⟨hdate, httl⟩
    exact ⟨day, hdate, (hwithin day).mpr httl, rfl⟩

theorem covered_iff {lookback c endDate : Nat} (hlookback : 1 ≤ lookback) (hc : 1 ≤ c)
    {now : Int → Nat} :
    Covered lookback endDate (processChunks lookback c endDate now) ↔
      (lookback = 1 ∨ c = 1) ∧
        ∀ day, InLookback lookback endDate day → HasLiveEvents endDate day →
          (now day : Int) ≤ (day + EVENTS_TTL_DAYS) * MS_PER_DAY := by
  constructor
  · intro h
    refine ⟨?_, fun day hday hlive => (mem_events_iff.mp (h.events day hday hlive)).2⟩
    by_cases hone : lookback = 1
    · exact Or.inl hone
    have hlast : ∀ k : Int, 0 ≤ k → k ≤ 1 →
        utcDay endDate - k ∈ generateDateChunks lookback c endDate := by
      intro k h0 h1
      refine (mem_events_iff.mp (h.events _ ⟨by omega, by omega⟩ (hasLiveEvents_iff.mpr ?_))).1
      unfold utcDay MS_PER_DAY
      omega
    have h0 := hlast 0 le_rfl zero_le_one
    rw [sub_zero] at h0
    exact Or.inr (step_eq_one hc h0 (hlast 1 zero_le_one le_rfl))
  · rintro ⟨hstep, httl⟩
    have hmem : ∀ day, InLookback lookback endDate day → _ := fun day hday =>
      mem_chunks_of_inLookback hc hstep hday
    refine ⟨fun day hday => ?_, fun day hday => ?_, fun day hday hlive => ?_⟩
    · exact mem_sessions_processChunks.mpr ⟨day, hmem day hday, rfl⟩
    · exact mem_goals_processChunks.mpr ⟨day, hmem day hday, rfl⟩
    · exact mem_events_iff.mpr ⟨hmem day hday, httl day hday hlive⟩

/--
**Coverage of the lookback.**

The partitions of the last `lookbackDays` days are all mutated exactly when chunks are
one day long, or the lookback is, and the chunk of every day that has live events is
processed at most seven days after its midnight.
-/
theorem backfill_covers_lookback_iff (lookback c endDate : Nat) (hlookback : 1 ≤ lookback)
    (hc : 1 ≤ c) (now : Int → Nat) :
    Covered lookback endDate (processChunks lookback c endDate now) ↔
      (lookback = 1 ∨ c = 1) ∧
        ∀ day, InLookback lookback endDate day → HasLiveEvents endDate day →
          (now day : Int) ≤ (day + EVENTS_TTL_DAYS) * MS_PER_DAY :=
  covered_iff hlookback hc

theorem backfill_covers_lookback_week :
    1 ≤ 7 ∧ 1 ≤ 1 ∧ Covered 7 1772366400000 (processChunks 7 1 1772366400000 fun _ =>
      1772366400000) := by
  refine ⟨by decide, by decide, ?_⟩
  refine (backfill_covers_lookback_iff 7 1 _ (by decide) (by decide) _).mpr ⟨Or.inr rfl, ?_⟩
  intro day hin _
  unfold InLookback utcDay at hin
  unfold EVENTS_TTL_DAYS MS_PER_DAY at *
  omega

/-- Chunks of 30 days from 2026-01-30 pass over February, and the events of the eighth day
back are cut off at noon. -/
theorem backfill_leaves_days_out :
    ¬Covered 31 1772366400000 (processChunks 31 30 1772366400000 fun _ => 1772366400000) ∧
    ¬Covered 8 1772366400000 (processChunks 8 1 1772366400000 fun _ => 1772366400000) := by
  constructor
  · intro h
    have hfebruary := h.sessions 20500 (by unfold InLookback utcDay MS_PER_DAY; omega)
    exact absurd hfebruary (by decide)
  · intro h
    have heighth := h.events 20506 (by unfold InLookback utcDay MS_PER_DAY; omega)
      (hasLiveEvents_iff.mpr (by unfold MS_PER_DAY; omega))
    exact absurd heighth (by decide)

/-- With a clock that stands still, the days the TTL cuts off are the only ones left out. -/
theorem backfill_covers_lookback_at_iff (lookback c endDate : Nat) (hlookback : 1 ≤ lookback)
    (hc : 1 ≤ c) :
    Covered lookback endDate (processChunks lookback c endDate fun _ => endDate) ↔
      lookback = 1 ∨ c = 1 ∧ (lookback ≤ 7 ∨ (endDate : Int) % MS_PER_DAY = 0 ∨
        MS_PER_DAY - 1000 ≤ (endDate : Int) % MS_PER_DAY) := by
  rw [covered_iff hlookback hc]
  have hday : (∀ day, InLookback lookback endDate day → HasLiveEvents endDate day →
      (endDate : Int) ≤ (day + EVENTS_TTL_DAYS) * MS_PER_DAY) ↔
      lookback ≤ 7 ∨ (endDate : Int) % MS_PER_DAY = 0 ∨
        MS_PER_DAY - 1000 ≤ (endDate : Int) % MS_PER_DAY := by
    simp only [hasLiveEvents_iff, InLookback, utcDay, EVENTS_TTL_DAYS, MS_PER_DAY]
    constructor
    · intro h
      have hcut := h ((endDate : Int) / 86400000 - 7)
      omega
    · intro h day hin hlive
      omega
  rw [hday]
  omega

end Veridian
