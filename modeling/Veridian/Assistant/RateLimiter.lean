/-
The limits of an assistant integration.

`rate-limiter.ts` keeps two counters for an integration, the requests of the hour and the
tokens of the day, and one instant, `last_reset`, at which they were last set back.  The
hourly branch of `maybeResetCounters` sets back the requests alone and moves the instant of
both, so an integration that is used every few hours never reaches the daily branch and
its tokens add up for ever.  A request is counted by `updateUsage`, when its job has ended
well: the ones that wait, that run or that have failed are in no counter.

A state holds, beside the stored entry, what the limits are about: the jobs with the
instants they were accepted at, the usage that was recorded, and the refusals for the daily
limit with the tokens recorded in the 24 hours before.  `counted` says of a job and of a
recorded usage whether the entry still counts it.
-/
import Mathlib.Algebra.Ring.Nat
import Veridian.Lib.Machine
import Veridian.Lib.Window
import Mathlib.Algebra.Order.BigOperators.Group.List
import Mathlib.Algebra.Order.Group.Nat

namespace Veridian.RateLimiter

structure IntegrationLimits where
  max_requests_per_hour : Nat
  max_tokens_per_day : Nat

structure UsageEntry where
  requests_this_hour : Nat
  tokens_today : Nat
  last_reset : Int
  deriving DecidableEq

/-- Instants are milliseconds, as `Date.getTime` has them. -/
def hour : Int := 1000 * 60 * 60

/-- The stored entry, or the one that is made for an integration without any. -/
def getUsage (stored : Option UsageEntry) (now : Int) : UsageEntry :=
  stored.getD ⟨0, 0, now⟩

def maybeResetCounters (entry : UsageEntry) (now : Int) : UsageEntry :=
  if 24 * hour ≤ now - entry.last_reset then
    ⟨0, 0, now⟩
  else if hour ≤ now - entry.last_reset then
    -- the instant of the daily counter moves too
    { entry with requests_this_hour := 0, last_reset := now }
  else
    entry

structure RateLimitException where
  message : String
  retry_after : Option Int
  deriving DecidableEq

/-- `secondsUntilReset` is the floating point value of `Math.ceil((1 - hoursSinceReset) * 3600)`
at the milliseconds since `last_reset`. -/
def hourlyLimitExceeded (secondsUntilReset : Int → Int) (elapsed : Int) : RateLimitException :=
  ⟨"Rate limit exceeded. Try again in " ++ toString (secondsUntilReset elapsed) ++ " seconds.",
    some (secondsUntilReset elapsed)⟩

def dailyLimitExceeded : RateLimitException :=
  ⟨"Daily token limit exceeded. Try again tomorrow.", none⟩

/-- The entry as it is stored afterwards, and whether the request may go on. -/
def checkRateLimits (secondsUntilReset : Int → Int) (limits : IntegrationLimits)
    (stored : Option UsageEntry) (now : Int) : UsageEntry × Except RateLimitException Unit :=
  let entry := maybeResetCounters (getUsage stored now) now
  (entry,
    if limits.max_requests_per_hour ≤ entry.requests_this_hour then
      .error (hourlyLimitExceeded secondsUntilReset (now - entry.last_reset))
    else if limits.max_tokens_per_day ≤ entry.tokens_today then
      .error dailyLimitExceeded
    else
      .ok ())

def updateUsage (stored : Option UsageEntry) (tokensUsed : Nat) (now : Int) : UsageEntry :=
  let entry := maybeResetCounters (getUsage stored now) now
  { entry with
    requests_this_hour := entry.requests_this_hour + 1
    tokens_today := entry.tokens_today + tokensUsed }

/-! ### Runs -/

structure Job where
  accepted : Int
  started : Bool
  counted : Bool
  deriving DecidableEq

structure Usage where
  instant : Int
  tokens : Nat
  counted : Bool
  deriving DecidableEq

def tokensOf (usages : List Usage) : Nat := (usages.map Usage.tokens).sum

/-- The tokens recorded in the 24 hours before `now`. -/
def recentTokens (usages : List Usage) (now : Int) : Nat :=
  tokensOf (usages.filter fun u => now - 24 * hour < u.instant)

structure DailyRefusal where
  instant : Int
  recent : Nat
  deriving DecidableEq

structure State where
  clock : Int
  entry : Option UsageEntry
  jobs : List Job
  usages : List Usage
  refusals : List DailyRefusal
  deriving DecidableEq

/-- The process has just started. -/
def State.initial (clock : Int) : State := ⟨clock, none, [], [], []⟩

inductive Call where
  /-- `createJob`, which stops where `checkRateLimits` throws. -/
  | createJob (now : Int)
  /-- The `i`-th job is handed to `processJob`. -/
  | start (now : Int) (i : Nat)
  /-- The processing of the `i`-th job reaches `updateUsage`. -/
  | finish (now : Int) (i : Nat) (tokensUsed : Nat)
  deriving DecidableEq

def Call.now : Call → Int
  | .createJob now | .start now _ | .finish now _ _ => now

/-- What the counters have let go of when they have been set back at `now`. -/
def State.reset (s : State) (now : Int) : State :=
  let elapsed := now - (getUsage s.entry now).last_reset
  { s with
    clock := now
    entry := some (maybeResetCounters (getUsage s.entry now) now)
    jobs := if hour ≤ elapsed then s.jobs.map ({ · with counted := false }) else s.jobs
    usages :=
      if 24 * hour ≤ elapsed then s.usages.map ({ · with counted := false }) else s.usages }

/-- The answer of `checkRateLimits`, written down. -/
def State.answered (s : State) (now : Int) : Except RateLimitException Unit → State
  | .ok () => { s with jobs := s.jobs ++ [⟨now, false, false⟩] }
  | .error e =>
      if e.retry_after.isSome then s
      else { s with refusals := s.refusals ++ [⟨now, recentTokens s.usages now⟩] }

def step (secondsUntilReset : Int → Int) (limits : IntegrationLimits) (s : State) (a : Call) :
    Option State :=
  if s.clock ≤ a.now then
    match a with
    | .createJob now =>
        let (entry, answer) := checkRateLimits secondsUntilReset limits s.entry now
        some ({ s.reset now with entry := some entry }.answered now answer)
    | .start now i =>
        (s.jobs[i]?).map fun job =>
          { s with clock := now, jobs := s.jobs.set i { job with started := true } }
    | .finish now i tokensUsed =>
        let entry := updateUsage s.entry tokensUsed now
        ((s.reset now).jobs[i]?).bind fun job =>
          if job.started then
            some { s.reset now with
              entry := some entry
              jobs := (s.reset now).jobs.set i { job with counted := true }
              usages := (s.reset now).usages ++ [⟨now, tokensUsed, true⟩] }
          else
            none
  else
    none

/-- **Honest limits**: a refusal for the daily limit has the tokens of the day behind it, and
no hour holds more started jobs than the hourly limit. -/
structure Honest (limits : IntegrationLimits) (s : State) : Prop where
  daily : ∀ r ∈ s.refusals, limits.max_tokens_per_day ≤ r.recent
  hourly : Window.Capped limits.max_requests_per_hour hour
    ((s.jobs.filter Job.started).map Job.accepted)

/-- The requests of the last hour that `requests_this_hour` leaves out. -/
def State.uncounted (s : State) : Nat :=
  s.jobs.countP fun job => !job.counted && s.clock - hour < job.accepted

/-- Where the tokens would refuse a request, `tokens_today` counts nothing that is older than
24 hours; and where nothing would refuse it, the requests of the last hour that
`requests_this_hour` leaves out leave room for one more. -/
def Counted (limits : IntegrationLimits) (s : State) : Prop :=
  let entry := getUsage s.entry s.clock
  entry.requests_this_hour < limits.max_requests_per_hour →
    (limits.max_tokens_per_day ≤ entry.tokens_today →
      ∀ u ∈ s.usages, u.counted → s.clock - 24 * hour < u.instant) ∧
    (entry.tokens_today < limits.max_tokens_per_day →
      entry.requests_this_hour + s.uncounted < limits.max_requests_per_hour)

instance (limits : IntegrationLimits) (s : State) : Decidable (Counted limits s) :=
  inferInstanceAs (Decidable (_ → _))

/-- What is asked of a call: that the counters, once set back, are not misled. -/
def NotMisled (limits : IntegrationLimits) (s : State) : Call → Prop
  | .createJob now => Counted limits (s.reset now)
  | .start _ _ | .finish _ _ _ => True

instance (limits : IntegrationLimits) (s : State) : ∀ a, Decidable (NotMisled limits s a)
  | .createJob now => inferInstanceAs (Decidable (Counted limits (s.reset now)))
  | .start _ _ | .finish _ _ _ => isTrue trivial

/-! ### What the counters count -/

theorem getUsage_some (entry : UsageEntry) (now : Int) : getUsage (some entry) now = entry := rfl

/-- The three branches of `maybeResetCounters`. -/
theorem maybeResetCounters_cases (entry : UsageEntry) (now : Int) :
    (24 * hour ≤ now - entry.last_reset ∧ maybeResetCounters entry now = ⟨0, 0, now⟩) ∨
    (¬24 * hour ≤ now - entry.last_reset ∧ hour ≤ now - entry.last_reset ∧
      maybeResetCounters entry now =
        { entry with requests_this_hour := 0, last_reset := now }) ∨
    (¬24 * hour ≤ now - entry.last_reset ∧ ¬hour ≤ now - entry.last_reset ∧
      maybeResetCounters entry now = entry) := by
  unfold maybeResetCounters
  by_cases hday : 24 * hour ≤ now - entry.last_reset
  · exact Or.inl ⟨hday, if_pos hday⟩
  · rw [if_neg hday]
    by_cases hhour : hour ≤ now - entry.last_reset
    · exact Or.inr (Or.inl ⟨hday, hhour, if_pos hhour⟩)
    · exact Or.inr (Or.inr ⟨hday, hhour, if_neg hhour⟩)

theorem tokensOf_append (us vs : List Usage) :
    tokensOf (us ++ vs) = tokensOf us + tokensOf vs := by
  simp [tokensOf]

/-- What the counters count is there, and no job has been accepted later than now. -/
structure Tracks (s : State) : Prop where
  requests : ∀ now, s.jobs.countP Job.counted ≤ (getUsage s.entry now).requests_this_hour
  tokens : ∀ now, (getUsage s.entry now).tokens_today = tokensOf (s.usages.filter Usage.counted)
  accepted : ∀ t ∈ s.jobs.map Job.accepted, t ≤ s.clock

theorem tracks_initial (clock : Int) : Tracks (State.initial clock) where
  requests _ := Nat.le_refl 0
  tokens _ := rfl
  accepted _ ht := absurd ht List.not_mem_nil

@[simp] theorem reset_accepted (s : State) (now : Int) :
    (s.reset now).jobs.map Job.accepted = s.jobs.map Job.accepted := by
  simp only [State.reset]
  split
  · simp [Function.comp_def]
  · rfl

@[simp] theorem reset_started (s : State) (now : Int) :
    ((s.reset now).jobs.filter Job.started).map Job.accepted =
      (s.jobs.filter Job.started).map Job.accepted := by
  simp only [State.reset]
  split
  · simp [List.filter_map, Function.comp_def]
  · rfl

theorem countP_forgotten (jobs : List Job) :
    (jobs.map ({ · with counted := false })).countP Job.counted = 0 := by
  simp [List.countP_eq_zero]

theorem filter_forgotten (usages : List Usage) :
    (usages.map ({ · with counted := false })).filter Usage.counted = [] := by
  simp [List.filter_eq_nil_iff]

/-- Setting the counters back keeps what they count. -/
theorem tracks_reset {s : State} {now : Int} (hs : Tracks s) (hclock : s.clock ≤ now) :
    Tracks (s.reset now) := by
  refine ⟨fun later => ?_, fun later => ?_, fun t ht => ?_⟩
  · have hrequests := hs.requests now
    simp only [State.reset, getUsage_some]
    rcases maybeResetCounters_cases (getUsage s.entry now) now with
      ⟨hday, h⟩ | ⟨-, hhour, h⟩ | ⟨-, hhour, h⟩
    · rw [h, if_pos (by simp only [hour] at hday ⊢; omega), countP_forgotten]
    · rw [h, if_pos hhour, countP_forgotten]
    · rw [h, if_neg hhour]
      exact hrequests
  · have htokens := hs.tokens now
    simp only [State.reset, getUsage_some]
    rcases maybeResetCounters_cases (getUsage s.entry now) now with
      ⟨hday, h⟩ | ⟨hday, -, h⟩ | ⟨hday, -, h⟩
    · rw [h, if_pos hday, filter_forgotten]
      rfl
    · rw [h, if_neg hday]
      exact htokens
    · rw [h, if_neg hday]
      exact htokens
  · rw [reset_accepted] at ht
    exact le_trans (hs.accepted t ht) hclock

/-! ### A step -/

/-- **What a step is**: a request that is accepted or refused, a job that starts, and one
that ends. -/
theorem step_cases {secondsUntilReset : Int → Int} {limits : IntegrationLimits} {s t : State}
    {a : Call} (h : step secondsUntilReset limits s a = some t) :
    s.clock ≤ a.now ∧
    ((∃ now, a = .createJob now ∧ t = s.reset now) ∨
     (∃ now, a = .createJob now ∧
       (getUsage (s.reset now).entry now).requests_this_hour < limits.max_requests_per_hour ∧
       limits.max_tokens_per_day ≤ (getUsage (s.reset now).entry now).tokens_today ∧
       t = { s.reset now with
         refusals := s.refusals ++ [⟨now, recentTokens (s.reset now).usages now⟩] }) ∨
     (∃ now, a = .createJob now ∧
       (getUsage (s.reset now).entry now).requests_this_hour < limits.max_requests_per_hour ∧
       (getUsage (s.reset now).entry now).tokens_today < limits.max_tokens_per_day ∧
       t = { s.reset now with jobs := (s.reset now).jobs ++ [⟨now, false, false⟩] }) ∨
     (∃ now i job, a = .start now i ∧ s.jobs[i]? = some job ∧
       t = { s with clock := now, jobs := s.jobs.set i { job with started := true } }) ∨
     (∃ now i tokensUsed job, a = .finish now i tokensUsed ∧
       (s.reset now).jobs[i]? = some job ∧ job.started = true ∧
       t = { s.reset now with
         entry := some (updateUsage s.entry tokensUsed now)
         jobs := (s.reset now).jobs.set i { job with counted := true }
         usages := (s.reset now).usages ++ [⟨now, tokensUsed, true⟩] })) := by
  unfold step at h
  by_cases hclock : s.clock ≤ a.now
  · rw [if_pos hclock] at h
    refine ⟨hclock, ?_⟩
    cases a with
    | createJob now =>
        have ht := (Option.some.inj h).symm
        have hentry : getUsage (s.reset now).entry now =
            maybeResetCounters (getUsage s.entry now) now := rfl
        by_cases hrequests : limits.max_requests_per_hour ≤
            (maybeResetCounters (getUsage s.entry now) now).requests_this_hour
        · rw [if_pos hrequests] at ht
          exact Or.inl ⟨now, rfl, ht⟩
        · rw [if_neg hrequests] at ht
          by_cases htokens : limits.max_tokens_per_day ≤
              (maybeResetCounters (getUsage s.entry now) now).tokens_today
          · rw [if_pos htokens] at ht
            exact Or.inr (Or.inl ⟨now, rfl, Nat.not_le.mp hrequests, htokens, ht⟩)
          · rw [if_neg htokens] at ht
            exact Or.inr (Or.inr (Or.inl
              ⟨now, rfl, Nat.not_le.mp hrequests, Nat.not_le.mp htokens, ht⟩))
    | start now i =>
        obtain ⟨job, hjob, ht⟩ := Option.map_eq_some_iff.mp h
        exact Or.inr (Or.inr (Or.inr (Or.inl ⟨now, i, job, rfl, hjob, ht.symm⟩)))
    | finish now i tokensUsed =>
        obtain ⟨job, hjob, ht⟩ := Option.bind_eq_some_iff.mp h
        by_cases hstarted : job.started = true
        · rw [if_pos hstarted] at ht
          exact Or.inr (Or.inr (Or.inr (Or.inr
            ⟨now, i, tokensUsed, job, rfl, hjob, hstarted, (Option.some.inj ht).symm⟩)))
        · rw [if_neg hstarted] at ht
          exact absurd ht (by simp)
  · rw [if_neg hclock] at h
    exact absurd h (by simp)

/-- Writing to a job changes nothing that is read of it and stays. -/
theorem map_set_of_eq {β : Type} {jobs : List Job} {i : Nat} {job : Job} (f : Job → β)
    (job' : Job) (hjob : jobs[i]? = some job) (hf : f job' = f job) :
    (jobs.set i job').map f = jobs.map f := by
  obtain ⟨hi, rfl⟩ := List.getElem?_eq_some_iff.mp hjob
  have hi' : i < (jobs.map f).length := by simpa using hi
  have hget : f jobs[i] = (jobs.map f)[i] := (List.getElem_map f).symm
  rw [List.map_set, hf, hget, List.set_getElem_self hi']

theorem tracks_step {secondsUntilReset : Int → Int} {limits : IntegrationLimits} {s t : State}
    {a : Call} (hs : Tracks s) (h : step secondsUntilReset limits s a = some t) : Tracks t := by
  obtain ⟨hclock, ⟨now, rfl, rfl⟩ | ⟨now, rfl, -, -, rfl⟩ | ⟨now, rfl, -, -, rfl⟩ |
    ⟨now, i, job, rfl, hjob, rfl⟩ | ⟨now, i, tokensUsed, job, rfl, hjob, -, rfl⟩⟩ := step_cases h
  · exact tracks_reset hs hclock
  · have hreset : Tracks (s.reset now) := tracks_reset hs hclock
    exact ⟨hreset.requests, hreset.tokens, hreset.accepted⟩
  · have hreset : Tracks (s.reset now) := tracks_reset hs hclock
    refine ⟨fun later => ?_, hreset.tokens, fun t ht => ?_⟩
    · rw [List.countP_append]
      exact hreset.requests later
    · rw [List.map_append, List.mem_append] at ht
      rcases ht with ht | ht
      · exact hreset.accepted t ht
      · exact le_of_eq (List.mem_singleton.mp ht)
  · refine ⟨fun later => ?_, hs.tokens, fun t ht => ?_⟩
    · have hcounted := congrArg (List.countP id) (map_set_of_eq Job.counted
        { job with started := true } hjob rfl)
      rw [List.countP_map, List.countP_map] at hcounted
      exact le_of_eq_of_le hcounted (hs.requests later)
    · have hsame := map_set_of_eq Job.accepted { job with started := true } hjob rfl
      exact le_trans (hs.accepted t (hsame ▸ ht)) hclock
  · have hreset : Tracks (s.reset now) := tracks_reset hs hclock
    obtain ⟨hi, -⟩ := List.getElem?_eq_some_iff.mp hjob
    refine ⟨fun later => ?_, fun later => ?_, fun t ht => ?_⟩
    · have hrequests := hreset.requests now
      have hset := List.countP_set (p := Job.counted) (a := { job with counted := true }) hi
      rw [if_pos rfl] at hset
      show _ ≤ (getUsage (s.reset now).entry now).requests_this_hour + 1
      refine le_trans (le_of_eq hset) (Nat.add_le_add_right (le_trans (Nat.sub_le _ _) ?_) 1)
      exact hrequests
    · show (getUsage (s.reset now).entry now).tokens_today + tokensUsed = _
      rw [hreset.tokens now, List.filter_append, tokensOf_append]
      rfl
    · have hsame := map_set_of_eq Job.accepted { job with counted := true } hjob rfl
      exact hreset.accepted t (hsame ▸ ht)

/-! ### Runs that are not misled -/

/-- Tokens of which everything counted is recent are no more than the recent ones. -/
theorem counted_le_recentTokens {usages : List Usage} {now : Int}
    (h : ∀ u ∈ usages, u.counted → now - 24 * hour < u.instant) :
    tokensOf (usages.filter Usage.counted) ≤ recentTokens usages now := by
  have hboth : usages.filter Usage.counted =
      (usages.filter fun u => now - 24 * hour < u.instant).filter Usage.counted := by
    rw [List.filter_filter]
    refine List.filter_congr fun u hu => ?_
    by_cases hcounted : u.counted = true
    · simp [hcounted, h u hu hcounted]
    · simp [hcounted]
  rw [hboth]
  exact (List.filter_sublist.map Usage.tokens).sum_le_sum (by simp)

/-- The requests of the last hour are counted or left out. -/
theorem recent_le (s : State) (now : Int) (hclock : s.clock = now) :
    Window.recent hour now (s.jobs.map Job.accepted) ≤
      s.jobs.countP Job.counted + s.uncounted := by
  unfold Window.recent State.uncounted
  rw [List.countP_map, List.countP_eq_countP_filter_add _ _ Job.counted, hclock]
  refine Nat.add_le_add ?_ (le_of_eq ?_)
  · exact le_trans List.countP_le_length (le_of_eq List.countP_eq_length_filter.symm)
  · rw [List.countP_filter]
    refine List.countP_congr fun j _ => ?_
    cases j.counted <;> simp

/-- What a run that is not misled keeps: all the accepted jobs are within the limit, started
or not. -/
structure Kept (limits : IntegrationLimits) (s : State) : Prop where
  tracks : Tracks s
  daily : ∀ r ∈ s.refusals, limits.max_tokens_per_day ≤ r.recent
  hourly : Window.Capped limits.max_requests_per_hour hour (s.jobs.map Job.accepted)

theorem kept_initial (limits : IntegrationLimits) (clock : Int) :
    Kept limits (State.initial clock) where
  tracks := tracks_initial clock
  daily _ hr := absurd hr List.not_mem_nil
  hourly := Window.capped_nil _ _

theorem kept_step {secondsUntilReset : Int → Int} {limits : IntegrationLimits} (s : State)
    (a : Call) (t : State) (hs : Kept limits s) (hcall : NotMisled limits s a)
    (h : step secondsUntilReset limits s a = some t) : Kept limits t := by
  refine ⟨tracks_step hs.tracks h, ?_, ?_⟩
  · obtain ⟨hclock, ⟨now, rfl, rfl⟩ | ⟨now, rfl, hrequests, htokens, rfl⟩ |
      ⟨now, rfl, -, -, rfl⟩ | ⟨now, i, job, rfl, -, rfl⟩ |
      ⟨now, i, tokensUsed, job, rfl, -, -, rfl⟩⟩ := step_cases h
    · exact hs.daily
    · intro r hr
      rcases List.mem_append.mp hr with hr | hr
      · exact hs.daily r hr
      · obtain rfl := List.mem_singleton.mp hr
        -- all that the counter has added up is recent
        have hrecent : tokensOf ((s.reset now).usages.filter Usage.counted) ≤
            recentTokens (s.reset now).usages now :=
          counted_le_recentTokens ((hcall hrequests).1 htokens)
        have hcounted := (tracks_reset hs.tracks hclock).tokens now
        exact le_trans (le_trans htokens (le_of_eq hcounted)) hrecent
    · exact hs.daily
    · exact hs.daily
    · exact hs.daily
  · obtain ⟨hclock, ⟨now, rfl, rfl⟩ | ⟨now, rfl, -, -, rfl⟩ |
      ⟨now, rfl, hrequests, htokens, rfl⟩ | ⟨now, i, job, rfl, hjob, rfl⟩ |
      ⟨now, i, tokensUsed, job, rfl, hjob, -, rfl⟩⟩ := step_cases h
    · rw [reset_accepted]
      exact hs.hourly
    · show Window.Capped _ _ ((s.reset now).jobs.map Job.accepted)
      rw [reset_accepted]
      exact hs.hourly
    · show Window.Capped _ _
        (((s.reset now).jobs ++ [(⟨now, false, false⟩ : Job)]).map Job.accepted)
      rw [List.map_append]
      have hreset : Tracks (s.reset now) := tracks_reset hs.tracks hclock
      refine (Window.capped_append_singleton (by decide) hreset.accepted).mpr ⟨?_, ?_⟩
      · rw [reset_accepted]
        exact hs.hourly
      · have hroom := (hcall hrequests).2 htokens
        have hcounted := hreset.requests now
        have hsplit := recent_le (s.reset now) now rfl
        exact lt_of_le_of_lt (le_trans hsplit (Nat.add_le_add_right hcounted _)) hroom
    · show Window.Capped _ _ ((s.jobs.set i { job with started := true }).map Job.accepted)
      rw [map_set_of_eq Job.accepted { job with started := true } hjob rfl]
      exact hs.hourly
    · show Window.Capped _ _
        (((s.reset now).jobs.set i { job with counted := true }).map Job.accepted)
      rw [map_set_of_eq Job.accepted { job with counted := true } hjob rfl, reset_accepted]
      exact hs.hourly

/-- **The limits are honest in every run whose requests find the counters not misled.** -/
theorem limits_honest (secondsUntilReset : Int → Int) (limits : IntegrationLimits) (clock : Int)
    {calls : List Call} {t : State}
    (hcalls : Machine.Meets (step secondsUntilReset limits) (NotMisled limits)
      (State.initial clock) calls)
    (h : Machine.exec (step secondsUntilReset limits) (State.initial clock) calls = some t) :
    Honest limits t := by
  have hkept : Kept limits t :=
    Machine.exec_invariant_of_meets kept_step (kept_initial limits clock) hcalls h
  exact ⟨hkept.daily, hkept.hourly.sublist (List.filter_sublist.map Job.accepted)⟩

namespace LimitExample

/-- What the floating point computation gives at an instant that starts an hour. -/
def secondsUntilReset (_ : Int) : Int := 3600

def limits : IntegrationLimits := ⟨1, 100⟩

/-- One request at a time, the second an hour after the first. -/
theorem one_at_a_time :
    ∃ t, Machine.exec (step secondsUntilReset limits) (State.initial 0)
        [.createJob 0, .start 0 0, .finish 5000 0 60, .createJob hour, .start hour 1] = some t ∧
      Honest limits t :=
  ⟨_, rfl, limits_honest secondsUntilReset limits 0
    (show Machine.Meets (step secondsUntilReset limits) (NotMisled limits) (State.initial 0)
      [.createJob 0, .start 0 0, .finish 5000 0 60, .createJob hour, .start hour 1]
      by decide) rfl⟩

/-- Usage of 60 tokens at 0 h and at 23 h has a request refused at 25 h; and two requests at
one instant are both accepted and both run, where one an hour is the limit. -/
theorem limits_not_honest :
    (∃ t, Machine.exec (step secondsUntilReset ⟨10, 100⟩) (State.initial 0)
        [.createJob 0, .start 0 0, .finish 0 0 60, .createJob (23 * hour),
          .start (23 * hour) 1, .finish (23 * hour) 1 60, .createJob (25 * hour)] = some t ∧
      ⟨25 * hour, 60⟩ ∈ t.refusals ∧ ¬Honest ⟨10, 100⟩ t) ∧
    ∃ t, Machine.exec (step secondsUntilReset limits) (State.initial 0)
        [.createJob 0, .createJob 0, .start 0 0, .start 0 1] = some t ∧ ¬Honest limits t := by
  refine ⟨⟨_, rfl, by decide, fun h => ?_⟩, ⟨_, rfl, fun h => ?_⟩⟩
  · exact absurd (h.daily ⟨25 * hour, 60⟩ (by decide)) (by decide)
  · exact absurd (h.hourly 0) (by decide)

end LimitExample

end Veridian.RateLimiter
