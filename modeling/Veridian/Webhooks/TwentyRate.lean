/-
The tokens that the flushes take over many calls of `drainQueue`.

Every call has a budget of its own, and a budget that is asked a minute after its window
was opened opens another.  What one window gives out does not count in the next.  So the
tokens of a minute stay below the limit exactly when each of them still finds room among
those of the windows before its own.
-/
import Veridian.Lib.Machine
import Veridian.Lib.Window
import Veridian.Webhooks.DeliveryRuns
import Veridian.Webhooks.DrainQueue

namespace Veridian

/-! ### What a call asks of its budget -/

namespace Meter

def ask (meter : Meter) (times : List Int) : Meter :=
  times.foldl (fun meter t => (meter.take t).2) meter

/-- `meter'` is `meter` after some calls of `take`. -/
def After (meter meter' : Meter) : Prop := ∃ times, meter' = meter.ask times

theorem After.refl (meter : Meter) : After meter meter := ⟨[], rfl⟩

theorem After.trans {a b c : Meter} (hab : After a b) (hbc : After b c) : After a c := by
  obtain ⟨first, rfl⟩ := hab
  obtain ⟨second, rfl⟩ := hbc
  exact ⟨first ++ second, List.foldl_append.symm⟩

theorem after_take {meter meter' : Meter} {t : Int} {taken : Bool}
    (h : meter.take t = (taken, meter')) : After meter meter' :=
  ⟨[t], (congrArg Prod.snd h).symm⟩

end Meter

namespace TwentyConnector

open Meter (After after_take)

theorem resolvePersonId_after {caches : Caches} {meter : Meter} {workspaceId : String}
    {mapped : TwentyEventMapper.MappedTimelineEvent} {answers : DeliveryAnswers} :
    After meter (resolvePersonId caches meter workspaceId mapped answers).2.2 := by
  simp only [resolvePersonId]
  split
  · exact .refl meter
  · split
    · rename_i hno
      exact after_take hno
    · rename_i htaken
      split <;> exact after_take htaken

theorem place_meter {ctx : FlushContext} {s : Flush} {delivery : WebhookDeliveryWorker.DeliveryRow}
    {answers : DeliveryAnswers} {mapped : List TwentyEventMapper.MappedTimelineEvent}
    {resolution : PersonResolution} :
    (s.place ctx delivery answers mapped resolution).1.meter = s.meter := by
  cases resolution with
  | found personId =>
      simp only [Flush.place]
      split <;> rfl
  | notFound => rfl
  | noBudget => rfl
  | threw => rfl

theorem flushStep_after {ctx : FlushContext} {s : Flush}
    {delivery : WebhookDeliveryWorker.DeliveryRow} {answers : DeliveryAnswers} :
    After s.meter (flushStep ctx s delivery answers).1.meter := by
  unfold flushStep
  split
  · exact .refl s.meter
  · simp only [place_meter]
    exact resolvePersonId_after

theorem flushLoop_after {ctx : FlushContext} :
    ∀ {deliveries : List Incoming} {s : Flush},
      After s.meter (flushLoop ctx s deliveries).meter := by
  intro deliveries
  induction deliveries with
  | nil => intro s; exact .refl s.meter
  | cons incoming rest ih =>
      obtain ⟨delivery, answers⟩ := incoming
      intro s
      have hstep : After s.meter (flushStep ctx s delivery answers).1.meter := flushStep_after
      unfold flushLoop
      split
      · rename_i s' hs'
        rw [hs'] at hstep
        exact hstep.trans ih
      · rename_i s' hs'
        rw [hs'] at hstep
        exact hstep

theorem patchAcquisitions_after {ctx : FlushContext} {answers : String → PatchAnswer} :
    ∀ {patches : List (String × AcquisitionPatch)} {caches : Caches} {meter : Meter},
      After meter (patchAcquisitions ctx answers caches meter patches).2 := by
  intro patches
  induction patches with
  | nil => intro caches meter; exact .refl meter
  | cons patch rest ih =>
      obtain ⟨personId, patch⟩ := patch
      intro caches meter
      simp only [patchAcquisitions]
      split
      · exact ih
      · split
        · exact ih
        · split
          · rename_i hno
            exact after_take hno
          · rename_i htaken
            exact (after_take htaken).trans ih

theorem flushBatch_after {ctx : FlushContext} {caches : Caches} {meter : Meter}
    {deliveries : List Incoming} {answers : BatchAnswers} :
    After meter (flushBatch ctx caches meter deliveries answers).meter := by
  have hloop : After meter (flushLoop ctx (.start caches meter) deliveries).meter :=
    flushLoop_after (s := .start caches meter)
  refine hloop.trans ?_
  unfold flushBatch
  generalize flushLoop ctx (.start caches meter) deliveries = s
  unfold Flush.send
  split
  · exact .refl s.meter
  · simp only []
    split
    · rename_i hno
      exact after_take hno
    · rename_i htaken
      split
      · exact (after_take htaken).trans patchAcquisitions_after
      · exact after_take htaken

end TwentyConnector

namespace WebhookDeliveryWorker

open Meter (After)
open TwentyConnector (Caches Flush flushBatch_after)

section
variable {worker : Worker} {answers : DrainAnswers}

theorem process_after {s : Drained} {work : Work} :
    After s.meter (s.process worker answers work).meter := by
  cases work with
  | single delivery => exact .refl s.meter
  | group webhookId webhook deliveries =>
      show After s.meter (Option.getD (Option.map Flush.meter (flushTwentyGroup worker webhook
        deliveries s.caches s.meter (answers.group webhookId)).flush) s.meter)
      unfold flushTwentyGroup
      split
      · exact .refl s.meter
      · split
        · exact .refl s.meter
        · split
          · exact .refl s.meter
          · exact flushBatch_after

theorem drainWork_after :
    ∀ {works : List Work} {s : Drained}, After s.meter (drainWork worker answers s works).meter := by
  intro works
  induction works with
  | nil => intro s; exact .refl s.meter
  | cons work rest ih =>
      intro s
      simp only [drainWork]
      split
      · exact process_after
      · exact process_after.trans ih

/-- **A call takes tokens of a new budget, and of no other.** -/
theorem drainQueue_after {caches : Caches} {pending : List DeliveryRow} :
    After ⟨.new TWENTY_BUDGET_PER_MIN, []⟩ (drainQueue worker caches pending answers).meter := by
  unfold drainQueue
  split
  · exact .refl _
  · exact drainWork_after (s := .start caches)

end

/-! ### The windows of all budgets -/

/-- The tokens given out so far: in the window that is open, and before it. -/
structure Rate where
  budget : TwentyBudget
  earlier : List Int
  current : List Int
  /-- When `take` was last called. -/
  clock : Int

def Rate.tokens (s : Rate) : List Int := s.earlier ++ s.current

def Rate.start : Rate := ⟨.new TWENTY_BUDGET_PER_MIN, [], [], 0⟩

inductive RateAction where
  /-- A call of `drainQueue` begins. -/
  | drain
  | ask (t : Int)

/-- The window that is open at `t`. -/
def Rate.roll (s : Rate) (t : Int) : Rate :=
  if 60_000 ≤ t - s.budget.windowStart then
    { s with budget := s.budget.roll t, earlier := s.tokens, current := [] }
  else s

/-- A step of a clock that does not go back. -/
def Rate.step (s : Rate) : RateAction → Option Rate
  | .drain =>
      some { s with budget := .new TWENTY_BUDGET_PER_MIN, earlier := s.tokens, current := [] }
  | .ask t =>
      if s.clock ≤ t then
        let rolled := s.roll t
        if rolled.budget.limit ≤ rolled.budget.used then some { rolled with clock := t }
        else
          some
            { rolled with
              budget := { rolled.budget with used := rolled.budget.used + 1 }
              current := rolled.current ++ [t]
              clock := t }
      else none

/-- If the window that is open has a token left, the tokens it gave out and those that the
earlier ones gave out less than a minute ago are fewer than the limit. -/
def Uncrowded (s : Rate) : RateAction → Prop
  | .drain => True
  | .ask t =>
      (s.roll t).budget.used < TWENTY_BUDGET_PER_MIN →
        Window.recent 60_000 t (s.roll t).earlier + (s.roll t).budget.used < TWENTY_BUDGET_PER_MIN

/-- What the budget knows of its tokens. -/
structure Metered (s : Rate) : Prop where
  limit : s.budget.limit = TWENTY_BUDGET_PER_MIN
  used : s.budget.used = s.current.length
  opened : ∀ x ∈ s.current, s.budget.windowStart ≤ x
  start : s.budget.windowStart ≤ s.clock
  last : ∀ x ∈ s.tokens, x ≤ s.clock
  clock : 0 ≤ s.clock

theorem Metered.begin : Metered .start :=
  ⟨rfl, rfl, fun x hx => absurd hx (by simp [Rate.start]), le_refl _,
    fun x hx => absurd hx (by simp [Rate.start, Rate.tokens]), le_refl _⟩

theorem roll_budget {s : Rate} {t : Int} : (s.roll t).budget = s.budget.roll t := by
  unfold Rate.roll
  split
  · rfl
  · rename_i h
    unfold TwentyBudget.roll
    rw [if_neg h]

theorem roll_tokens {s : Rate} {t : Int} : (s.roll t).tokens = s.tokens := by
  unfold Rate.roll
  split
  · exact List.append_nil _
  · rfl

/-- The window that is open is not a minute old. -/
theorem Metered.roll {s : Rate} (h : Metered s) {t : Int} (ht : s.clock ≤ t) :
    Metered { s.roll t with clock := t } ∧ ∀ x ∈ (s.roll t).current, t - 60_000 < x := by
  have hlast : ∀ x ∈ s.tokens, x ≤ t := fun x hx => (h.last x hx).trans ht
  have hclock : 0 ≤ t := h.clock.trans ht
  by_cases hroll : 60_000 ≤ t - s.budget.windowStart
  · have hrolled : s.roll t = ⟨⟨s.budget.limit, t, 0⟩, s.tokens, [], s.clock⟩ := by
      unfold Rate.roll TwentyBudget.roll
      rw [if_pos hroll, if_pos hroll]
    rw [hrolled]
    refine ⟨⟨h.limit, rfl, fun x hx => absurd hx (by simp), le_refl t, fun x hx => ?_, hclock⟩,
      fun x hx => absurd hx (by simp)⟩
    have hx' : x ∈ s.tokens ++ [] := hx
    rw [List.append_nil] at hx'
    exact hlast x hx'
  · have hrolled : s.roll t = s := if_neg hroll
    rw [hrolled]
    refine ⟨⟨h.limit, h.used, h.opened, h.start.trans ht, hlast, hclock⟩, fun x hx => ?_⟩
    have hopened := h.opened x hx
    omega

inductive RateStepped (s : Rate) : RateAction → Rate → Prop
  | drain : RateStepped s .drain ⟨.new TWENTY_BUDGET_PER_MIN, s.tokens, [], s.clock⟩
  | refused (t : Int) (ht : s.clock ≤ t)
      (hfull : (s.roll t).budget.limit ≤ (s.roll t).budget.used) :
      RateStepped s (.ask t) { s.roll t with clock := t }
  | taken (t : Int) (ht : s.clock ≤ t)
      (hroom : (s.roll t).budget.used < (s.roll t).budget.limit) :
      RateStepped s (.ask t)
        { s.roll t with
          budget := { (s.roll t).budget with used := (s.roll t).budget.used + 1 }
          current := (s.roll t).current ++ [t]
          clock := t }

theorem rateStepped_of_step {s s' : Rate} {a : RateAction} (h : s.step a = some s') :
    RateStepped s a s' := by
  cases a with
  | drain =>
      obtain rfl := Option.some.inj h
      exact .drain
  | ask t =>
      simp only [Rate.step] at h
      split at h
      · rename_i ht
        split at h
        · rename_i hfull
          obtain rfl := Option.some.inj h
          exact .refused t ht hfull
        · rename_i hroom
          obtain rfl := Option.some.inj h
          exact .taken t ht (not_le.mp hroom)
      · exact absurd h (by simp)

theorem Metered.step {s s' : Rate} {a : RateAction} (h : Metered s) (hstep : s.step a = some s') :
    Metered s' := by
  cases rateStepped_of_step hstep with
  | drain =>
      refine ⟨rfl, rfl, fun x hx => absurd hx (by simp), h.clock, fun x hx => ?_, h.clock⟩
      have hx' : x ∈ s.tokens ++ [] := hx
      rw [List.append_nil] at hx'
      exact h.last x hx'
  | refused t ht hfull => exact (h.roll ht).1
  | taken t ht hroom =>
      have hrolled := (h.roll ht).1
      refine ⟨hrolled.limit, ?_, fun x hx => ?_, hrolled.start, fun x hx => ?_, hrolled.clock⟩
      · show (s.roll t).budget.used + 1 = ((s.roll t).current ++ [t]).length
        rw [List.length_append, List.length_singleton, hrolled.used]
      · rcases List.mem_append.mp hx with hx | hx
        · exact hrolled.opened x hx
        · rw [List.mem_singleton.mp hx]
          exact hrolled.start
      · have hx' : x ∈ (s.roll t).tokens ++ [t] := by
          show x ∈ (s.roll t).earlier ++ (s.roll t).current ++ [t]
          rw [List.append_assoc]
          exact hx
        rcases List.mem_append.mp hx' with hx | hx
        · exact hrolled.last x hx
        · rw [List.mem_singleton.mp hx]

/-- **A step keeps the cap exactly when it is not crowded.** -/
theorem capped_step {s s' : Rate} {a : RateAction} (h : Metered s)
    (hstep : s.step a = some s') :
    Window.Capped TWENTY_BUDGET_PER_MIN 60_000 s'.tokens ↔
      Window.Capped TWENTY_BUDGET_PER_MIN 60_000 s.tokens ∧ Uncrowded s a := by
  cases rateStepped_of_step hstep with
  | drain =>
      show Window.Capped _ _ (s.tokens ++ []) ↔ _
      rw [List.append_nil]
      exact (and_iff_left trivial).symm
  | refused t ht hfull =>
      have hlimit := (h.roll ht).1.limit
      show Window.Capped _ _ (s.roll t).tokens ↔ _
      rw [roll_tokens]
      refine (and_iff_left fun hroom => ?_).symm
      have hlimit' : (s.roll t).budget.limit = TWENTY_BUDGET_PER_MIN := hlimit
      omega
  | taken t ht hroom =>
      obtain ⟨hrolled, hrecent⟩ := h.roll ht
      have htokens : (s.roll t).earlier ++ ((s.roll t).current ++ [t]) = s.tokens ++ [t] := by
        rw [← List.append_assoc, ← roll_tokens (s := s) (t := t)]
        rfl
      have hcount : Window.recent 60_000 t s.tokens =
          Window.recent 60_000 t (s.roll t).earlier + (s.roll t).budget.used := by
        have hused : (s.roll t).budget.used = (s.roll t).current.length := hrolled.used
        rw [← roll_tokens (s := s) (t := t), hused, ← Window.recent_eq_length hrecent]
        exact Window.recent_append _ _ _ _
      have hlimit : (s.roll t).budget.limit = TWENTY_BUDGET_PER_MIN := hrolled.limit
      rw [hlimit] at hroom
      show Window.Capped _ _ ((s.roll t).earlier ++ ((s.roll t).current ++ [t])) ↔ _
      rw [htokens, Window.capped_append_singleton (by decide)
        fun x hx => (h.last x hx).trans ht, hcount]
      exact and_congr_right fun _ => ⟨fun hlt _ => hlt, fun hlt => hlt hroom⟩

/-! ### Calls -/

/-- A call of `drainQueue`, whatever is in the caches by then. -/
structure DrainCall where
  caches : Caches
  pending : List DeliveryRow
  answers : DrainAnswers

def DrainCall.asks (worker : Worker) (call : DrainCall) : List (Int × Bool) :=
  (drainQueue worker call.caches call.pending call.answers).meter.asks

def DrainCall.actions (worker : Worker) (call : DrainCall) : List RateAction :=
  .drain :: (call.asks worker).map fun asked => .ask asked.1

/-- The instants at which a request took a token. -/
def requests (worker : Worker) (calls : List DrainCall) : List Int :=
  calls.flatMap fun call => Meter.tokens (call.asks worker)

/-- The clock is read at or after the epoch, and does not go back. -/
def Clocked (worker : Worker) (calls : List DrainCall) : Prop :=
  (0 :: calls.flatMap fun call => (call.asks worker).map Prod.fst).Pairwise (· ≤ ·)

theorem ask_times :
    ∀ {times : List Int} {meter : Meter},
      (meter.ask times).asks.map Prod.fst = meter.asks.map Prod.fst ++ times := by
  intro times
  induction times with
  | nil => intro meter; exact (List.append_nil _).symm
  | cons t rest ih =>
      intro meter
      show (Meter.ask (meter.take t).2 rest).asks.map Prod.fst = _
      rw [ih]
      show (meter.asks ++ [_]).map Prod.fst ++ rest = _
      rw [List.map_append, List.append_assoc]
      rfl

/-- The asks of one budget. -/
theorem exec_asks :
    ∀ {times : List Int} (meter : Meter) {s : Rate}, s.budget = meter.budget →
      (s.clock :: times).Pairwise (· ≤ ·) →
      ∃ asks s', (meter.ask times).asks = meter.asks ++ asks ∧ asks.map Prod.fst = times ∧
        Machine.exec Rate.step s (times.map .ask) = some s' ∧
        s'.tokens = s.tokens ++ Meter.tokens asks ∧ s'.clock ∈ s.clock :: times := by
  intro times
  induction times with
  | nil =>
      intro meter s _ _
      exact ⟨[], s, (List.append_nil _).symm, rfl, rfl, (List.append_nil _).symm,
        List.mem_cons_self⟩
  | cons t rest ih =>
      intro meter s hbudget hclock
      obtain ⟨hfirst, hrest⟩ := List.pairwise_cons.mp hclock
      have ht : s.clock ≤ t := hfirst t List.mem_cons_self
      have hrolled : meter.budget.roll t = (s.roll t).budget := by rw [roll_budget, hbudget]
      by_cases hfull : (s.roll t).budget.limit ≤ (s.roll t).budget.used
      · have hstep : s.step (.ask t) = some { s.roll t with clock := t } := by
          simp only [Rate.step, if_pos ht, if_pos hfull]
        have htake : meter.take t = (false, ⟨(s.roll t).budget, meter.asks ++ [(t, false)]⟩) := by
          simp only [Meter.take, TwentyBudget.take, hrolled, if_pos hfull]
        obtain ⟨asks, s', hasks, htimes, hexec, htokens, hmem⟩ :=
          ih ⟨(s.roll t).budget, meter.asks ++ [(t, false)]⟩
            (s := { s.roll t with clock := t }) rfl hrest
        refine ⟨(t, false) :: asks, s', ?_, congrArg (t :: ·) htimes, ?_, ?_,
          List.mem_cons_of_mem _ hmem⟩
        · show (Meter.ask (meter.take t).2 rest).asks = _
          rw [htake, hasks, List.append_assoc]
          rfl
        · exact Machine.exec_cons_eq_some.mpr ⟨_, hstep, hexec⟩
        · rw [htokens]
          exact congrArg (· ++ Meter.tokens asks) roll_tokens
      · have hstep : s.step (.ask t) = some
            { s.roll t with
              budget := { (s.roll t).budget with used := (s.roll t).budget.used + 1 }
              current := (s.roll t).current ++ [t]
              clock := t } := by
          simp only [Rate.step, if_pos ht, if_neg hfull]
        have htake : meter.take t = (true,
            ⟨{ (s.roll t).budget with used := (s.roll t).budget.used + 1 },
              meter.asks ++ [(t, true)]⟩) := by
          simp only [Meter.take, TwentyBudget.take, hrolled, if_neg hfull]
        obtain ⟨asks, s', hasks, htimes, hexec, htokens, hmem⟩ :=
          ih ⟨{ (s.roll t).budget with used := (s.roll t).budget.used + 1 },
              meter.asks ++ [(t, true)]⟩
            (s := { s.roll t with
              budget := { (s.roll t).budget with used := (s.roll t).budget.used + 1 }
              current := (s.roll t).current ++ [t]
              clock := t }) rfl hrest
        refine ⟨(t, true) :: asks, s', ?_, congrArg (t :: ·) htimes, ?_, ?_,
          List.mem_cons_of_mem _ hmem⟩
        · show (Meter.ask (meter.take t).2 rest).asks = _
          rw [htake, hasks, List.append_assoc]
          rfl
        · exact Machine.exec_cons_eq_some.mpr ⟨_, hstep, hexec⟩
        · rw [htokens]
          show (s.roll t).earlier ++ ((s.roll t).current ++ [t]) ++ Meter.tokens asks = _
          rw [← List.append_assoc, ← roll_tokens (s := s) (t := t), List.append_assoc _ [t]]
          rfl

/-- The calls are a run of the windows, whose tokens are their requests. -/
theorem exec_calls {worker : Worker} :
    ∀ {calls : List DrainCall} {s : Rate},
      (s.clock :: calls.flatMap fun call => (call.asks worker).map Prod.fst).Pairwise (· ≤ ·) →
      ∃ s', Machine.exec Rate.step s (calls.flatMap (DrainCall.actions worker)) = some s' ∧
        s'.tokens = s.tokens ++ requests worker calls := by
  intro calls
  induction calls with
  | nil =>
      intro s _
      exact ⟨s, rfl, (List.append_nil _).symm⟩
  | cons call rest ih =>
      intro s hclock
      rw [List.flatMap_cons, ← List.cons_append] at hclock
      obtain ⟨hhere, hlater, hbetween⟩ := List.pairwise_append.mp hclock
      obtain ⟨times, hafter⟩ : After ⟨.new TWENTY_BUDGET_PER_MIN, []⟩
          (drainQueue worker call.caches call.pending call.answers).meter := drainQueue_after
      have hasks : call.asks worker = (Meter.ask ⟨.new TWENTY_BUDGET_PER_MIN, []⟩ times).asks :=
        congrArg Meter.asks hafter
      have htimes : (call.asks worker).map Prod.fst = times := by
        rw [hasks, ask_times]
        rfl
      rw [htimes] at hhere hbetween
      obtain ⟨s₁, hs₁⟩ : ∃ s₁, s.step .drain = some s₁ := ⟨_, rfl⟩
      have hfresh : s₁.budget = .new TWENTY_BUDGET_PER_MIN ∧ s₁.tokens = s.tokens ∧
          s₁.clock = s.clock := by
        obtain rfl := Option.some.inj hs₁
        exact ⟨rfl, List.append_nil _, rfl⟩
      obtain ⟨asks, s₂, hasks', -, hexec, htokens, hmem⟩ :=
        exec_asks ⟨.new TWENTY_BUDGET_PER_MIN, []⟩ hfresh.1 (by rw [hfresh.2.2]; exact hhere)
      rw [hfresh.2.2] at hmem
      obtain ⟨s₃, hexec', htokens'⟩ := ih (s := s₂)
        (List.pairwise_cons.mpr ⟨hbetween s₂.clock hmem, hlater⟩)
      have hactions : call.actions worker = .drain :: times.map .ask := by
        unfold DrainCall.actions
        rw [← htimes, List.map_map]
        rfl
      refine ⟨s₃, ?_, ?_⟩
      · rw [List.flatMap_cons, hactions]
        exact Machine.exec_append (Machine.exec_cons_eq_some.mpr ⟨s₁, hs₁, hexec⟩) hexec'
      · rw [htokens', htokens, hfresh.2.1, List.append_assoc]
        unfold requests
        rw [List.flatMap_cons, hasks, hasks']
        rfl

namespace RateExample

/-- Every body is of a signup. -/
def worker : Worker where
  clockwork := RetryExample.clockwork
  host := .bare
  parseBody := fun _ => ⟨some "lea@example.com", "signup", "/merci", none, none, none, ""⟩
  dryRun := false

def webhook : WebhookRow :=
  { RetryExample.webhook DEFAULT_RETRY_CONFIG with transform := some (.twenty false) }

/-- A call at `t` that finds no Person for any of its deliveries. -/
def call (t : Int) (count : Nat) : DrainCall where
  caches := ⟨[], [], 50_000⟩
  pending := (List.range count).map fun n => { RetryExample.delivery with id := "del_" ++ toString n }
  answers :=
    { lookup := fun _ => some (some webhook)
      deliver := fun _ =>
        { webhook := some none, ssrf := none, render := .ok "", secret := none
          fetch := .aborted, latencyMs := 0, sentAt := t, now := t, insert := ⟨t, true, true⟩ }
      group := fun _ =>
        { secret := none, ssrf := none, crmConfig := none
          look := fun _ => ⟨none, t, t, t, .missing⟩
          batch := ⟨t, .noAnswer, fun _ => ⟨t, none⟩⟩
          sentAt := t, row := fun _ => ⟨t, t, ⟨t, true, true⟩⟩ } }

end RateExample

end WebhookDeliveryWorker

end Veridian
