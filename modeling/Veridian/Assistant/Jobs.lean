/-
How often a job of the assistant is processed.

`streamJob` looks at what became of the job: a configuration or an error text is sent
again, a running job has what it buffered sent, and whatever is left starts the processing.
What is left is meant to be a job that is pending.  It is also a job that was completed
without a configuration, because the model answered in plain text, and one whose error text
is empty.

The processing is what it does to the job: text and reasoning are buffered, a configuration
is stored and completes the job, and in the end `processJob` returns or throws.  A run takes
these in any order, with calls of `streamJob` and sweeps of the job store between them.
-/
import Veridian.Lib.Machine

namespace Veridian.AssistantJobs

inductive AssistantJobStatus where
  | pending
  | running
  | completed
  | error
  deriving DecidableEq

/-- `κ` is the type of the configurations that `configure_explore` makes. -/
structure AssistantJob (κ : Type) where
  id : String
  status : AssistantJobStatus
  result : Option κ
  error : Option String
  /-- In milliseconds, as `Date.getTime` has it. -/
  expires_at : Int
  accumulated_text : String
  accumulated_reasoning : String
  deriving DecidableEq

def JOB_EXPIRATION_MS : Int := 5 * 60 * 1000

def createAssistantJob (κ : Type) (id : String) (now : Int) : AssistantJob κ :=
  ⟨id, .pending, none, none, now + JOB_EXPIRATION_MS, "", ""⟩

inductive SSEEvent (κ : Type) where
  | thinking (text : String)
  | reasoning (text : String)
  | config (config : κ)
  | error (code message : String)
  | done
  deriving DecidableEq

inductive Answer (κ : Type) where
  /-- The events are written and the response ends. -/
  | written (events : List (SSEEvent κ))
  /-- `processJob` is entered with the response. -/
  | processing
  deriving DecidableEq

variable {κ : Type}

def AssistantJob.expired (job : AssistantJob κ) (now : Int) : Prop := job.expires_at < now

instance (job : AssistantJob κ) (now : Int) : Decidable (job.expired now) :=
  inferInstanceAs (Decidable (job.expires_at < now))

/-- The buffered output, of which an empty part is not sent. -/
def AssistantJob.buffered (job : AssistantJob κ) : List (SSEEvent κ) :=
  (if job.accumulated_reasoning = "" then [] else [.reasoning job.accumulated_reasoning]) ++
    if job.accumulated_text = "" then [] else [.thinking job.accumulated_text]

/-- What `jobStore` holds of the job afterwards, and the answer. -/
def streamJob (jobId : String) (stored : Option (AssistantJob κ)) (now : Int) :
    Option (AssistantJob κ) × Answer κ :=
  match stored with
  | none => (none, .written [.error "JOB_NOT_FOUND" ("Job " ++ jobId ++ " not found"), .done])
  | some job =>
      if job.expired now then
        (none, .written [.error "JOB_EXPIRED" "Job has expired", .done])
      else
        match job.status, job.result, job.error with
        | .completed, some result, _ => (some job, .written [.config result, .done])
        | .error, _, some message =>
            -- an empty text is as good as none
            if message = "" then (some { job with status := .running }, .processing)
            else (some job, .written [.error "STREAM_ERROR" message, .done])
        | .running, _, _ => (some job, .written (job.buffered ++ [.done]))
        | _, _, _ => (some { job with status := .running }, .processing)

/-- What the processing of a job does to it. -/
inductive Effect (κ : Type) where
  | text (delta : String)
  | thinking (delta : String)
  | configured (config : κ)
  | returned
  /-- The message of the error, or none where what is thrown is not an `Error`. -/
  | thrown (message : Option String)
  deriving DecidableEq

def AssistantJob.apply (job : AssistantJob κ) : Effect κ → AssistantJob κ
  | .text delta => { job with accumulated_text := job.accumulated_text ++ delta }
  | .thinking delta => { job with accumulated_reasoning := job.accumulated_reasoning ++ delta }
  | .configured config => { job with result := some config, status := .completed }
  | .returned => if job.status = .completed then job else { job with status := .completed }
  | .thrown message => { job with status := .error, error := some (message.getD "Unknown error") }

/-- An effect that is the last one of its processing. -/
def Effect.ends : Effect κ → Bool
  | .returned | .thrown _ => true
  | .text _ | .thinking _ | .configured _ => false

/-- Whether the effect stores the job again: `processJob` does not where it has nothing left
to mark. -/
def AssistantJob.storedBy (job : AssistantJob κ) : Effect κ → Bool
  | .returned => job.status != .completed
  | .text _ | .thinking _ | .configured _ | .thrown _ => true

/-! ### Runs -/

/-- A call of `streamJob`, with the job it found. -/
structure Visit (κ : Type) where
  now : Int
  found : Option (AssistantJob κ)
  answer : Answer κ
  deriving DecidableEq

/-- The job is one object, which the store holds or does not hold and which every processing
of it writes to; `live` counts the processings that have not ended. -/
structure State (κ : Type) where
  job : AssistantJob κ
  stored : Bool
  live : Nat
  visits : List (Visit κ)
  deriving DecidableEq

/-- `createJob` has stored the job. -/
def State.initial (κ : Type) (id : String) (now : Int) : State κ :=
  ⟨createAssistantJob κ id now, true, 0, []⟩

def State.found (s : State κ) : Option (AssistantJob κ) := if s.stored then some s.job else none

inductive Action (κ : Type) where
  | stream (now : Int)
  | process (effect : Effect κ)
  /-- The sweep of `onModuleInit`. -/
  | sweep (now : Int)
  deriving DecidableEq

/-- The outcome of a call of `streamJob`, written down. -/
def State.visited (s : State κ) (now : Int) (outcome : Option (AssistantJob κ) × Answer κ) :
    State κ where
  job := outcome.1.getD s.job
  stored := outcome.1.isSome
  live := match outcome.2 with
    | .written _ => s.live
    | .processing => s.live + 1
  visits := s.visits ++ [⟨now, s.found, outcome.2⟩]

def step (s : State κ) : Action κ → Option (State κ)
  | .stream now => some (s.visited now (streamJob s.job.id s.found now))
  | .process effect =>
      if 0 < s.live then
        some { s with
          job := s.job.apply effect
          stored := s.stored || s.job.storedBy effect
          live := if effect.ends then s.live - 1 else s.live }
      else
        none
  | .sweep now => some { s with stored := s.stored && !decide (s.job.expired now) }

/-! ### At most once -/

/-- The outcome that a job holds: its configuration or its error where it has ended, what is
buffered where it has not. -/
def AssistantJob.outcome (job : AssistantJob κ) : List (SSEEvent κ) :=
  (match job.status with
    | .completed => job.result.toList.map .config
    | .error => job.error.toList.map (.error "STREAM_ERROR")
    | .running => job.buffered
    | .pending => []) ++ [.done]

def Visit.processes (v : Visit κ) : Bool :=
  match v.answer with
  | .processing => true
  | .written _ => false

/-- Where the call finds a job that has not expired, it sends the outcome of that job. -/
def Visit.Replays (v : Visit κ) : Prop :=
  ∀ job, v.found = some job → ¬job.expired v.now → v.answer = .written job.outcome

/-- **The job runs at most once**: of the calls one at most enters `processJob`, and what
comes after it replays. -/
structure RunsOnce (s : State κ) : Prop where
  once : s.visits.countP Visit.processes ≤ 1
  replays : s.visits.Pairwise fun u v => u.processes → v.Replays

/-- The job has ended with nothing that `streamJob` would send again. -/
def AssistantJob.Forgotten (job : AssistantJob κ) : Prop :=
  (job.status = .completed ∧ job.result = none) ∨ (job.status = .error ∧ job.error.getD "" = "")

instance [DecidableEq κ] (job : AssistantJob κ) : Decidable job.Forgotten :=
  inferInstanceAs (Decidable (_ ∨ _))

/-- What is asked of a call of `streamJob` before the job expires: that the job has not ended
with nothing to send. -/
def Replayable (s : State κ) : Action κ → Prop
  | .stream now => s.stored → ¬s.job.expired now → ¬s.job.Forgotten
  | .process _ | .sweep _ => True

instance [DecidableEq κ] (s : State κ) : ∀ a, Decidable (Replayable s a)
  | .stream _ => inferInstanceAs (Decidable (_ → _ → _))
  | .process _ | .sweep _ => isTrue trivial

/-! ### The answers -/

/-- **What `streamJob` answers** a job that has not expired: it sends the outcome of a job
that has one to send, and processes a job that is pending or has none. -/
theorem streamJob_of_not_expired (jobId : String) {job : AssistantJob κ} {now : Int}
    (hlive : ¬job.expired now) :
    (job.status ≠ .pending ∧ ¬job.Forgotten ∧
      streamJob jobId (some job) now = (some job, .written job.outcome)) ∨
    ((job.status = .pending ∨ job.Forgotten) ∧
      streamJob jobId (some job) now = (some { job with status := .running }, .processing)) := by
  obtain ⟨id, status, result, error, expires_at, text, reasoning⟩ := job
  simp only [streamJob, if_neg hlive]
  cases status with
  | pending => exact Or.inr ⟨Or.inl rfl, rfl⟩
  | running => exact Or.inl ⟨by simp, by simp [AssistantJob.Forgotten], rfl⟩
  | completed =>
      cases result with
      | none => exact Or.inr ⟨Or.inr (Or.inl ⟨rfl, rfl⟩), rfl⟩
      | some config => exact Or.inl ⟨by simp, by simp [AssistantJob.Forgotten], rfl⟩
  | error =>
      cases error with
      | none => exact Or.inr ⟨Or.inr (Or.inr ⟨rfl, rfl⟩), rfl⟩
      | some message =>
          by_cases hmessage : message = ""
          · exact Or.inr ⟨Or.inr (Or.inr ⟨rfl, hmessage⟩), if_pos hmessage⟩
          · exact Or.inl ⟨by simp, by simp [AssistantJob.Forgotten, hmessage], if_neg hmessage⟩

/-- A job that is gone or has expired is answered with an error. -/
theorem streamJob_of_gone (jobId : String) {stored : Option (AssistantJob κ)} {now : Int}
    (hgone : ∀ job, stored = some job → job.expired now) :
    ∃ events, streamJob jobId stored now = (none, .written events) := by
  cases stored with
  | none => exact ⟨_, rfl⟩
  | some job => exact ⟨_, if_pos (hgone job rfl)⟩

/-- What `processJob` does to a job leaves no job pending. -/
theorem apply_status {job : AssistantJob κ} (effect : Effect κ) (hjob : job.status ≠ .pending) :
    (job.apply effect).status ≠ .pending := by
  cases effect with
  | text delta => exact hjob
  | thinking delta => exact hjob
  | configured config => simp [AssistantJob.apply]
  | thrown message => simp [AssistantJob.apply]
  | returned =>
      simp only [AssistantJob.apply]
      split
      · exact hjob
      · simp

/-! ### A step -/

/-- A job is pending until it is processed, and only what has been processed is being
processed. -/
structure Started (s : State κ) : Prop where
  pending : s.job.status = .pending ↔ s.visits.countP Visit.processes = 0
  live : 0 < s.live → s.job.status ≠ .pending

theorem started_initial (id : String) (now : Int) : Started (State.initial κ id now) where
  pending := ⟨fun _ => rfl, fun _ => rfl⟩
  live h := absurd h (Nat.lt_irrefl 0)

theorem found_eq_some {s : State κ} {job : AssistantJob κ} :
    s.found = some job ↔ s.stored = true ∧ s.job = job := by
  unfold State.found
  cases s.stored <;> simp

/-- **What a step is**: a call that replays, one that processes the job, one that finds no
job, an effect of the processing, or a sweep. -/
theorem step_cases {s t : State κ} {a : Action κ} (h : step s a = some t) :
    (∃ now, a = .stream now ∧ s.stored = true ∧ ¬s.job.expired now ∧ s.job.status ≠ .pending ∧
      ¬s.job.Forgotten ∧
      t = { s with visits := s.visits ++ [⟨now, some s.job, .written s.job.outcome⟩] }) ∨
    (∃ now, a = .stream now ∧ s.stored = true ∧ ¬s.job.expired now ∧
      (s.job.status = .pending ∨ s.job.Forgotten) ∧
      t = { s with
        job := { s.job with status := .running }
        live := s.live + 1
        visits := s.visits ++ [⟨now, some s.job, .processing⟩] }) ∨
    (∃ now events, a = .stream now ∧ (∀ job, s.found = some job → job.expired now) ∧
      t = { s with
        stored := false
        visits := s.visits ++ [⟨now, s.found, .written events⟩] }) ∨
    (∃ effect, a = .process effect ∧ 0 < s.live ∧
      t = { s with
        job := s.job.apply effect
        stored := s.stored || s.job.storedBy effect
        live := if effect.ends then s.live - 1 else s.live }) ∨
    (∃ now, a = .sweep now ∧
      t = { s with stored := s.stored && !decide (s.job.expired now) }) := by
  cases a with
  | stream now =>
      have ht : t = s.visited now (streamJob s.job.id s.found now) := (Option.some.inj h).symm
      by_cases hgone : ∀ job, s.found = some job → job.expired now
      · obtain ⟨events, hanswer⟩ := streamJob_of_gone s.job.id hgone
        rw [hanswer] at ht
        exact Or.inr (Or.inr (Or.inl ⟨now, events, rfl, hgone, ht⟩))
      · obtain ⟨job, hgone⟩ := Classical.not_forall.mp hgone
        obtain ⟨hfound, hlive⟩ := Classical.not_imp.mp hgone
        obtain ⟨hstored, rfl⟩ := found_eq_some.mp hfound
        rw [congrArg (streamJob s.job.id · now) hfound] at ht
        rcases streamJob_of_not_expired s.job.id hlive with
          ⟨hpending, hforgotten, hanswer⟩ | ⟨hneeded, hanswer⟩
        · rw [hanswer] at ht
          refine Or.inl ⟨now, rfl, hstored, hlive, hpending, hforgotten, ?_⟩
          simp [ht, State.visited, hfound, hstored]
        · rw [hanswer] at ht
          refine Or.inr (Or.inl ⟨now, rfl, hstored, hlive, hneeded, ?_⟩)
          simp [ht, State.visited, hfound, hstored]
  | process effect =>
      simp only [step] at h
      split at h
      · rename_i hlive
        exact Or.inr (Or.inr (Or.inr (Or.inl
          ⟨effect, rfl, hlive, (Option.some.inj h).symm⟩)))
      · exact absurd h (by simp)
  | sweep now =>
      exact Or.inr (Or.inr (Or.inr (Or.inr ⟨now, rfl, (Option.some.inj h).symm⟩)))

theorem countP_visit (visits : List (Visit κ)) (v : Visit κ) :
    (visits ++ [v]).countP Visit.processes =
      visits.countP Visit.processes + if v.processes then 1 else 0 := by
  rw [List.countP_append, List.countP_singleton]

theorem started_step (s : State κ) (a : Action κ) (t : State κ) (hs : Started s)
    (h : step s a = some t) : Started t := by
  rcases step_cases h with ⟨now, -, -, -, -, -, rfl⟩ | ⟨now, -, -, -, -, rfl⟩ |
    ⟨now, events, -, -, rfl⟩ | ⟨effect, -, hlive, rfl⟩ | ⟨now, -, rfl⟩
  · exact ⟨by rw [countP_visit]; exact hs.pending, hs.live⟩
  · refine ⟨?_, fun _ => by simp⟩
    rw [countP_visit]
    simp [Visit.processes]
  · exact ⟨by rw [countP_visit]; exact hs.pending, hs.live⟩
  · have hstarted := hs.live hlive
    have happlied := apply_status effect hstarted
    refine ⟨⟨fun hpending => absurd hpending happlied, fun hnone => ?_⟩, fun _ => happlied⟩
    exact absurd (hs.pending.mpr hnone) hstarted
  · exact ⟨hs.pending, hs.live⟩

/-- One more call keeps the property when it is no second processing and replays after the
first. -/
theorem runsOnce_visit {s t : State κ} {v : Visit κ} (ht : t.visits = s.visits ++ [v])
    (hs : RunsOnce s) :
    RunsOnce t ↔
      (v.processes = true → s.visits.countP Visit.processes = 0) ∧
      ((∃ u ∈ s.visits, u.processes = true) → v.Replays) := by
  constructor
  · intro h
    refine ⟨fun hv => ?_, fun ⟨u, hu, hprocesses⟩ => ?_⟩
    · have honce := h.once
      rw [ht, countP_visit, if_pos hv] at honce
      omega
    · have hreplays := h.replays
      rw [ht, List.pairwise_append] at hreplays
      exact hreplays.2.2 u hu v (List.mem_singleton_self v) hprocesses
  · rintro ⟨honce, hreplays⟩
    refine ⟨?_, ?_⟩
    · rw [ht, countP_visit]
      split
      · rename_i hv
        have hnone := honce hv
        omega
      · exact hs.once
    · rw [ht, List.pairwise_append]
      refine ⟨hs.replays, List.pairwise_singleton _ _, fun u hu w hw hprocesses => ?_⟩
      rw [List.mem_singleton.mp hw]
      exact hreplays ⟨u, hu, hprocesses⟩

theorem runsOnce_step (s : State κ) (a : Action κ) (t : State κ) (hstarted : Started s)
    (hs : RunsOnce s) (h : step s a = some t) : RunsOnce t ↔ Replayable s a := by
  rcases step_cases h with ⟨now, rfl, -, -, -, hforgotten, rfl⟩ |
    ⟨now, rfl, hstored, hlive, hneeded, rfl⟩ | ⟨now, events, rfl, hgone, rfl⟩ |
    ⟨effect, rfl, -, rfl⟩ | ⟨now, rfl, rfl⟩
  · rw [runsOnce_visit rfl hs]
    refine ⟨fun _ _ _ => hforgotten, fun _ => ⟨fun hv => absurd hv (by simp [Visit.processes]),
      fun _ job hjob _ => ?_⟩⟩
    rw [Option.some.inj hjob]
  · rw [runsOnce_visit rfl hs]
    constructor
    · rintro ⟨honce, -⟩ _ _ hforgotten
      have hpending : s.job.status = .pending := hstarted.pending.mpr (honce rfl)
      simp [AssistantJob.Forgotten, hpending] at hforgotten
    · intro hreplayable
      have hpending := hneeded.resolve_right (hreplayable hstored hlive)
      have hnone := hstarted.pending.mp hpending
      refine ⟨fun _ => hnone, fun ⟨u, hu, hprocesses⟩ => ?_⟩
      exact absurd hprocesses (List.countP_eq_zero.mp hnone u hu)
  · rw [runsOnce_visit rfl hs]
    refine ⟨fun _ hstored hlive => absurd (hgone s.job ?_) hlive, fun _ =>
      ⟨fun hv => absurd hv (by simp [Visit.processes]), fun _ job hjob hlive =>
        absurd (hgone job hjob) hlive⟩⟩
    exact found_eq_some.mpr ⟨hstored, rfl⟩
  · exact ⟨fun _ => trivial, fun _ => ⟨hs.once, hs.replays⟩⟩
  · exact ⟨fun _ => trivial, fun _ => ⟨hs.once, hs.replays⟩⟩

/-- **A job runs at most once exactly in the runs in which no call finds it ended with nothing
to send.** -/
theorem runsOnce_iff (id : String) (now : Int) (actions : List (Action κ)) :
    (∀ before t, before <+: actions → Machine.exec step (State.initial κ id now) before = some t →
        RunsOnce t) ↔
      Machine.Meets step Replayable (State.initial κ id now) actions := by
  refine Machine.always_iff_meets started_step runsOnce_step (fun s a h => ?_)
    (started_initial id now) ⟨Nat.zero_le 1, List.Pairwise.nil⟩
  cases a with
  | stream now => exact absurd h (by simp [step])
  | process effect => trivial
  | sweep now => trivial

namespace JobExample

/-- The model answers in plain text, and the client opens the stream once more. -/
def plainTextAnswer : List (Action String) :=
  [.stream 0, .process (.text "Bounce rate is the share of short visits."),
    .process .returned, .stream 60000]

/-- The job is processed twice. -/
theorem plain_text_twice :
    ∃ t, Machine.exec step (State.initial String "job" 0) plainTextAnswer = some t ∧
      t.visits.countP Visit.processes = 2 ∧ ¬RunsOnce t :=
  ⟨_, rfl, by decide, fun h => absurd h.once (by decide)⟩

end JobExample

end Veridian.AssistantJobs
