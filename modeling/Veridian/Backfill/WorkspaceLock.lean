/-
The lock of `FilterBackfillProcessor.process`.

A call looks for the promise of an earlier backfill of its workspace and awaits it once.
When it goes on it looks at nothing again: it puts its own promise in the map and runs.
The `finally` block resolves the call's promise and deletes whatever entry is there.

So two calls that wait for the same promise both run when it resolves.  The lock excludes
exactly as long as no call begins while another one of the workspace is waiting.
-/
import Mathlib.Data.List.Basic
import Mathlib.Logic.Function.Basic
import Veridian.Lib.Machine

namespace Veridian

inductive ProcessPhase where
  /-- `await existingLock`, the promise of the call of that number. -/
  | waiting (lock : Nat)
  /-- `processInternal` -/
  | running
  | done
deriving DecidableEq

structure ProcessCall where
  workspaceId : String
  phase : ProcessPhase
deriving DecidableEq

/-- The calls in the order they began.  The promise a call makes goes by its number. -/
structure WorkspaceLocks where
  calls : List ProcessCall
  workspaceLocks : String → Option Nat

inductive LockAction where
  | process (workspaceId : String)
  /-- The `i`-th call wakes up. -/
  | resume (i : Nat)
  /-- The `processInternal` of the `i`-th call returns or throws. -/
  | finish (i : Nat)

namespace WorkspaceLocks

def init : WorkspaceLocks := ⟨[], fun _ => none⟩

/-- A promise is resolved when the call that made it is done. -/
def resolved (s : WorkspaceLocks) (lock : Nat) : Bool :=
  (s.calls[lock]?).any fun call => call.phase == .done

/-- `workspaceLocks.set`, and on into `processInternal`. -/
def enter (s : WorkspaceLocks) (i : Nat) (workspaceId : String) (calls : List ProcessCall) :
    WorkspaceLocks :=
  { calls := calls
    workspaceLocks := Function.update s.workspaceLocks workspaceId (some i) }

def step (s : WorkspaceLocks) : LockAction → Option WorkspaceLocks
  | .process workspaceId =>
      match s.workspaceLocks workspaceId with
      | some existingLock =>
          some { s with calls := s.calls ++ [⟨workspaceId, .waiting existingLock⟩] }
      | none => some (s.enter s.calls.length workspaceId (s.calls ++ [⟨workspaceId, .running⟩]))
  | .resume i =>
      match s.calls[i]? with
      | some ⟨workspaceId, .waiting lock⟩ =>
          if s.resolved lock then
            some (s.enter i workspaceId (s.calls.set i ⟨workspaceId, .running⟩))
          else none
      | _ => none
  | .finish i =>
      match s.calls[i]? with
      | some ⟨workspaceId, .running⟩ =>
          some { calls := s.calls.set i ⟨workspaceId, .done⟩
                 workspaceLocks := Function.update s.workspaceLocks workspaceId none }
      | _ => none

inductive Stepped (s : WorkspaceLocks) : LockAction → WorkspaceLocks → Prop
  | queued (w : String) (lock : Nat) (h : s.workspaceLocks w = some lock) :
      Stepped s (.process w) { s with calls := s.calls ++ [⟨w, .waiting lock⟩] }
  | entered (w : String) (h : s.workspaceLocks w = none) :
      Stepped s (.process w) (s.enter s.calls.length w (s.calls ++ [⟨w, .running⟩]))
  | resumed (i : Nat) (w : String) (lock : Nat) (h : s.calls[i]? = some ⟨w, .waiting lock⟩)
      (hlock : s.resolved lock = true) :
      Stepped s (.resume i) (s.enter i w (s.calls.set i ⟨w, .running⟩))
  | finished (i : Nat) (w : String) (h : s.calls[i]? = some ⟨w, .running⟩) :
      Stepped s (.finish i)
        { calls := s.calls.set i ⟨w, .done⟩
          workspaceLocks := Function.update s.workspaceLocks w none }

theorem stepped_of_step {s s' : WorkspaceLocks} {a : LockAction} (h : s.step a = some s') :
    Stepped s a s' := by
  unfold step at h
  split at h
  · split at h
    · rename_i lock hlock
      obtain rfl := Option.some.inj h
      exact .queued _ lock hlock
    · rename_i hlock
      obtain rfl := Option.some.inj h
      exact .entered _ hlock
  · split at h
    · rename_i w lock hcall
      split at h
      · rename_i hlock
        obtain rfl := Option.some.inj h
        exact .resumed _ w lock hcall hlock
      · exact absurd h (by simp)
    · exact absurd h (by simp)
  · split at h
    · rename_i w hcall
      obtain rfl := Option.some.inj h
      exact .finished _ w hcall
    · exact absurd h (by simp)

/-! ### Where the calls of a workspace stand -/

/-- The `i`-th call is one of the workspace and stands in `phase`. -/
def StandsAt (calls : List ProcessCall) (w : String) (i : Nat) (phase : ProcessPhase) : Prop :=
  calls[i]? = some ⟨w, phase⟩

theorem standsAt_append {calls : List ProcessCall} {w w' : String} {i : Nat}
    {phase phase' : ProcessPhase} :
    StandsAt (calls ++ [⟨w', phase'⟩]) w i phase ↔
      StandsAt calls w i phase ∨ i = calls.length ∧ w' = w ∧ phase' = phase := by
  unfold StandsAt
  rcases Nat.lt_trichotomy i calls.length with hlt | heq | hgt
  · rw [List.getElem?_append_left hlt]
    exact ⟨Or.inl, fun h => h.resolve_right fun hc => absurd hc.1 (Nat.ne_of_lt hlt)⟩
  · subst heq
    simp
  · have hlen : (calls ++ [ProcessCall.mk w' phase']).length ≤ i := by
      rw [List.length_append]
      exact hgt
    rw [List.getElem?_eq_none hlen, List.getElem?_eq_none (Nat.le_of_lt hgt)]
    simp [Nat.ne_of_gt hgt]

theorem standsAt_set {calls : List ProcessCall} {w w' : String} {i k : Nat}
    {phase phase' : ProcessPhase} (hk : k < calls.length) :
    StandsAt (calls.set k ⟨w', phase'⟩) w i phase ↔
      i = k ∧ w' = w ∧ phase' = phase ∨ i ≠ k ∧ StandsAt calls w i phase := by
  unfold StandsAt
  by_cases hik : i = k
  · subst hik
    rw [List.getElem?_set_self hk]
    simp
  · rw [List.getElem?_set_ne (Ne.symm hik)]
    simp [hik]

theorem StandsAt.lt {calls : List ProcessCall} {w : String} {i : Nat} {phase : ProcessPhase}
    (h : StandsAt calls w i phase) : i < calls.length :=
  (List.getElem?_eq_some_iff.mp h).1

theorem StandsAt.inj {calls : List ProcessCall} {w w' : String} {i : Nat}
    {phase phase' : ProcessPhase} (h : StandsAt calls w i phase) (h' : StandsAt calls w' i phase') :
    w = w' ∧ phase = phase' := by
  have heq := Option.some.inj (h.symm.trans h')
  exact ⟨congrArg ProcessCall.workspaceId heq, congrArg ProcessCall.phase heq⟩

theorem resolved_iff {s : WorkspaceLocks} {lock : Nat} :
    s.resolved lock = true ↔ ∃ w, StandsAt s.calls w lock .done := by
  unfold resolved StandsAt
  rw [Option.any_eq_true]
  constructor
  · rintro ⟨⟨w, phase⟩, hcall, hdone⟩
    obtain rfl : phase = .done := eq_of_beq hdone
    exact ⟨w, hcall⟩
  · rintro ⟨w, hcall⟩
    exact ⟨_, hcall, beq_self_eq_true _⟩

/-! ### Exclusion -/

def Running (s : WorkspaceLocks) (w : String) (i : Nat) : Prop := StandsAt s.calls w i .running

def Waiting (s : WorkspaceLocks) (w : String) (i lock : Nat) : Prop :=
  StandsAt s.calls w i (.waiting lock)

/-- At most one `processInternal` of a workspace is running. -/
def MutualExclusion (s : WorkspaceLocks) : Prop :=
  ∀ w i j, s.Running w i → s.Running w j → i = j

/-- No call of the workspace is waiting when another one begins. -/
def Unqueued (s : WorkspaceLocks) : LockAction → Prop
  | .process w => ∀ i lock, ¬s.Waiting w i lock
  | _ => True

/-- The running call of a workspace is the one in the map, and a single call waits for it. -/
structure Held (s : WorkspaceLocks) (w : String) : Prop where
  lock : ∀ i, s.Running w i ↔ s.workspaceLocks w = some i
  single : ∀ i j lock lock', s.Waiting w i lock → s.Waiting w j lock' → i = j
  awaited : ∀ i j lock, s.Running w i → s.Waiting w j lock → lock = i

theorem held_init (w : String) : Held .init w := by
  refine ⟨fun i => ?_, fun i j lock lock' h => ?_, fun i j lock h => ?_⟩
  · simp [Running, StandsAt, init]
  · exact absurd h (by simp [Waiting, StandsAt, init])
  · exact absurd h (by simp [Running, StandsAt, init])

/-- A step of another workspace. -/
theorem Held.of_same {s s' : WorkspaceLocks} {w : String} (h : Held s w)
    (hcalls : ∀ i phase, StandsAt s'.calls w i phase ↔ StandsAt s.calls w i phase)
    (hlock : s'.workspaceLocks w = s.workspaceLocks w) : Held s' w := by
  refine ⟨fun i => ?_, fun i j lock lock' hi hj => ?_, fun i j lock hi hj => ?_⟩
  · rw [hlock, ← h.lock i]
    exact hcalls i _
  · exact h.single i j lock lock' ((hcalls i _).mp hi) ((hcalls j _).mp hj)
  · exact h.awaited i j lock ((hcalls i _).mp hi) ((hcalls j _).mp hj)

theorem standsAt_append_ne {calls : List ProcessCall} {w w' : String} {phase' : ProcessPhase}
    (hw : w' ≠ w) (i : Nat) (phase : ProcessPhase) :
    StandsAt (calls ++ [⟨w', phase'⟩]) w i phase ↔ StandsAt calls w i phase := by
  rw [standsAt_append]
  exact ⟨fun h => h.resolve_right fun hc => hw hc.2.1, Or.inl⟩

theorem standsAt_set_ne {calls : List ProcessCall} {w w' : String} {k : Nat}
    {old phase' : ProcessPhase} (hk : StandsAt calls w' k old) (hw : w' ≠ w) (i : Nat)
    (phase : ProcessPhase) :
    StandsAt (calls.set k ⟨w', phase'⟩) w i phase ↔ StandsAt calls w i phase := by
  rw [standsAt_set hk.lt]
  constructor
  · rintro (⟨-, hc, -⟩ | ⟨-, h⟩)
    · exact absurd hc hw
    · exact h
  · intro h
    refine Or.inr ⟨?_, h⟩
    rintro rfl
    exact hw (hk.inj h).1

/-- A call begins while no other one waits. -/
theorem Held.process {s s' : WorkspaceLocks} {w : String} (h : Held s w)
    (hunqueued : ∀ i lock, ¬s.Waiting w i lock) (hstep : Stepped s (.process w) s') :
    Held s' w := by
  cases hstep with
  | queued _ lock hlock =>
      have hrun : ∀ i, StandsAt (s.calls ++ [⟨w, .waiting lock⟩]) w i .running ↔ s.Running w i := by
        intro i
        simp [standsAt_append, Running]
      have hwait : ∀ i lock', StandsAt (s.calls ++ [⟨w, .waiting lock⟩]) w i (.waiting lock') ↔
          i = s.calls.length ∧ lock = lock' := by
        intro i lock'
        rw [standsAt_append]
        have := hunqueued i lock'
        unfold Waiting at this
        simp [this]
      refine ⟨fun i => (hrun i).trans (h.lock i), fun i j lock₁ lock₂ hi hj => ?_,
        fun i j lock' hi hj => ?_⟩
      · rw [((hwait i lock₁).mp hi).1, ((hwait j lock₂).mp hj).1]
      · obtain rfl := ((hwait j lock').mp hj).2
        have hi' := (h.lock i).mp ((hrun i).mp hi)
        exact Option.some.inj (hlock.symm.trans hi')
  | entered _ hlock =>
      have hnone : ∀ i, ¬s.Running w i := by
        intro i hi
        exact absurd ((h.lock i).mp hi) (by simp [hlock])
      have hwait : ∀ i lock', ¬StandsAt (s.calls ++ [⟨w, .running⟩]) w i (.waiting lock') := by
        intro i lock' hi
        refine (standsAt_append.mp hi).elim (hunqueued i lock') fun hc => ?_
        exact ProcessPhase.noConfusion hc.2.2
      refine ⟨fun i => ?_, fun i j lock₁ lock₂ hi _ => absurd hi (hwait i lock₁),
        fun i j lock' _ hj => absurd hj (hwait j lock')⟩
      show StandsAt (s.calls ++ [⟨w, .running⟩]) w i .running ↔
        Function.update s.workspaceLocks w (some s.calls.length) w = some i
      have hi := hnone i
      unfold Running at hi
      simp [standsAt_append, hi, eq_comm]

/-- The promise a waiting call wakes up on belongs to a call that is done, so nothing runs. -/
theorem Held.none_running {s : WorkspaceLocks} {w : String} (h : Held s w) {j lock : Nat}
    (hwait : s.Waiting w j lock) (hlock : s.resolved lock = true) (i : Nat) :
    ¬s.Running w i := by
  intro hi
  obtain ⟨w', hdone⟩ := resolved_iff.mp hlock
  obtain rfl := h.awaited i j lock hi hwait
  exact ProcessPhase.noConfusion (hi.inj hdone).2

/-- The call that waits goes on. -/
theorem Held.resume {s : WorkspaceLocks} {w : String} (h : Held s w) {k lock : Nat}
    (hk : s.Waiting w k lock) (hlock : s.resolved lock = true) :
    Held (s.enter k w (s.calls.set k ⟨w, .running⟩)) w := by
  have hnone := h.none_running hk hlock
  have hwait : ∀ j lock', ¬StandsAt (s.calls.set k ⟨w, .running⟩) w j (.waiting lock') := by
    intro j lock' hj
    rcases (standsAt_set hk.lt).mp hj with ⟨-, -, hc⟩ | ⟨hne, hj'⟩
    · exact ProcessPhase.noConfusion hc
    · exact hne (h.single j k lock' lock hj' hk)
  refine ⟨fun i => ?_, fun i j lock₁ lock₂ hi _ => absurd hi (hwait i lock₁),
    fun i j lock' _ hj => absurd hj (hwait j lock')⟩
  show StandsAt (s.calls.set k ⟨w, .running⟩) w i .running ↔
    Function.update s.workspaceLocks w (some k) w = some i
  have hi := hnone i
  unfold Running at hi
  rw [standsAt_set hk.lt, Function.update_self]
  simp [hi, eq_comm]

/-- The call that runs ends. -/
theorem Held.finish {s : WorkspaceLocks} {w : String} (h : Held s w) {k : Nat}
    (hk : s.Running w k) :
    Held ⟨s.calls.set k ⟨w, .done⟩, Function.update s.workspaceLocks w none⟩ w := by
  have hnone : ∀ i, ¬StandsAt (s.calls.set k ⟨w, .done⟩) w i .running := by
    intro i hi
    rcases (standsAt_set hk.lt).mp hi with ⟨-, -, hc⟩ | ⟨hne, hi'⟩
    · exact ProcessPhase.noConfusion hc
    · exact hne (Option.some.inj (((h.lock i).mp hi').symm.trans ((h.lock k).mp hk)))
  have hwait : ∀ j lock, StandsAt (s.calls.set k ⟨w, .done⟩) w j (.waiting lock) →
      s.Waiting w j lock := by
    intro j lock hj
    rcases (standsAt_set hk.lt).mp hj with ⟨-, -, hc⟩ | ⟨-, hj'⟩
    · exact ProcessPhase.noConfusion hc
    · exact hj'
  refine ⟨fun i => ?_, fun i j lock lock' hi hj => ?_, fun i j lock hi _ => absurd hi (hnone i)⟩
  · refine ⟨fun hi => absurd hi (hnone i), fun hi => ?_⟩
    have hi : Function.update s.workspaceLocks w none w = some i := hi
    rw [Function.update_self] at hi
    exact absurd hi (by simp)
  · exact h.single i j lock lock' (hwait i lock hi) (hwait j lock' hj)

/-- **What a step that meets the condition preserves.** -/
theorem Held.step {s s' : WorkspaceLocks} {a : LockAction} {w : String} (h : Held s w)
    (hC : s.Unqueued a) (hstep : s.step a = some s') : Held s' w := by
  have hstepped := stepped_of_step hstep
  cases a with
  | process w' =>
      by_cases hw : w' = w
      · subst hw
        exact h.process hC hstepped
      · cases hstepped with
        | queued _ lock _ => exact h.of_same (standsAt_append_ne hw) rfl
        | entered _ _ =>
            exact h.of_same (standsAt_append_ne hw) (Function.update_of_ne (Ne.symm hw) _ _)
  | resume k =>
      cases hstepped with
      | resumed _ w' lock hcall hlock =>
          by_cases hw : w' = w
          · subst hw
            exact h.resume hcall hlock
          · exact h.of_same (standsAt_set_ne hcall hw) (Function.update_of_ne (Ne.symm hw) _ _)
  | finish k =>
      cases hstepped with
      | finished _ w' hcall =>
          by_cases hw : w' = w
          · subst hw
            exact h.finish hcall
          · exact h.of_same (standsAt_set_ne hcall hw) (Function.update_of_ne (Ne.symm hw) _ _)

/--
**Mutual exclusion of backfills.**

In every run in which no call begins while another one of its workspace is waiting, at
most one `processInternal` of a workspace is running, in whatever order the calls wake.
-/
theorem backfill_mutual_exclusion {as : List LockAction} {s : WorkspaceLocks}
    (hmeets : Machine.Meets WorkspaceLocks.step Unqueued .init as)
    (h : Machine.exec WorkspaceLocks.step .init as = some s) : s.MutualExclusion := by
  intro w i j hi hj
  have hheld : Held s w := Machine.exec_invariant_of_meets (P := fun s => Held s w)
    (fun _ _ _ hs hC hstep => hs.step hC hstep) (held_init w) hmeets h
  exact Option.some.inj (((hheld.lock i).mp hi).symm.trans ((hheld.lock j).mp hj))

/-- Two backfills that take turns. -/
theorem backfill_mutual_exclusion_run :
    ∃ s, Machine.exec WorkspaceLocks.step .init
        [.process "w", .process "w", .finish 0, .resume 1] = some s ∧
      s.MutualExclusion ∧ s.Running "w" 1 := by
  have hmeets : Machine.Meets WorkspaceLocks.step Unqueued .init
      [.process "w", .process "w", .finish 0, .resume 1] := by
    refine Machine.meets_cons ?_ rfl (Machine.meets_cons ?_ rfl
      (Machine.meets_cons trivial rfl (Machine.meets_cons trivial rfl trivial)))
    · exact fun i lock hwait => absurd hwait.lt (Nat.not_lt_zero i)
    · intro i lock hwait
      obtain rfl : i = 0 := Nat.lt_one_iff.mp hwait.lt
      exact ProcessPhase.noConfusion (hwait.inj (show StandsAt _ "w" 0 .running from rfl)).2
  exact ⟨_, rfl, backfill_mutual_exclusion hmeets rfl, rfl⟩

/-- Two calls wait for a third, and both run when it is done. -/
theorem backfill_not_exclusive :
    ∃ s, Machine.exec WorkspaceLocks.step .init
        [.process "w", .process "w", .process "w", .finish 0, .resume 1, .resume 2] = some s ∧
      ¬s.MutualExclusion := by
  refine ⟨_, rfl, fun h => ?_⟩
  exact absurd (h "w" 1 2 rfl rfl) (by decide)

end WorkspaceLocks

end Veridian
