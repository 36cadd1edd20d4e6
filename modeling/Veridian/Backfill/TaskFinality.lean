/-
The final statuses of a backfill task.

The processor never stores a final row and then goes on working, so by itself it keeps a
final status.  `cancelTask` does not: its row gets into the table whatever the processor is
about to store, and after whatever it has stored since the query.  And a final row whose
insert is reported as failed is followed by `failed`.
-/
import Veridian.Backfill.TaskRows

namespace Veridian.BackfillRows

/-- After a final row, every row has its status. -/
def StatusFinal (rows : List BackfillTask) : Prop :=
  rows.Pairwise fun earlier later =>
    isTerminal earlier.status = true → later.status = earlier.status

theorem statusFinal_append {rows : List BackfillTask} {row : BackfillTask}
    (h : StatusFinal rows)
    (hrow : ∀ r ∈ rows, isTerminal r.status = true → row.status = r.status) :
    StatusFinal (rows ++ [row]) := by
  refine List.pairwise_append.mpr ⟨h, List.pairwise_singleton _ row, fun a ha b hb => ?_⟩
  rw [List.mem_singleton.mp hb]
  exact hrow a ha

/-! ### What the processor can still store -/

/-- The processor stores no row of another status, short of writing `failed` after it threw. -/
def ProcessorPhase.closedTo (phase : ProcessorPhase) (status : BackfillTaskStatus) : Bool :=
  match phase with
  | .ended | .threw _ => true
  | .finishing status' _ _ _ _ | .backoff status' _ _ => status' = status
  | _ => false

def ProcessorPhase.hasThrown : ProcessorPhase → Bool
  | .threw _ => true
  | _ => false

/-- The row that is being inserted. -/
def ProcessorPhase.sends : ProcessorPhase → Bool
  | .storing row _ _ _ => !isTerminal row.status
  | .finishing status _ _ row _ => row.status = status
  | _ => true

def CancelCall.sends : CancelCall → Bool
  | .inserting row => row.status = .cancelled
  | _ => true

/-- What holds of a task whose steps meet the condition. -/
structure Kept (s : TaskRun) : Prop where
  final : StatusFinal s.rows
  closed : ∀ r ∈ s.rows, isTerminal r.status = true → s.phase.closedTo r.status = true
  copy : isTerminal s.task.status = false
  sends : s.phase.sends = true
  cancels : ∀ call ∈ s.cancels, call.sends = true

/--
A row of `cancelTask` gets into the table only when no `completed` or `failed` row is there
and the processor has nothing but `cancelled` or `failed` left to store; and the processor
turns to writing `failed` only when there is no final row.
-/
def Uncrossed (s : TaskRun) : TaskAction → Prop
  | .cancelLand _ =>
      (∀ r ∈ s.rows, r.status ≠ .completed ∧ r.status ≠ .failed) ∧
        s.phase.closedTo .cancelled = true
  | .conclude _ => s.phase.hasThrown = true → ∀ r ∈ s.rows, isTerminal r.status = false
  | _ => True

/-- A phase from which the processor goes on has no final row behind it. -/
theorem Kept.unfinished {s : TaskRun} (h : Kept s) (hphase : ∀ status, s.phase.closedTo status = false) :
    ∀ r ∈ s.rows, isTerminal r.status = false := by
  intro r hr
  by_contra hterminal
  have hclosed := h.closed r hr (by simpa using hterminal)
  rw [hphase] at hclosed
  exact absurd hclosed (by simp)

/-- The processor goes on, with no final row behind it. -/
theorem Kept.advance {s : TaskRun} (h : Kept s) (hopen : ∀ r ∈ s.rows, isTerminal r.status = false)
    {phase : ProcessorPhase} (hsends : phase.sends = true) (cancelled : Bool) :
    Kept { s with phase := phase, cancelled := cancelled } :=
  ⟨h.final, fun r hr hterminal => absurd (hopen r hr) (by simp [hterminal]), h.copy, hsends,
    h.cancels⟩

theorem finish_sends {s : TaskRun} {status : BackfillTaskStatus} {message : Option String}
    {attempt : Nat} {now : Int} : (s.finish status message attempt now).phase.sends = true :=
  decide_eq_true rfl

theorem storing_sends {row : BackfillTask} {landed : Bool} {chunk : Option String} {next : Resume}
    (h : isTerminal row.status = false) :
    (ProcessorPhase.storing row landed chunk next).sends = true := by
  rw [ProcessorPhase.sends, h]
  rfl

theorem inserting_sends {now : Int} {task : BackfillTask} :
    (CancelCall.inserting (updateTaskStatus now task .cancelled none)).sends = true := by
  unfold CancelCall.sends
  exact decide_eq_true rfl

theorem Kept.cancelsSet {s : TaskRun} (h : Kept s) {i : Nat} {call : CancelCall}
    (hcall : call.sends = true) : ∀ c ∈ s.cancels.set i call, c.sends = true := by
  intro c hc
  rcases List.mem_or_eq_of_mem_set hc with hold | rfl
  · exact h.cancels c hold
  · exact hcall

theorem Kept.land {s s' : TaskRun} (h : Kept s) (hstep : s.land = some s') : Kept s' := by
  unfold TaskRun.land at hstep
  split at hstep
  · rename_i hphase
    obtain rfl := Option.some.inj hstep
    have hopen := h.unfinished fun status => by rw [hphase]; rfl
    refine ⟨statusFinal_append h.final fun r hr hterminal => ?_, fun r hr hterminal => ?_, h.copy,
      rfl, h.cancels⟩
    · exact absurd (hopen r hr) (by simp [hterminal])
    · rcases List.mem_append.mp hr with hr | hr
      · exact absurd (hopen r hr) (by simp [hterminal])
      · rw [List.mem_singleton.mp hr, h.copy] at hterminal
        exact absurd hterminal (by simp)
  · rename_i row chunk next hphase
    obtain rfl := Option.some.inj hstep
    have hopen := h.unfinished fun status => by rw [hphase]; rfl
    have hsends := h.sends
    rw [hphase] at hsends
    have hrow : isTerminal row.status = false := by simpa [ProcessorPhase.sends] using hsends
    refine ⟨statusFinal_append h.final fun r hr hterminal => ?_, fun r hr hterminal => ?_, h.copy,
      hsends, h.cancels⟩
    · exact absurd (hopen r hr) (by simp [hterminal])
    · rcases List.mem_append.mp hr with hr | hr
      · exact absurd (hopen r hr) (by simp [hterminal])
      · rw [List.mem_singleton.mp hr, hrow] at hterminal
        exact absurd hterminal (by simp)
  · rename_i status message attempt row hphase
    obtain rfl := Option.some.inj hstep
    have hsends := h.sends
    rw [hphase] at hsends
    have hrow : row.status = status := by simpa [ProcessorPhase.sends] using hsends
    have hclosed : ∀ r ∈ s.rows, isTerminal r.status = true → status = r.status := by
      intro r hr hterminal
      have hclosed := h.closed r hr hterminal
      rw [hphase] at hclosed
      simpa [ProcessorPhase.closedTo] using hclosed
    refine ⟨statusFinal_append h.final fun r hr hterminal => ?_, fun r hr hterminal => ?_, h.copy,
      hsends, h.cancels⟩
    · rw [hrow]
      exact hclosed r hr hterminal
    · rcases List.mem_append.mp hr with hr | hr
      · exact decide_eq_true (hclosed r hr hterminal)
      · rw [List.mem_singleton.mp hr]
        exact decide_eq_true hrow.symm
  · exact absurd hstep (by simp)

theorem Kept.ack {s s' : TaskRun} {error : Option String} (h : Kept s)
    (hstep : s.ack error = some s') : Kept s' := by
  cases error with
  | none =>
      simp only [TaskRun.ack] at hstep
      split at hstep
      · rename_i hphase
        obtain rfl := Option.some.inj hstep
        exact h.advance (h.unfinished fun status => by rw [hphase]; rfl) rfl _
      · rename_i row chunk next hphase
        obtain rfl := Option.some.inj hstep
        have hopen := h.unfinished fun status => by rw [hphase]; rfl
        have hsends := h.sends
        rw [hphase] at hsends
        refine ⟨h.final, fun r hr hterminal => absurd (hopen r hr) (by simp [hterminal]), ?_, ?_,
          h.cancels⟩
        · simpa [ProcessorPhase.sends] using hsends
        · cases next <;> rfl
      · obtain rfl := Option.some.inj hstep
        exact ⟨h.final, fun _ _ _ => rfl, h.copy, rfl, h.cancels⟩
      · exact absurd hstep (by simp)
  | some error =>
      simp only [TaskRun.ack, TaskRun.failed] at hstep
      obtain ⟨phase, hphase', rfl⟩ := Option.map_eq_some_iff.mp hstep
      split at hphase'
      · obtain rfl := Option.some.inj hphase'
        exact ⟨h.final, fun _ _ _ => rfl, h.copy, rfl, h.cancels⟩
      · obtain rfl := Option.some.inj hphase'
        exact ⟨h.final, fun _ _ _ => rfl, h.copy, rfl, h.cancels⟩
      · rename_i status message attempt row landed hphase
        split at hphase'
        · obtain rfl := Option.some.inj hphase'
          refine ⟨h.final, fun r hr hterminal => ?_, h.copy, rfl, h.cancels⟩
          have hclosed := h.closed r hr hterminal
          rw [hphase] at hclosed
          exact hclosed
        · split at hphase'
          · obtain rfl := Option.some.inj hphase'
            exact ⟨h.final, fun _ _ _ => rfl, h.copy, rfl, h.cancels⟩
          · obtain rfl := Option.some.inj hphase'
            exact ⟨h.final, fun _ _ _ => rfl, h.copy, rfl, h.cancels⟩
      · exact absurd hphase' (by simp)

theorem Kept.conclude {s s' : TaskRun} {now : Int} (h : Kept s)
    (huncrossed : Uncrossed s (.conclude now)) (hstep : s.conclude now = some s') : Kept s' := by
  unfold TaskRun.conclude at hstep
  split at hstep
  · rename_i hphase
    obtain rfl := Option.some.inj hstep
    exact h.advance (h.unfinished fun status => by rw [hphase]; rfl) finish_sends _
  · rename_i message hphase
    obtain rfl := Option.some.inj hstep
    exact h.advance (huncrossed (by rw [hphase]; rfl)) finish_sends _
  · rename_i status message attempt hphase
    obtain rfl := Option.some.inj hstep
    refine ⟨h.final, fun r hr hterminal => ?_, h.copy, finish_sends, h.cancels⟩
    have hclosed := h.closed r hr hterminal
    rw [hphase] at hclosed
    exact hclosed
  · exact absurd hstep (by simp)

/-- The processor between its start and its end. -/
theorem Kept.work {s s' : TaskRun} (h : Kept s)
    (hstep : s.fire = some s' ∨ (∃ chunks, s.prepare chunks = some s') ∨
      (∃ counts now, s.count counts now = some s') ∨ (∃ now, s.iterate now = some s') ∨
      ∃ done now, s.worked done now = some s') : Kept s' := by
  have hopen : ∀ {phase}, s.phase = phase → (∀ status, phase.closedTo status = false) →
      ∀ r ∈ s.rows, isTerminal r.status = false :=
    fun hphase hclosed => h.unfinished fun status => by rw [hphase]; exact hclosed status
  rcases hstep with hstep | ⟨chunks, hstep⟩ | ⟨counts, now, hstep⟩ | ⟨now, hstep⟩ | ⟨done, now, hstep⟩
  · unfold TaskRun.fire at hstep
    split at hstep
    · rename_i hphase
      obtain rfl := Option.some.inj hstep
      exact h.advance (hopen hphase fun _ => rfl) rfl _
    · exact absurd hstep (by simp)
  · unfold TaskRun.prepare at hstep
    split at hstep
    · rename_i hphase
      obtain rfl := Option.some.inj hstep
      exact h.advance (hopen hphase fun _ => rfl) rfl _
    · rename_i hphase
      obtain rfl := Option.some.inj hstep
      exact h.advance (hopen hphase fun _ => rfl) rfl _
    · exact absurd hstep (by simp)
  · unfold TaskRun.count at hstep
    split at hstep
    · rename_i hphase
      obtain rfl := Option.some.inj hstep
      exact h.advance (hopen hphase fun _ => rfl) rfl _
    · rename_i hphase
      obtain rfl := Option.some.inj hstep
      exact h.advance (hopen hphase fun _ => rfl) rfl _
    · rename_i hphase
      obtain rfl := Option.some.inj hstep
      exact h.advance (hopen hphase fun _ => rfl) rfl _
    · exact absurd hstep (by simp)
  · unfold TaskRun.iterate at hstep
    split at hstep
    · rename_i hphase
      obtain rfl := Option.some.inj hstep
      exact h.advance (hopen hphase fun _ => rfl) rfl _
    · rename_i hphase
      split at hstep
      · obtain rfl := Option.some.inj hstep
        exact h.advance (hopen hphase fun _ => rfl) rfl _
      · obtain rfl := Option.some.inj hstep
        refine h.advance (hopen hphase fun _ => rfl) ?_ _
        exact storing_sends h.copy
    · exact absurd hstep (by simp)
  · unfold TaskRun.worked at hstep
    split at hstep
    · rename_i hphase
      obtain rfl := Option.some.inj hstep
      exact h.advance (hopen hphase fun _ => rfl) rfl _
    · rename_i hphase
      obtain rfl := Option.some.inj hstep
      refine h.advance (hopen hphase fun _ => rfl) ?_ _
      exact storing_sends h.copy
    · exact absurd hstep (by simp)

/-- A call of `cancelTask`, up to its row. -/
theorem Kept.cancel {s s' : TaskRun} (h : Kept s)
    (hstep : s.step .cancelTask = some s' ∨ (∃ i now, s.cancelCheck i now = some s') ∨
      ∃ i now, s.cancelSend i now = some s') : Kept s' := by
  have hset : ∀ i call cancelled, CancelCall.sends call = true →
      Kept { s with cancelled := cancelled, cancels := s.cancels.set i call } :=
    fun i call _ hcall => ⟨h.final, h.closed, h.copy, h.sends, h.cancelsSet hcall⟩
  rcases hstep with hstep | ⟨i, now, hstep⟩ | ⟨i, now, hstep⟩
  · obtain rfl := Option.some.inj hstep
    refine ⟨h.final, h.closed, h.copy, h.sends, fun call hcall => ?_⟩
    rcases List.mem_append.mp hcall with hold | hnew
    · exact h.cancels call hold
    · rw [List.mem_singleton.mp hnew]
      rfl
  · unfold TaskRun.cancelCheck at hstep
    split at hstep
    · obtain rfl := Option.some.inj hstep
      exact hset i .done _ rfl
    · split at hstep
      · obtain rfl := Option.some.inj hstep
        exact hset i .done _ rfl
      · split at hstep
        · obtain rfl := Option.some.inj hstep
          exact hset i (.killing _) _ rfl
        · obtain rfl := Option.some.inj hstep
          exact hset i (.inserting _) _ inserting_sends
    · exact absurd hstep (by simp)
  · unfold TaskRun.cancelSend at hstep
    split at hstep
    · obtain rfl := Option.some.inj hstep
      exact hset i (.inserting _) _ inserting_sends
    · exact absurd hstep (by simp)

/-- The row of a call of `cancelTask`. -/
theorem Kept.cancelLand {s s' : TaskRun} {i : Nat} (h : Kept s)
    (huncrossed : Uncrossed s (.cancelLand i)) (hstep : s.cancelLand i = some s') : Kept s' := by
  unfold TaskRun.cancelLand at hstep
  split at hstep
  · rename_i row hcall
    obtain rfl := Option.some.inj hstep
    obtain ⟨hnone, hclosed⟩ := huncrossed
    have hrow : row.status = .cancelled :=
      of_decide_eq_true (h.cancels _ (List.mem_of_getElem? hcall))
    have hcancelled : ∀ r ∈ s.rows, isTerminal r.status = true → r.status = .cancelled := by
      intro r hr hterminal
      obtain ⟨hcompleted, hfailed⟩ := hnone r hr
      simpa [isTerminal, hcompleted, hfailed] using hterminal
    refine ⟨statusFinal_append h.final fun r hr hterminal => ?_, fun r hr hterminal => ?_, h.copy,
      h.sends, h.cancelsSet rfl⟩
    · rw [hrow, hcancelled r hr hterminal]
    · rcases List.mem_append.mp hr with hr | hr
      · exact h.closed r hr hterminal
      · rw [List.mem_singleton.mp hr, hrow]
        exact hclosed
  · exact absurd hstep (by simp)

/-- **A step that meets the condition keeps the final statuses.** -/
theorem Kept.step {s s' : TaskRun} {a : TaskAction} (h : Kept s) (huncrossed : Uncrossed s a)
    (hstep : s.step a = some s') : Kept s' := by
  cases a with
  | land => exact h.land hstep
  | ack error => exact h.ack hstep
  | fire => exact h.work (Or.inl hstep)
  | prepare chunks => exact h.work (Or.inr (Or.inl ⟨chunks, hstep⟩))
  | count counts now => exact h.work (Or.inr (Or.inr (Or.inl ⟨counts, now, hstep⟩)))
  | iterate now => exact h.work (Or.inr (Or.inr (Or.inr (Or.inl ⟨now, hstep⟩))))
  | worked done now => exact h.work (Or.inr (Or.inr (Or.inr (Or.inr ⟨done, now, hstep⟩))))
  | conclude now => exact h.conclude huncrossed hstep
  | cancelTask => exact h.cancel (Or.inl hstep)
  | cancelCheck i now => exact h.cancel (Or.inr (Or.inl ⟨i, now, hstep⟩))
  | cancelSend i now => exact h.cancel (Or.inr (Or.inr ⟨i, now, hstep⟩))
  | cancelLand i => exact h.cancelLand huncrossed hstep

/--
**The final statuses of a task are final.**

In every run of `startBackfill`, the processor and any calls of `cancelTask`, whatever
throws and whichever insert is lost or reported as failed: if every step meets the
condition, no row after a final one has another status.
-/
theorem terminal_status_final {taskId : String} {dto : StartBackfillDto} {now : Int}
    {filtersSnapshot : String} {as : List TaskAction} {s : TaskRun}
    (h : Machine.exec TaskRun.step (.start (newTask taskId dto now filtersSnapshot)) as = some s)
    (hmeets : Machine.Meets TaskRun.step Uncrossed
      (.start (newTask taskId dto now filtersSnapshot)) as) : StatusFinal s.rows := by
  have hstart : Kept (.start (newTask taskId dto now filtersSnapshot)) :=
    ⟨List.Pairwise.nil, fun r hr => absurd hr (by simp [TaskRun.start]), rfl, rfl,
      fun call hcall => absurd hcall (by simp [TaskRun.start])⟩
  exact (Machine.exec_invariant_of_meets (C := Uncrossed) (P := Kept)
    (fun _ _ _ hs hC hstep => hs.step hC hstep) hstart hmeets h).final

instance (s : TaskRun) : ∀ a, Decidable (Uncrossed s a)
  | .cancelLand _ => inferInstanceAs (Decidable (_ ∧ _))
  | .conclude _ => inferInstanceAs (Decidable (_ → _))
  | .land | .ack _ | .fire | .prepare _ | .count _ _ | .iterate _ | .worked _ _ | .cancelTask
  | .cancelCheck _ _ | .cancelSend _ _ => isTrue trivial

namespace CancelExample

def dto : StartBackfillDto := ⟨"w", 1, none, none⟩

def task : BackfillTask := newTask "t" dto 0 "[]"

/-- The first row, the timer, the counts and the one chunk. -/
def process : List TaskAction :=
  [.fire, .prepare (.ok ["2026-06-10"]), .count (.ok (some (10, 40))) 2, .land, .ack none,
    .iterate 3, .land, .ack none]

def finishing : List TaskAction :=
  [.worked (.ok (10, 40)) 6, .land, .ack none, .iterate 7, .conclude 7]

/-- A call that the processor hears of while it works on the chunk, and whose row comes after
all of the processor's progress. -/
def heard : List TaskAction :=
  [.land, .ack none] ++ process ++ [.cancelTask, .cancelCheck 0 4] ++ finishing ++
    [.cancelSend 0 8, .cancelLand 0, .land, .ack none]

/-- A call between the first row and the timer. -/
def unheard : List TaskAction :=
  [.land, .ack none, .cancelTask, .cancelCheck 0 1, .cancelLand 0] ++ process ++ finishing ++
    [.land, .ack none]

end CancelExample

/-- A task that is cancelled while it runs. -/
theorem terminal_status_final_heard :
    ∃ s, Machine.exec TaskRun.step (.start CancelExample.task) CancelExample.heard = some s ∧
      s.rows.map BackfillTask.status =
        [.pending, .running, .running, .running, .cancelled, .cancelled] ∧
      StatusFinal s.rows := by
  have hrun : (Machine.exec TaskRun.step (.start CancelExample.task) CancelExample.heard).any
      (fun s => s.rows.map BackfillTask.status =
        [.pending, .running, .running, .running, .cancelled, .cancelled]) = true := by
    decide
  obtain ⟨s, hs, hrows⟩ := (Option.any_eq_true _ _).mp hrun
  exact ⟨s, hs, of_decide_eq_true hrows, terminal_status_final hs (by decide)⟩

/-- A task that is cancelled before its processor starts: it runs, and is completed. -/
theorem cancelled_then_completed :
    ∃ s, Machine.exec TaskRun.step (.start CancelExample.task) CancelExample.unheard = some s ∧
      s.rows.map BackfillTask.status =
        [.pending, .cancelled, .running, .running, .running, .completed] ∧
      ¬StatusFinal s.rows := by
  have hrun : (Machine.exec TaskRun.step (.start CancelExample.task) CancelExample.unheard).any
      (fun s => s.rows.map BackfillTask.status =
        [.pending, .cancelled, .running, .running, .running, .completed]) = true := by
    decide
  obtain ⟨s, hs, hrows⟩ := (Option.any_eq_true _ _).mp hrun
  have hstatuses := of_decide_eq_true hrows
  refine ⟨s, hs, hstatuses, fun hfinal => ?_⟩
  have hmap : (s.rows.map BackfillTask.status).Pairwise fun earlier later =>
      isTerminal earlier = true → later = earlier := List.pairwise_map.mpr hfinal
  rw [hstatuses] at hmap
  exact absurd hmap (by decide)

end Veridian.BackfillRows
