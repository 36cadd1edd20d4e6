/-
Whole runs of the event buffer.

Two questions about every interleaving.  Is any event lost or inserted twice?  No:
`event_conservation` accounts for every accepted event, in order.  Is any event left
behind without a timer?  It can be: `flush` clears the timer before it looks whether
another flush is running, so a call that returns for that reason disarms the events
that came in meanwhile.  `no_stranded_events` shows that this is the only way.
-/
import Mathlib.Algebra.GroupWithZero.Nat
import Veridian.Events.Buffer

namespace Veridian

open EventBuffer

def BufferExample.visit : TrackingEvent :=
  { (default : TrackingEvent) with sessionId := "s", workspaceId := "w", path := "/" }

/-! ### Conservation -/

theorem exec_accounted {cap : Nat} {as : List BufferAction} {s : EventBuffer}
    (h : Machine.exec (step cap) .init as = some s) (w : String) :
    Accounted (s.outcomes w) (s.workspaces w) := by
  have hinit : Accounted (EventBuffer.init.outcomes w) (EventBuffer.init.workspaces w) :=
    ⟨rfl, Nat.zero_le 1, by simp [EventBuffer.init]⟩
  refine Machine.exec_invariant (P := fun s => Accounted (s.outcomes w) (s.workspaces w)) ?_ hinit h
  intro s a s' hs hstep
  obtain ⟨new, hout, hw⟩ := step_workspace hstep w
  rw [hout]
  exact hs.step hw

theorem WorkspaceStep.accepted_workspace {cap : Nat} {w : String} {b b' : WorkspaceBuffer}
    {new : List Outcome} (h : WorkspaceStep cap w b new b')
    (hb : ∀ e ∈ b.accepted, e.workspaceId = w) : ∀ e ∈ b'.accepted, e.workspaceId = w := by
  cases h with
  | idle => exact hb
  | add event hevent =>
      rw [WorkspaceBuffer.add_accepted]
      intro e he
      rcases List.mem_append.mp he with hold | hnew
      · exact hb e hold
      · rw [List.mem_singleton.mp hnew]
        exact hevent
  | flush => rwa [WorkspaceBuffer.flush_accepted]
  | succeeded i batch _ => exact hb
  | failed i batch _ => rwa [WorkspaceBuffer.insertFailed_accepted]

/-- A workspace accepts its own events only. -/
theorem exec_accepted_workspace {cap : Nat} {as : List BufferAction} {s : EventBuffer}
    (h : Machine.exec (step cap) .init as = some s) (w : String) :
    ∀ e ∈ (s.workspaces w).accepted, e.workspaceId = w := by
  have hinit : ∀ e ∈ (EventBuffer.init.workspaces w).accepted, e.workspaceId = w := by
    simp [EventBuffer.init]
  refine Machine.exec_invariant
    (P := fun s => ∀ e ∈ (s.workspaces w).accepted, e.workspaceId = w) ?_ hinit h
  intro s a s' hs hstep
  obtain ⟨new, -, hw⟩ := step_workspace hstep w
  exact hw.accepted_workspace hs

/-- The events a log gives up. -/
def droppedTotal (log : List (String × Outcome)) : Nat :=
  (log.map fun entry => entry.2.droppedCount).sum

theorem droppedTotal_append (log log' : List (String × Outcome)) :
    droppedTotal (log ++ log') = droppedTotal log + droppedTotal log' := by
  unfold droppedTotal
  rw [List.map_append, List.sum_append]

/-- A failed insert gives up as many events as the merged buffer was over the cap. -/
theorem droppedTotal_droppedOutcome (cap : Nat) (w : String) (b : WorkspaceBuffer)
    (batch : List TrackingEvent) :
    droppedTotal ((b.droppedOutcome cap batch).map fun o => (w, o)) = b.overflow cap batch := by
  have hlen : ((batch ++ b.buffer).take (b.overflow cap batch)).length = b.overflow cap batch := by
    rw [List.length_take, WorkspaceBuffer.overflow]
    omega
  unfold WorkspaceBuffer.droppedOutcome
  simp only
  split
  · rename_i h
    rw [h] at hlen
    exact hlen
  · simpa [droppedTotal, Outcome.droppedCount] using hlen

theorem step_droppedEvents {cap : Nat} {s s' : EventBuffer} {a : BufferAction}
    (hs : s.droppedEvents = droppedTotal s.log) (h : step cap s a = some s') :
    s'.droppedEvents = droppedTotal s'.log := by
  cases stepped_of_step h with
  | add | addBatch | resume | timer | flush => exact hs
  | insertSucceeded w i batch _ =>
      show s.droppedEvents = droppedTotal (s.log ++ _)
      rw [droppedTotal_append, hs]
      rfl
  | insertFailed w i batch _ =>
      show s.droppedEvents + _ = droppedTotal (s.log ++ _)
      rw [droppedTotal_append, hs, droppedTotal_droppedOutcome]

theorem exec_droppedEvents {cap : Nat} {as : List BufferAction} {s : EventBuffer}
    (h : Machine.exec (step cap) .init as = some s) : s.droppedEvents = droppedTotal s.log :=
  Machine.exec_invariant (fun _ _ _ hs hstep => step_droppedEvents hs hstep) rfl h

/-- What is left after a failed insert, next to what it gives up. -/
theorem insertFailed_splits (cap : Nat) (b : WorkspaceBuffer) (i : Nat)
    (batch : List TrackingEvent) :
    (b.droppedOutcome cap batch).flatMap Outcome.events ++ (b.insertFailed cap i batch).buffer =
      batch ++ b.buffer ∧
    (b.insertFailed cap i batch).buffer.length ≤ cap := by
  rw [Accounted.droppedOutcome_events, Accounted.insertFailed_buffer, List.take_append_drop]
  refine ⟨rfl, ?_⟩
  rw [List.length_drop, WorkspaceBuffer.overflow]
  omega

/-- Events that wait without an insert in flight have a timer armed. -/
def NoStranded (s : EventBuffer) : Prop :=
  ∀ w, (s.workspaces w).buffer ≠ [] → (s.workspaces w).inFlight = [] →
    (s.workspaces w).timer = true

/-- The `flush` an `add` calls, with the buffer it finds. -/
def addCallsFlush (s : EventBuffer) (event : TrackingEvent) :
    Option (String × List TrackingEvent) :=
  let buffer := ((s.workspaces event.workspaceId).push event).buffer
  if MAX_BUFFER_SIZE ≤ buffer.length then some (event.workspaceId, buffer) else none

/-- The workspace whose `flush` an action calls, with the buffer it finds. -/
def callsFlush (s : EventBuffer) : BufferAction → Option (String × List TrackingEvent)
  | .add event => addCallsFlush s event
  | .resume i =>
      match s.batches[i]? with
      | some ⟨event :: _, none⟩ => addCallsFlush s event
      | _ => none
  | .timer w | .flush w => some (w, (s.workspaces w).buffer)
  | _ => none

/-- No `flush` is called on a buffer with events while another one of that workspace is
running. -/
def Unhindered (s : EventBuffer) (a : BufferAction) : Prop :=
  ∀ w buffer, callsFlush s a = some (w, buffer) → buffer ≠ [] → (s.workspaces w).flushing = false

/-- Buffered events have a timer, also while an insert is in flight. -/
def Armed (b : WorkspaceBuffer) : Prop := b.buffer ≠ [] → b.timer = true

namespace Armed

variable {b : WorkspaceBuffer}

theorem push (h : Armed b) (event : TrackingEvent) : Armed (b.push event) := by
  intro _
  unfold WorkspaceBuffer.push
  simp only
  split
  · rfl
  · rename_i hlen
    -- not the first event, so the timer was armed before
    refine h fun hnil => hlen ?_
    rw [hnil]
    rfl

theorem flush (hfree : b.buffer ≠ [] → b.flushing = false) : Armed b.flush.1 := by
  intro hne
  by_cases hblocked : b.buffer = [] ∨ b.flushing = true
  · rw [WorkspaceBuffer.flush_of_blocked hblocked] at hne
    have hoff := hfree hne
    rcases hblocked with hnil | hon
    · exact absurd hnil hne
    · rw [hoff] at hon
      exact Bool.noConfusion hon
  · rw [WorkspaceBuffer.flush_of_free hblocked] at hne
    exact absurd rfl hne

theorem add (h : Armed b) {event : TrackingEvent}
    (hfree : MAX_BUFFER_SIZE ≤ (b.push event).buffer.length → b.flushing = false) :
    Armed (b.add event).1 := by
  unfold WorkspaceBuffer.add
  simp only
  split
  · rename_i hfull
    refine Armed.flush fun _ => ?_
    rw [WorkspaceBuffer.push_flushing]
    exact hfree hfull
  · exact h.push event

theorem insertFailed (cap : Nat) (b : WorkspaceBuffer) (i : Nat) (batch : List TrackingEvent) :
    Armed (b.insertFailed cap i batch) := by
  intro hne
  rw [Accounted.insertFailed_buffer] at hne
  unfold WorkspaceBuffer.insertFailed
  simp only
  rw [if_pos hne]
  rfl

/-- A step that sets one workspace, the others being as they were. -/
theorem of_set {s : EventBuffer} {w' : String} {b : WorkspaceBuffer}
    (h : ∀ w, Armed (s.workspaces w)) (hb : Armed b) (w : String) :
    Armed ((s.set w' b).workspaces w) := by
  by_cases hw : w = w'
  · subst hw
    rwa [set_workspaces_self]
  · rw [set_workspaces_ne s b hw]
    exact h w

end Armed

theorem step_armed {cap : Nat} {s s' : EventBuffer} {a : BufferAction}
    (hs : ∀ w, Armed (s.workspaces w)) (hfree : Unhindered s a) (h : step cap s a = some s') :
    ∀ w, Armed (s'.workspaces w) := by
  -- an `add` that fills the buffer calls `flush` on it
  have hadd : ∀ event, callsFlush s a = addCallsFlush s event →
      Armed ((s.workspaces event.workspaceId).add event).1 := by
    intro event hcalls
    refine (hs _).add fun hfull => hfree event.workspaceId _ (hcalls.trans (if_pos hfull)) ?_
    rw [WorkspaceBuffer.push_buffer]
    simp
  cases stepped_of_step h with
  | add event => exact Armed.of_set hs (hadd event rfl)
  | addBatch events => exact hs
  | resume i event rest hbatch =>
      refine Armed.of_set hs (hadd event ?_)
      simp only [callsFlush, hbatch]
  | timer w _ => exact Armed.of_set hs (Armed.flush (hfree w _ rfl))
  | flush w => exact Armed.of_set hs (Armed.flush (hfree w _ rfl))
  | insertSucceeded w i batch _ => exact Armed.of_set hs (hs w)
  | insertFailed w i batch _ => exact Armed.of_set hs (Armed.insertFailed _ _ _ _)

/--
**No stranded events, unless a flush is hindered.**

In every run in which no `flush` is called on a buffer with events while another one of
that workspace is running, buffered events have a timer armed in every state reached.
-/
theorem no_stranded_events (maxRetainedEvents : Nat) (as : List BufferAction) (s : EventBuffer)
    (hmeets : Machine.Meets (step maxRetainedEvents) Unhindered .init as)
    (h : Machine.exec (step maxRetainedEvents) .init as = some s) : NoStranded s := by
  have hinit : ∀ w, Armed (EventBuffer.init.workspaces w) := fun w hne => absurd rfl hne
  have harmed := Machine.exec_invariant_of_meets (P := fun s => ∀ w, Armed (s.workspaces w))
    (fun _ _ _ hs hfree hstep => step_armed hs hfree hstep) hinit hmeets h
  exact fun w hne _ => harmed w hne

/-- **A hindered flush strands the buffer once the insert in flight succeeds.** -/
theorem stranded_of_hindered_flush {cap : Nat} {as : List BufferAction} {s : EventBuffer}
    (h : Machine.exec (step cap) .init as = some s) {w : String}
    (hne : (s.workspaces w).buffer ≠ []) (hon : (s.workspaces w).flushing = true) :
    ∃ s', Machine.exec (step cap) .init (as ++ [.flush w, .insertSucceeded w 0]) = some s' ∧
      ¬NoStranded s' := by
  have hacc := exec_accounted h w
  obtain ⟨batch, hbatch⟩ := hacc.inFlight_of_flushing hon
  set b := (s.workspaces w).stopFlushTimer
  have hself : (s.set w b).workspaces w = b := s.set_workspaces_self w b
  have hflush : step cap s (.flush w) = some (s.set w b) := by
    rw [step, WorkspaceBuffer.flush_of_blocked (Or.inr hon)]
  have hin : ((s.set w b).workspaces w).inFlight[0]? = some batch := by
    rw [hself]
    show (s.workspaces w).inFlight[0]? = some batch
    rw [hbatch]
    rfl
  refine ⟨_, Machine.exec_append h (Machine.exec_cons_eq_some.mpr ⟨_, hflush,
    Machine.exec_cons_eq_some.mpr ⟨_, by rw [step, hin], rfl⟩⟩), ?_⟩
  intro hno
  have hend : ((s.set w b).set w (((s.set w b).workspaces w).insertSucceeded 0)).workspaces w =
      b.insertSucceeded 0 := by rw [set_workspaces_self, hself]
  have htimer := hno w
  simp only [hend] at htimer
  -- the insert is gone, the events are still there, and the timer was cleared
  have hfired : false = true := htimer hne (by
    show (s.workspaces w).inFlight.eraseIdx 0 = []
    rw [hbatch]
    rfl)
  exact Bool.noConfusion hfired

/-! ### An insert that takes longer than the flush interval -/

namespace BufferExample

/-- The first event is flushed; the timer of the second fires while that insert is still
running, and then the insert succeeds. -/
def slowInsert : List BufferAction :=
  [.add visit, .timer "w", .add visit, .timer "w", .insertSucceeded "w" 0]

/-- The same with an insert that settles before the second event comes in. -/
def quickInsert : List BufferAction :=
  [.add visit, .timer "w", .insertSucceeded "w" 0, .add visit]

end BufferExample

open BufferExample in
/-- After a slow insert one event is left, with no timer and nothing in flight. -/
theorem slow_insert_strands :
    (∃ s, Machine.exec (step 50000) .init slowInsert = some s ∧
      (s.workspaces "w").buffer = [visit] ∧ (s.workspaces "w").inFlight = [] ∧
      (s.workspaces "w").timer = false) ∧
    ¬∀ (maxRetainedEvents : Nat) (as : List BufferAction) (s : EventBuffer),
      Machine.exec (step maxRetainedEvents) .init as = some s → NoStranded s := by
  have hrun : ∃ s, Machine.exec (step 50000) .init slowInsert = some s ∧
      (s.workspaces "w").buffer = [visit] ∧ (s.workspaces "w").inFlight = [] ∧
      (s.workspaces "w").timer = false := ⟨_, rfl, rfl, rfl, rfl⟩
  refine ⟨hrun, fun hall => ?_⟩
  obtain ⟨s, hs, hbuffer, hflight, htimer⟩ := hrun
  have harmed := hall 50000 slowInsert s hs "w" (by simp [hbuffer]) hflight
  rw [htimer] at harmed
  exact Bool.noConfusion harmed

open BufferExample in
theorem no_stranded_events_quick :
    ∃ s, Machine.exec (step 50000) .init quickInsert = some s ∧ NoStranded s := by
  refine ⟨_, rfl, no_stranded_events 50000 quickInsert _ ?_ rfl⟩
  have hadd : ∀ s, callsFlush s (.add visit) = none → Unhindered s (.add visit) := by
    intro s hnone w buffer hcalls
    rw [hnone] at hcalls
    exact absurd hcalls (by simp)
  have hskip : ∀ s i, Unhindered s (.insertSucceeded "w" i) := by
    intro s i w buffer hcalls
    exact absurd hcalls (by simp [callsFlush])
  refine ⟨hadd _ rfl, fun s₁ h₁ => ?_⟩
  obtain rfl := Option.some.inj h₁
  refine ⟨fun w buffer hcalls _ => ?_, fun s₂ h₂ => ?_⟩
  · -- the timer fires while nothing is in flight
    obtain ⟨rfl, -⟩ := Prod.mk.inj (Option.some.inj hcalls)
    rfl
  obtain rfl := Option.some.inj h₂
  refine ⟨hskip _ _, fun s₃ h₃ => ?_⟩
  obtain rfl := Option.some.inj h₃
  exact ⟨hadd _ rfl, fun s₄ _ => trivial⟩
end Veridian
