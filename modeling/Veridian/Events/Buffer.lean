/-
`EventBufferService`: the buffer between the handlers and ClickHouse.

Every workspace has a buffer, a flush timer, a flag that says a flush is running, and
the insert calls that have not settled.  JavaScript runs a function up to its next
`await` without interruption, so those stretches are the actions: an `add`, one round
of the loop in `addBatch`, a timer callback, a call of `flush`, and an insert settling
one way or the other.  A run is any sequence of them.

`accepted` and `log` are not fields of the service.  They record what was pushed and
what became of it, so that conservation can be said: in the order of `accepted`,
everything in front of the batch in flight and the buffer has been inserted or dropped.
-/
import Veridian.Lib.Assoc
import Veridian.Lib.Machine
import Veridian.Events.Event

namespace Veridian

def MAX_BUFFER_SIZE : Nat := 500

/-! ### One workspace -/

/-- What became of a stretch of accepted events. -/
inductive Outcome where
  | inserted (batch : List TrackingEvent)
  | dropped (events : List TrackingEvent)

def Outcome.events : Outcome → List TrackingEvent
  | .inserted batch => batch
  | .dropped events => events

def Outcome.insertedBatch : Outcome → Option (List TrackingEvent)
  | .inserted batch => some batch
  | .dropped _ => none

def Outcome.droppedCount : Outcome → Nat
  | .inserted _ => 0
  | .dropped events => events.length

structure WorkspaceBuffer where
  /-- `buffers.get(workspaceId)` -/
  buffer : List TrackingEvent := []
  /-- `flushTimers.has(workspaceId)` -/
  timer : Bool := false
  /-- `flushingWorkspaces.has(workspaceId)` -/
  flushing : Bool := false
  /-- The batches of the `insertWorkspace` calls that have not settled. -/
  inFlight : List (List TrackingEvent) := []
  accepted : List TrackingEvent := []

namespace WorkspaceBuffer

def startFlushTimer (b : WorkspaceBuffer) : WorkspaceBuffer := { b with timer := true }

def stopFlushTimer (b : WorkspaceBuffer) : WorkspaceBuffer := { b with timer := false }

/-- `flush` up to its `await`, and whether it gets there. -/
def flush (b : WorkspaceBuffer) : WorkspaceBuffer × Bool :=
  let b := b.stopFlushTimer
  if b.buffer = [] ∨ b.flushing = true then (b, false)
  else ({ b with flushing := true, inFlight := b.inFlight ++ [b.buffer], buffer := [] }, true)

def push (b : WorkspaceBuffer) (event : TrackingEvent) : WorkspaceBuffer :=
  let b := { b with buffer := b.buffer ++ [event], accepted := b.accepted ++ [event] }
  if b.buffer.length = 1 then b.startFlushTimer else b

/-- `add`, and whether it awaits an insert. -/
def add (b : WorkspaceBuffer) (event : TrackingEvent) : WorkspaceBuffer × Bool :=
  let b := b.push event
  if MAX_BUFFER_SIZE ≤ b.buffer.length then b.flush else (b, false)

/-- The end of a `flush` whose insert succeeded. -/
def insertSucceeded (b : WorkspaceBuffer) (i : Nat) : WorkspaceBuffer :=
  { b with inFlight := b.inFlight.eraseIdx i, flushing := false }

/-- How many events the merged buffer is over the cap. -/
def overflow (maxRetainedEvents : Nat) (b : WorkspaceBuffer) (batch : List TrackingEvent) : Nat :=
  (batch ++ b.buffer).length - maxRetainedEvents

/-- The end of a `flush` whose insert failed. -/
def insertFailed (maxRetainedEvents : Nat) (b : WorkspaceBuffer) (i : Nat)
    (batch : List TrackingEvent) : WorkspaceBuffer :=
  let merged := (batch ++ b.buffer).drop (b.overflow maxRetainedEvents batch)
  let b := { b with buffer := merged, inFlight := b.inFlight.eraseIdx i, flushing := false }
  if merged ≠ [] then b.startFlushTimer else b

/-- What a failed insert gives up, if anything. -/
def droppedOutcome (maxRetainedEvents : Nat) (b : WorkspaceBuffer) (batch : List TrackingEvent) :
    List Outcome :=
  let dropped := (batch ++ b.buffer).take (b.overflow maxRetainedEvents batch)
  if dropped = [] then [] else [.dropped dropped]

end WorkspaceBuffer

/-! ### The service -/

/-- A call of `addBatch`: the events it has yet to add, and the workspace whose insert
it awaits. -/
structure AddBatch where
  remaining : List TrackingEvent
  awaiting : Option String

/-- `byWorkspace`, walked in insertion order. -/
def groupByWorkspace (events : List TrackingEvent) : List TrackingEvent :=
  (events.foldl (fun m e => Assoc.push m e.workspaceId e) []).flatMap (·.2)

structure EventBuffer where
  workspaces : String → WorkspaceBuffer
  droppedEvents : Nat
  batches : List AddBatch
  log : List (String × Outcome)

def EventBuffer.init : EventBuffer := ⟨fun _ => {}, 0, [], []⟩

inductive BufferAction where
  | add (event : TrackingEvent)
  | addBatch (events : List TrackingEvent)
  /-- The `i`-th pending `addBatch` adds its next event. -/
  | resume (i : Nat)
  | timer (workspaceId : String)
  | flush (workspaceId : String)
  /-- The `i`-th insert in flight settles. -/
  | insertSucceeded (workspaceId : String) (i : Nat)
  | insertFailed (workspaceId : String) (i : Nat)

namespace EventBuffer

def set (s : EventBuffer) (w : String) (b : WorkspaceBuffer) : EventBuffer :=
  { s with workspaces := Function.update s.workspaces w b }

/-- The outcomes of one workspace, oldest first. -/
def outcomes (s : EventBuffer) (w : String) : List Outcome :=
  s.log.filterMap fun entry => if entry.1 = w then some entry.2 else none

/-- The batches inserted into one workspace, oldest first. -/
def inserted (s : EventBuffer) (w : String) : List (List TrackingEvent) :=
  (s.outcomes w).filterMap Outcome.insertedBatch

/-- A success lets the callers of `flush` go on, a failure throws into them. -/
def settle (batches : List AddBatch) (w : String) (succeeded : Bool) : List AddBatch :=
  if succeeded then
    batches.map fun batch =>
      if batch.awaiting = some w then { batch with awaiting := none } else batch
  else batches.filter fun batch => batch.awaiting != some w

def step (maxRetainedEvents : Nat) (s : EventBuffer) : BufferAction → Option EventBuffer
  | .add event => some (s.set event.workspaceId ((s.workspaces event.workspaceId).add event).1)
  | .addBatch events => some { s with batches := s.batches ++ [⟨groupByWorkspace events, none⟩] }
  | .resume i =>
      match s.batches[i]? with
      | some ⟨event :: rest, none⟩ =>
          let w := event.workspaceId
          let added := (s.workspaces w).add event
          some { s.set w added.1 with
            batches := s.batches.set i ⟨rest, if added.2 then some w else none⟩ }
      | _ => none
  | .timer w => if (s.workspaces w).timer then some (s.set w (s.workspaces w).flush.1) else none
  | .flush w => some (s.set w (s.workspaces w).flush.1)
  | .insertSucceeded w i =>
      match (s.workspaces w).inFlight[i]? with
      | some batch =>
          some { s.set w ((s.workspaces w).insertSucceeded i) with
            batches := settle s.batches w true
            log := s.log ++ [(w, .inserted batch)] }
      | none => none
  | .insertFailed w i =>
      match (s.workspaces w).inFlight[i]? with
      | some batch =>
          let b := s.workspaces w
          some { s.set w (b.insertFailed maxRetainedEvents i batch) with
            batches := settle s.batches w false
            droppedEvents := s.droppedEvents + b.overflow maxRetainedEvents batch
            log := s.log ++ (b.droppedOutcome maxRetainedEvents batch).map fun o => (w, o) }
      | none => none

/-- The same as a relation, one constructor for each way a step goes through. -/
inductive Stepped (maxRetainedEvents : Nat) (s : EventBuffer) :
    BufferAction → EventBuffer → Prop
  | add (event : TrackingEvent) : Stepped maxRetainedEvents s (.add event)
      (s.set event.workspaceId ((s.workspaces event.workspaceId).add event).1)
  | addBatch (events : List TrackingEvent) : Stepped maxRetainedEvents s (.addBatch events)
      { s with batches := s.batches ++ [⟨groupByWorkspace events, none⟩] }
  | resume (i : Nat) (event : TrackingEvent) (rest : List TrackingEvent)
      (h : s.batches[i]? = some ⟨event :: rest, none⟩) : Stepped maxRetainedEvents s (.resume i)
      { s.set event.workspaceId ((s.workspaces event.workspaceId).add event).1 with
        batches := s.batches.set i ⟨rest,
          if ((s.workspaces event.workspaceId).add event).2 then some event.workspaceId
          else none⟩ }
  | timer (w : String) (h : (s.workspaces w).timer = true) :
      Stepped maxRetainedEvents s (.timer w) (s.set w (s.workspaces w).flush.1)
  | flush (w : String) :
      Stepped maxRetainedEvents s (.flush w) (s.set w (s.workspaces w).flush.1)
  | insertSucceeded (w : String) (i : Nat) (batch : List TrackingEvent)
      (h : (s.workspaces w).inFlight[i]? = some batch) :
      Stepped maxRetainedEvents s (.insertSucceeded w i)
      { s.set w ((s.workspaces w).insertSucceeded i) with
        batches := settle s.batches w true
        log := s.log ++ [(w, .inserted batch)] }
  | insertFailed (w : String) (i : Nat) (batch : List TrackingEvent)
      (h : (s.workspaces w).inFlight[i]? = some batch) :
      Stepped maxRetainedEvents s (.insertFailed w i)
      { s.set w ((s.workspaces w).insertFailed maxRetainedEvents i batch) with
        batches := settle s.batches w false
        droppedEvents := s.droppedEvents + (s.workspaces w).overflow maxRetainedEvents batch
        log := s.log ++
          ((s.workspaces w).droppedOutcome maxRetainedEvents batch).map fun o => (w, o) }

theorem stepped_of_step {cap : Nat} {s s' : EventBuffer} {a : BufferAction}
    (h : step cap s a = some s') : Stepped cap s a s' := by
  unfold step at h
  split at h
  · obtain rfl := Option.some.inj h
    exact .add _
  · obtain rfl := Option.some.inj h
    exact .addBatch _
  · split at h
    · rename_i hbatch
      obtain rfl := Option.some.inj h
      exact .resume _ _ _ hbatch
    · exact absurd h (by simp)
  · split at h
    · rename_i htimer
      obtain rfl := Option.some.inj h
      exact .timer _ htimer
    · exact absurd h (by simp)
  · obtain rfl := Option.some.inj h
    exact .flush _
  · split at h
    · rename_i hbatch
      obtain rfl := Option.some.inj h
      exact .insertSucceeded _ _ _ hbatch
    · exact absurd h (by simp)
  · split at h
    · rename_i hbatch
      obtain rfl := Option.some.inj h
      exact .insertFailed _ _ _ hbatch
    · exact absurd h (by simp)

end EventBuffer

/-! ### What a step can do to one workspace -/

/-- The new outcomes of workspace `w` and its buffer after a step of the service. -/
inductive WorkspaceStep (maxRetainedEvents : Nat) (w : String) (b : WorkspaceBuffer) :
    List Outcome → WorkspaceBuffer → Prop
  | idle : WorkspaceStep maxRetainedEvents w b [] b
  | add (event : TrackingEvent) (hw : event.workspaceId = w) :
      WorkspaceStep maxRetainedEvents w b [] (b.add event).1
  | flush : WorkspaceStep maxRetainedEvents w b [] b.flush.1
  | succeeded (i : Nat) (batch : List TrackingEvent) (h : b.inFlight[i]? = some batch) :
      WorkspaceStep maxRetainedEvents w b [.inserted batch] (b.insertSucceeded i)
  | failed (i : Nat) (batch : List TrackingEvent) (h : b.inFlight[i]? = some batch) :
      WorkspaceStep maxRetainedEvents w b (b.droppedOutcome maxRetainedEvents batch)
        (b.insertFailed maxRetainedEvents i batch)

namespace EventBuffer

theorem set_workspaces_self (s : EventBuffer) (w : String) (b : WorkspaceBuffer) :
    (s.set w b).workspaces w = b := Function.update_self _ _ _

theorem set_workspaces_ne (s : EventBuffer) {w w' : String} (b : WorkspaceBuffer) (h : w ≠ w') :
    (s.set w' b).workspaces w = s.workspaces w := Function.update_of_ne h _ _

/-- The outcomes one workspace sees when some are appended to the log of another. -/
theorem outcomes_append (s : EventBuffer) (w w' : String) (new : List Outcome) :
    ({ s with log := s.log ++ new.map fun o => (w', o) } : EventBuffer).outcomes w =
      s.outcomes w ++ if w = w' then new else [] := by
  show (s.log ++ new.map fun o => (w', o)).filterMap _ = _
  rw [List.filterMap_append, List.filterMap_map]
  by_cases h : w = w'
  · subst h
    rw [if_pos rfl]
    congr 1
    induction new with
    | nil => rfl
    | cons o rest ih => simp
  · rw [if_neg h]
    congr 1
    refine List.filterMap_eq_nil_iff.mpr fun o _ => ?_
    simpa using fun hc : w' = w => h hc.symm

/-- A step that sets one workspace and logs outcomes of it, seen from any workspace. -/
theorem workspace_of_set {cap : Nat} {s s' : EventBuffer} {w' : String} {b : WorkspaceBuffer}
    {new : List Outcome} (hspaces : s'.workspaces = (s.set w' b).workspaces)
    (hlog : s'.log = s.log ++ new.map fun o => (w', o))
    (hstep : WorkspaceStep cap w' (s.workspaces w') new b) (w : String) :
    ∃ new', s'.outcomes w = s.outcomes w ++ new' ∧
      WorkspaceStep cap w (s.workspaces w) new' (s'.workspaces w) := by
  have hout : s'.outcomes w = s.outcomes w ++ if w = w' then new else [] := by
    rw [← outcomes_append]
    unfold outcomes
    rw [hlog]
  refine ⟨_, hout, ?_⟩
  rw [hspaces]
  by_cases h : w = w'
  · subst h
    rw [set_workspaces_self, if_pos rfl]
    exact hstep
  · rw [set_workspaces_ne s b h, if_neg h]
    exact .idle

/-- **Seen from one workspace, a step of the service is a step of it.** -/
theorem step_workspace {cap : Nat} {s s' : EventBuffer} {a : BufferAction}
    (h : step cap s a = some s') (w : String) :
    ∃ new, s'.outcomes w = s.outcomes w ++ new ∧
      WorkspaceStep cap w (s.workspaces w) new (s'.workspaces w) := by
  cases stepped_of_step h with
  | add event => exact workspace_of_set rfl (List.append_nil _).symm (.add event rfl) w
  | addBatch events => exact ⟨[], (List.append_nil _).symm, .idle⟩
  | resume i event rest _ =>
      refine workspace_of_set ?_ ?_ (.add event rfl) w
      · rfl
      · exact (List.append_nil _).symm
  | timer w' _ => exact workspace_of_set rfl (List.append_nil _).symm .flush w
  | flush w' => exact workspace_of_set rfl (List.append_nil _).symm .flush w
  | insertSucceeded w' i batch hbatch =>
      refine workspace_of_set ?_ ?_ (.succeeded i batch hbatch) w
      · rfl
      · rfl
  | insertFailed w' i batch hbatch =>
      refine workspace_of_set ?_ ?_ (.failed i batch hbatch) w
      · rfl
      · rfl

end EventBuffer

/-! ### Conservation -/

/-- Everything accepted is accounted for, and at most one insert is in flight. -/
structure Accounted (past : List Outcome) (b : WorkspaceBuffer) : Prop where
  conserved : b.accepted = past.flatMap Outcome.events ++ b.inFlight.flatten ++ b.buffer
  atMostOne : b.inFlight.length ≤ 1
  flagged : b.flushing = true ↔ b.inFlight ≠ []

namespace WorkspaceBuffer

theorem flush_of_blocked {b : WorkspaceBuffer} (h : b.buffer = [] ∨ b.flushing = true) :
    b.flush = (b.stopFlushTimer, false) := if_pos h

theorem flush_of_free {b : WorkspaceBuffer} (h : ¬(b.buffer = [] ∨ b.flushing = true)) :
    b.flush = ({ b.stopFlushTimer with
      flushing := true, inFlight := b.inFlight ++ [b.buffer], buffer := [] }, true) := if_neg h

theorem push_buffer (b : WorkspaceBuffer) (event : TrackingEvent) :
    (b.push event).buffer = b.buffer ++ [event] := by
  unfold push
  simp only
  split <;> rfl

theorem push_flushing (b : WorkspaceBuffer) (event : TrackingEvent) :
    (b.push event).flushing = b.flushing := by
  unfold push
  simp only
  split <;> rfl

theorem flush_accepted (b : WorkspaceBuffer) : b.flush.1.accepted = b.accepted := by
  by_cases hblocked : b.buffer = [] ∨ b.flushing = true
  · rw [flush_of_blocked hblocked]
    rfl
  · rw [flush_of_free hblocked]
    rfl

theorem push_accepted (b : WorkspaceBuffer) (event : TrackingEvent) :
    (b.push event).accepted = b.accepted ++ [event] := by
  unfold push
  simp only
  split <;> rfl

theorem add_accepted (b : WorkspaceBuffer) (event : TrackingEvent) :
    (b.add event).1.accepted = b.accepted ++ [event] := by
  unfold add
  simp only
  split
  · rw [flush_accepted, push_accepted]
  · exact push_accepted b event

theorem insertFailed_accepted (cap : Nat) (b : WorkspaceBuffer) (i : Nat)
    (batch : List TrackingEvent) : (b.insertFailed cap i batch).accepted = b.accepted := by
  unfold insertFailed
  simp only
  split <;> rfl

end WorkspaceBuffer

namespace Accounted

variable {past : List Outcome} {b : WorkspaceBuffer}

theorem push (h : Accounted past b) (event : TrackingEvent) : Accounted past (b.push event) := by
  have hconserved : b.accepted ++ [event] =
      past.flatMap Outcome.events ++ b.inFlight.flatten ++ (b.buffer ++ [event]) := by
    rw [h.conserved, List.append_assoc]
  unfold WorkspaceBuffer.push
  simp only
  split
  · exact ⟨hconserved, h.atMostOne, h.flagged⟩
  · exact ⟨hconserved, h.atMostOne, h.flagged⟩

theorem flush (h : Accounted past b) : Accounted past b.flush.1 := by
  by_cases hblocked : b.buffer = [] ∨ b.flushing = true
  · rw [WorkspaceBuffer.flush_of_blocked hblocked]
    exact ⟨h.conserved, h.atMostOne, h.flagged⟩
  · rw [WorkspaceBuffer.flush_of_free hblocked]
    -- the flag is off, so nothing is in flight
    have hnone : b.inFlight = [] := by
      by_contra hne
      exact hblocked (Or.inr (h.flagged.mpr hne))
    have hconserved := h.conserved
    rw [hnone] at hconserved
    refine ⟨?_, ?_, ?_⟩
    · show b.accepted = _ ++ (b.inFlight ++ [b.buffer]).flatten ++ []
      rw [hnone]
      simpa using hconserved
    · show (b.inFlight ++ [b.buffer]).length ≤ 1
      rw [hnone]
      simp
    · show true = true ↔ b.inFlight ++ [b.buffer] ≠ []
      simp

theorem add (h : Accounted past b) (event : TrackingEvent) : Accounted past (b.add event).1 := by
  unfold WorkspaceBuffer.add
  simp only
  split
  · exact (h.push event).flush
  · exact h.push event

/-- The only batch in flight is the one that settles. -/
theorem inFlight_eq (h : Accounted past b) {i : Nat} {batch : List TrackingEvent}
    (hi : b.inFlight[i]? = some batch) : b.inFlight = [batch] ∧ i = 0 := by
  have hlen := h.atMostOne
  rcases hf : b.inFlight with _ | ⟨x, _ | ⟨y, rest⟩⟩
  · rw [hf] at hi
    simp at hi
  · rw [hf] at hi
    cases i with
    | zero => simpa using hi
    | succ n => simp at hi
  · rw [hf] at hlen
    simp at hlen

theorem inFlight_of_flushing (h : Accounted past b) (hon : b.flushing = true) :
    ∃ batch, b.inFlight = [batch] := by
  rcases hf : b.inFlight with _ | ⟨batch, rest⟩
  · exact absurd hf (h.flagged.mp hon)
  · have hfirst : b.inFlight[0]? = some batch := by
      rw [hf]
      rfl
    exact ⟨batch, by rw [← hf, (h.inFlight_eq hfirst).1]⟩

theorem succeeded (h : Accounted past b) {i : Nat} {batch : List TrackingEvent}
    (hi : b.inFlight[i]? = some batch) :
    Accounted (past ++ [.inserted batch]) (b.insertSucceeded i) := by
  obtain ⟨hf, rfl⟩ := h.inFlight_eq hi
  have hconserved := h.conserved
  rw [hf] at hconserved
  refine ⟨?_, ?_, ?_⟩
  · show b.accepted = _ ++ (b.inFlight.eraseIdx 0).flatten ++ b.buffer
    rw [hf]
    simpa [Outcome.events] using hconserved
  · show (b.inFlight.eraseIdx 0).length ≤ 1
    rw [hf]
    simp
  · show false = true ↔ b.inFlight.eraseIdx 0 ≠ []
    rw [hf]
    simp

/-- What is given up and what is kept make up the merged buffer. -/
theorem droppedOutcome_events (cap : Nat) (b : WorkspaceBuffer) (batch : List TrackingEvent) :
    (b.droppedOutcome cap batch).flatMap Outcome.events =
      (batch ++ b.buffer).take (b.overflow cap batch) := by
  unfold WorkspaceBuffer.droppedOutcome
  simp only
  split
  · rename_i h
    rw [h]
    rfl
  · simp [Outcome.events]

theorem insertFailed_buffer (cap : Nat) (b : WorkspaceBuffer) (i : Nat)
    (batch : List TrackingEvent) :
    (b.insertFailed cap i batch).buffer = (batch ++ b.buffer).drop (b.overflow cap batch) := by
  unfold WorkspaceBuffer.insertFailed
  simp only
  split <;> rfl

theorem failed (h : Accounted past b) (cap : Nat) {i : Nat} {batch : List TrackingEvent}
    (hi : b.inFlight[i]? = some batch) :
    Accounted (past ++ b.droppedOutcome cap batch) (b.insertFailed cap i batch) := by
  obtain ⟨hf, rfl⟩ := h.inFlight_eq hi
  have hconserved : b.accepted = (past ++ b.droppedOutcome cap batch).flatMap Outcome.events ++
      (b.inFlight.eraseIdx 0).flatten ++ (batch ++ b.buffer).drop (b.overflow cap batch) := by
    have hsplit := List.take_append_drop (b.overflow cap batch) (batch ++ b.buffer)
    rw [h.conserved, List.flatMap_append, droppedOutcome_events, hf]
    simp only [List.flatten_cons, List.flatten_nil, List.append_nil, List.eraseIdx_cons_zero,
      List.append_assoc]
    rw [hsplit]
  unfold WorkspaceBuffer.insertFailed
  simp only
  split
  · exact ⟨hconserved, by simp [WorkspaceBuffer.startFlushTimer, hf],
      by simp [WorkspaceBuffer.startFlushTimer, hf]⟩
  · exact ⟨hconserved, by simp [hf], by simp [hf]⟩

/-- One step of the workspace. -/
theorem step (h : Accounted past b) {cap : Nat} {w : String} {new : List Outcome}
    {b' : WorkspaceBuffer} (hstep : WorkspaceStep cap w b new b') :
    Accounted (past ++ new) b' := by
  cases hstep with
  | idle => rwa [List.append_nil]
  | add event _ => rw [List.append_nil]; exact h.add event
  | flush => rw [List.append_nil]; exact h.flush
  | succeeded i batch hi => exact h.succeeded hi
  | failed i batch hi => exact h.failed cap hi

end Accounted

end Veridian
