/-
How the `events` table of a workspace comes by its rows.

A batch the buffer has in flight is inserted when its insert succeeds, and may be when it
fails: then the buffer inserts it again.  The table is a `ReplacingMergeTree(_version)` by day:
the database drops a row that another one of its day replaces, or that is a week old, when it
pleases, and until then every version of an event is there to be read.
-/
import Veridian.Events.Buffer
import Veridian.Lib.Replacing

namespace Veridian

/-- `ORDER BY (session_id, dedup_token)`: what makes two rows versions of one event. -/
def TrackingEvent.sortKey (e : TrackingEvent) : String × String := (e.sessionId, e.dedupToken)

/-- `PARTITION BY toYYYYMMDD(received_at)` -/
def TrackingEvent.day (e : TrackingEvent) : Int := e.receivedAt / 86400000

/-- `toDateTime(received_at) + INTERVAL 7 DAY` -/
def TrackingEvent.expiresAt (e : TrackingEvent) : Int :=
  e.receivedAt / 1000 * 1000 + 7 * 86400000

/-- The service, and the table of the workspace. -/
structure EventStore where
  service : EventBuffer
  rows : List TrackingEvent

inductive TableAction where
  /-- A step of the service; `landed` says whether an insert that fails was made. -/
  | service (a : BufferAction) (landed : Bool)
  /-- A merge drops the `i`-th row for the `j`-th. -/
  | merge (i j : Nat)
  /-- The `i`-th row is past its week. -/
  | expire (i : Nat) (now : Int)

namespace EventStore

def init : EventStore := ⟨EventBuffer.init, []⟩

/-- The rows a step of the service inserts into the table of `w`. -/
def inserted (s : EventBuffer) (w : String) (landed : Bool) : BufferAction → List TrackingEvent
  | .insertSucceeded w' i => if w' = w then ((s.workspaces w).inFlight[i]?).getD [] else []
  | .insertFailed w' i =>
      if w' = w ∧ landed = true then ((s.workspaces w).inFlight[i]?).getD [] else []
  | _ => []

/-- The `i`-th row may be dropped for the `j`-th. -/
def replaces (rows : List TrackingEvent) (i j : Nat) : Bool :=
  match rows[i]?, rows[j]? with
  | some old, some new => decide (old.sortKey = new.sortKey ∧ old.day = new.day ∧
      (old.version < new.version ∨ old.version = new.version ∧ i < j))
  | _, _ => false

def step (maxRetainedEvents : Nat) (w : String) (s : EventStore) :
    TableAction → Option EventStore
  | .service a landed => (EventBuffer.step maxRetainedEvents s.service a).map fun service =>
      ⟨service, s.rows ++ inserted s.service w landed a⟩
  | .merge i j =>
      if replaces s.rows i j then some { s with rows := s.rows.eraseIdx i } else none
  | .expire i now =>
      match s.rows[i]? with
      | none => none
      | some row =>
          if row.expiresAt ≤ now then some { s with rows := s.rows.eraseIdx i } else none

/-- What an action adds to the table. -/
def added (w : String) (s : EventStore) : TableAction → List TrackingEvent
  | .service a landed => inserted s.service w landed a
  | _ => []

/-- **What a step does to the table**: it adds the rows of an insert, or drops rows. -/
theorem step_rows {cap : Nat} {w : String} {s t : EventStore} {a : TableAction}
    (h : step cap w s a = some t) :
    t.rows = s.rows ++ s.added w a ∨ s.added w a = [] ∧ t.rows.Sublist s.rows := by
  cases a with
  | service a landed =>
      obtain ⟨service, -, rfl⟩ := Option.map_eq_some_iff.mp h
      exact Or.inl rfl
  | merge i j =>
      obtain ⟨-, ht⟩ := Option.ite_none_right_eq_some.mp h
      obtain rfl := Option.some.inj ht
      exact Or.inr ⟨rfl, List.eraseIdx_sublist _ _⟩
  | expire i now =>
      dsimp only [step] at h
      split at h
      · exact absurd h (by simp)
      · obtain ⟨-, ht⟩ := Option.ite_none_right_eq_some.mp h
        obtain rfl := Option.some.inj ht
        exact Or.inr ⟨rfl, List.eraseIdx_sublist _ _⟩

end EventStore

end Veridian
