/-
The rows of one backfill task.

`startBackfill` inserts the first row and sets a timer.  When it fires, the processor goes
through the chunks and inserts a row for every progress it makes, then one for how it
ended.  `cancelTask` reads the newest row and inserts a copy of it.  Every writer has its
own copy of the task, and nothing compares it with what is stored.

An insert is two things: its row gets into the table, and the caller is told.  An insert
that is reported as failed may have put its row into the table or not.  What cannot be told
from the code (the chunks, the counts, what throws) is part of the action.
-/
import Veridian.Access.Resources
import Veridian.Lib.Machine
import Veridian.Webhooks.DeliveryWorker

namespace Veridian.BackfillRows

/-! ### The task -/

structure StartBackfillDto where
  workspaceId : String
  lookbackDays : Nat
  chunkSizeDays : Option Nat
  batchSize : Option Nat

/-- The task that `startBackfill` creates. -/
def newTask (taskId : String) (dto : StartBackfillDto) (now : Int) (filtersSnapshot : String) :
    BackfillTask where
  id := taskId
  workspaceId := dto.workspaceId
  status := .pending
  lookbackDays := dto.lookbackDays
  chunkSizeDays := dto.chunkSizeDays.getD 1
  batchSize := dto.batchSize.getD 5000
  totalSessions := 0
  processedSessions := 0
  totalEvents := 0
  processedEvents := 0
  currentDateChunk := none
  createdAt := now
  updatedAt := now
  startedAt := none
  completedAt := none
  errorMessage := none
  retryCount := 0
  filtersSnapshot := filtersSnapshot

def statusText : BackfillTaskStatus → String
  | .pending => "pending"
  | .running => "running"
  | .completed => "completed"
  | .failed => "failed"
  | .cancelled => "cancelled"

def maxRetries : Nat := 5

/-- What is thrown when the last try fails. -/
def retriesError (task : BackfillTask) (status : BackfillTaskStatus) (lastError : String) :
    String :=
  "Failed to update task " ++ task.id ++ " to '" ++ statusText status ++ "' after " ++
    toString maxRetries ++ " attempts: " ++ lastError

/-- What is thrown while a chunk is processed. -/
def chunkError (chunk : Option String) (message : String) : String :=
  match chunk with
  | none => message
  | some date => "Failed processing chunk " ++ date ++ ": " ++ message

def sanitizeError (message : String) : String :=
  let kept := (WebhookDeliveryWorker.takeUnits 200 message.toList).filter fun c =>
    !(c.val ≤ 0x1F || c.val = 0x7F)
  let trimmed := Text.trim (String.ofList kept)
  if trimmed = "" then "Unknown error" else trimmed

/-! ### The processor -/

/-- Where the processor goes on after a row of progress. -/
inductive Resume where
  | loop (chunks : List String)
  | chunk (date : String) (rest : List String)
deriving DecidableEq

inductive ProcessorPhase where
  /-- `startBackfill` awaits the insert of the first row. -/
  | creating (landed : Bool)
  /-- The timer is set. -/
  | scheduled
  /-- `process`, up to the query for the counts. -/
  | preparing
  | counting (chunks : List String)
  /-- `updateTaskProgress` awaits the insert of `row`. -/
  | storing (row : BackfillTask) (landed : Bool) (chunk : Option String) (next : Resume)
  /-- The head of the loop. -/
  | looping (chunks : List String)
  /-- The mutations of a chunk. -/
  | working (date : String) (rest : List String)
  | returned
  | threw (message : String)
  /-- `updateTaskStatusWithRetry` awaits the insert of `row`. -/
  | finishing (status : BackfillTaskStatus) (message : Option String) (attempt : Nat)
      (row : BackfillTask) (landed : Bool)
  | backoff (status : BackfillTaskStatus) (message : Option String) (attempt : Nat)
  | ended
deriving DecidableEq

/-- `runningProcessors.has(taskId)` -/
def ProcessorPhase.alive : ProcessorPhase → Bool
  | .creating _ | .scheduled | .ended => false
  | _ => true

def Resume.phase : Resume → ProcessorPhase
  | .loop chunks => .looping chunks
  | .chunk date rest => .working date rest

/-! ### The calls of `cancelTask` -/

inductive CancelCall where
  /-- The query was answered. -/
  | asked (task : Option BackfillTask)
  /-- The processor is told; its mutations are being killed. -/
  | killing (task : BackfillTask)
  | inserting (row : BackfillTask)
  | done
deriving DecidableEq

/-! ### All of it -/

structure TaskRun where
  /-- The rows of the task, in the order they got into the table. -/
  rows : List BackfillTask
  phase : ProcessorPhase
  /-- The processor's copy. -/
  task : BackfillTask
  /-- `processor.cancelled` -/
  cancelled : Bool
  cancels : List CancelCall

/-- `startBackfill` has created the task. -/
def TaskRun.start (task : BackfillTask) : TaskRun := ⟨[], .creating false, task, false, []⟩

inductive TaskAction where
  /-- The row that the processor, or `startBackfill`, inserts gets into the table. -/
  | land
  /-- That insert is reported as done, or as failed. -/
  | ack (error : Option String)
  | fire
  | prepare (chunks : Except String (List String))
  /-- The counts; `none` when the query has no row. -/
  | count (counts : Except String (Option (Nat × Nat))) (now : Int)
  | iterate (now : Int)
  /-- The sessions and events of a chunk. -/
  | worked (done : Except String (Nat × Nat)) (now : Int)
  | conclude (now : Int)
  | cancelTask
  /-- The `i`-th call of `cancelTask` goes on. -/
  | cancelCheck (i : Nat) (now : Int)
  | cancelSend (i : Nat) (now : Int)
  | cancelLand (i : Nat)

namespace TaskRun

/-- The insert of the row of the processor, or of `startBackfill`. -/
def land (s : TaskRun) : Option TaskRun :=
  match s.phase with
  | .creating false => some { s with rows := s.rows ++ [s.task], phase := .creating true }
  | .storing row false chunk next =>
      some { s with rows := s.rows ++ [row], phase := .storing row true chunk next }
  | .finishing status message attempt row false =>
      some { s with
        rows := s.rows ++ [row], phase := .finishing status message attempt row true }
  | _ => none

/-- Where the processor goes on when an insert is reported as failed. -/
def failed (s : TaskRun) (error : String) : Option ProcessorPhase :=
  match s.phase with
  | .creating _ => some .ended
  | .storing _ _ chunk _ => some (.threw (chunkError chunk error))
  | .finishing status message attempt _ _ =>
      if attempt < maxRetries then some (.backoff status message attempt)
      else if status = .failed then some .ended
      else some (.threw (retriesError s.task status error))
  | _ => none

def ack (s : TaskRun) : Option String → Option TaskRun
  | none =>
      match s.phase with
      | .creating true => some { s with phase := .scheduled }
      | .storing row true _ next => some { s with task := row, phase := next.phase }
      | .finishing _ _ _ _ true => some { s with phase := .ended }
      | _ => none
  | some error => (s.failed error).map fun phase => { s with phase := phase }

def fire (s : TaskRun) : Option TaskRun :=
  match s.phase with
  | .scheduled => some { s with phase := .preparing, cancelled := false }
  | _ => none

def prepare (s : TaskRun) (chunks : Except String (List String)) : Option TaskRun :=
  match s.phase, chunks with
  | .preparing, .ok chunks => some { s with phase := .counting chunks }
  | .preparing, .error message => some { s with phase := .threw message }
  | _, _ => none

/-- `updateTotalCounts` -/
def count (s : TaskRun) (counts : Except String (Option (Nat × Nat))) (now : Int) :
    Option TaskRun :=
  match s.phase, counts with
  | .counting _, .error message => some { s with phase := .threw message }
  | .counting chunks, .ok none => some { s with phase := .looping chunks }
  | .counting chunks, .ok (some (totalSessions, totalEvents)) =>
      let row : BackfillTask :=
        { s.task with
          totalSessions := totalSessions, totalEvents := totalEvents, startedAt := some now
          status := .running, updatedAt := now }
      some { s with phase := .storing row false none (.loop chunks) }
  | _, _ => none

def iterate (s : TaskRun) (now : Int) : Option TaskRun :=
  match s.phase with
  | .looping [] => some { s with phase := .returned }
  | .looping (date :: rest) =>
      if s.cancelled then some { s with phase := .returned }
      else
        let row : BackfillTask := { s.task with currentDateChunk := some date, updatedAt := now }
        some { s with phase := .storing row false (some date) (.chunk date rest) }
  | _ => none

/-- The end of `processDateChunk`. -/
def worked (s : TaskRun) (done : Except String (Nat × Nat)) (now : Int) : Option TaskRun :=
  match s.phase, done with
  | .working date _, .error message => some { s with phase := .threw (chunkError (some date) message) }
  | .working date rest, .ok (sessionsProcessed, eventsProcessed) =>
      let row : BackfillTask :=
        { s.task with
          processedSessions := s.task.processedSessions + sessionsProcessed
          processedEvents := s.task.processedEvents + eventsProcessed
          updatedAt := now }
      some { s with phase := .storing row false (some date) (.loop rest) }
  | _, _ => none

def finish (s : TaskRun) (status : BackfillTaskStatus) (message : Option String) (attempt : Nat)
    (now : Int) : TaskRun :=
  { s with
    phase := .finishing status message attempt (updateTaskStatus now s.task status message) false }

/-- The next row of how the processor ended. -/
def conclude (s : TaskRun) (now : Int) : Option TaskRun :=
  match s.phase with
  | .returned => some (s.finish (if s.cancelled then .cancelled else .completed) none 1 now)
  | .threw message => some (s.finish .failed (some (sanitizeError message)) 1 now)
  | .backoff status message attempt => some (s.finish status message (attempt + 1) now)
  | _ => none

/-- `cancelTask`, from the answer to its query on. -/
def cancelCheck (s : TaskRun) (i : Nat) (now : Int) : Option TaskRun :=
  match s.cancels[i]? with
  | some (.asked none) => some { s with cancels := s.cancels.set i .done }
  | some (.asked (some task)) =>
      match cancelRefused task.status with
      | some _ => some { s with cancels := s.cancels.set i .done }
      | none =>
          if s.phase.alive then
            some { s with cancelled := true, cancels := s.cancels.set i (.killing task) }
          else
            some { s with
              cancels := s.cancels.set i (.inserting (updateTaskStatus now task .cancelled none)) }
  | _ => none

def cancelSend (s : TaskRun) (i : Nat) (now : Int) : Option TaskRun :=
  match s.cancels[i]? with
  | some (.killing task) =>
      some { s with
        cancels := s.cancels.set i (.inserting (updateTaskStatus now task .cancelled none)) }
  | _ => none

def cancelLand (s : TaskRun) (i : Nat) : Option TaskRun :=
  match s.cancels[i]? with
  | some (.inserting row) =>
      some { s with rows := s.rows ++ [row], cancels := s.cancels.set i .done }
  | _ => none

def step (s : TaskRun) : TaskAction → Option TaskRun
  | .land => s.land
  | .ack error => s.ack error
  | .fire => s.fire
  | .prepare chunks => s.prepare chunks
  | .count counts now => s.count counts now
  | .iterate now => s.iterate now
  | .worked done now => s.worked done now
  | .conclude now => s.conclude now
  | .cancelTask => some { s with cancels := s.cancels ++ [.asked (taskById s.rows s.task.id)] }
  | .cancelCheck i now => s.cancelCheck i now
  | .cancelSend i now => s.cancelSend i now
  | .cancelLand i => s.cancelLand i

end TaskRun

end Veridian.BackfillRows
