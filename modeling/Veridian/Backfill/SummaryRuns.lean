/-
Filter edits and backfill tasks, over the rows they leave.

`startBackfill` stores the filters of the moment with the task.  The processor goes through
the chunks and rewrites partition after partition with these filters, whatever the
workspace has by then.  A task that fails or is cancelled stops where it is: the partitions
it has rewritten stay rewritten, and a mutation that is killed has reached some rows and not
others.  Rows come in meanwhile, with the dimensions that the filters gave them which the
handler had read.

What throws, and which mutation is killed, is part of the action.  A processor may begin
while another one works, since the lock does not always keep them apart.
-/
import Veridian.Backfill.LookbackCoverage
import Veridian.Backfill.Rerun
import Veridian.Backfill.TaskRows
import Veridian.Filters.Version
import Veridian.Lib.Machine

namespace Veridian.BackfillSummaryRuns

/-! ### Rows -/

/-- The tables that a backfill rewrites. -/
inductive BackfilledTable where
  | events | sessions | goals
  deriving DecidableEq

/-- `ALTER TABLE table UPDATE … IN PARTITION partition` -/
structure Mutation where
  table : BackfilledTable
  partition : String
  deriving DecidableEq

/-- The partition of a day: daily for events, monthly for sessions and goals. -/
def BackfilledTable.mutation (table : BackfilledTable) (day : Int) : Mutation :=
  match table with
  | .events => ⟨.events, formatEventPartition day⟩
  | .sessions => ⟨.sessions, formatMonthlyPartition day⟩
  | .goals => ⟨.goals, formatMonthlyPartition day⟩

structure StoredRow where
  table : BackfilledTable
  /-- The UTC day of the column that the table is partitioned by. -/
  day : Int
  columns : TableRow

/-- The mutation that rewrites the row. -/
def StoredRow.mutation (row : StoredRow) : Mutation := row.table.mutation row.day

/-- The row of an event, and of what the views make of it. -/
def rowOf (e : TrackingEvent) : TableRow where
  value
    | .source field => e.row field
    | .custom d => (e.dimension d.1).stored
  admits c := by
    cases c with
    | source field =>
        cases field with
        | isDirect =>
            show Sql.Value.num (if e.isDirect then 1 else 0) = _ ∨ Sql.Value.num _ = _
            cases e.isDirect
            · exact Or.inl rfl
            · exact Or.inr rfl
        | _ => exact ⟨_, rfl⟩
    | custom d =>
        obtain ⟨d, hd⟩ := d
        cases d <;> first | exact ⟨_, rfl⟩ | exact absurd hd (by decide)

/-! ### Requests -/

/-- A request to the filters of a workspace. -/
inductive FilterRequest where
  | create (id : String) (dto : CreateFilterDto)
  | update (dto : UpdateFilterDto)
  | delete (id : String)
  | reorder (filterIds : List String)

/-- What a request makes of the definitions; a new order is no part of them. -/
def FilterRequest.run (compiles : String → Bool) (workspaceId : String)
    (filters : List FilterDefinition) : FilterRequest → Except String (List FilterDefinition)
  | .create id dto => FiltersService.create compiles id dto filters
  | .update dto => FiltersService.update compiles workspaceId dto filters
  | .delete id => FiltersService.delete workspaceId id filters
  | .reorder _ => .ok filters

/-! ### Processors -/

/-- What a processor has before it: the rest of a chunk, and the chunks after it. -/
structure Work where
  filters : List StoredFilter
  todo : List Mutation
  chunks : List Int
  mutated : Mutated

inductive Stage where
  /-- The timer is set. -/
  | scheduled
  /-- `process` waits for the lock, or has not come to the chunks yet. -/
  | waiting
  | working (work : Work)

structure Processor where
  taskId : String
  stage : Stage
  cancelled : Bool

def Processor.work? (p : Processor) : Option Work :=
  match p.stage with
  | .working work => some work
  | .scheduled | .waiting => none

/-- The processor is in `runningProcessors`. -/
def Processor.registered (p : Processor) : Bool :=
  match p.stage with
  | .scheduled => false
  | .waiting | .working _ => true

/-- The mutations of a chunk. -/
def chunkMutations (now : Nat) (mutated : Mutated) (date : Int) : List Mutation :=
  let partition := formatMonthlyPartition date
  (if isWithinEventsTTL now date then [⟨.events, formatEventPartition date⟩] else []) ++
    (if partition ∈ mutated.sessions then [] else [⟨.sessions, partition⟩]) ++
    (if partition ∈ mutated.goals then [] else [⟨.goals, partition⟩])

/-- The mutation is noted as processed. -/
def noted (mutated : Mutated) (m : Mutation) : Mutated :=
  match m.table with
  | .events => { mutated with events := mutated.events ++ [m.partition] }
  | .sessions => { mutated with sessions := mutateOnce m.partition mutated.sessions }
  | .goals => { mutated with goals := mutateOnce m.partition mutated.goals }

/-! ### The system -/

/-- What is taken from outside: `JSON`, `md5`, the comparison of ids, and the host and the
regular expressions of the filters. -/
structure SummaryHost where
  version : VersionHost
  md5 : String → String
  stringify : List StoredFilter → String
  /-- `JSON.parse`, `none` where it throws. -/
  parse : String → Option (List StoredFilter)
  parse_empty : parse "" = none
  host : Host
  compiles : String → Bool
  backend : Backend

structure State where
  filters : List StoredFilter
  /-- The lists that the workspace had before, newest first. -/
  earlier : List (List StoredFilter)
  /-- `SELECT * FROM backfill_tasks FINAL … ORDER BY created_at DESC` -/
  tasks : List BackfillTask
  processors : List Processor
  /-- The tasks whose row of `cancelTask` is still to get into the table. -/
  cancels : List String
  rows : List StoredRow

/-- A workspace before its first backfill. -/
def State.initial (filters : List StoredFilter) (rows : List StoredRow) : State :=
  ⟨filters, [], [], [], [], rows⟩

inductive Action where
  /-- `stored` is what the workspace holds after the request. -/
  | edit (request : FilterRequest) (stored : List StoredFilter)
  /-- An event comes in whose handler had the filters of `age` edits ago. -/
  | ingest (table : BackfilledTable) (day : Int) (event : TrackingEvent) (age : Nat)
  | startBackfill (taskId : String) (dto : BackfillRows.StartBackfillDto) (now : Int)
  | fire (i : Nat)
  /-- The snapshot is read and the date range computed. -/
  | begin (i : Nat) (now : Nat)
  | iterate (i : Nat) (now : Nat)
  /-- A mutation, to its end; or until it is killed, on the rows of these places. -/
  | mutate (i : Nat) (killed : Option (List Nat))
  /-- `updateTaskProgress` -/
  | progress (i : Nat) (now : Int)
  | conclude (i : Nat) (now : Int)
  /-- The processor throws, a mutation of it having reached these rows. -/
  | fail (i : Nat) (reached : List Nat) (message : String) (now : Int)
  /-- Every try to store how the task ended fails. -/
  | abandon (i : Nat)
  | cancelTask (taskId : String)
  | cancelLand (taskId : String) (now : Int)

/-- `f` on the row of a task. -/
def updateTask (taskId : String) (f : BackfillTask → BackfillTask) (tasks : List BackfillTask) :
    List BackfillTask :=
  tasks.map fun t => if t.id = taskId then f t else t

def lastCompleted (tasks : List BackfillTask) : Option BackfillTask :=
  tasks.find? fun t => t.status = .completed

/-- A row and its place, after a mutation that reached the rows of these places, all of them
if `none`. -/
def rewriteRow (engine : String → String → Bool) (filters : List StoredFilter) (m : Mutation)
    (killed : Option (List Nat)) (entry : StoredRow × Nat) : StoredRow :=
  if entry.1.mutation = m ∧ killed.all (entry.2 ∈ ·) = true then
    { entry.1 with columns := backfill engine (definitions filters) entry.1.columns }
  else entry.1

def rewriteRows (engine : String → String → Bool) (filters : List StoredFilter) (m : Mutation)
    (killed : Option (List Nat)) (rows : List StoredRow) : List StoredRow :=
  rows.zipIdx.map (rewriteRow engine filters m killed)

namespace State

def edit (h : SummaryHost) (s : State) (request : FilterRequest) (stored : List StoredFilter) :
    Option State :=
  match request.run h.compiles "" (definitions s.filters) with
  | .error _ => none
  | .ok after =>
      if definitions stored = after then
        some { s with filters := stored, earlier := s.filters :: s.earlier }
      else none

/-- The row that an event is stored as under a list of filters. -/
def ingested (h : SummaryHost) (filters : List StoredFilter) (table : BackfilledTable) (day : Int)
    (event : TrackingEvent) : StoredRow :=
  ⟨table, day, rowOf (applyFilters h.host event (definitions filters))⟩

def ingest (h : SummaryHost) (s : State) (table : BackfilledTable) (day : Int)
    (event : TrackingEvent) (age : Nat) : Option State :=
  (s.filters :: s.earlier)[age]?.map fun filters =>
    { s with rows := s.rows ++ [ingested h filters table day event] }

def startBackfill (h : SummaryHost) (s : State) (taskId : String)
    (dto : BackfillRows.StartBackfillDto) (now : Int) : Option State :=
  if (∃ t ∈ s.tasks, t.status = .pending ∨ t.status = .running) ∨ ∃ t ∈ s.tasks, t.id = taskId then
    none
  else
    some { s with
      tasks := BackfillRows.newTask taskId dto now (h.stringify s.filters) :: s.tasks
      processors := s.processors ++ [⟨taskId, .scheduled, false⟩] }

def fire (s : State) (i : Nat) : Option State :=
  match s.processors[i]? with
  | some ⟨taskId, .scheduled, _⟩ =>
      some { s with processors := s.processors.set i ⟨taskId, .waiting, false⟩ }
  | _ => none

/-- `processInternal`, up to the loop. -/
def begin (h : SummaryHost) (s : State) (i : Nat) (now : Nat) : Option State :=
  match s.processors[i]? with
  | some ⟨taskId, .waiting, cancelled⟩ =>
      match s.tasks.find? fun t => t.id = taskId with
      | none => none
      | some task =>
          (h.parse task.filtersSnapshot).map fun filters =>
            let chunks := generateDateChunks task.lookbackDays task.chunkSizeDays now
            { s with
              tasks := updateTask taskId
                (fun t => { t with status := .running, startedAt := some now, updatedAt := now })
                s.tasks
              processors := s.processors.set i
                ⟨taskId, .working ⟨filters, [], chunks, {}⟩, cancelled⟩ }
  | _ => none

/-- The head of the loop. -/
def iterate (s : State) (i : Nat) (now : Nat) : Option State :=
  match s.processors[i]? with
  | some ⟨taskId, .working ⟨filters, [], date :: rest, mutated⟩, false⟩ =>
      let work : Work := ⟨filters, chunkMutations now mutated date, rest, mutated⟩
      some { s with processors := s.processors.set i ⟨taskId, .working work, false⟩ }
  | _ => none

def mutate (h : SummaryHost) (s : State) (i : Nat) (killed : Option (List Nat)) : Option State :=
  match s.processors[i]? with
  | some ⟨taskId, .working ⟨filters, m :: todo, chunks, mutated⟩, cancelled⟩ =>
      let work : Work := ⟨filters, todo, chunks, noted mutated m⟩
      some { s with
        rows := rewriteRows h.host.regexTest filters m killed s.rows
        processors := s.processors.set i ⟨taskId, .working work, cancelled⟩ }
  | _ => none

def progress (s : State) (i : Nat) (now : Int) : Option State :=
  match s.processors[i]? with
  | some ⟨taskId, .working _, _⟩ =>
      let tasks :=
        updateTask taskId (fun t => { t with status := .running, updatedAt := now }) s.tasks
      some { s with tasks := tasks }
  | _ => none

/-- The processor is gone, and its task has this status. -/
def ended (s : State) (i : Nat) (taskId : String) (status : BackfillTaskStatus)
    (message : Option String) (now : Int) : State :=
  { s with
    tasks := updateTask taskId (fun t => updateTaskStatus now t status message) s.tasks
    processors := s.processors.eraseIdx i }

def conclude (s : State) (i : Nat) (now : Int) : Option State :=
  match s.processors[i]? with
  | some ⟨taskId, .working ⟨_, [], chunks, _⟩, cancelled⟩ =>
      if cancelled then some (s.ended i taskId .cancelled none now)
      else if chunks = [] then some (s.ended i taskId .completed none now)
      else none
  | _ => none

def fail (h : SummaryHost) (s : State) (i : Nat) (reached : List Nat) (message : String)
    (now : Int) : Option State :=
  match s.processors[i]? with
  | some ⟨taskId, .waiting, _⟩ => some (s.ended i taskId .failed (some message) now)
  | some ⟨taskId, .working ⟨filters, todo, _, _⟩, _⟩ =>
      let rows :=
        match todo with
        | [] => s.rows
        | m :: _ => rewriteRows h.host.regexTest filters m (some reached) s.rows
      some (({ s with rows := rows } : State).ended i taskId .failed (some message) now)
  | _ => none

def abandon (s : State) (i : Nat) : Option State :=
  match s.processors[i]? with
  | some ⟨_, .working _, _⟩ | some ⟨_, .waiting, _⟩ =>
      some { s with processors := s.processors.eraseIdx i }
  | _ => none

/-- `cancelTask`, up to the insert of its row. -/
def cancelTask (s : State) (taskId : String) : Option State :=
  match s.tasks.find? fun t => t.id = taskId with
  | none => none
  | some task =>
      match cancelRefused task.status with
      | some _ => none
      | none =>
          some { s with
            processors := s.processors.map fun p =>
              if p.taskId = taskId ∧ p.registered = true then { p with cancelled := true } else p
            cancels := taskId :: s.cancels }

def cancelLand (s : State) (taskId : String) (now : Int) : Option State :=
  if taskId ∈ s.cancels then
    some { s with
      tasks := updateTask taskId (fun t => updateTaskStatus now t .cancelled none) s.tasks
      cancels := s.cancels.erase taskId }
  else none

def step (h : SummaryHost) (s : State) : Action → Option State
  | .edit request stored => s.edit h request stored
  | .ingest table day event age => s.ingest h table day event age
  | .startBackfill taskId dto now => s.startBackfill h taskId dto now
  | .fire i => s.fire i
  | .begin i now => s.begin h i now
  | .iterate i now => s.iterate i now
  | .mutate i killed => s.mutate h i killed
  | .progress i now => s.progress i now
  | .conclude i now => s.conclude i now
  | .fail i reached message now => s.fail h i reached message now
  | .abandon i => s.abandon i
  | .cancelTask taskId => s.cancelTask taskId
  | .cancelLand taskId now => s.cancelLand taskId now

end State

end Veridian.BackfillSummaryRuns
