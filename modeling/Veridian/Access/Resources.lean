/-
Backfill tasks and API keys, and the endpoints that take their ids.

The five endpoints here have no workspace guard.  They get an id, or optional filters,
and look the row up in a table that all workspaces share.  A task or a key keeps its
workspace for life, every later version of its row being a copy, and that is what the
`Store` carries as its invariant.
-/
import Mathlib.Data.Rat.Floor
import Mathlib.Data.List.Sort
import Veridian.Lib.Owned
import Veridian.Access.Handlers

namespace Veridian

/-! ### The tables -/

inductive BackfillTaskStatus where
  | pending | running | completed | failed | cancelled
  deriving DecidableEq, Repr, Inhabited

/-- A row of `backfill_tasks`; times are in milliseconds. -/
structure BackfillTask where
  id : String
  workspaceId : String
  status : BackfillTaskStatus
  lookbackDays : Nat
  chunkSizeDays : Nat
  batchSize : Nat
  totalSessions : Nat
  processedSessions : Nat
  totalEvents : Nat
  processedEvents : Nat
  currentDateChunk : Option String
  createdAt : Int
  updatedAt : Int
  startedAt : Option Int
  completedAt : Option Int
  errorMessage : Option String
  retryCount : Nat
  filtersSnapshot : String
  deriving DecidableEq, Repr, Inhabited

inductive ApiKeyStatus where
  | active | revoked | expired
  deriving DecidableEq, Repr, Inhabited

/-- A row of `api_keys`. -/
structure ApiKey where
  id : String
  keyHash : String
  keyPrefix : String
  userId : String
  workspaceId : Option String
  name : String
  description : String
  role : ApiKeyRole
  status : ApiKeyStatus
  expiresAt : Option Int
  lastUsedAt : Option Int
  failedAttemptsCount : Nat
  lastFailedAttemptAt : Option Int
  createdBy : String
  revokedBy : Option String
  revokedAt : Option Int
  createdAt : Int
  updatedAt : Int
  deriving DecidableEq, Repr, Inhabited

/-- The two tables, the processors in memory by task id (cancelled or not), and the
workspaces whose mutations were killed. -/
structure Store where
  tasks : List BackfillTask
  apiKeys : List ApiKey
  runningProcessors : List (String × Bool)
  killed : List String
  tasks_coherent : Owned.Coherent BackfillTask.id BackfillTask.workspaceId tasks
  apiKeys_coherent : Owned.Coherent ApiKey.id ApiKey.workspaceId apiKeys

/-- What an endpoint takes from its surroundings. -/
structure Backend where
  now : Int
  isDemo : Bool
  /-- The version hash of a filters snapshot: `none` when it is not valid JSON. -/
  filterVersion : String → Option String

/-! ### Backfill tasks -/

structure BackfillTaskProgress where
  id : String
  status : BackfillTaskStatus
  progressPercent : Int
  sessions : Nat × Nat
  events : Nat × Nat
  currentChunk : Option String
  startedAt : Option Int
  completedAt : Option Int
  errorMessage : Option String
  estimatedRemainingSeconds : Option Int
  filterVersion : String
  deriving DecidableEq, Repr

/-- `Math.round` -/
def mathRound (x : ℚ) : Int := (x + 1 / 2).floor

/-- The share of a count that is done; a completed task without any is done. -/
def progressOf (status : BackfillTaskStatus) (processed total : Nat) : ℚ :=
  if 0 < total then processed / total else if status = .completed then 1 else 0

def estimateRemaining (now : Int) (task : BackfillTask) : Option Int :=
  match task.startedAt with
  | none => none
  | some startedAt =>
      if 0 < task.processedSessions then
        let elapsedSeconds : ℚ := (now - startedAt : Int) / 1000
        let sessionsPerSecond : ℚ := task.processedSessions / elapsedSeconds
        let remainingSessions : ℚ := (task.totalSessions : ℚ) - task.processedSessions
        some (mathRound (remainingSessions / sessionsPerSecond))
      else none

def toProgress (backend : Backend) (task : BackfillTask) :
    Except HttpException BackfillTaskProgress :=
  let sessionProgress := progressOf task.status task.processedSessions task.totalSessions
  let eventProgress := progressOf task.status task.processedEvents task.totalEvents
  let snapshot := if task.filtersSnapshot = "" then "[]" else task.filtersSnapshot
  match backend.filterVersion snapshot with
  | none => .error .internal
  | some filterVersion =>
      .ok
        { id := task.id
          status := task.status
          progressPercent :=
            mathRound ((sessionProgress * (7 / 10) + eventProgress * (3 / 10)) * 100)
          sessions := (task.processedSessions, task.totalSessions)
          events := (task.processedEvents, task.totalEvents)
          currentChunk := task.currentDateChunk
          startedAt := task.startedAt
          completedAt := task.completedAt
          errorMessage := task.errorMessage
          estimatedRemainingSeconds := estimateRemaining backend.now task
          filterVersion := filterVersion }

/-- `SELECT * FROM backfill_tasks FINAL WHERE id = {id:String}`, its first row. -/
def taskById (tasks : List BackfillTask) (taskId : String) : Option BackfillTask :=
  ((Replacing.final BackfillTask.id BackfillTask.updatedAt tasks).filter fun t =>
    t.id = taskId).head?

def taskNotFound (taskId : String) : HttpException :=
  .notFound ("Backfill task " ++ taskId ++ " not found")

def getTaskStatus (backend : Backend) (taskId : String) (s : Store) :
    Except HttpException BackfillTaskProgress :=
  match taskById s.tasks taskId with
  | none => .error (taskNotFound taskId)
  | some task => toProgress backend task

def isTerminal (status : BackfillTaskStatus) : Bool :=
  status = .completed || status = .failed || status = .cancelled

def updateTaskStatus (now : Int) (task : BackfillTask) (status : BackfillTaskStatus)
    (errorMessage : Option String) : BackfillTask :=
  { task with
    status := status
    updatedAt := now
    completedAt := if isTerminal status then some now else task.completedAt
    errorMessage := errorMessage <|> task.errorMessage }

/-- Why a task cannot be cancelled any more. -/
def cancelRefused : BackfillTaskStatus → Option HttpException
  | .completed => some (.badRequest "Cannot cancel a completed task")
  | .cancelled => some (.badRequest "Task is already cancelled")
  | .failed => some (.badRequest "Cannot cancel a failed task")
  | .pending | .running => none

/-- `processor.cancel()` for the processor of a task, if there is one. -/
def cancelProcessor (processors : List (String × Bool)) (taskId : String) :
    List (String × Bool) :=
  processors.map fun p => if p.1 = taskId then (p.1, true) else p

theorem taskById_mem {tasks : List BackfillTask} {taskId : String} {task : BackfillTask}
    (h : taskById tasks taskId = some task) : task ∈ tasks ∧ task.id = taskId := by
  have hkey : ∀ t ∈ tasks, (decide (t.id = taskId) = true ↔ t.id = taskId) := by simp
  rw [taskById, Replacing.final_filter_eq_survivor _ _ hkey, Option.head?_toList] at h
  exact Replacing.survivor_key _ _ h

/-- A task is looked up among the rows of its id. -/
theorem taskById_eq (tasks : List BackfillTask) (taskId : String) :
    taskById tasks taskId =
      Replacing.newest BackfillTask.updatedAt (tasks.filter fun t => t.id = taskId) := by
  have hkey : ∀ t ∈ tasks, (decide (t.id = taskId) = true ↔ t.id = taskId) := by simp
  rw [taskById, Replacing.final_filter_eq_survivor _ _ hkey, Option.head?_toList]
  rfl

theorem taskById_eq_none_iff {tasks : List BackfillTask} {taskId : String} :
    taskById tasks taskId = none ↔ ¬∃ t ∈ tasks, t.id = taskId := by
  rw [taskById_eq, Replacing.newest_eq_none_iff, List.filter_eq_nil_iff]
  simp

/-- `cancelTask`: a row with the new status is inserted, and a processor that runs the task
is stopped together with the mutations of its workspace. -/
def cancelTask (now : Int) (taskId : String) (s : Store) : Except HttpException Unit × Store :=
  match h : taskById s.tasks taskId with
  | none => (.error (taskNotFound taskId), s)
  | some task =>
      match cancelRefused task.status with
      | some refusal => (.error refusal, s)
      | none =>
          (.ok (),
            { s with
              tasks := s.tasks ++ [updateTaskStatus now task .cancelled none]
              runningProcessors := cancelProcessor s.runningProcessors taskId
              killed :=
                if (s.runningProcessors.lookup taskId).isSome then s.killed ++ [task.workspaceId]
                else s.killed
              tasks_coherent := s.tasks_coherent.append_version (taskById_mem h).1 rfl rfl })

/-! ### API keys -/

/-- A key as it is returned: without its hash. -/
structure PublicApiKey where
  id : String
  keyPrefix : String
  userId : String
  workspaceId : Option String
  name : String
  description : String
  role : ApiKeyRole
  status : ApiKeyStatus
  expiresAt : Option Int
  lastUsedAt : Option Int
  failedAttemptsCount : Nat
  lastFailedAttemptAt : Option Int
  createdBy : String
  revokedBy : Option String
  revokedAt : Option Int
  createdAt : Int
  updatedAt : Int
  deriving DecidableEq, Repr

def toPublicApiKey (k : ApiKey) : PublicApiKey where
  id := k.id
  keyPrefix := k.keyPrefix
  userId := k.userId
  workspaceId := k.workspaceId
  name := k.name
  description := k.description
  role := k.role
  status := k.status
  expiresAt := k.expiresAt
  lastUsedAt := k.lastUsedAt
  failedAttemptsCount := k.failedAttemptsCount
  lastFailedAttemptAt := k.lastFailedAttemptAt
  createdBy := k.createdBy
  revokedBy := k.revokedBy
  revokedAt := k.revokedAt
  createdAt := k.createdAt
  updatedAt := k.updatedAt

structure ListApiKeysDto where
  userId : Option String
  workspaceId : Option String
  status : Option ApiKeyStatus
  deriving DecidableEq, Repr

/-- The clauses `list` puts into its `WHERE`; an empty `user_id` puts in none. -/
def ListApiKeysDto.selects (dto : ListApiKeysDto) (k : ApiKey) : Bool :=
  (match dto.userId with
    | none => true
    | some userId => userId = "" || k.userId = userId) &&
  (match dto.workspaceId with
    | none => true
    | some workspaceId => k.workspaceId = some workspaceId) &&
  (match dto.status with
    | none => true
    | some status => k.status = status)

/-- `(id, updated_at) IN (SELECT id, max(updated_at) FROM api_keys GROUP BY id)` -/
def isLatest (keys : List ApiKey) (k : ApiKey) : Bool :=
  keys.all fun k' => k'.id = k.id → k'.updatedAt ≤ k.updatedAt

def listApiKeys (dto : ListApiKeysDto) (keys : List ApiKey) : List PublicApiKey :=
  ((keys.filter fun k => dto.selects k && isLatest keys k).insertionSort
    fun a b => b.createdAt ≤ a.createdAt).map toPublicApiKey

/-- `WHERE id = {id:String} ORDER BY updated_at DESC LIMIT 1` -/
def apiKeyById (keys : List ApiKey) (id : String) : Option ApiKey :=
  ((keys.filter fun k => k.id = id).insertionSort fun a b => b.updatedAt ≤ a.updatedAt).head?

def apiKeyNotFound (id : String) : HttpException := .notFound ("API key " ++ id ++ " not found")

def getApiKey (id : String) (s : Store) : Except HttpException PublicApiKey :=
  match apiKeyById s.apiKeys id with
  | none => .error (apiKeyNotFound id)
  | some k => .ok (toPublicApiKey k)

def revokedKey (now : Int) (revokedBy : String) (k : ApiKey) : ApiKey :=
  { k with
    status := .revoked
    revokedBy := some revokedBy
    revokedAt := some now
    updatedAt := now }

theorem apiKeyById_mem {keys : List ApiKey} {id : String} {k : ApiKey}
    (h : apiKeyById keys id = some k) : k ∈ keys ∧ k.id = id := by
  have hmem := List.mem_of_mem_head? h
  rw [List.mem_insertionSort] at hmem
  obtain ⟨hk, hid⟩ := List.mem_filter.mp hmem
  exact ⟨hk, of_decide_eq_true hid⟩

theorem apiKeyById_eq_none_iff {keys : List ApiKey} {id : String} :
    apiKeyById keys id = none ↔ ¬∃ k ∈ keys, k.id = id := by
  rw [apiKeyById, List.head?_eq_none_iff, ← List.length_eq_zero_iff, List.length_insertionSort,
    List.length_eq_zero_iff, List.filter_eq_nil_iff]
  simp

/-- `revoke`: the rows of the key are deleted and one with the new status inserted. -/
def revokeApiKey (now : Int) (id revokedBy : String) (s : Store) :
    Except HttpException PublicApiKey × Store :=
  match h : apiKeyById s.apiKeys id with
  | none => (.error (apiKeyNotFound id), s)
  | some k =>
      (.ok (toPublicApiKey (revokedKey now revokedBy k)),
        { s with
          apiKeys := (s.apiKeys.filter fun q => q.id ≠ id) ++ [revokedKey now revokedBy k]
          apiKeys_coherent := (s.apiKeys_coherent.filter _).append_fresh fun _ hq heq =>
            of_decide_eq_true (List.mem_filter.mp hq).2 (heq.trans (apiKeyById_mem h).2) })

/-! ### The endpoints -/

inductive ResourceCall where
  | backfillStatus (taskId : String)
  | backfillCancel (taskId : String)
  | apiKeysList (dto : ListApiKeysDto)
  | apiKeysGet (id : String)
  | apiKeysRevoke (id revokedBy : String)
  deriving DecidableEq, Repr

inductive ResourceResponse where
  | progress (p : BackfillTaskProgress)
  | success
  | apiKeys (keys : List PublicApiKey)
  | apiKey (k : PublicApiKey)
  deriving DecidableEq, Repr

namespace ResourceCall

def jwtOnly : ResourceCall → Bool
  | backfillStatus _ | backfillCancel _ => false
  | apiKeysList _ | apiKeysGet _ | apiKeysRevoke .. => true

def demoRestricted : ResourceCall → Bool
  | apiKeysRevoke .. => true
  | _ => false

/-- `DemoRestrictedGuard.canActivate` -/
def demoGuard (backend : Backend) (call : ResourceCall) : Except HttpException Unit :=
  if call.demoRestricted && backend.isDemo then
    .error (.badRequest "This feature is disabled in demo")
  else .ok ()

/-- The guards in front of an endpoint. -/
def guards (backend : Backend) (user : Principal) (call : ResourceCall) :
    Except HttpException Unit := do
  authenticate call.jwtOnly user
  call.demoGuard backend

/-- The endpoint itself. -/
def handle (backend : Backend) (s : Store) :
    ResourceCall → Except HttpException ResourceResponse × Store
  | backfillStatus taskId =>
      if taskId = "" then (.error (.badRequest "task_id is required"), s)
      else ((getTaskStatus backend taskId s).map .progress, s)
  | backfillCancel taskId =>
      ((cancelTask backend.now taskId s).1.map fun _ => .success,
        (cancelTask backend.now taskId s).2)
  | apiKeysList dto => (.ok (.apiKeys (listApiKeys dto s.apiKeys)), s)
  | apiKeysGet id => ((getApiKey id s).map .apiKey, s)
  | apiKeysRevoke id revokedBy =>
      ((revokeApiKey backend.now id revokedBy s).1.map .apiKey,
        (revokeApiKey backend.now id revokedBy s).2)

def run (backend : Backend) (user : Principal) (call : ResourceCall) (s : Store) :
    Except HttpException ResourceResponse × Store :=
  match call.guards backend user with
  | .error e => (.error e, s)
  | .ok () => call.handle backend s

end ResourceCall

end Veridian
