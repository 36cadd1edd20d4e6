/-
The cache in front of the analytics queries.

`query` tracks the key of a request and reads the cache; then it answers, joins an execution
that is on its way, or starts one.  A result is stored before the callers get it.
`handleBackfillCompleted` deletes the entries of the tracked keys and, once that has come
back, the set of keys.  Anything may run between two awaits, so what lies between them is
one step, and the clock counts steps.

The cache is the store in memory: a read or a deletion takes effect when it is called.
Results and executions are known by the instant at which ClickHouse was asked.
-/
import Veridian.Lib.Machine

namespace Veridian.Analytics

/-- A cache key; `hash` stands for all parameters but the workspace. -/
structure CacheKey where
  workspace : String
  hash : String
  deriving DecidableEq

structure CacheEntry where
  key : CacheKey
  startedAt : Nat
  deriving DecidableEq

/-- An entry of `pendingQueries`. -/
structure PendingQuery where
  key : CacheKey
  startedAt : Nat
  stored : Bool
  deriving DecidableEq

/-- A call of `query` that has read the cache. -/
structure Look where
  key : CacheKey
  askedAt : Nat
  cached : Option Nat
  deriving DecidableEq

/-- A call of `query` that waits for a pending one. -/
structure Wait where
  key : CacheKey
  askedAt : Nat
  deriving DecidableEq

structure Answer where
  key : CacheKey
  askedAt : Nat
  startedAt : Nat
  deriving DecidableEq

/-- A handler that waits for its deletions. -/
structure Handling where
  workspace : String
  eventAt : Nat
  deriving DecidableEq

/-- An event whose handler has finished. -/
structure Handled where
  workspace : String
  eventAt : Nat
  finishedAt : Nat
  deriving DecidableEq

/-- `tracked` holds the keys of all workspaces in the order they came in; a workspace has a
set as soon as it has a key. -/
structure CacheService where
  now : Nat
  tracked : List CacheKey
  cache : List CacheEntry
  pending : List PendingQuery
  looks : List Look
  waits : List Wait
  handlings : List Handling
  handled : List Handled
  answers : List Answer

namespace CacheService

def init : CacheService := ⟨0, [], [], [], [], [], [], [], []⟩

/-- `workspaceCacheKeys.get(workspace)` -/
def keysOf (s : CacheService) (workspace : String) : List CacheKey :=
  s.tracked.filter (·.workspace = workspace)

/-- `cacheManager.get(key)` -/
def cached (s : CacheService) (key : CacheKey) : Option Nat :=
  (s.cache.find? (·.key = key)).map (·.startedAt)

/-- `cacheManager.del(key)` -/
def del (s : CacheService) (key : CacheKey) : CacheService :=
  { s with cache := s.cache.filter (·.key ≠ key) }

/-- `cacheManager.set(key, result)` -/
def set (s : CacheService) (key : CacheKey) (startedAt : Nat) : CacheService :=
  { s with cache := ⟨key, startedAt⟩ :: s.cache.filter (·.key ≠ key) }

/-- The oldest tracked key goes, with its entry, when there is no room for the new one. -/
def evict (cap : Nat) (s : CacheService) (key : CacheKey) : CacheService :=
  let keys := s.keysOf key.workspace
  if cap ≤ keys.length ∧ key ∉ keys then
    match keys.head? with
    | some oldest => { s with tracked := s.tracked.filter (· ≠ oldest) }.del oldest
    | none => s
  else s

def trackCacheKey (cap : Nat) (s : CacheService) (key : CacheKey) : CacheService :=
  let s := s.evict cap key
  { s with tracked := if key ∈ s.tracked then s.tracked else s.tracked ++ [key] }

/-- `query` up to its read of the cache. -/
def query (cap : Nat) (s : CacheService) (key : CacheKey) : CacheService :=
  let s := s.trackCacheKey cap key
  { s with looks := s.looks ++ [⟨key, s.now, s.cached key⟩] }

/-- `query` after its read: the cached answer, a pending query, or an execution. -/
def resume (s : CacheService) (i : Nat) : Option CacheService :=
  (s.looks[i]?).map fun look =>
    let s : CacheService := { s with looks := s.looks.eraseIdx i }
    match look.cached with
    | some startedAt => { s with answers := s.answers ++ [⟨look.key, look.askedAt, startedAt⟩] }
    | none =>
        let s : CacheService := { s with waits := s.waits ++ [⟨look.key, look.askedAt⟩] }
        if s.pending.any (·.key = look.key) then s
        else { s with pending := s.pending ++ [⟨look.key, s.now, false⟩] }

/-- The execution is over and its result is stored. -/
def store (s : CacheService) (key : CacheKey) : Option CacheService :=
  (s.pending.find? fun p => p.key = key && !p.stored).map fun p =>
    { s.set key p.startedAt with
      pending := s.pending.map fun q => if q.key = key then { q with stored := true } else q }

/-- The promise is settled: all who wait for it are answered. -/
def settle (s : CacheService) (key : CacheKey) : Option CacheService :=
  (s.pending.find? fun p => p.key = key && p.stored).map fun p =>
    { s with
      pending := s.pending.filter (·.key ≠ key)
      waits := s.waits.filter (·.key ≠ key)
      answers := s.answers ++ (s.waits.filter (·.key = key)).map fun w =>
        ⟨key, w.askedAt, p.startedAt⟩ }

/-- The promise is rejected. -/
def reject (s : CacheService) (key : CacheKey) : CacheService :=
  { s with
    pending := s.pending.filter (·.key ≠ key)
    waits := s.waits.filter (·.key ≠ key) }

/-- `handleBackfillCompleted` up to its await; without keys it is over. -/
def event (s : CacheService) (workspace : String) : CacheService :=
  let keys := s.keysOf workspace
  if keys = [] then { s with handled := s.handled ++ [⟨workspace, s.now, s.now⟩] }
  else
    { s with
      cache := s.cache.filter (·.key ∉ keys)
      handlings := s.handlings ++ [⟨workspace, s.now⟩] }

/-- `handleBackfillCompleted` after its await. -/
def finish (s : CacheService) (i : Nat) : Option CacheService :=
  (s.handlings[i]?).map fun h =>
    { s with
      tracked := s.tracked.filter (·.workspace ≠ h.workspace)
      handlings := s.handlings.eraseIdx i
      handled := s.handled ++ [⟨h.workspace, h.eventAt, s.now⟩] }

inductive Action where
  | query (key : CacheKey)
  | resume (i : Nat)
  | store (key : CacheKey)
  | settle (key : CacheKey)
  | reject (key : CacheKey)
  | expire (key : CacheKey)
  | event (workspace : String)
  | finish (i : Nat)

def perform (cap : Nat) (s : CacheService) : Action → Option CacheService
  | .query key => some (s.query cap key)
  | .resume i => s.resume i
  | .store key => s.store key
  | .settle key => s.settle key
  | .reject key => some (s.reject key)
  | .expire key => some (s.del key)
  | .event workspace => some (s.event workspace)
  | .finish i => s.finish i

def tick (s : CacheService) : CacheService := { s with now := s.now + 1 }

def step (cap : Nat) (s : CacheService) (a : Action) : Option CacheService :=
  (s.perform cap a).map tick

end CacheService

end Veridian.Analytics
