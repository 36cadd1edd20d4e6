/-
The pull of phone calls from a provider.

A run asks for the calls from `computeSince` on and stores each as one event.  The lower
bound is two days before the last run that was marked as synced, but never more than seven
days back, and `last_sync_at` is written at the end of a run.  So the calls of one run reach
into those of the next as long as a run takes less than the two days and the next lower
bound is computed within the seven (`pulls_leave_no_gap`).  What failed before the first
run that succeeds is not made up for, nor is the time a run spends on other credentials.

The rows here are those of one credential; what the provider lists, how the numbers are
mapped and what fails is part of each run.
-/
import Mathlib.Data.List.Chain
import Veridian.Events.Resends
import Veridian.Lib.Window
import Veridian.Voip.PhoneCallEvent

namespace Veridian.VoipSync

open Replacing

/-! ### Credentials -/

inductive VoipCredentialKind where
  | voipOvh | voipTelnyx
  deriving DecidableEq

inductive VoipCredentialStatus where
  | untested | ok | failed
  deriving DecidableEq

structure VoipCredential where
  id : String
  workspaceId : String
  kind : VoipCredentialKind
  credsEncrypted : String
  status : VoipCredentialStatus
  lastSyncAt : Option Int
  lastTestedAt : Option Int
  lastError : String
  createdAt : Int
  updatedAt : Int
  deletedAt : Option Int

def kindToProvider : VoipCredentialKind → VoipProvider
  | .voipOvh => .ovh
  | .voipTelnyx => .telnyx

/-- `ReplacingMergeTree(updated_at)` read with `FINAL` and `deleted_at IS NULL`, of the rows
of one `(workspace_id, kind)`. -/
def findCredential (rows : List VoipCredential) : Option VoipCredential :=
  (newest VoipCredential.updatedAt rows).filter fun c => c.deletedAt = none

/-! ### One run -/

def dayMs : Int := 24 * 60 * 60 * 1000

def defaultLookbackDays : Int := 7

def overlapDays : Int := 2

def computeSince (now : Int) (lastSyncAt : Option Int) : Int :=
  let defaultFloor := now - defaultLookbackDays * dayMs
  match lastSyncAt with
  | none => defaultFloor
  | some last =>
      let incremental := last - overlapDays * dayMs
      if defaultFloor < incremental then incremental else defaultFloor

/-- `/[\s.\-()]/` -/
def isPhoneSeparator (c : Char) : Bool :=
  Text.isSpace c || c = '.' || c = '-' || c = '(' || c = ')'

def isDigits (low high : Nat) (l : List Char) : Bool :=
  l.all Char.isDigit && decide (low ≤ l.length) && decide (l.length ≤ high)

def toE164 (raw : String) : Option String :=
  let cleaned := raw.toList.filter fun c => !isPhoneSeparator c
  match cleaned with
  | '+' :: digits => if isDigits 6 15 digits then some (String.ofList cleaned) else none
  | '0' :: rest =>
      match rest with
      | '0' :: digits =>
          if isDigits 6 15 digits then some (String.ofList ('+' :: digits))
          else if isDigits 9 9 rest then some (String.ofList ('+' :: '3' :: '3' :: rest))
          else none
      | _ => if isDigits 9 9 rest then some (String.ofList ('+' :: '3' :: '3' :: rest)) else none
  | _ => if isDigits 9 9 cleaned then some (String.ofList ('+' :: '3' :: '3' :: cleaned)) else none

/-- A run of `syncAll`, seen from one credential. -/
structure Run where
  /-- `syncAll` begins. -/
  start : Int
  /-- `Date.now()` in `computeSince`: the credentials before this one have been pulled. -/
  pull : Int
  /-- The upper bound of the window, `new Date()` in the client of the provider. -/
  till : Int
  /-- The clock of `markSynced` and of `markSyncError`. -/
  finish : Int
  /-- The provider's calls in a window. -/
  answer : Int → Int → Except String (List NormalizedCall)
  /-- `buildSourceLookup`: the numbers that are mapped to a source. -/
  lookup : Except String (String → Option SourceMatch)
  /-- `addBatch` and `flush` -/
  push : Except String Unit
  /-- The insert of `markSynced`. -/
  mark : Except String Unit
  /-- The insert of `markSyncError`. -/
  markError : Except String Unit

/-- What a run did: its lower bound, and the events it pushed when it succeeded. -/
structure Synced where
  run : Run
  since : Int
  batch : Except String (List TrackingEvent)

def syncOne (run : Run) (workspaceId : String) (provider : VoipProvider)
    (lastSyncAt : Option Int) : Except String (List TrackingEvent) := do
  let calls ← run.answer (computeSince run.pull lastSyncAt) run.till
  if calls.isEmpty then
    return []
  let lookup ← run.lookup
  let batch := calls.map fun call =>
    buildPhoneCallEvent workspaceId provider call ((toE164 call.toNumber).bind lookup)
  run.push
  return batch

def markSynced (cred : VoipCredential) (now : Int) : VoipCredential :=
  { cred with
    lastSyncAt := some now
    lastError := ""
    updatedAt := now }

def markSyncError (cred : VoipCredential) (error : String) (now : Int) : VoipCredential :=
  { cred with
    status := .failed
    lastError := String.ofList (Text.sliceUnits 500 error.toList)
    updatedAt := now }

/-- What stands in the `try`. -/
def attempt (run : Run) (cred : VoipCredential) : Except String (List TrackingEvent) := do
  let batch ← syncOne run cred.workspaceId (kindToProvider cred.kind) cred.lastSyncAt
  run.mark
  return batch

/-- The turn of the credential in a run; there is none without an active row. -/
def syncCredential (rows : List VoipCredential) (run : Run) :
    List VoipCredential × Option Synced :=
  match findCredential rows with
  | none => (rows, none)
  | some cred =>
      let synced : Synced := ⟨run, computeSince run.pull cred.lastSyncAt, attempt run cred⟩
      match attempt run cred, run.markError with
      | .ok _, _ => (rows ++ [markSynced cred run.finish], some synced)
      | .error e, .ok () => (rows ++ [markSyncError cred e run.finish], some synced)
      | .error _, .error _ => (rows, some synced)

def syncRuns : List VoipCredential → List Run → List Synced
  | _, [] => []
  | rows, run :: runs =>
      let after := syncCredential rows run
      after.2.toList ++ syncRuns after.1 runs

/-- The runs that succeeded. -/
def successes (synced : List Synced) : List Synced := synced.filter fun s => s.batch.isOk

/-- The call was pushed, from whichever source, by a run that succeeded. -/
def Pushed (workspaceId : String) (provider : VoipProvider) (call : NormalizedCall)
    (synced : List Synced) : Prop :=
  ∃ s ∈ successes synced, ∃ sourceMatch,
    buildPhoneCallEvent workspaceId provider call sourceMatch ∈ s.batch.toOption.getD []

/-! ### Schedules -/

/-- The clock does not go back in a run, and a run takes less than two days. -/
def Run.Timed (run : Run) : Prop :=
  run.start ≤ run.pull ∧ run.pull ≤ run.till ∧ run.till ≤ run.finish ∧
    run.finish - run.start < overlapDays * dayMs

instance (run : Run) : Decidable run.Timed := inferInstanceAs (Decidable (_ ∧ _))

/-- Runs one after the other, from some time on. -/
structure Schedule where
  began : Int
  runs : List Run
  after : ∀ run ∈ runs, began ≤ run.start
  timed : ∀ run ∈ runs, run.Timed
  ordered : runs.Pairwise fun a b => a.finish ≤ b.start

/-- The provider lists the call from its start on, and answers with all it lists. -/
def Listed (call : NormalizedCall) (runs : List Run) : Prop :=
  ∀ run ∈ runs, ∀ since calls, run.answer since run.till = .ok calls →
    since ≤ call.startedAt → call.startedAt ≤ run.till → call ∈ calls

/-! ### The lower bound -/

theorem computeSince_some_le {now last t : Int} :
    computeSince now (some last) ≤ t ↔
      last - overlapDays * dayMs ≤ t ∧ now - defaultLookbackDays * dayMs ≤ t := by
  simp only [computeSince]
  split <;> omega

/-! ### One turn -/

section

variable {rows : List VoipCredential} {cred : VoipCredential} {run : Run} {now : Int}

/-- The active row, and no row is newer than the clock. -/
def Current (rows : List VoipCredential) (cred : VoipCredential) (now : Int) : Prop :=
  findCredential rows = some cred ∧ ∀ r ∈ rows, r.updatedAt ≤ now

theorem findCredential_deletedAt (h : findCredential rows = some cred) :
    cred.deletedAt = none := by
  have hfilter := (Option.filter_eq_some_iff.mp h).2
  simpa using hfilter

/-- A copy of the active row, written now, is the active row. -/
theorem Current.insert (h : Current rows cred now) {copy : VoipCredential}
    (hdeleted : copy.deletedAt = cred.deletedAt) (hnow : now ≤ copy.updatedAt) :
    Current (rows ++ [copy]) copy copy.updatedAt := by
  refine ⟨?_, fun r hr => ?_⟩
  · unfold findCredential
    rw [newest_append_singleton VoipCredential.updatedAt fun r hr => (h.2 r hr).trans hnow]
    refine Option.filter_eq_some_iff.mpr ⟨rfl, ?_⟩
    rw [hdeleted, findCredential_deletedAt h.1]
    rfl
  · rcases List.mem_append.mp hr with hr | hr
    · exact (h.2 r hr).trans hnow
    · rw [List.mem_singleton.mp hr]

theorem syncOne_of_attempt {events : List TrackingEvent} (h : attempt run cred = .ok events) :
    syncOne run cred.workspaceId (kindToProvider cred.kind) cred.lastSyncAt = .ok events := by
  unfold attempt at h
  cases hsync : syncOne run cred.workspaceId (kindToProvider cred.kind) cred.lastSyncAt with
  | error e =>
      rw [hsync] at h
      exact nomatch h
  | ok batch =>
      cases hmark : run.mark with
      | error e =>
          rw [hsync, hmark] at h
          exact nomatch h
      | ok u =>
          rw [hsync, hmark] at h
          exact h

/-- **A turn** of an active credential: the events of `syncOne` and a new `last_sync_at`, or
an error and the old one. -/
theorem syncCredential_cases (h : findCredential rows = some cred) (run : Run) :
    (∃ events,
      syncOne run cred.workspaceId (kindToProvider cred.kind) cred.lastSyncAt = .ok events ∧
        syncCredential rows run = (rows ++ [markSynced cred run.finish],
          some ⟨run, computeSince run.pull cred.lastSyncAt, .ok events⟩)) ∨
    (∃ e, (syncCredential rows run).2 =
        some ⟨run, computeSince run.pull cred.lastSyncAt, .error e⟩ ∧
      ((syncCredential rows run).1 = rows ∨
        (syncCredential rows run).1 = rows ++ [markSyncError cred e run.finish])) := by
  unfold syncCredential
  rw [h]
  cases hattempt : attempt run cred with
  | ok events => exact Or.inl ⟨events, syncOne_of_attempt hattempt, by simp [hattempt]⟩
  | error e =>
      refine Or.inr ⟨e, ?_⟩
      cases hmark : run.markError with
      | ok u => exact ⟨by simp [hattempt], Or.inr (by simp [hattempt])⟩
      | error e' => exact ⟨by simp [hattempt], Or.inl (by simp [hattempt])⟩

/-- The credential is still the one it was. -/
def SameCredential (a b : VoipCredential) : Prop :=
  a.workspaceId = b.workspaceId ∧ a.kind = b.kind

/-- What a run that fails leaves behind. -/
theorem current_of_failed (h : Current rows cred now) (hnow : now ≤ run.finish) {e : String}
    {rows' : List VoipCredential}
    (hrows : rows' = rows ∨ rows' = rows ++ [markSyncError cred e run.finish]) :
    ∃ cred', Current rows' cred' run.finish ∧ SameCredential cred' cred ∧
      cred'.lastSyncAt = cred.lastSyncAt := by
  rcases hrows with rfl | rfl
  · exact ⟨cred, ⟨h.1, fun r hr => (h.2 r hr).trans hnow⟩, ⟨rfl, rfl⟩, rfl⟩
  · exact ⟨markSyncError cred e run.finish, h.insert rfl hnow, ⟨rfl, rfl⟩, rfl⟩

end

/-! ### Runs -/

/-- The lower bound of `b` comes from the mark of `a`. -/
def Follows (a b : Synced) : Prop :=
  b.since = computeSince b.run.pull (some a.run.finish)

/-- What is known of a run that succeeded. -/
def Succeeded (cred : VoipCredential) (runs : List Run) (s : Synced) : Prop :=
  s.run ∈ runs ∧ ∃ lastSyncAt events, s.batch = .ok events ∧
    syncOne s.run cred.workspaceId (kindToProvider cred.kind) lastSyncAt = .ok events ∧
    s.since = computeSince s.run.pull lastSyncAt

/-- **The runs that succeed** begin with the mark the credential has, and go on from one
another whatever fails between them. -/
theorem successes_spec :
    ∀ {runs : List Run} {rows : List VoipCredential} {cred : VoipCredential} {now : Int},
      Current rows cred now → (∀ run ∈ runs, run.Timed) → (∀ run ∈ runs, now ≤ run.start) →
      runs.Pairwise (fun a b => a.finish ≤ b.start) →
      (∀ s ∈ successes (syncRuns rows runs), Succeeded cred runs s) ∧
        (∀ s ∈ (successes (syncRuns rows runs)).head?,
          s.since = computeSince s.run.pull cred.lastSyncAt) ∧
        (successes (syncRuns rows runs)).IsChain Follows := by
  intro runs
  induction runs with
  | nil =>
      intro rows cred now _ _ _ _
      exact ⟨fun s hs => absurd hs List.not_mem_nil,
        fun s hs => (Option.some_ne_none s hs.symm).elim, List.isChain_nil⟩
  | cons run runs ih =>
      intro rows cred now hcurrent htimed hnow hordered
      obtain ⟨hrun, htimed'⟩ := List.forall_mem_cons.mp htimed
      obtain ⟨hahead, hordered'⟩ := List.pairwise_cons.mp hordered
      have hfinish : now ≤ run.finish := by
        have hstart := hnow run List.mem_cons_self
        obtain ⟨hpull, htill, hend, -⟩ := hrun
        omega
      rcases syncCredential_cases hcurrent.1 run with ⟨events, hsync, hturn⟩ | ⟨e, hturn, hrows⟩
      · have hnext : Current (rows ++ [markSynced cred run.finish]) (markSynced cred run.finish)
            run.finish := hcurrent.insert rfl hfinish
        obtain ⟨hmem, hhead, hchain⟩ := ih hnext htimed' hahead hordered'
        have hsplit : successes (syncRuns rows (run :: runs)) =
            ⟨run, computeSince run.pull cred.lastSyncAt, .ok events⟩ ::
              successes (syncRuns (rows ++ [markSynced cred run.finish]) runs) := by
          rw [syncRuns, hturn]
          rfl
        rw [hsplit]
        refine ⟨List.forall_mem_cons.mpr ⟨?_, fun s hs => ?_⟩, ?_,
          List.isChain_cons.mpr ⟨?_, hchain⟩⟩
        · exact ⟨List.mem_cons_self, cred.lastSyncAt, events, rfl, hsync, rfl⟩
        · obtain ⟨hin, hs⟩ := hmem s hs
          exact ⟨List.mem_cons_of_mem _ hin, hs⟩
        · intro s hs
          rw [← Option.some.inj hs]
        · exact hhead
      · obtain ⟨cred', hnext, ⟨hws, hkind⟩, hlast⟩ := current_of_failed hcurrent hfinish hrows
        obtain ⟨hmem, hhead, hchain⟩ := ih hnext htimed' hahead hordered'
        have hsplit : successes (syncRuns rows (run :: runs)) =
            successes (syncRuns (syncCredential rows run).1 runs) := by
          rw [syncRuns, hturn]
          rfl
        rw [hsplit, ← hlast]
        refine ⟨fun s hs => ?_, hhead, hchain⟩
        obtain ⟨hin, lastSyncAt, events, hbatch, hsync, hsince⟩ := hmem s hs
        rw [hws, hkind] at hsync
        exact ⟨List.mem_cons_of_mem _ hin, lastSyncAt, events, hbatch, hsync, hsince⟩

/-! ### Calls -/

/-- A call in the window of a run that succeeds is among its events. -/
theorem mem_batch {run : Run} {workspaceId : String} {provider : VoipProvider}
    {lastSyncAt : Option Int} {events : List TrackingEvent} {call : NormalizedCall}
    (hsync : syncOne run workspaceId provider lastSyncAt = .ok events)
    (hlisted : ∀ calls, run.answer (computeSince run.pull lastSyncAt) run.till = .ok calls →
      call ∈ calls) :
    ∃ sourceMatch, buildPhoneCallEvent workspaceId provider call sourceMatch ∈ events := by
  unfold syncOne at hsync
  cases hanswer : run.answer (computeSince run.pull lastSyncAt) run.till with
  | error e =>
      rw [hanswer] at hsync
      exact nomatch hsync
  | ok calls =>
      have hcall := hlisted calls hanswer
      have hne : calls.isEmpty = false := by
        rw [List.isEmpty_eq_false_iff]
        exact List.ne_nil_of_mem hcall
      rw [hanswer] at hsync
      simp only [bind, Except.bind, pure, Except.pure, hne] at hsync
      cases hlookup : run.lookup with
      | error e =>
          rw [hlookup] at hsync
          exact nomatch hsync
      | ok lookup =>
          cases hpush : run.push with
          | error e =>
              rw [hlookup, hpush] at hsync
              exact nomatch hsync
          | ok u =>
              rw [hlookup, hpush] at hsync
              obtain rfl := Except.ok.inj hsync
              exact ⟨_, List.mem_map_of_mem hcall⟩

/-- The window of a run reaches back into that of the one it follows. -/
theorem since_le_till {a b : Synced} (hfollows : Follows a b) (htimed : a.run.Timed)
    (hgap : b.run.pull - a.run.pull ≤ defaultLookbackDays * dayMs) : b.since ≤ a.run.till := by
  obtain ⟨hpull, htill, -, hshort⟩ := htimed
  rw [hfollows, computeSince_some_le]
  omega

/-! ### The keys of a call -/

def sessionOf (provider : VoipProvider) (call : NormalizedCall) : String :=
  "voip:" ++ provider.text ++ ":" ++ call.externalId

/-- `ORDER BY (session_id, dedup_token)` -/
def eventsKey (event : TrackingEvent) : String × String := (event.sessionId, event.dedupToken)

/-- All that a block holds of the session of a call are pushes of the call. -/
def PushesOf (workspaceId : String) (provider : VoipProvider) (call : NormalizedCall)
    (block : List TrackingEvent) : Prop :=
  ∀ event ∈ block, event.sessionId = sessionOf provider call →
    ∃ sourceMatch, event = buildPhoneCallEvent workspaceId provider call sourceMatch

/-- The row of `sessions` that a block makes of a call has the key of the call. -/
theorem sortKey_of_pushes {workspaceId : String} {provider : VoipProvider} {call : NormalizedCall}
    {block : List TrackingEvent} (hblock : PushesOf workspaceId provider call block)
    {row : SessionRow} (hrow : row ∈ sessionsMv block) (hid : row.id = sessionOf provider call) :
    row.sortKey = (call.startedAt, sessionOf provider call) := by
  obtain ⟨events, hevents, haggregate⟩ := exists_of_mem_sessionsMv hrow
  obtain ⟨event, hevent, hsession, -, hcreated⟩ := aggregateSession_envelope haggregate
  obtain ⟨sourceMatch, hpush⟩ := hblock event (hevents event hevent) (hsession.symm.trans hid)
  unfold SessionRow.sortKey
  rw [hid, hcreated, hpush]
  rfl

/-- Every push of the call has one key in `events`, one in `goals` and one in `sessions`. -/
def OneKey (workspaceId : String) (provider : VoipProvider) (call : NormalizedCall) : Prop :=
  (∀ sourceMatch sourceMatch',
    eventsKey (buildPhoneCallEvent workspaceId provider call sourceMatch) =
        eventsKey (buildPhoneCallEvent workspaceId provider call sourceMatch') ∧
      (buildPhoneCallEvent workspaceId provider call sourceMatch).goalsKey =
        (buildPhoneCallEvent workspaceId provider call sourceMatch').goalsKey) ∧
  ∀ block block', PushesOf workspaceId provider call block →
    PushesOf workspaceId provider call block' →
      ∀ row ∈ sessionsMv block, ∀ row' ∈ sessionsMv block', row.id = sessionOf provider call →
        row'.id = sessionOf provider call → row.sortKey = row'.sortKey

theorem oneKey (workspaceId : String) (provider : VoipProvider) (call : NormalizedCall) :
    OneKey workspaceId provider call := by
  refine ⟨fun _ _ => ⟨rfl, rfl⟩, ?_⟩
  intro block block' hblock hblock' row hrow row' hrow' hid hid'
  rw [sortKey_of_pushes hblock hrow hid, sortKey_of_pushes hblock' hrow' hid']

/-! ### No gap -/

/-- Consecutive runs that succeed compute their lower bounds at most seven days apart. -/
def PullsInReach (synced : List Synced) : Prop :=
  (successes synced).IsChain fun a b => b.run.pull - a.run.pull ≤ defaultLookbackDays * dayMs

instance (synced : List Synced) : Decidable (PullsInReach synced) :=
  inferInstanceAs (Decidable (List.IsChain _ _))

/-- The call started between the first lower bound and the start of the last run. -/
def Between (synced : List Synced) (call : NormalizedCall) : Prop :=
  ∃ first ∈ synced.head?, ∃ last ∈ synced.getLast?,
    first.since ≤ call.startedAt ∧ call.startedAt ≤ last.run.start

instance (synced : List Synced) (call : NormalizedCall) : Decidable (Between synced call) :=
  inferInstanceAs (Decidable (∃ first ∈ synced.head?, _))

/-- What is in reach lies in the window of a run that succeeded. -/
theorem exists_window {schedule : Schedule} {rows : List VoipCredential} {cred : VoipCredential}
    (hcurrent : Current rows cred schedule.began)
    (hreach : PullsInReach (syncRuns rows schedule.runs)) {call : NormalizedCall}
    (hbetween : Between (successes (syncRuns rows schedule.runs)) call) :
    ∃ s ∈ successes (syncRuns rows schedule.runs),
      s.since ≤ call.startedAt ∧ call.startedAt ≤ s.run.till := by
  obtain ⟨hmem, -, hfollows⟩ :=
    successes_spec hcurrent schedule.timed schedule.after schedule.ordered
  obtain ⟨first, hfirst, last, hlast, hlow, hhigh⟩ := hbetween
  obtain ⟨rest, hsplit⟩ := List.head?_eq_some_iff.mp hfirst
  have hlastin := List.mem_of_getLast? hlast
  have htill : call.startedAt ≤ last.run.till := by
    obtain ⟨hpull, hend, -⟩ := schedule.timed last.run (hmem last hlastin).1
    omega
  have hchain : (successes (syncRuns rows schedule.runs)).IsChain
      fun a b => b.since ≤ a.run.till := by
    unfold PullsInReach at hreach
    rw [List.isChain_iff_getElem] at hreach hfollows ⊢
    intro i hi
    have htimed := schedule.timed _ (hmem _ (List.getElem_mem (Nat.lt_of_succ_lt hi))).1
    exact since_le_till (hfollows i hi) htimed (hreach i hi)
  rw [hsplit] at hchain hlastin ⊢
  exact Window.exists_window_of_isChain Synced.since (fun s => s.run.till) hchain hlow
    ⟨last, hlastin, htill⟩

/--
**The pull leaves no gap and makes no duplicate.**

In every sequence of runs that take less than two days, some failing, where the lower
bounds of consecutive successful runs are computed at most seven days apart: a call that
started between the lower bound of the first successful run and the start of the last one,
and that the provider lists from its start on, is pushed by a run that succeeded.  Pushes of
one call have one key, whatever source its number is mapped to.
-/
theorem pulls_leave_no_gap {schedule : Schedule} {rows : List VoipCredential}
    {cred : VoipCredential} (hcurrent : Current rows cred schedule.began)
    (hreach : PullsInReach (syncRuns rows schedule.runs)) :
    (∀ call, Listed call schedule.runs →
      Between (successes (syncRuns rows schedule.runs)) call →
        Pushed cred.workspaceId (kindToProvider cred.kind) call
          (syncRuns rows schedule.runs)) ∧
    ∀ call, OneKey cred.workspaceId (kindToProvider cred.kind) call := by
  refine ⟨fun call hlisted hbetween => ?_, oneKey _ _⟩
  obtain ⟨s, hs, hlow, hhigh⟩ := exists_window hcurrent hreach hbetween
  obtain ⟨hmem, -, -⟩ := successes_spec hcurrent schedule.timed schedule.after schedule.ordered
  obtain ⟨hin, lastSyncAt, events, hbatch, hsync, hsince⟩ := hmem s hs
  have hcalls : ∀ calls, s.run.answer (computeSince s.run.pull lastSyncAt) s.run.till = .ok calls →
      call ∈ calls := by
    intro calls hanswer
    exact hlisted s.run hin _ calls hanswer (hsince ▸ hlow) hhigh
  obtain ⟨sourceMatch, hpushed⟩ := mem_batch hsync hcalls
  refine ⟨s, hs, sourceMatch, ?_⟩
  rw [hbatch]
  exact hpushed

/-! ### A credential in three weeks -/

namespace PullExample

def hour : Int := 60 * 60 * 1000

def credential : VoipCredential where
  id := "voip_1"
  workspaceId := "w"
  kind := .voipTelnyx
  credsEncrypted := ""
  status := .ok
  lastSyncAt := none
  lastTestedAt := none
  lastError := ""
  createdAt := 0
  updatedAt := 0
  deletedAt := none

def callAt (startedAt : Int) : NormalizedCall where
  externalId := "c"
  direction := .inbound
  fromNumber := "+33600000000"
  toNumber := "+33177000000"
  durationSec := 60
  status := .answered
  recordingUrl := none
  startedAt := startedAt

/-- A run that spends `delay` on other credentials and an hour on this one, with a provider
that knows one call. -/
def run (start delay : Int) (call : NormalizedCall) (push : Except String Unit) : Run where
  start := start
  pull := start + delay
  till := start + delay
  finish := start + delay + hour
  answer := fun since till =>
    .ok (if since ≤ call.startedAt ∧ call.startedAt ≤ till then [call] else [])
  lookup := .ok fun _ => none
  push := push
  mark := .ok ()
  markError := .ok ()

def runsOf (call : NormalizedCall) (l : List (Int × Int × Except String Unit)) : List Run :=
  l.map fun (start, delay, push) => run start delay call push

theorem listed_runsOf (call : NormalizedCall) (l : List (Int × Int × Except String Unit)) :
    Listed call (runsOf call l) := by
  intro r hr since calls hanswer hlow hhigh
  obtain ⟨⟨start, delay, push⟩, -, rfl⟩ := List.mem_map.mp hr
  obtain rfl := Except.ok.inj hanswer
  rw [if_pos ⟨hlow, hhigh⟩]
  exact List.mem_cons_self

/-- The first run fails, and the second comes three days later. -/
def lateRuns : List Run :=
  runsOf (callAt (-6 * dayMs)) [(0, 0, .error "timeout"), (3 * dayMs, 0, .ok ())]

/-- The second run starts a week after the first and has two hours of other credentials. -/
def slowRuns : List Run :=
  runsOf (callAt hour) [(0, 0, .ok ()), (7 * dayMs, 2 * hour, .ok ())]

/-- A run that fails between two that succeed. -/
def weekRuns : List Run :=
  runsOf (callAt (-hour)) [(0, 0, .ok ()), (dayMs, 0, .error "timeout"), (2 * dayMs, 0, .ok ())]

theorem weekRuns_after : ∀ r ∈ weekRuns, 0 ≤ r.start := by decide

theorem weekRuns_timed : ∀ r ∈ weekRuns, r.Timed := by decide

theorem weekRuns_ordered : weekRuns.Pairwise fun a b => a.finish ≤ b.start := by decide

def week : Schedule where
  began := 0
  runs := weekRuns
  after := weekRuns_after
  timed := weekRuns_timed
  ordered := weekRuns_ordered

/-- Runs as they are asked for, with the first lower bound that of the first run and the
starts a week apart at most, that leave a call out. -/
def LeavesOut (runs : List Run) (call : NormalizedCall) : Prop :=
  Listed call runs ∧ (∀ r ∈ runs, r.Timed) ∧ runs.Pairwise (fun a b => a.finish ≤ b.start) ∧
    (successes (syncRuns [credential] runs)).IsChain
      (fun a b => b.run.start - a.run.start ≤ defaultLookbackDays * dayMs) ∧
    (∃ first ∈ (syncRuns [credential] runs).head?, first.since ≤ call.startedAt) ∧
    (∃ last ∈ (successes (syncRuns [credential] runs)).getLast?,
      call.startedAt ≤ last.run.start) ∧
    ¬Pushed "w" .telnyx call (syncRuns [credential] runs)

theorem not_pushed {call : NormalizedCall} {synced : List Synced}
    (h : ∀ s ∈ successes synced, (s.batch.toOption.getD []).isEmpty = true) :
    ¬Pushed "w" .telnyx call synced := by
  rintro ⟨s, hs, sourceMatch, hmem⟩
  rw [List.isEmpty_iff.mp (h s hs)] at hmem
  exact List.not_mem_nil hmem

end PullExample

open PullExample in
/-- A call that two runs of a week pull. -/
theorem call_pulled :
    Pushed "w" .telnyx (callAt (-hour)) (syncRuns [credential] weekRuns) :=
  (@pulls_leave_no_gap week [credential] credential ⟨rfl, by decide⟩ (by decide)).1
    (callAt (-hour)) (listed_runsOf _ _) (by decide)

open PullExample in
/-- A call before the first run that succeeds, and one while other credentials are synced. -/
theorem calls_left_out :
    LeavesOut lateRuns (callAt (-6 * dayMs)) ∧ LeavesOut slowRuns (callAt hour) :=
  ⟨⟨listed_runsOf _ _, by decide, by decide, by decide, by decide, by decide,
      not_pushed (by decide)⟩,
    listed_runsOf _ _, by decide, by decide, by decide, by decide, by decide,
      not_pushed (by decide)⟩

end Veridian.VoipSync
