/-
`verifyTracking`: the two probes of a workspace and their clean-up.

The probes run side by side, each with a session id of its own.  One posts a goal to the
tracking endpoint, the other inserts a page view into `events`; both poll for their event and
then delete by session id from the four tables, once.

A run interleaves the two probes with the steps of the buffer, under any traffic, and with
what ClickHouse does by itself: a delete takes on the rows that are there when it is accepted
and removes them later, and an insert that failed for the caller may still be carried out.
Merges are left out: a row is only replaced by one of the same session.
-/
import Mathlib.Data.Fintype.Basic
import Veridian.Events.Ingestion
import Veridian.Events.SessionsView

namespace Veridian.TrackingVerification

/-! ### The tables -/

inductive Table where
  | events | sessions | pages | goals
  deriving DecidableEq

instance : Fintype Table :=
  ⟨{.events, .sessions, .pages, .goals}, fun t => by cases t <;> decide⟩

/-- The rows of `pages` and `goals` are copied column by column from events. -/
structure Tables where
  events : List TrackingEvent := []
  sessions : List SessionRow := []
  pages : List TrackingEvent := []
  goals : List TrackingEvent := []

/-- The events that the view behind a table takes. -/
def Table.takes : Table → TrackingEvent → Bool
  | .events, _ | .sessions, _ => true
  | .pages, e => e.name = .screenView
  | .goals, e => e.name = .goal

namespace Tables

/-- An insert into `events` and the views behind it, as far as it `landed`. -/
def insert (tables : Tables) (landed : Table → Bool) (block : List TrackingEvent) : Tables where
  events := if landed .events then tables.events ++ block else tables.events
  sessions := if landed .sessions then tables.sessions ++ sessionsMv block else tables.sessions
  pages :=
    if landed .pages then tables.pages ++ block.filter (Table.pages.takes ·) else tables.pages
  goals :=
    if landed .goals then tables.goals ++ block.filter (Table.goals.takes ·) else tables.goals

/-- The rows that are kept, by table and session id; `sessions` has the latter as its `id`. -/
def select (tables : Tables) (kept : Table → String → Bool) : Tables where
  events := tables.events.filter (kept .events ·.sessionId)
  sessions := tables.sessions.filter (kept .sessions ·.id)
  pages := tables.pages.filter (kept .pages ·.sessionId)
  goals := tables.goals.filter (kept .goals ·.sessionId)

def append (tables tables' : Tables) : Tables where
  events := tables.events ++ tables'.events
  sessions := tables.sessions ++ tables'.sessions
  pages := tables.pages ++ tables'.pages
  goals := tables.goals ++ tables'.goals

/-- `ALTER TABLE table DELETE WHERE session_id = sid`, and `WHERE id = sid` for `sessions`. -/
def delete (tables : Tables) (sid : String) (table : Table) : Tables :=
  tables.select fun t id => ¬(t = table ∧ id = sid)

/-- The rows that such a delete takes on. -/
def covered (tables : Tables) (sid : String) (table : Table) : Tables :=
  tables.select fun t id => t = table ∧ id = sid

/-- The column that the deletes look at. -/
def sessionIds (tables : Tables) : Table → List String
  | .events => tables.events.map (·.sessionId)
  | .sessions => tables.sessions.map (·.id)
  | .pages => tables.pages.map (·.sessionId)
  | .goals => tables.goals.map (·.sessionId)

/-- The count `pollSyntheticEventVisible` asks for is not zero. -/
def visible (tables : Tables) (sid dedupToken : String) : Bool :=
  tables.events.any fun e => e.sessionId = sid ∧ e.dedupToken = dedupToken

/-- The count `waitForSessionPurged` asks for is zero. -/
def purged (tables : Tables) (sid : String) : Bool := !tables.sessions.any (·.id = sid)

end Tables

/-! ### The probe events -/

/-- `Date.UTC(2000, 0, 1)`, as a `DateTime64(3)` and in milliseconds. -/
def VERIFY_SENTINEL_TS : Int := 946684800000

def VERIFY_GOAL_SENTINEL_MS : Int := 946684800000

inductive Probe where
  | http | lowLevel
  deriving DecidableEq

instance : Fintype Probe := ⟨{.http, .lowLevel}, fun p => by cases p <;> decide⟩

def Probe.sessionId (workspaceId : String) : Probe → String
  | .http => "__veridian_verify_http__" ++ workspaceId
  | .lowLevel => "__veridian_verify__" ++ workspaceId

/-- The readings of the clock with which the two probe events are made. -/
structure Clock where
  nowMs : Int
  nowCh : Int
  version : Int

/-- The goal `probeIngestionHttp` posts. -/
def probeGoal : GoalAction where
  name := "__veridian_verify__"
  path := "/__veridian_verify__"
  pageNumber := 1
  timestamp := VERIFY_GOAL_SENTINEL_MS
  value := none
  properties := none

def probePayload (workspaceId : String) (nowMs : Int) : SessionPayload where
  workspaceId := workspaceId
  sessionId := Probe.http.sessionId workspaceId
  createdAt := nowMs
  updatedAt := nowMs
  sdkVersion := some "verify-http"
  attributes := { landingPage := some "https://veridian.invalid/__veridian_verify__" }
  actions := [.goal probeGoal]

/-- The page view `probeIngestionRoundTrip` inserts. -/
def syntheticEvent (workspaceId : String) (clock : Clock) : TrackingEvent where
  sessionId := Probe.lowLevel.sessionId workspaceId
  workspaceId := workspaceId
  receivedAt := clock.nowCh
  createdAt := VERIFY_SENTINEL_TS
  updatedAt := VERIFY_SENTINEL_TS
  name := .screenView
  path := "/__veridian_verify__"
  duration := 0
  pageDuration := 0
  previousPath := ""
  referrer := ""
  referrerDomain := some ""
  referrerPath := ""
  isDirect := true
  landingPage := ""
  landingDomain := ""
  landingPath := ""
  utmSource := some ""
  utmMedium := some ""
  utmCampaign := some ""
  utmTerm := some ""
  utmContent := some ""
  utmId := ""
  utmIdFrom := ""
  channel := some ""
  channelGroup := some ""
  stm := fun _ => some ""
  screenWidth := 0
  screenHeight := 0
  viewportWidth := 0
  viewportHeight := 0
  device := ""
  browser := ""
  browserType := ""
  os := ""
  userAgent := "veridian-tracking-verify"
  connectionType := ""
  language := ""
  timezone := ""
  country := ""
  region := ""
  city := ""
  latitude := none
  longitude := none
  maxScroll := 0
  pageNumber := 1
  version := clock.version
  goalName := ""
  goalValue := 0
  dedupToken := Probe.lowLevel.sessionId workspaceId ++ "_pv"
  sdkVersion := "verify"
  properties := [("__veridian_verify__", "1")]
  enteredAt := VERIFY_SENTINEL_TS
  exitedAt := VERIFY_SENTINEL_TS
  goalTimestamp := none
  userId := none
  visitorId := "__veridian_verify__"
  fingerprint := ""
  ip := ""

def Probe.dedupToken (workspaceId : String) : Probe → String
  | .http => probeGoal.dedupToken (Probe.http.sessionId workspaceId)
  | .lowLevel => Probe.lowLevel.sessionId workspaceId ++ "_pv"

/-! ### The probes -/

/-- What an awaited call comes to. -/
inductive Answer where
  | resolved
  | status (code : Nat)
  | rejected
  deriving DecidableEq

/-- The tables `purgeSyntheticEvent` deletes from, in its order. -/
def targets : List Table := [.events, .sessions, .pages, .goals]

/-- One round of its loop, after `done` of them.  A delete that fails is noted and passed over. -/
def purgeSyntheticEvent {ψ : Type*} (again : Nat → ψ) (finished : ψ) (done : Nat) :
    Answer → Option ψ
  | .status _ => none
  | .resolved | .rejected => (targets[done]?).map fun _ =>
      if done + 1 = targets.length then finished else again (done + 1)

/-- `probeIngestionHttp`, from one `await` to the next. -/
inductive HttpProbe where
  | idle
  | derivingOrigin (nowMs : Int)
  | posting
  | polling
  | classifying
  | purging (visible : Bool) (done : Nat)
  | waitingForPurge
  | returned
  deriving DecidableEq

/-- `visible` and `purged` are what the queries find, and `expired` says that the deadline has
passed by then. -/
def HttpProbe.next (visible purged expired : Bool) : HttpProbe → Answer → Option HttpProbe
  | .derivingOrigin _, .resolved => some .posting
  | .posting, .status code =>
      if code = 400 then some (.purging false 0)
      else if code < 200 ∨ 299 < code then some (.purging false 0)
      else some .polling
  | .posting, .rejected => some (.purging false 0)
  | .polling, .resolved =>
      if visible then some (.purging true 0)
      else if expired then some .classifying
      else some .polling
  | .polling, .rejected => some (.purging false 0)
  | .classifying, .resolved => some (.purging false 0)
  | .purging visible done, answer =>
      purgeSyntheticEvent (.purging visible) (if visible then .waitingForPurge else .returned) done
        answer
  | .waitingForPurge, .resolved => some (if purged || expired then .returned else .waitingForPurge)
  | .waitingForPurge, .rejected => some (if expired then .returned else .waitingForPurge)
  | _, _ => none

/-- `probeIngestionRoundTrip`, likewise. -/
inductive LowLevelProbe where
  | idle
  | inserting (clock : Clock)
  | polling
  | purging (done : Nat)
  | returned

def LowLevelProbe.next (visible expired : Bool) : LowLevelProbe → Answer → Option LowLevelProbe
  | .inserting _, .resolved => some .polling
  | .inserting _, .rejected => some (.purging 0)
  | .polling, .resolved => some (if visible || expired then .purging 0 else .polling)
  | .polling, .rejected => some (.purging 0)
  | .purging done, answer => purgeSyntheticEvent .purging .returned done answer
  | _, _ => none

/-! ### A run -/

/-- The buffer, the tables of the workspace, and one call of `verifyTracking` on it. -/
structure VerifyState where
  service : EventBuffer
  tables : Tables
  /-- Rows that an accepted delete has taken on and that can still be read. -/
  lingering : Tables
  /-- The request of the HTTP probe, until the handler has it. -/
  request : Option SessionPayload
  /-- Inserts that failed for the caller and may still be carried out. -/
  abandoned : List (List TrackingEvent)
  http : HttpProbe
  lowLevel : LowLevelProbe

def VerifyState.init (service : EventBuffer) (tables lingering : Tables) : VerifyState :=
  ⟨service, tables, lingering, none, [], .idle, .idle⟩

/-- What the queries of the probes find. -/
def VerifyState.visible (s : VerifyState) (sid dedupToken : String) : Bool :=
  s.tables.visible sid dedupToken || s.lingering.visible sid dedupToken

def VerifyState.purged (s : VerifyState) (sid : String) : Bool :=
  s.tables.purged sid && s.lingering.purged sid

inductive VerifyAction where
  /-- `workspaceExists` answers. -/
  | checked (found : Bool) (clock : Clock)
  | http (answer : Answer) (expired : Bool)
  | lowLevel (answer : Answer) (expired : Bool)
  /-- The handler gets the request of the probe, or a guard in front of it turns it away. -/
  | received (workspace : Workspace) (arrival : Arrival)
  | refused
  | service (a : BufferAction)
  /-- ClickHouse carries out an abandoned insert, in some of the tables. -/
  | lands (i : Nat) (landed : Table → Bool)
  /-- ClickHouse removes rows that a delete has taken on. -/
  | removed (kept : Table → String → Bool)

/-- What an action asks of ClickHouse. -/
inductive Effect where
  | keeps
  | inserts (landed : Table → Bool) (block : List TrackingEvent)
  | deletes (probe : Probe) (table : Table) (carriedOut : Bool)

def purgeEffect (probe : Probe) (done : Nat) (answer : Answer) : Effect :=
  match targets[done]? with
  | some table => .deletes probe table (answer = .resolved)
  | none => .keeps

namespace VerifyState

variable (host : Host) (maxRetainedEvents : Nat) (workspaceId : String)

def effect (s : VerifyState) : VerifyAction → Effect
  | .http answer _ =>
      match s.http with
      | .purging _ done => purgeEffect .http done answer
      | _ => .keeps
  | .lowLevel answer _ =>
      match s.lowLevel, answer with
      | .inserting clock, .resolved =>
          .inserts (fun _ => true) [syntheticEvent workspaceId clock]
      | .purging done, answer => purgeEffect .lowLevel done answer
      | _, _ => .keeps
  | .service a => .inserts (fun _ => true) (EventStore.inserted s.service workspaceId false a)
  | .lands i landed => .inserts landed ((s.abandoned[i]?).getD [])
  | _ => .keeps

/-- The batch of an insert that fails. -/
def failedInsert (s : VerifyState) : BufferAction → List (List TrackingEvent)
  | .insertFailed w i =>
      if w = workspaceId then ((s.service.workspaces w).inFlight[i]?).toList else []
  | _ => []

/-- Everything but what ClickHouse is asked. -/
def control (s : VerifyState) : VerifyAction → Option VerifyState
  | .checked found clock =>
      match s.http, s.lowLevel with
      | .idle, .idle => some (
          if found then
            { s with
              http := .derivingOrigin clock.nowMs
              lowLevel := .inserting clock }
          else { s with http := .returned, lowLevel := .returned })
      | _, _ => none
  | .http answer expired =>
      let sid := Probe.http.sessionId workspaceId
      (s.http.next (s.visible sid (Probe.http.dedupToken workspaceId)) (s.purged sid) expired
        answer).map fun http =>
          { s with
            http := http
            request :=
              match s.http with
              | .derivingOrigin nowMs => some (probePayload workspaceId nowMs)
              | _ => s.request }
  | .lowLevel answer expired =>
      let sid := Probe.lowLevel.sessionId workspaceId
      (s.lowLevel.next (s.visible sid (Probe.lowLevel.dedupToken workspaceId)) expired
        answer).map fun lowLevel =>
          { s with
            lowLevel := lowLevel
            abandoned :=
              match s.lowLevel, answer with
              | .inserting clock, .rejected =>
                  s.abandoned ++ [[syntheticEvent workspaceId clock]]
              | _, _ => s.abandoned }
  | .received workspace arrival =>
      s.request.bind fun payload =>
        (EventBuffer.step maxRetainedEvents s.service
          (.addBatch (handle host workspace payload arrival))).map fun service =>
            { s with service := service, request := none }
  | .refused => s.request.map fun _ => { s with request := none }
  | .service a => (EventBuffer.step maxRetainedEvents s.service a).map fun service =>
      { s with
        service := service
        abandoned := s.abandoned ++ s.failedInsert workspaceId a }
  | .lands i _ => (s.abandoned[i]?).map fun _ => { s with abandoned := s.abandoned.eraseIdx i }
  | .removed kept => some { s with lingering := s.lingering.select kept }

end VerifyState

def Effect.apply (workspaceId : String) (tables : Tables) : Effect → Tables
  | .keeps => tables
  | .inserts landed block => tables.insert landed block
  | .deletes probe table carriedOut =>
      if carriedOut then tables.delete (probe.sessionId workspaceId) table else tables

def Effect.covered (workspaceId : String) (tables : Tables) : Effect → Tables
  | .deletes probe table true => tables.covered (probe.sessionId workspaceId) table
  | _ => {}

def verifyStep (host : Host) (maxRetainedEvents : Nat) (workspaceId : String) (s : VerifyState)
    (a : VerifyAction) : Option VerifyState :=
  (s.control host maxRetainedEvents workspaceId a).map fun s' =>
    let effect := s.effect workspaceId a
    { s' with
      tables := effect.apply workspaceId s.tables
      lingering := s'.lingering.append (effect.covered workspaceId s.tables) }

end Veridian.TrackingVerification
