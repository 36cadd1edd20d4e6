/-
The heartbeat of the SDK and the browser events that drive it.

`HeartbeatState` runs two stopwatches, one for the session and one for the current page,
over one `isActive` flag.  A dozen handlers start and stop them and write to the
`SessionState` at the same time.  A handler runs without interruption, so it reads the
clock once here.
-/
import Veridian.Sdk.SessionState

namespace Veridian.Sdk

open SessionState

/-! ### The stopwatches -/

structure HeartbeatTier where
  after : Int
  desktopInterval : Option Int
  mobileInterval : Option Int

structure HeartbeatConfig where
  /-- `heartbeatTiers`, which `validateTiers` leaves with at least one tier. -/
  firstTier : HeartbeatTier
  otherTiers : List HeartbeatTier
  /-- Zero for no limit. -/
  heartbeatMaxDuration : Int
  resetHeartbeatOnNavigation : Bool
  isMobileDevice : Bool

structure HeartbeatState where
  activeStartTime : Int
  accumulatedActiveMs : Int
  isActive : Bool
  maxDurationReached : Bool
  lastPingTime : Int
  currentTierIndex : Nat
  pageActiveMs : Int
  pageStartTime : Int

/-- The highest tier that applies, of tiers in ascending order. -/
def tierFrom (totalActiveMs : Int) (current : HeartbeatTier × Nat) :
    List HeartbeatTier → HeartbeatTier × Nat
  | [] => current
  | tier :: rest =>
      if tier.after ≤ totalActiveMs then tierFrom totalActiveMs (tier, current.2 + 1) rest
      else current

def HeartbeatConfig.interval (config : HeartbeatConfig) (tier : HeartbeatTier) : Option Int :=
  if config.isMobileDevice then tier.mobileInterval else tier.desktopInterval

namespace HeartbeatState

variable (config : HeartbeatConfig) (now : Int) (h : HeartbeatState)

def getTotalActiveMs : Int :=
  h.accumulatedActiveMs + if h.isActive then now - h.activeStartTime else 0

def getPageActiveMs : Int :=
  h.pageActiveMs + if h.isActive then now - h.pageStartTime else 0

/-- No tier at all applies before the first, which counts as the current one then. -/
def getCurrentTier : HeartbeatTier × Nat :=
  if config.firstTier.after ≤ h.getTotalActiveMs now then
    tierFrom (h.getTotalActiveMs now) (config.firstTier, 0) config.otherTiers
  else (config.firstTier, 0)

def stopHeartbeat (accumulateTime : Bool) : HeartbeatState :=
  if accumulateTime && h.isActive then
    { h with
      accumulatedActiveMs := h.accumulatedActiveMs + (now - h.activeStartTime)
      pageActiveMs := h.pageActiveMs + (now - h.pageStartTime)
      isActive := false }
  else { h with isActive := false }

def maxDurationNow : Bool :=
  config.heartbeatMaxDuration ≠ 0 &&
    decide (config.heartbeatMaxDuration ≤ h.getTotalActiveMs now)

/-- What `scheduleNextHeartbeat` does to the state; the timer itself may fire at any time. -/
def scheduleNextHeartbeat : HeartbeatState :=
  if !h.isActive then h
  else if h.maxDurationNow config now then
    stopHeartbeat now { h with maxDurationReached := true } true
  else
    match config.interval (h.getCurrentTier config now).1 with
    | none => stopHeartbeat now { h with maxDurationReached := true } true
    | some _ => h

def startHeartbeat : HeartbeatState :=
  if h.maxDurationReached then h
  else
    scheduleNextHeartbeat config now
      { h.stopHeartbeat now false with
        activeStartTime := now
        isActive := true
        lastPingTime := now }

def resumeHeartbeat : HeartbeatState :=
  if h.maxDurationReached then h
  else
    scheduleNextHeartbeat config now
      { h with
        activeStartTime := now
        pageStartTime := now
        isActive := true
        lastPingTime := now }

/-- `resetHeartbeatState` -/
def fresh : HeartbeatState where
  activeStartTime := 0
  accumulatedActiveMs := 0
  isActive := false
  maxDurationReached := false
  lastPingTime := 0
  currentTierIndex := 0
  pageActiveMs := 0
  pageStartTime := now

def resetPageActiveTime : HeartbeatState := { h with pageActiveMs := 0, pageStartTime := now }

end HeartbeatState

/-! ### The SDK -/

/-- What a handler finds when it is called. -/
structure Moment where
  now : Int
  /-- `getMaxScrollPercent()`, where scrolling is tracked. -/
  maxScroll : Option ℚ := none
  attributes : SessionAttributes := {}
  options : PayloadOptions := {}
  /-- Whether `sessionStorage.setItem` throws. -/
  storageThrows : Bool := false

structure StaminadsSDK where
  heartbeatState : HeartbeatState
  isPaused : Bool
  flushed : Bool
  sessionState : SessionState
  stored : Option SessionStateSnapshot

inductive SdkEvent where
  | visibilityChange (hidden : Bool)
  | focus
  | blur
  | freeze
  /-- The `resume` event of the document. -/
  | unfreeze
  /-- `pagehide` and `beforeunload`. -/
  | unload
  | pageShow (persisted : Bool)
  | navigation (path : String)
  /-- A heartbeat timer fires. -/
  | heartbeat (visible : Bool)
  /-- The timer of the debounced send fires. -/
  | debouncedSend
  /-- A send has succeeded. -/
  | sent
  | trackPageView (path : String)
  | trackGoal (name : String) (value : Option ℚ) (properties : Option (List (String × String)))
  | pause
  | resume
  deriving DecidableEq

namespace StaminadsSDK

variable (config : HeartbeatConfig) (m : Moment) (s : StaminadsSDK)

/-- The getter that `setFocusTimeGetter` was given. -/
def focusMs : ℚ := (s.heartbeatState.getPageActiveMs m.now : ℚ)

def updateScroll : StaminadsSDK :=
  match m.maxScroll with
  | none => s
  | some maxScroll => { s with sessionState := s.sessionState.updateScroll maxScroll }

def persist : StaminadsSDK :=
  if m.storageThrows then s else { s with stored := some s.sessionState.persist }

def sendPayload : StaminadsSDK × Option SessionPayload :=
  let (payload, state) := s.sessionState.buildPayload m.attributes m.options m.now (s.focusMs m)
  ({ s with sessionState := state }, some payload)

def stop : StaminadsSDK :=
  { s with heartbeatState := s.heartbeatState.stopHeartbeat m.now true }

/-- What `onFocus`, `onResume` and the others that come back do. -/
def comeBack : StaminadsSDK :=
  if !s.isPaused && !s.heartbeatState.maxDurationReached then
    { s with
      flushed := false
      heartbeatState := s.heartbeatState.resumeHeartbeat config m.now }
  else { s with flushed := false }

def flushOnce : StaminadsSDK × Option SessionPayload :=
  if s.flushed then (s, none)
  else
    let scrolled := updateScroll m { s with flushed := true }
    let closed :=
      { scrolled with
        sessionState := scrolled.sessionState.finalizeForUnload m.now (scrolled.focusMs m) }
    let (sent, payload) := closed.sendPayload m
    (sent.persist m, payload)

def addPageview (path : String) : StaminadsSDK :=
  let scrolled := s.updateScroll m
  { scrolled with
    sessionState := scrolled.sessionState.addPageview path m.now (scrolled.focusMs m)
    heartbeatState := scrolled.heartbeatState.resetPageActiveTime m.now }

def onNavigation (path : String) : StaminadsSDK :=
  let added := s.addPageview m path
  let restarted :=
    if config.resetHeartbeatOnNavigation then
      { added with
        heartbeatState := (HeartbeatState.fresh m.now).startHeartbeat config m.now }
    else added
  restarted.persist m

def shouldSendPing (visible : Bool) : Bool :=
  !s.isPaused && s.heartbeatState.isActive && visible

def onHeartbeat : StaminadsSDK × Option SessionPayload :=
  let tier := s.heartbeatState.getCurrentTier config m.now
  let (pinged, payload) := (s.updateScroll m).sendPayload m
  ({ pinged with
     heartbeatState := HeartbeatState.scheduleNextHeartbeat config m.now
       { s.heartbeatState with currentTierIndex := tier.2, lastPingTime := m.now } }, payload)

def event : SdkEvent → StaminadsSDK × Option SessionPayload
  | .visibilityChange hidden =>
      if hidden then (s.stop m).flushOnce m else (s.comeBack config m, none)
  | .focus => (s.comeBack config m, none)
  | .blur => (s.stop m).flushOnce m
  | .freeze => (s.stop m).flushOnce m
  | .unfreeze => (s.comeBack config m, none)
  | .unload => s.flushOnce m
  | .pageShow persisted =>
      if persisted then
        let back := s.comeBack config m
        ({ back with
           sessionState := (back.sessionState.restore back.stored).1
           stored := (back.sessionState.restore back.stored).2 }, none)
      else (s, none)
  | .navigation path => (s.onNavigation config m path, none)
  | .heartbeat visible => if s.shouldSendPing visible then s.onHeartbeat config m else (s, none)
  | .debouncedSend => s.sendPayload m
  | .sent => (s.persist m, none)
  | .trackPageView path => ((s.addPageview m path).persist m, none)
  | .trackGoal name value properties =>
      sendPayload m
        { s with sessionState := (s.sessionState.addGoal name value properties m.now).2 }
  | .pause => ({ s with isPaused := true, heartbeatState := (s.stop m).heartbeatState }, none)
  | .resume =>
      ({ s with
         isPaused := false
         heartbeatState := (HeartbeatState.fresh m.now).startHeartbeat config m.now }, none)

/-- The end of `initializeAsync`, over what an earlier page of the tab left in the storage. -/
def init (session : SessionStateConfig) (stored : Option SessionStateSnapshot) (path : String) :
    StaminadsSDK :=
  let restored := (SessionState.new session).restore stored
  { heartbeatState := HeartbeatState.startHeartbeat config m.now
      { HeartbeatState.fresh m.now with activeStartTime := m.now }
    isPaused := false
    flushed := false
    -- the stopwatch still stands at zero here
    sessionState := restored.1.addPageview path m.now 0
    stored := restored.2 }

end StaminadsSDK

end Veridian.Sdk
