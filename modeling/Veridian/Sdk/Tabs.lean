/-
Several tabs under one session.

The session lives in `localStorage`, which the tabs of a site share, and a link to another
site of the workspace carries its id along in `_stm`.  The actions live in a `SessionState`
of the page and in `sessionStorage`, which every tab has for itself.  Each page keeps the
numbers of its own pageviews only.

A tab here is a tab on one site: what it has in `sessionStorage` belongs to the two
together.  A pageview is followed through the system by the serial number of the call that
opened it.
-/
import Veridian.Lib.Machine
import Veridian.Events.Emitted
import Veridian.Sdk.SessionState

namespace Veridian.Tabs

open SessionState

/-! ### `SessionManager` -/

/-- `CLOCK_SKEW_TOLERANCE`, in seconds. -/
def CLOCK_SKEW_TOLERANCE : Int := 60

structure CrossDomainInput where
  sessionId : String
  /-- Seconds. -/
  timestamp : Int
  expiry : Int

structure Session where
  id : String
  createdAt : Int
  updatedAt : Int
  lastActiveAt : Int
  sequence : Nat

def isValidCrossDomain (now : Int) (input : CrossDomainInput) : Bool :=
  let nowSeconds := now / 1000
  decide (nowSeconds - input.timestamp ≤ input.expiry) &&
    decide (input.timestamp ≤ nowSeconds + CLOCK_SKEW_TOLERANCE)

def isSessionExpired (sessionTimeout now : Int) (session : Session) : Bool :=
  decide (sessionTimeout < now - session.lastActiveAt)

/-- `createSession` and `createSessionFromCrossDomain`, under the id given. -/
def createSession (id : String) (now : Int) : Session := ⟨id, now, now, now, 0⟩

def getOrCreateSession (sessionTimeout : Int) (input : Option CrossDomainInput)
    (stored : Option Session) (generated : String) (now : Int) : Session :=
  match input.filter (isValidCrossDomain now) with
  | some input => createSession input.sessionId now
  | none =>
      match stored.filter fun session => !isSessionExpired sessionTimeout now session with
      | some session =>
          { session with lastActiveAt := now, updatedAt := now, sequence := session.sequence + 1 }
      | none => createSession generated now

/-! ### Tabs -/

/-- A pageview by what the server tells pages apart with, and by the call that opened it. -/
structure Page where
  sessionId : String
  pageNumber : Nat
  serial : Nat
  deriving DecidableEq, Repr

/-- The pageviews among the actions of a session, with their serials. -/
def pagesOf (sessionId : String) (actions : List Action) (serials : List Nat) : List Page :=
  List.zipWith (fun pageNumber serial => ⟨sessionId, pageNumber, serial⟩)
    (actions.filterMap Action.pageNumber?) serials

/-- The `SessionState` of a page, with the serials of its pageviews. -/
structure Live where
  state : SessionState
  serials : List Nat
  serials_length : serials.length = (state.actions.filterMap Action.pageNumber?).length

/-- What is in `sessionStorage`, likewise. -/
structure Kept where
  snapshot : SessionStateSnapshot
  serials : List Nat
  serials_length : serials.length = (snapshot.actions.filterMap Action.pageNumber?).length

def Live.pages (l : Live) : List Page :=
  pagesOf l.state.config.sessionId l.state.actions l.serials

def Kept.pages (k : Kept) : List Page :=
  pagesOf k.snapshot.sessionId k.snapshot.actions k.serials

structure Tab where
  /-- The site, and with it the `localStorage`. -/
  site : Nat
  /-- What the page was opened with in `_stm`; the manager keeps it. -/
  input : Option CrossDomainInput
  session : Option Session
  live : Option Live
  kept : Option Kept

def keptPages (kept : Option Kept) : List Page := (kept.map Kept.pages).getD []

def Tab.pages (t : Tab) : List Page := (t.live.map Live.pages).getD [] ++ keptPages t.kept

/-! ### The calls on a `SessionState`, with the serials -/

theorem filterMap_onCurrentPage {s : SessionState} {f : PageviewAction → PageviewAction}
    (hf : ∀ a, (f a).pageNumber = a.pageNumber) :
    (s.onCurrentPage f).actions.filterMap Action.pageNumber? =
      s.actions.filterMap Action.pageNumber? := by
  have hview : ∀ a : Action, (a.onPageview f).pageNumber? = a.pageNumber? := by
    intro a
    cases a with
    | pageview a => exact congrArg some (hf a)
    | goal a => rfl
  have hmap := map_onCurrentPage (s := s) hview
  have hid := congrArg (List.filterMap id) hmap
  simpa [List.filterMap_map] using hid

theorem pageNumber_closePage (now : Int) (focusMs : ℚ) (a : PageviewAction) :
    (closePage now focusMs a).pageNumber = a.pageNumber := rfl

theorem pageNumber_scrollTo (scrollPercent : ℚ) (a : PageviewAction) :
    (scrollTo scrollPercent a).pageNumber = a.pageNumber := by
  unfold scrollTo
  dsimp only
  split <;> rfl

/-- The numbers of the pageviews after one more was added. -/
theorem pageNumbers_addPageview {s : SessionState} (h : s.actions.length < MAX_ACTIONS)
    (path : String) (now : Int) (focusMs : ℚ) :
    (s.addPageview path now focusMs).actions.filterMap Action.pageNumber? =
      s.actions.filterMap Action.pageNumber? ++ [getNextPageNumber s.actions] := by
  have hnext : getNextPageNumber (s.finalizeCurrentPageDuration now focusMs).actions =
      getNextPageNumber s.actions := by
    refine getNextPageNumber_congr (map_onCurrentPage fun a => ?_)
    exact congrArg Prod.snd (place_closePage now focusMs a)
  unfold addPageview
  rw [dif_pos h]
  show ((s.finalizeCurrentPageDuration now focusMs).actions ++ [_]).filterMap _ = _
  rw [List.filterMap_append, hnext]
  exact congrArg (· ++ _) (filterMap_onCurrentPage (pageNumber_closePage now focusMs))

theorem config_addPageview (s : SessionState) (path : String) (now : Int) (focusMs : ℚ) :
    (s.addPageview path now focusMs).config = s.config := by
  unfold addPageview
  split
  · exact config_onCurrentPage _
  · rfl

namespace Live

/-- `new SessionState(config)` -/
def new (config : SessionStateConfig) : Live := ⟨.new config, [], rfl⟩

/-- A call that leaves the pageviews. -/
def write (l : Live) (s : SessionState)
    (h : s.actions.filterMap Action.pageNumber? =
      l.state.actions.filterMap Action.pageNumber?) : Live :=
  ⟨s, l.serials, by rw [h, l.serials_length]⟩

def HasRoom (l : Live) : Prop := l.state.actions.length < MAX_ACTIONS

instance (l : Live) : Decidable l.HasRoom := inferInstanceAs (Decidable (_ < _))

def addPageview (l : Live) (path : String) (now : Int) (focusMs : ℚ) (serial : Nat) : Live :=
  if h : l.HasRoom then
    ⟨l.state.addPageview path now focusMs, l.serials ++ [serial], by
      rw [pageNumbers_addPageview h, List.length_append, List.length_append, l.serials_length]
      rfl⟩
  else l

def updateScroll (l : Live) (scrollPercent : ℚ) : Live :=
  l.write (l.state.updateScroll scrollPercent)
    (filterMap_onCurrentPage (pageNumber_scrollTo scrollPercent))

theorem pageNumbers_addGoal (s : SessionState) (name : String) (value : Option ℚ)
    (properties : Option (List (String × String))) (now : Int) :
    (s.addGoal name value properties now).2.actions.filterMap Action.pageNumber? =
      s.actions.filterMap Action.pageNumber? := by
  unfold SessionState.addGoal
  split
  · show (s.actions ++ [_]).filterMap _ = _
    rw [List.filterMap_append]
    exact List.append_nil _
  · rfl

def addGoal (l : Live) (name : String) (value : Option ℚ)
    (properties : Option (List (String × String))) (now : Int) : Live :=
  l.write (l.state.addGoal name value properties now).2
    (pageNumbers_addGoal l.state name value properties now)

def buildPayload (l : Live) (attributes : SessionAttributes) (options : PayloadOptions)
    (now : Int) (focusMs : ℚ) : SessionPayload × Live :=
  ((l.state.buildPayload attributes options now focusMs).1,
    l.write (l.state.buildPayload attributes options now focusMs).2
      (filterMap_onCurrentPage (pageNumber_closePage now focusMs)))

def finalizeForUnload (l : Live) (now : Int) (focusMs : ℚ) : Live :=
  l.write (l.state.finalizeForUnload now focusMs)
    (filterMap_onCurrentPage (pageNumber_closePage now focusMs))

def persist (l : Live) : Kept := ⟨l.state.persist, l.serials, l.serials_length⟩

def restore (l : Live) (kept : Option Kept) : Live × Option Kept :=
  match kept with
  | none => (l, none)
  | some k =>
      if h : k.snapshot.sessionId = l.state.config.sessionId then
        (⟨(l.state.restore (some k.snapshot)).1, k.serials, by
          rw [restore_of_eq h, k.serials_length]⟩, some k)
      else (l, none)

end Live

/-! ### The system -/

structure SdkConfig where
  workspaceId : String
  sessionTimeout : Int

inductive TabCall where
  /-- The SDK is initialised on a page: the session is looked up or made, the actions are
  restored, and the page is added.  `stores` is whether `localStorage` takes the session. -/
  | load (input : Option CrossDomainInput) (generated path : String) (now : Int) (focusMs : ℚ)
      (stores : Bool)
  | addPageview (path : String) (now : Int) (focusMs : ℚ)
  | updateScroll (scrollPercent : ℚ)
  | addGoal (name : String) (value : Option ℚ) (properties : Option (List (String × String)))
      (now : Int)
  /-- A payload is built, and may get through to the server. -/
  | sendPayload (attributes : SessionAttributes) (options : PayloadOptions) (now : Int)
      (focusMs : ℚ) (arrives : Bool)
  | finalizeForUnload (now : Int) (focusMs : ℚ)
  | persist (throws : Bool)
  | restore
  /-- `setDimension`, `setUserId` and the like write the session back. -/
  | saveSession (stores : Bool)
  | reset (generated path : String) (now : Int) (focusMs : ℚ) (stores : Bool)
  /-- The page is left. -/
  | unload

/-- What a call leaves: the tab, the session in `localStorage`, and what the server got. -/
structure Outcome where
  tab : Tab
  shared : Option Session
  sent : List Page

def sessionStateConfig (config : SdkConfig) (session : Session) : SessionStateConfig :=
  ⟨config.workspaceId, session.id, session.createdAt⟩

/-- The pageviews of a payload. -/
def sentPages (payload : SessionPayload) (serials : List Nat) : List Page :=
  pagesOf payload.sessionId payload.actions serials

variable (config : SdkConfig)

/-- The state on which a call opens a page, with the storage beside it. -/
def Tab.opens (t : Tab) (shared : Option Session) : TabCall → Option (Live × Option Kept)
  | .load input generated _ now _ _ =>
      let session := getOrCreateSession config.sessionTimeout input shared generated now
      some ((Live.new (sessionStateConfig config session)).restore t.kept)
  | .addPageview _ _ _ => t.live.map fun l => (l, t.kept)
  | .reset generated _ now _ _ =>
      -- the session just made is in the storage, and the input of the page still counts
      let session := getOrCreateSession config.sessionTimeout t.input
        (some (createSession generated now)) generated now
      some (Live.new (sessionStateConfig config session), t.kept)
  | _ => none

def Tab.call (t : Tab) (shared : Option Session) (serial : Nat) : TabCall → Option Outcome
  | .load input generated path now focusMs stores =>
      match t.live, t.opens config shared (.load input generated path now focusMs stores) with
      | none, some (l, kept) =>
          let session := getOrCreateSession config.sessionTimeout input shared generated now
          some
            { tab :=
                { t with
                  input := input
                  session := some session
                  live := some (l.addPageview path now focusMs serial)
                  kept := kept }
              shared := if stores then some session else shared
              sent := [] }
      | _, _ => none
  | .reset generated path now focusMs stores =>
      match t.live, t.opens config shared (.reset generated path now focusMs stores) with
      | some _, some (l, kept) =>
          let session := getOrCreateSession config.sessionTimeout t.input
            (some (createSession generated now)) generated now
          some
            { tab :=
                { t with
                  session := some session
                  live := some (l.addPageview path now focusMs serial)
                  kept := kept }
              shared := if stores then some session else none
              sent := [] }
      | _, _ => none
  | .unload => t.live.map fun _ => ⟨{ t with live := none, session := none }, shared, []⟩
  | .saveSession stores =>
      t.live.map fun _ => ⟨t, if stores then t.session else shared, []⟩
  | .addPageview path now focusMs =>
      t.live.map fun l =>
        ⟨{ t with live := some (l.addPageview path now focusMs serial) }, shared, []⟩
  | .updateScroll scrollPercent =>
      t.live.map fun l => ⟨{ t with live := some (l.updateScroll scrollPercent) }, shared, []⟩
  | .addGoal name value properties now =>
      t.live.map fun l =>
        ⟨{ t with live := some (l.addGoal name value properties now) }, shared, []⟩
  | .sendPayload attributes options now focusMs arrives =>
      t.live.map fun l =>
        let (payload, l) := l.buildPayload attributes options now focusMs
        ⟨{ t with live := some l }, shared, if arrives then sentPages payload l.serials else []⟩
  | .finalizeForUnload now focusMs =>
      t.live.map fun l => ⟨{ t with live := some (l.finalizeForUnload now focusMs) }, shared, []⟩
  | .persist throws =>
      t.live.map fun l => ⟨{ t with kept := if throws then t.kept else some l.persist }, shared, []⟩
  | .restore =>
      t.live.map fun l =>
        ⟨{ t with live := some (l.restore t.kept).1, kept := (l.restore t.kept).2 }, shared, []⟩

/-- The tabs, the session in the `localStorage` of each site, and what the server was sent. -/
structure World where
  tabs : List Tab
  shared : Nat → Option Session
  sent : List Page
  /-- The serial of the next call. -/
  serial : Nat

def Tab.new (site : Nat) : Tab := ⟨site, none, none, none, none⟩

/-- Tabs on the sites given, without a page or a session. -/
def World.new (sites : List Nat) : World := ⟨sites.map Tab.new, fun _ => none, [], 0⟩

def World.step (w : World) (action : Nat × TabCall) : Option World :=
  (w.tabs[action.1]?).bind fun t =>
    (t.call config (w.shared t.site) w.serial action.2).map fun o =>
      { tabs := w.tabs.set action.1 o.tab
        shared := Function.update w.shared t.site o.shared
        sent := w.sent ++ o.sent
        serial := w.serial + 1 }

/-- Every pageview there is a copy of, sent or held. -/
def World.pages (w : World) : List Page := w.sent ++ w.tabs.flatMap Tab.pages

end Veridian.Tabs
