/-
What the events of a payload are, whatever the filters did to them.

Filters write the nineteen writable dimensions and nothing else, so everything the
views aggregate over (the session, its instants, the name of an event, the value of a
goal) is the payload's.  Counting the events of a payload is counting its actions.
-/
import Veridian.Events.Handler
import Mathlib.Data.List.Flatten

namespace Veridian

/-! ### What filters leave alone -/

/-- Anything read off an event that no assignment to a dimension changes. -/
theorem applyFilters_view {β : Type*} (view : TrackingEvent → β)
    (hassign : ∀ e d v, view (TrackingEvent.assign e d v) = view e)
    (hcustom : ∀ e c, view (TrackingEvent.assignCustom e c) = view e) (host : Host)
    (event : TrackingEvent) (filters : List FilterDefinition) :
    view (applyFilters host event filters) = view event := by
  unfold applyFilters
  split
  · rfl
  · have hfold : ∀ (entries : List (WritableDimension × Option String)) (e : TrackingEvent),
        view (entries.foldl (fun e entry => e.assign entry.1 entry.2) e) = view e := by
      intro entries
      induction entries with
      | nil => intro e; rfl
      | cons entry rest ih =>
          intro e
          rw [List.foldl_cons, ih, hassign]
    exact (hfold _ _).trans (hcustom _ _)

/-- The session an event belongs to, and its instants. -/
structure Envelope where
  sessionId : String
  workspaceId : String
  createdAt : Int
  updatedAt : Int
  deriving DecidableEq

def TrackingEvent.envelope (e : TrackingEvent) : Envelope :=
  ⟨e.sessionId, e.workspaceId, e.createdAt, e.updatedAt⟩

/-- The name of an event and the value it carries if it is a goal. -/
def TrackingEvent.content (e : TrackingEvent) : EventName × ℚ := (e.name, e.goalValue)

theorem applyFilters_envelope (host : Host) (event : TrackingEvent)
    (filters : List FilterDefinition) :
    (applyFilters host event filters).envelope = event.envelope :=
  applyFilters_view TrackingEvent.envelope (fun _ d _ => by cases d <;> rfl) (fun _ _ => rfl)
    host event filters

theorem applyFilters_content (host : Host) (event : TrackingEvent)
    (filters : List FilterDefinition) : (applyFilters host event filters).content = event.content :=
  applyFilters_view TrackingEvent.content (fun _ d _ => by cases d <;> rfl) (fun _ _ => rfl)
    host event filters

/-! ### One event per action -/

/-- What the event of an action is called, and what it is worth. -/
def Action.content : Action → EventName × ℚ
  | .pageview _ => (.screenView, 0)
  | .goal g => (.goal, g.value.getD 0)

theorem deserializeActions_content (baseEvent : TrackingEvent) (sessionId : String)
    (skewMs : Int) :
    ∀ (actions : List Action) (previousPath : String),
      (deserializeActions baseEvent sessionId skewMs previousPath actions).map
        TrackingEvent.content = actions.map Action.content := by
  intro actions
  induction actions with
  | nil => intro previousPath; rfl
  | cons action rest ih =>
      intro previousPath
      refine congrArg₂ List.cons ?_ (ih _)
      cases action <;> rfl

theorem deserializeActions_envelope {baseEvent event : TrackingEvent} {sessionId : String}
    {skewMs : Int} {actions : List Action} {previousPath : String}
    (h : event ∈ deserializeActions baseEvent sessionId skewMs previousPath actions) :
    event.envelope = baseEvent.envelope :=
  mem_deserializeActions_view TrackingEvent.envelope
    (fun action _ _ _ _ => by cases action <;> rfl) h

/-! ### One request -/

/-- A payload as it is handled: in a workspace, at an instant. -/
structure Request where
  workspace : Workspace
  payload : SessionPayload
  arrival : Arrival

namespace Request

/-- The events the handler passes on. -/
def events (host : Host) (r : Request) : List TrackingEvent :=
  handle host r.workspace r.payload r.arrival

/-- The session and the corrected instants of a request. -/
def envelope (r : Request) : Envelope :=
  { sessionId := r.payload.sessionId
    workspaceId := r.payload.workspaceId
    createdAt := corrected r.payload.createdAt (appliedSkew r.payload r.arrival)
    updatedAt := corrected r.payload.updatedAt (appliedSkew r.payload r.arrival) }

theorem events_eq_nil_or (host : Host) (r : Request) :
    r.events host = [] ∨
      r.events host = (buildEvents host r.payload r.arrival r.workspace).map fun e =>
        applyFilters host e r.workspace.settings.filters := by
  unfold events handle
  split
  · exact Or.inl rfl
  · split
    · exact Or.inl rfl
    · exact Or.inr rfl

theorem mem_events_envelope {host : Host} {r : Request} {e : TrackingEvent}
    (h : e ∈ r.events host) : e.envelope = r.envelope := by
  rcases events_eq_nil_or host r with hnil | hmap
  · rw [hnil] at h
    simp at h
  · rw [hmap] at h
    obtain ⟨e₀, he₀, rfl⟩ := List.mem_map.mp h
    rw [applyFilters_envelope]
    exact deserializeActions_envelope he₀

/-- **A request that is not skipped emits its actions, in order.** -/
theorem events_content {host : Host} {r : Request} (h : r.events host ≠ []) :
    (r.events host).map TrackingEvent.content = r.payload.actions.map Action.content := by
  rcases events_eq_nil_or host r with hnil | hmap
  · exact absurd hnil h
  · rw [hmap, List.map_map]
    have hcontent : (TrackingEvent.content ∘ fun e =>
        applyFilters host e r.workspace.settings.filters) = TrackingEvent.content :=
      funext fun e => applyFilters_content host e _
    rw [hcontent]
    exact deserializeActions_content _ _ _ _ _

end Request

/-! ### What a payload says of its session -/

/-- The page number of a pageview. -/
def Action.pageNumber? : Action → Option Nat
  | .pageview v => some v.pageNumber
  | .goal _ => none

def Action.goal? : Action → Option GoalAction
  | .pageview _ => none
  | .goal g => some g

namespace SessionPayload

def pageNumbers (p : SessionPayload) : List Nat := p.actions.filterMap Action.pageNumber?

def goals (p : SessionPayload) : List GoalAction := p.actions.filterMap Action.goal?

/-- Goals are told apart by their `dedup_token`. -/
def distinctGoals (p : SessionPayload) : List GoalAction :=
  p.goals.pwFilter fun a b => a.dedupToken p.sessionId ≠ b.dedupToken p.sessionId

end SessionPayload

/-- The events of a stretch with one name. -/
def countNamed (name : EventName) (events : List TrackingEvent) : Nat :=
  events.countP fun e => e.name == name

/-- `sumIf(goal_value, name = 'goal')`. -/
def sumGoals (events : List TrackingEvent) : ℚ :=
  ((events.filter fun e => e.name == .goal).map (·.goalValue)).sum

theorem countNamed_content (name : EventName) (events : List TrackingEvent) :
    countNamed name events = (events.map TrackingEvent.content).countP fun c => c.1 == name := by
  rw [List.countP_map]
  rfl

theorem sumGoals_content (events : List TrackingEvent) :
    sumGoals events =
      (((events.map TrackingEvent.content).filter fun c => c.1 == .goal).map (·.2)).sum := by
  rw [List.filter_map, List.map_map]
  rfl

/-! ### Counting the events of a payload -/

theorem countP_screenView (actions : List Action) :
    ((actions.map Action.content).countP fun c => c.1 == .screenView) =
      (actions.filterMap Action.pageNumber?).length := by
  induction actions with
  | nil => rfl
  | cons a rest ih =>
      cases a <;> simpa [Action.content, Action.pageNumber?, List.filterMap_cons] using ih

theorem countP_goal (actions : List Action) :
    ((actions.map Action.content).countP fun c => c.1 == .goal) =
      (actions.filterMap Action.goal?).length := by
  induction actions with
  | nil => rfl
  | cons a rest ih => cases a <;> simpa [Action.content, Action.goal?, List.filterMap_cons] using ih

theorem filter_goal (actions : List Action) :
    ((actions.map Action.content).filter fun c => c.1 == .goal).map (·.2) =
      (actions.filterMap Action.goal?).map fun g => g.value.getD 0 := by
  induction actions with
  | nil => rfl
  | cons a rest ih => cases a <;> simpa [Action.content, Action.goal?, List.filterMap_cons] using ih

namespace Request

variable {host : Host} {r : Request}

theorem countNamed_screenView (h : r.events host ≠ []) :
    countNamed .screenView (r.events host) = r.payload.pageNumbers.length := by
  rw [countNamed_content, events_content h, countP_screenView]
  rfl

theorem countNamed_goal (h : r.events host ≠ []) :
    countNamed .goal (r.events host) = r.payload.goals.length := by
  rw [countNamed_content, events_content h, countP_goal]
  rfl

theorem sumGoals_events (h : r.events host ≠ []) :
    sumGoals (r.events host) = (r.payload.goals.map fun g => g.value.getD 0).sum := by
  rw [sumGoals_content, events_content h, filter_goal]
  rfl

/-- The handler emits pageviews and goals only. -/
theorem mem_events_name {e : TrackingEvent} (h : e ∈ r.events host) :
    e.name = .screenView ∨ e.name = .goal := by
  have hcontent := events_content (List.ne_nil_of_mem h)
  have hmem : e.content ∈ r.payload.actions.map Action.content := by
    rw [← hcontent]
    exact List.mem_map_of_mem h
  obtain ⟨a, -, ha⟩ := List.mem_map.mp hmem
  have hname := congrArg Prod.fst ha
  cases a with
  | pageview v => exact Or.inl hname.symm
  | goal g => exact Or.inr hname.symm

end Request

/-- In a stretch of pageviews and goals the two counts make up its length. -/
theorem countNamed_add_countNamed {events : List TrackingEvent}
    (h : ∀ e ∈ events, e.name = .screenView ∨ e.name = .goal) :
    countNamed .screenView events + countNamed .goal events = events.length := by
  induction events with
  | nil => rfl
  | cons e rest ih =>
      have hrest := ih fun x hx => h x (by simp [hx])
      unfold countNamed at hrest ⊢
      rw [List.countP_cons, List.countP_cons, List.length_cons]
      rcases h e (by simp) with hn | hn <;> simp [hn] <;> omega

theorem countNamed_le_length (name : EventName) (events : List TrackingEvent) :
    countNamed name events ≤ events.length := List.countP_le_length

end Veridian
