/-
From tracked events to webhook deliveries.

`handle` emits `event.tracked` for every event of every payload, the ones sent before
included, and the dispatcher inserts a delivery for each active webhook that selects the
event.  Nothing on the way remembers an `event_id`, so a webhook gets one delivery for
every time it hears the event.

What the filters of a webhook ask is left open: `filterMatches` is any test of an emitted
event.  The table of definitions may be another one at every dispatch.
-/
import Veridian.Events.EventsTable

namespace Veridian

def EventName.text : EventName → String
  | .screenView => "screen_view"
  | .scroll => "scroll"
  | .click => "click"
  | .ping => "ping"
  | .goal => "goal"

/-! ### Emission -/

/-- What `emitTracked` emits; the other fields of its `payload` are columns of the event. -/
structure TrackedEventPayload where
  workspaceId : String
  eventType : String
  eventId : String
  event : TrackingEvent

def emitTracked (event : TrackingEvent) : TrackedEventPayload :=
  { workspaceId := event.workspaceId
    eventType := event.name.text
    eventId :=
      if event.dedupToken ≠ "" then event.dedupToken
      else s!"{event.sessionId}_{event.name.text}_{event.pageNumber}"
    event := event }

/-! ### Webhooks -/

structure WebhookDefinition (φ : Type) where
  id : String
  workspaceId : String
  url : String
  active : Bool
  events : List String
  filters : φ
  updatedAt : Int
  deletedAt : Option Int

structure WebhookDelivery where
  webhookId : String
  workspaceId : String
  eventId : String
  eventType : String
  requestUrl : String
  payload : TrackedEventPayload

variable {φ : Type}

/-- `ReplacingMergeTree(updated_at) ORDER BY (workspace_id, id)` read with `FINAL`. -/
def findActive (table : List (WebhookDefinition φ)) (workspaceId : String) :
    List (WebhookDefinition φ) :=
  (Replacing.final (fun w : WebhookDefinition φ => (w.workspaceId, w.id))
    WebhookDefinition.updatedAt table).filter fun w =>
      w.workspaceId = workspaceId ∧ w.deletedAt = none ∧ w.active = true

/-- The webhook subscribes to the type of the event and its filters let it through. -/
def WebhookDefinition.selects (filterMatches : φ → TrackedEventPayload → Bool)
    (webhook : WebhookDefinition φ) (event : TrackedEventPayload) : Bool :=
  (webhook.events.isEmpty || webhook.events.contains event.eventType) &&
    filterMatches webhook.filters event

def enqueueDelivery (webhook : WebhookDefinition φ) (event : TrackedEventPayload) :
    WebhookDelivery :=
  { webhookId := webhook.id
    workspaceId := webhook.workspaceId
    eventId := event.eventId
    eventType := event.eventType
    requestUrl := webhook.url
    payload := event }

def dispatchInternal (filterMatches : φ → TrackedEventPayload → Bool)
    (table : List (WebhookDefinition φ)) (event : TrackedEventPayload) : List WebhookDelivery :=
  (findActive table event.workspaceId).filterMap fun webhook =>
    if webhook.selects filterMatches event then some (enqueueDelivery webhook event) else none

/-! ### A run of the endpoint -/

/-- A request, and the table of definitions as the dispatch of each of its events finds it. -/
structure Tracked (φ : Type) where
  request : Request
  tables : Nat → List (WebhookDefinition φ)

/-- An emitted event and the table its dispatch reads. -/
structure Emission (φ : Type) where
  event : TrackedEventPayload
  table : List (WebhookDefinition φ)

/-- `for (const event of events) this.emitTracked(event)` -/
def Tracked.emissions (host : Host) (t : Tracked φ) : List (Emission φ) :=
  (t.request.events host).mapIdx fun i event => ⟨emitTracked event, t.tables i⟩

def emissions (host : Host) (run : List (Tracked φ)) : List (Emission φ) :=
  run.flatMap (·.emissions host)

/-- What a run leaves in `webhook_deliveries`. -/
def deliveries (host : Host) (filterMatches : φ → TrackedEventPayload → Bool)
    (run : List (Tracked φ)) : List WebhookDelivery :=
  (emissions host run).flatMap fun e => dispatchInternal filterMatches e.table e.event

/-- At most one delivery for each webhook and `event_id`. -/
def AtMostOnce (rows : List WebhookDelivery) : Prop :=
  ∀ webhookId eventId,
    rows.countP (fun d => d.webhookId = webhookId ∧ d.eventId = eventId) ≤ 1

/-- The webhook is active at the dispatch of the event and selects it. -/
def Emission.heardBy (filterMatches : φ → TrackedEventPayload → Bool) (e : Emission φ)
    (webhookId : String) : Bool :=
  (findActive e.table e.event.workspaceId).any fun webhook =>
    webhook.id = webhookId && webhook.selects filterMatches e.event

/-- The `event_id`s a webhook hears, one for each emission. -/
def heardTokens (filterMatches : φ → TrackedEventPayload → Bool) (webhookId : String)
    (es : List (Emission φ)) : List String :=
  (es.filter fun e => e.heardBy filterMatches webhookId).map fun e => e.event.eventId

/-- No webhook hears two emissions of one `event_id`. -/
def HeardOnce (filterMatches : φ → TrackedEventPayload → Bool) (es : List (Emission φ)) : Prop :=
  ∀ webhookId, (heardTokens filterMatches webhookId es).Nodup

/-! ### One dispatch -/

/-- A webhook is found once. -/
theorem countP_findActive_le (table : List (WebhookDefinition φ)) (workspaceId webhookId : String) :
    (findActive table workspaceId).countP (fun w => w.id = webhookId) ≤ 1 := by
  let key := fun w : WebhookDefinition φ => (w.workspaceId, w.id)
  let rows := Replacing.final key WebhookDefinition.updatedAt table
  have hone : (rows.filter fun w => key w = (workspaceId, webhookId)).length ≤ 1 := by
    rw [Replacing.final_filter_eq_survivor key WebhookDefinition.updatedAt
      fun w _ => decide_eq_true_iff]
    exact Option.length_toList_le
  have hle : (findActive table workspaceId).countP (fun w => w.id = webhookId) ≤
      rows.countP fun w => key w = (workspaceId, webhookId) := by
    unfold findActive
    rw [List.countP_filter]
    refine List.countP_mono_left fun w _ hw => ?_
    obtain ⟨hid, hactive⟩ := Bool.and_eq_true_iff.mp hw
    exact decide_eq_true (Prod.ext (of_decide_eq_true hactive).1 (of_decide_eq_true hid))
  rw [List.countP_eq_length_filter (l := rows)] at hle
  exact hle.trans hone

/-- **One dispatch** inserts a delivery for a webhook exactly when it hears the event. -/
theorem countP_dispatchInternal (filterMatches : φ → TrackedEventPayload → Bool) (e : Emission φ)
    (webhookId eventId : String) :
    (dispatchInternal filterMatches e.table e.event).countP
      (fun d => d.webhookId = webhookId ∧ d.eventId = eventId) =
      if e.heardBy filterMatches webhookId = true ∧ e.event.eventId = eventId then 1 else 0 := by
  have hcount : (dispatchInternal filterMatches e.table e.event).countP
      (fun d => d.webhookId = webhookId ∧ d.eventId = eventId) =
      (findActive e.table e.event.workspaceId).countP fun w =>
        (w.id = webhookId && w.selects filterMatches e.event) && e.event.eventId = eventId := by
    unfold dispatchInternal
    rw [List.countP_filterMap]
    refine List.countP_congr fun w _ => ?_
    by_cases hselects : w.selects filterMatches e.event = true
    · simp [hselects, enqueueDelivery]
    · simp [hselects]
  rw [hcount]
  by_cases hevent : e.event.eventId = eventId
  · rw [List.countP_congr (q := fun w => w.id = webhookId && w.selects filterMatches e.event)
      fun w _ => by rw [decide_eq_true hevent, Bool.and_true]]
    by_cases hheard : e.heardBy filterMatches webhookId = true
    · rw [if_pos ⟨hheard, hevent⟩]
      refine Nat.le_antisymm (le_trans ?_ (countP_findActive_le e.table e.event.workspaceId
        webhookId)) (List.one_le_countP_iff.mpr (List.any_eq_true.mp hheard))
      exact List.countP_mono_left fun w _ hw => (Bool.and_eq_true_iff.mp hw).1
    · rw [if_neg fun h => hheard h.1]
      refine List.countP_eq_zero.mpr fun w hw hselected => hheard ?_
      exact List.any_eq_true.mpr ⟨w, hw, hselected⟩
  · rw [if_neg fun h => hevent h.2]
    refine List.countP_eq_zero.mpr fun w _ h => hevent ?_
    exact of_decide_eq_true (Bool.and_eq_true_iff.mp h).2

/-! ### A run -/

/-- The deliveries of a run under a pair, counted by what the webhook hears. -/
theorem countP_deliveries (host : Host) (filterMatches : φ → TrackedEventPayload → Bool)
    (run : List (Tracked φ)) (webhookId eventId : String) :
    (deliveries host filterMatches run).countP
      (fun d => d.webhookId = webhookId ∧ d.eventId = eventId) =
      (heardTokens filterMatches webhookId (emissions host run)).count eventId := by
  unfold deliveries
  induction emissions host run with
  | nil => rfl
  | cons e rest ih =>
      rw [List.flatMap_cons, List.countP_append, countP_dispatchInternal, ih]
      unfold heardTokens
      by_cases hheard : e.heardBy filterMatches webhookId = true
      · rw [List.filter_cons_of_pos (by exact hheard), List.map_cons, List.count_cons, add_comm]
        simp [hheard]
      · rw [List.filter_cons_of_neg (by exact hheard), if_neg fun h => hheard h.1, zero_add]

/-- The tokens of the actions a request brings, as far as it is taken in. -/
def Request.tokens (host : Host) (r : Request) : List String :=
  if r.Accepted host then r.payload.actions.map (Action.dedupToken r.payload.sessionId) else []

theorem Action.dedupToken_ne (sessionId : String) (action : Action) :
    action.dedupToken sessionId ≠ "" := by
  intro h
  have hlength := congrArg String.length h
  cases action with
  | pageview a => simp [Action.dedupToken, PageviewAction.dedupToken] at hlength
  | goal a =>
      simp only [Action.dedupToken, GoalAction.dedupToken, String.length_append] at hlength
      have hgoal : (toString "_goal_").length = 6 := rfl
      rw [hgoal] at hlength
      simp at hlength

theorem Request.events_eventId (host : Host) (r : Request) :
    (r.events host).map (fun e => (emitTracked e).eventId) = r.tokens host := by
  unfold Request.tokens
  by_cases haccepted : r.Accepted host
  · rw [if_pos haccepted]
    refine Request.events_map haccepted ?_ ?_ ?_
    · intro e d v
      cases d <;> rfl
    · intro e c
      rfl
    · intro action previousPath
      cases action with
      | pageview a => exact if_pos (Action.dedupToken_ne r.payload.sessionId (.pageview a))
      | goal a => exact if_pos (Action.dedupToken_ne r.payload.sessionId (.goal a))
  · rw [if_neg haccepted, Request.events_of_not_accepted haccepted]
    rfl

/-- **The `event_id`s of a run** are the `dedup_token`s of the actions it brings. -/
theorem emissions_eventId (host : Host) (run : List (Tracked φ)) :
    (emissions host run).map (fun e => e.event.eventId) =
      run.flatMap fun t => t.request.tokens host := by
  unfold emissions
  rw [List.map_flatMap]
  refine List.flatMap_congr fun t _ => ?_
  rw [← Request.events_eventId, Tracked.emissions]
  refine List.ext_getElem (by simp) fun i _ _ => ?_
  simp

/--
**At most one delivery for each event.**

Whatever the filters ask and whichever definitions each dispatch finds: no pair of a
webhook and an `event_id` has two deliveries exactly when no webhook hears two actions
with one `dedup_token`.
-/
theorem deliveries_at_most_once_iff (host : Host)
    (filterMatches : φ → TrackedEventPayload → Bool) (run : List (Tracked φ)) :
    AtMostOnce (deliveries host filterMatches run) ↔
      HeardOnce filterMatches (emissions host run) := by
  unfold AtMostOnce HeardOnce
  refine forall_congr' fun webhookId => ?_
  rw [List.nodup_iff_count_le_one]
  exact forall_congr' fun eventId => by rw [countP_deliveries]

/-- A webhook that hears everything gets each event once exactly when no two actions of the
run have one token. -/
theorem deliveries_of_all_heard_iff (host : Host)
    (filterMatches : φ → TrackedEventPayload → Bool) (run : List (Tracked φ)) (webhookId : String)
    (hheard : ∀ e ∈ emissions host run, e.heardBy filterMatches webhookId = true) :
    (∀ eventId, (deliveries host filterMatches run).countP
      (fun d => d.webhookId = webhookId ∧ d.eventId = eventId) ≤ 1) ↔
      (run.flatMap fun t => t.request.tokens host).Nodup := by
  rw [← emissions_eventId, List.nodup_iff_count_le_one]
  refine forall_congr' fun eventId => ?_
  rw [countP_deliveries, heardTokens, List.filter_eq_self.mpr hheard]

/-! ### Two heartbeats -/

namespace FanOutExample

open StaleExample

/-- A webhook without filters, for all events. -/
def webhook : WebhookDefinition Unit where
  id := "hook"
  workspaceId := "w"
  url := "https://example.org/hook"
  active := true
  events := []
  filters := ()
  updatedAt := 0
  deletedAt := none

def heartbeat (duration : ℚ) (exitedAt : Int) : Tracked Unit :=
  ⟨deliver (visit duration exitedAt) exitedAt, fun _ => [webhook]⟩

end FanOutExample

open FanOutExample in
/-- Two heartbeats of a visit with one page. -/
theorem deliveries_repeated :
    ¬AtMostOnce
      (deliveries Host.bare (fun _ _ => true) [heartbeat 10 10000, heartbeat 25 25000]) := by
  intro h
  have hone := h "hook" "s_pv_1"
  rw [countP_deliveries] at hone
  revert hone
  decide

end Veridian
