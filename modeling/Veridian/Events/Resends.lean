/-
The sort keys of payloads that are sent again.

`created_at` is part of the key of `sessions`, `goal_timestamp` of the key of `goals`,
and both are stored as corrected by the clock skew of the request.  A payload that is
sent again with another delay is corrected by another amount, so the keys agree exactly
when the two requests are corrected alike.
-/
import Mathlib.Data.Int.Order.Basic
import Veridian.Events.EventsTable
import Veridian.Events.SessionsView

namespace Veridian

/-! ### When two requests are corrected alike -/

/-- How long after `sent_at` a request was handled, by the two clocks. -/
def Request.delay (r : Request) : Option Int :=
  r.payload.sentAt.map fun sentAt => r.arrival.version - sentAt

/-- The delay is beyond the threshold, one way or the other. -/
def Request.NeedsCorrection (r : Request) : Prop :=
  ∃ d, r.delay = some d ∧ (d < -CLOCK_SKEW_THRESHOLD_MS ∨ CLOCK_SKEW_THRESHOLD_MS < d)

/-- Neither request needs correction, or both do and were under way for the same time. -/
def CorrectedAlike (r r' : Request) : Prop :=
  ¬r.NeedsCorrection ∧ ¬r'.NeedsCorrection ∨
    r.NeedsCorrection ∧ r'.NeedsCorrection ∧ r.delay = r'.delay

theorem corrected_eq_add (t k : Int) : corrected t k = t + k := by
  unfold corrected correctTimestamp
  split <;> omega

theorem appliedSkew_of_needsCorrection {r : Request} {d : Int} (hd : r.delay = some d)
    (h : d < -CLOCK_SKEW_THRESHOLD_MS ∨ CLOCK_SKEW_THRESHOLD_MS < d) :
    appliedSkew r.payload r.arrival = d := by
  obtain ⟨sentAt, hsent, rfl⟩ := Option.map_eq_some_iff.mp hd
  unfold appliedSkew calculateClockSkew
  rw [hsent]
  rcases h with h | h
  · simp [h]
  · simp [h]

theorem appliedSkew_of_not_needsCorrection {r : Request} (h : ¬r.NeedsCorrection) :
    appliedSkew r.payload r.arrival = 0 := by
  unfold appliedSkew calculateClockSkew
  cases hsent : r.payload.sentAt with
  | none => rfl
  | some sentAt =>
      have hd : r.delay = some (r.arrival.version - sentAt) := by simp [Request.delay, hsent]
      obtain ⟨hlow, hhigh⟩ := not_or.mp fun hc => h ⟨_, hd, hc⟩
      simp [hlow, hhigh]

theorem appliedSkew_eq_iff {r r' : Request} :
    appliedSkew r.payload r.arrival = appliedSkew r'.payload r'.arrival ↔
      CorrectedAlike r r' := by
  unfold CorrectedAlike
  by_cases h : r.NeedsCorrection
  · obtain ⟨d, hd, hfar⟩ := id h
    rw [appliedSkew_of_needsCorrection hd hfar]
    by_cases h' : r'.NeedsCorrection
    · obtain ⟨d', hd', hfar'⟩ := id h'
      rw [appliedSkew_of_needsCorrection hd' hfar', hd, hd']
      simp [h, h']
    · rw [appliedSkew_of_not_needsCorrection h']
      unfold CLOCK_SKEW_THRESHOLD_MS at hfar
      have hne : d ≠ 0 := by omega
      simp [h, h', hne]
  · rw [appliedSkew_of_not_needsCorrection h]
    by_cases h' : r'.NeedsCorrection
    · obtain ⟨d', hd', hfar'⟩ := id h'
      rw [appliedSkew_of_needsCorrection hd' hfar']
      unfold CLOCK_SKEW_THRESHOLD_MS at hfar'
      have hne : ¬0 = d' := by omega
      simp [h, h', hne]
    · rw [appliedSkew_of_not_needsCorrection h']
      simp [h, h']

/-! ### The keys -/

/-- `ORDER BY (created_at, id)` -/
def SessionRow.sortKey (row : SessionRow) : Int × String := (row.createdAt, row.id)

/-- `ORDER BY (goal_timestamp, session_id, goal_name)`, as `goals_mv` copies it from the
event. -/
def TrackingEvent.goalsKey (e : TrackingEvent) : Option Int × String × String :=
  (e.goalTimestamp, e.sessionId, e.goalName)

/-- The key a goal is stored under. -/
def GoalAction.goalsKey (sessionId : String) (skewMs : Int) (g : GoalAction) :
    Option Int × String × String :=
  (some (g.timestamp + skewMs), sessionId, g.name)

def Action.goalsKey (sessionId : String) (skewMs : Int) : Action → Option Int × String × String
  | .pageview _ => (none, sessionId, "")
  | .goal g => g.goalsKey sessionId skewMs

theorem Request.events_goalsKey {host : Host} {r : Request} (h : r.Accepted host) :
    (r.events host).map TrackingEvent.goalsKey =
      r.payload.actions.map
        (Action.goalsKey r.payload.sessionId (appliedSkew r.payload r.arrival)) := by
  refine Request.events_map h (fun _ d _ => by cases d <;> rfl) (fun _ _ => rfl) ?_
  intro action previousPath
  cases action with
  | pageview v => rfl
  | goal g =>
      show (some (corrected g.timestamp _), r.payload.sessionId, g.name) = _
      rw [corrected_eq_add]
      rfl

/-- Every row the view makes of a request has the one key of the session. -/
theorem mem_sessionsMv_sortKey {host : Host} {r : Request} {row : SessionRow}
    (h : row ∈ sessionsMv (r.events host)) :
    row.sortKey =
      (r.payload.createdAt + appliedSkew r.payload r.arrival, r.payload.sessionId) := by
  obtain ⟨events, hevents, hagg⟩ := exists_of_mem_sessionsMv h
  obtain ⟨e, he, hid, -, hcreated⟩ := aggregateSession_envelope hagg
  have henvelope := Request.mem_events_envelope (hevents e he)
  have hsession : e.sessionId = r.payload.sessionId := congrArg Envelope.sessionId henvelope
  have hat : e.createdAt = corrected r.payload.createdAt (appliedSkew r.payload r.arrival) :=
    congrArg Envelope.createdAt henvelope
  unfold SessionRow.sortKey
  rw [hid, hcreated, hsession, hat, corrected_eq_add]

/-- The `i`-th action of a request is a goal, and `e` is what is stored for it. -/
def StoredFor (host : Host) (r : Request) (g : GoalAction) (e : TrackingEvent) : Prop :=
  ∃ i : Nat, r.payload.actions[i]? = some (.goal g) ∧ (r.events host)[i]? = some e

theorem StoredFor.goalsKey {host : Host} {r : Request} {g : GoalAction} {e : TrackingEvent}
    (h : StoredFor host r g e) (haccepted : r.Accepted host) :
    e.goalsKey = g.goalsKey r.payload.sessionId (appliedSkew r.payload r.arrival) := by
  obtain ⟨i, haction, hevent⟩ := h
  have hkeys := congrArg (fun l => l[i]?) (Request.events_goalsKey haccepted)
  simp only [List.getElem?_map, haction, hevent, Option.map_some] at hkeys
  exact Option.some.inj hkeys

/-- A goal of an accepted request is stored. -/
theorem exists_storedFor {host : Host} {r : Request} {g : GoalAction}
    (haccepted : r.Accepted host) (hg : .goal g ∈ r.payload.actions) :
    ∃ e, StoredFor host r g e := by
  obtain ⟨i, hi⟩ := List.mem_iff_getElem?.mp hg
  have hkeys := congrArg (fun l => l[i]?) (Request.events_goalsKey haccepted)
  simp only [List.getElem?_map, hi, Option.map_some] at hkeys
  obtain ⟨e, he, -⟩ := Option.map_eq_some_iff.mp hkeys
  exact ⟨e, i, hi, he⟩

/-! ### Resends -/

/-- Two requests store their session and a goal under the same keys. -/
structure SameSortKeys (host : Host) (r r' : Request) (g : GoalAction) : Prop where
  sessions : ∀ row ∈ sessionsMv (r.events host), ∀ row' ∈ sessionsMv (r'.events host),
    row.sortKey = row'.sortKey
  goals : ∀ e e', StoredFor host r g e → StoredFor host r' g e' → e.goalsKey = e'.goalsKey

/--
**Resends.**

Two requests of one session that carry the same `created_at` and the same goal store
them under the same sort keys exactly when the clock correction of both is the same: none
for either, or that of one and the same delay.
-/
theorem resends_keep_keys_iff (host : Host) (r r' : Request) (g : GoalAction)
    (haccepted : r.Accepted host) (haccepted' : r'.Accepted host)
    (hsession : r.payload.sessionId = r'.payload.sessionId)
    (hcreated : r.payload.createdAt = r'.payload.createdAt)
    (hg : .goal g ∈ r.payload.actions) (hg' : .goal g ∈ r'.payload.actions) :
    SameSortKeys host r r' g ↔ CorrectedAlike r r' := by
  rw [← appliedSkew_eq_iff]
  constructor
  · intro h
    obtain ⟨e, he⟩ := exists_storedFor haccepted hg
    obtain ⟨e', he'⟩ := exists_storedFor haccepted' hg'
    have hkeys := h.goals e e' he he'
    rw [he.goalsKey haccepted, he'.goalsKey haccepted'] at hkeys
    have hinstant := Option.some.inj (congrArg Prod.fst hkeys)
    omega
  · intro hskew
    refine ⟨fun row hrow row' hrow' => ?_, fun e e' he he' => ?_⟩
    · rw [mem_sessionsMv_sortKey hrow, mem_sessionsMv_sortKey hrow', hcreated, hsession, hskew]
    · rw [he.goalsKey haccepted, he'.goalsKey haccepted', hsession, hskew]

/-- An event makes a row in `sessions`. -/
theorem exists_mem_sessionsMv {block : List TrackingEvent} {e : TrackingEvent} (he : e ∈ block) :
    ∃ row, row ∈ sessionsMv block := by
  obtain ⟨group, hgroup, hin⟩ : ∃ group ∈ Replacing.groupBy
      (fun e : TrackingEvent => (e.sessionId, e.workspaceId)) block, e ∈ group := by
    refine ⟨_, List.mem_map.mpr ⟨(e.sessionId, e.workspaceId), List.mem_dedup.mpr ?_, rfl⟩, ?_⟩
    · exact List.mem_map.mpr ⟨e, he, rfl⟩
    · exact List.mem_filter.mpr ⟨he, decide_eq_true rfl⟩
  cases group with
  | nil => exact absurd hin List.not_mem_nil
  | cons first rest => exact ⟨_, List.mem_filterMap.mpr ⟨first :: rest, hgroup, rfl⟩⟩

theorem exists_mem_events {host : Host} {r : Request} (haccepted : r.Accepted host)
    (hactions : r.payload.actions ≠ []) : ∃ e, e ∈ r.events host := by
  have hlength := congrArg List.length (Request.events_stored haccepted)
  rw [List.length_map, List.length_map] at hlength
  refine List.exists_mem_of_ne_nil _ fun hnil => hactions ?_
  rw [hnil] at hlength
  exact List.length_eq_zero_iff.mp hlength.symm

/-- **The rows a session is left with.**  Requests that are inserted one by one leave as many
rows of the session as there are different corrections among them. -/
theorem sessionsFinal_length_of_resends (host : Host) (requests : List Request)
    (sessionId : String) (created : Int)
    (hrequests : ∀ r ∈ requests, r.Accepted host ∧ r.payload.actions ≠ [] ∧
      r.payload.sessionId = sessionId ∧ r.payload.createdAt = created) :
    (sessionsFinal (requests.flatMap fun r => sessionsMv (r.events host))).length =
      (requests.map fun r => appliedSkew r.payload r.arrival).dedup.length := by
  have hinjective : Function.Injective fun k : Int => (created + k, sessionId) := by
    intro k k' h
    have hfst : created + k = created + k' := congrArg Prod.fst h
    omega
  unfold sessionsFinal
  rw [Replacing.final_length, ← List.length_map (fun k : Int => (created + k, sessionId)),
    ← List.dedup_map_of_injective hinjective, List.map_map]
  refine List.Perm.length_eq ((List.perm_ext_iff_of_nodup (List.nodup_dedup _)
    (List.nodup_dedup _)).mpr fun key => ?_)
  rw [List.mem_dedup, List.mem_dedup, List.mem_map, List.mem_map]
  constructor
  · rintro ⟨row, hrow, rfl⟩
    obtain ⟨r, hr, hmv⟩ := List.mem_flatMap.mp hrow
    obtain ⟨-, -, hsession, hcreated⟩ := hrequests r hr
    refine ⟨r, hr, ?_⟩
    have hkey := mem_sessionsMv_sortKey hmv
    rw [hsession, hcreated] at hkey
    exact hkey.symm
  · rintro ⟨r, hr, rfl⟩
    obtain ⟨haccepted, hactions, hsession, hcreated⟩ := hrequests r hr
    obtain ⟨e, he⟩ := exists_mem_events haccepted hactions
    obtain ⟨row, hrow⟩ := exists_mem_sessionsMv he
    refine ⟨row, List.mem_flatMap.mpr ⟨r, hr, hrow⟩, ?_⟩
    have hkey := mem_sessionsMv_sortKey hrow
    rw [hsession, hcreated] at hkey
    exact hkey

/-! ### A heartbeat on a slow connection -/

namespace ResendExample

def purchase : GoalAction := ⟨"purchase", "/", 1, 60000, none, none⟩

def payload (sentAt : Int) : SessionPayload where
  workspaceId := "w"
  sessionId := "s"
  actions := [.goal purchase]
  createdAt := 0
  updatedAt := 60000
  sentAt := some sentAt
  actions_le := by decide

def request (sentAt version : Int) : Request :=
  ⟨StaleExample.workspace, payload sentAt, { version := version, now := version }⟩

theorem accepted (sentAt version : Int) : (request sentAt version).Accepted Host.bare :=
  ⟨⟨WorkspaceStatus.noConfusion, WorkspaceStatus.noConfusion⟩, Or.inl rfl⟩

end ResendExample

open ResendExample in
/-- A second under way, then four. -/
theorem resends_keep_keys_within :
    SameSortKeys Host.bare (request 70000 71000) (request 80000 84000) purchase := by
  refine (resends_keep_keys_iff Host.bare (request 70000 71000) (request 80000 84000) purchase
    (accepted _ _) (accepted _ _) rfl rfl List.mem_cons_self List.mem_cons_self).mpr
    (Or.inl ⟨?_, ?_⟩)
  · rintro ⟨d, hd, hfar⟩
    obtain rfl : (71000 : Int) - 70000 = d := Option.some.inj hd
    exact absurd hfar (by decide)
  · rintro ⟨d, hd, hfar⟩
    obtain rfl : (84000 : Int) - 80000 = d := Option.some.inj hd
    exact absurd hfar (by decide)

open ResendExample in
/-- A second under way, then six. -/
theorem resends_change_keys :
    ¬SameSortKeys Host.bare (request 70000 71000) (request 80000 86000) purchase := by
  intro h
  obtain ⟨e, he⟩ := exists_storedFor (accepted 70000 71000) (List.mem_cons_self)
  obtain ⟨e', he'⟩ := exists_storedFor (accepted 80000 86000) (List.mem_cons_self)
  have hkeys := h.goals e e' he he'
  rw [he.goalsKey (accepted _ _), he'.goalsKey (accepted _ _)] at hkeys
  exact absurd hkeys (by decide)

end Veridian
