/-
The `events` table under payloads that are sent more than once.

Every event of a payload carries the instant the server handled it as `_version`, and
`ReplacingMergeTree(_version)` ordered by `(session_id, dedup_token)` keeps the greatest.
So of all deliveries that hold an action, the one the server saw last wins, whichever of
them the SDK built last: a payload that waited in the offline queue, or came over a
slower way, replaces a newer one.
-/
import Veridian.Lib.Replacing
import Veridian.Events.Emitted

namespace Veridian

/-! ### What a request stores -/

/-- The checks of `handle` on the workspace. -/
def Request.Accepted (host : Host) (r : Request) : Prop :=
  (r.workspace.status ≠ .inactive ∧ r.workspace.status ≠ .error) ∧
    (r.workspace.settings.allowedDomains = [] ∨
      isDomainAllowed host (extractRequestDomain host r.arrival.origin r.arrival.referer)
        r.workspace.settings.allowedDomains = true)

instance (host : Host) (r : Request) : Decidable (r.Accepted host) := by
  unfold Request.Accepted
  infer_instance

theorem Request.events_of_accepted {host : Host} {r : Request} (h : r.Accepted host) :
    r.events host = (buildEvents host r.payload r.arrival r.workspace).map fun e =>
      applyFilters host e r.workspace.settings.filters := by
  obtain ⟨⟨hinactive, herror⟩, hdomain⟩ := h
  unfold Request.events handle
  rw [if_neg (not_or.mpr ⟨hinactive, herror⟩), if_neg ?_]
  rintro ⟨hlist, hnot⟩
  rcases hdomain with hnil | hallowed
  · exact hlist hnil
  · exact Bool.false_ne_true (hnot.symm.trans hallowed)

theorem Request.events_of_not_accepted {host : Host} {r : Request} (h : ¬r.Accepted host) :
    r.events host = [] := by
  unfold Request.events handle
  split
  · rfl
  · split
    · rfl
    · rename_i hstatus hdomain
      refine absurd ⟨not_or.mp hstatus, ?_⟩ h
      by_cases hnil : r.workspace.settings.allowedDomains = []
      · exact Or.inl hnil
      · exact Or.inr (by simpa [hnil] using hdomain)

theorem deserializeActions_map {β : Type*} {view : TrackingEvent → β} {ofAction : Action → β}
    {baseEvent : TrackingEvent} {sessionId : String} {skewMs : Int}
    (haction : ∀ action previousPath,
      view (deserializeAction action baseEvent sessionId previousPath skewMs) = ofAction action) :
    ∀ (actions : List Action) (previousPath : String),
      (deserializeActions baseEvent sessionId skewMs previousPath actions).map view =
        actions.map ofAction := by
  intro actions
  induction actions with
  | nil => intro previousPath; rfl
  | cons action rest ih =>
      intro previousPath
      exact congrArg₂ List.cons (haction action previousPath) (ih _)

/-- **What an accepted request stores, action by action,** as far as no filter writes it. -/
theorem Request.events_map {β : Type*} {view : TrackingEvent → β} {ofAction : Action → β}
    {host : Host} {r : Request} (h : r.Accepted host)
    (hassign : ∀ e d v, view (TrackingEvent.assign e d v) = view e)
    (hcustom : ∀ e c, view (TrackingEvent.assignCustom e c) = view e)
    (haction : ∀ action previousPath, view (deserializeAction action
      (buildBaseEvent host r.payload r.arrival (appliedSkew r.payload r.arrival) r.workspace)
      r.payload.sessionId previousPath (appliedSkew r.payload r.arrival)) = ofAction action) :
    (r.events host).map view = r.payload.actions.map ofAction := by
  rw [Request.events_of_accepted h, List.map_map]
  have hfilters : (view ∘ fun e => applyFilters host e r.workspace.settings.filters) = view :=
    funext fun e => applyFilters_view view hassign hcustom host e _
  rw [hfilters]
  exact deserializeActions_map haction _ _

/-- Duration, scroll and exit time. -/
structure Figures where
  duration : ℚ
  maxScroll : ℚ
  exitedAt : Int
deriving DecidableEq

def TrackingEvent.figures (e : TrackingEvent) : Figures := ⟨e.duration, e.maxScroll, e.exitedAt⟩

/-- The figures an action is stored with. -/
def Action.figures (skewMs : Int) : Action → Figures
  | .pageview v => ⟨v.duration, v.scroll, corrected v.exitedAt skewMs⟩
  | .goal g => ⟨0, 0, corrected g.timestamp skewMs⟩

/-- An event by its `dedup_token`, with its figures. -/
def TrackingEvent.stored (e : TrackingEvent) : String × Figures := (e.dedupToken, e.figures)

theorem Request.events_stored {host : Host} {r : Request} (h : r.Accepted host) :
    (r.events host).map TrackingEvent.stored = r.payload.actions.map fun a =>
      (a.dedupToken r.payload.sessionId, a.figures (appliedSkew r.payload r.arrival)) :=
  Request.events_map h (fun _ d _ => by cases d <;> rfl) (fun _ _ => rfl)
    (fun action _ => by cases action <;> rfl)

theorem Request.mem_events_version {host : Host} {r : Request} {e : TrackingEvent}
    (h : e ∈ r.events host) : e.version = r.arrival.version := by
  rcases Request.events_eq_nil_or host r with hnil | hmap
  · rw [hnil] at h
    simp at h
  · rw [hmap] at h
    obtain ⟨e₀, he₀, rfl⟩ := List.mem_map.mp h
    have hfilters : (applyFilters host e₀ r.workspace.settings.filters).version = e₀.version :=
      applyFilters_view TrackingEvent.version (fun _ d _ => by cases d <;> rfl)
        (fun _ _ => rfl) host e₀ _
    rw [hfilters]
    exact mem_deserializeActions_view TrackingEvent.version
      (fun action _ _ _ _ => by cases action <;> rfl) he₀

/-! ### The table -/

/-- `ReplacingMergeTree(_version) ORDER BY (session_id, dedup_token)`: the row under a key,
after the events of the requests were inserted in this order. -/
def storedEvent (host : Host) (requests : List Request) (sessionId dedupToken : String) :
    Option TrackingEvent :=
  Replacing.survivor (fun e : TrackingEvent => (e.sessionId, e.dedupToken))
    TrackingEvent.version (sessionId, dedupToken) (requests.flatMap (·.events host))

/-- The last action of a payload with a token. -/
def SessionPayload.action? (p : SessionPayload) (dedupToken : String) : Option Action :=
  (p.actions.filter fun a => a.dedupToken p.sessionId = dedupToken).getLast?

/-- The events of a request under a key, by their figures. -/
theorem Request.filter_stored {host : Host} {r : Request} (h : r.Accepted host)
    (dedupToken : String) :
    ((r.events host).filter fun e =>
        (e.sessionId, e.dedupToken) = (r.payload.sessionId, dedupToken)).map
      TrackingEvent.figures =
    (r.payload.actions.filter fun a => a.dedupToken r.payload.sessionId = dedupToken).map
      (Action.figures (appliedSkew r.payload r.arrival)) := by
  have hkey : ((r.events host).filter fun e =>
      (e.sessionId, e.dedupToken) = (r.payload.sessionId, dedupToken)) =
      (r.events host).filter ((fun x : String × Figures => x.1 = dedupToken) ∘
        TrackingEvent.stored) := by
    refine List.filter_congr fun e he => ?_
    have hsession : e.sessionId = r.payload.sessionId :=
      congrArg Envelope.sessionId (Request.mem_events_envelope he)
    refine decide_eq_decide.mpr ?_
    rw [hsession, Prod.mk.injEq]
    exact and_iff_right rfl
  have hfigures : TrackingEvent.figures = Prod.snd ∘ TrackingEvent.stored := rfl
  rw [hkey, hfigures, ← List.map_map, ← List.filter_map, Request.events_stored h,
    List.filter_map, List.map_map]
  rfl

theorem Request.filter_isEmpty {host : Host} {r : Request} (h : r.Accepted host)
    (dedupToken : String) :
    (!((r.events host).filter fun e =>
        (e.sessionId, e.dedupToken) = (r.payload.sessionId, dedupToken)).isEmpty) =
      (r.payload.action? dedupToken).isSome := by
  have hlen := congrArg List.isEmpty (Request.filter_stored h dedupToken)
  rw [List.isEmpty_map, List.isEmpty_map] at hlen
  rw [hlen, SessionPayload.action?]
  cases r.payload.actions.filter fun a => a.dedupToken r.payload.sessionId = dedupToken with
  | nil => rfl
  | cons a rest => rw [List.getLast?_cons]; rfl

/-- The deliveries that hold an action of the session, as far as they are taken in. -/
def holding (host : Host) (sessionId dedupToken : String) (requests : List Request) :
    List Request :=
  requests.filter fun r => decide (r.Accepted host) &&
    (decide (r.payload.sessionId = sessionId) && (r.payload.action? dedupToken).isSome)

/-- The events of a request under a key. -/
def Request.under (host : Host) (sessionId dedupToken : String) (r : Request) :
    List TrackingEvent :=
  (r.events host).filter fun e => (e.sessionId, e.dedupToken) = (sessionId, dedupToken)

theorem Request.under_isEmpty (host : Host) (sessionId dedupToken : String) (r : Request) :
    (!(r.under host sessionId dedupToken).isEmpty) = (decide (r.Accepted host) &&
      (decide (r.payload.sessionId = sessionId) && (r.payload.action? dedupToken).isSome)) := by
  by_cases haccepted : r.Accepted host
  · by_cases hsession : r.payload.sessionId = sessionId
    · subst hsession
      rw [decide_eq_true haccepted, decide_eq_true rfl, Bool.true_and, Bool.true_and]
      exact Request.filter_isEmpty haccepted dedupToken
    · have hnil : r.under host sessionId dedupToken = [] := by
        refine List.filter_eq_nil_iff.mpr fun e he hkey => hsession ?_
        have henvelope : e.sessionId = r.payload.sessionId :=
          congrArg Envelope.sessionId (Request.mem_events_envelope he)
        rw [← henvelope]
        exact (Prod.mk.inj (of_decide_eq_true hkey)).1
      rw [hnil, decide_eq_false hsession, Bool.false_and, Bool.and_false]
      rfl
  · have hnil : r.under host sessionId dedupToken = [] := by
      unfold Request.under
      rw [Request.events_of_not_accepted haccepted]
      rfl
    rw [hnil, decide_eq_false haccepted, Bool.false_and]
    rfl

/-- **The delivery the server saw last decides.** -/
theorem storedEvent_figures (host : Host) (requests : List Request)
    (sessionId dedupToken : String) :
    (storedEvent host requests sessionId dedupToken).map TrackingEvent.figures =
      (Replacing.newest (fun r : Request => r.arrival.version)
        (holding host sessionId dedupToken requests)).bind fun r =>
          (r.payload.action? dedupToken).map
            (Action.figures (appliedSkew r.payload r.arrival)) := by
  have hversion : ∀ r : Request, ∀ e ∈ r.under host sessionId dedupToken,
      e.version = r.arrival.version :=
    fun r e he => Request.mem_events_version (List.mem_of_mem_filter he)
  have hholding : (requests.filter fun r => !(r.under host sessionId dedupToken).isEmpty) =
      holding host sessionId dedupToken requests :=
    List.filter_congr fun r _ => Request.under_isEmpty host sessionId dedupToken r
  have hstored : storedEvent host requests sessionId dedupToken =
      (Replacing.newest (fun r : Request => r.arrival.version)
        (holding host sessionId dedupToken requests)).bind
          fun r => (r.under host sessionId dedupToken).getLast? := by
    unfold storedEvent Replacing.survivor
    rw [List.filter_flatMap, ← hholding]
    exact Replacing.newest_flatMap _ hversion requests
  rw [hstored]
  cases hnewest : Replacing.newest (fun r : Request => r.arrival.version)
      (holding host sessionId dedupToken requests) with
  | none => rfl
  | some r =>
      obtain ⟨-, hp⟩ := List.mem_filter.mp (Replacing.newest_mem _ hnewest)
      obtain ⟨haccepted, hrest⟩ := Bool.and_eq_true_iff.mp hp
      obtain rfl := of_decide_eq_true (Bool.and_eq_true_iff.mp hrest).1
      show ((r.under host r.payload.sessionId dedupToken).getLast?).map TrackingEvent.figures = _
      rw [← List.getLast?_map, Request.under,
        Request.filter_stored (of_decide_eq_true haccepted), List.getLast?_map]
      rfl

/-! ### Payloads of one session -/

/-- The request brings this payload, whenever it was sent. -/
def Request.Delivers (r : Request) (p : SessionPayload) : Prop :=
  ∃ sentAt, r.payload = { p with sentAt := sentAt }

theorem Request.Delivers.action? {r : Request} {p : SessionPayload} (h : r.Delivers p)
    (dedupToken : String) : r.payload.action? dedupToken = p.action? dedupToken := by
  obtain ⟨sentAt, hp⟩ := h
  rw [hp]
  rfl

/-- The row stored under a token shows what a delivery of `p` says of it. -/
def ShowsFiguresOf (host : Host) (requests : List Request) (p : SessionPayload)
    (dedupToken : String) : Prop :=
  ∀ e, storedEvent host requests p.sessionId dedupToken = some e →
    ∃ r ∈ requests, r.Accepted host ∧ r.Delivers p ∧
      (p.action? dedupToken).map (Action.figures (appliedSkew r.payload r.arrival)) =
        some e.figures

/-- Of the deliveries that are taken in and hold the token, the one the server saw last (of
two with one version, the one inserted last) brings `p`, or an action with the same figures
as in some delivery of `p`. -/
def LastSeenShows (host : Host) (requests : List Request) (p : SessionPayload)
    (dedupToken : String) : Prop :=
  ∀ r, Replacing.newest (fun r : Request => r.arrival.version)
      (holding host p.sessionId dedupToken requests) = some r →
    r.Delivers p ∨ ∃ r' ∈ requests, r'.Accepted host ∧ r'.Delivers p ∧
      (p.action? dedupToken).map (Action.figures (appliedSkew r'.payload r'.arrival)) =
        (r.payload.action? dedupToken).map (Action.figures (appliedSkew r.payload r.arrival))

/--
**Stale payloads.**

Whatever the server received, in any order and any number of times: the row under a
`dedup_token` shows the figures of a payload `p`, of all that hold the token the one the
SDK built last, exactly when the delivery the server saw last does.
-/
theorem stored_figures_of_later_iff (host : Host) (requests : List Request) (p : SessionPayload)
    (dedupToken : String) :
    ShowsFiguresOf host requests p dedupToken ↔ LastSeenShows host requests p dedupToken := by
  have hfigures := storedEvent_figures host requests p.sessionId dedupToken
  unfold ShowsFiguresOf LastSeenShows
  cases hnewest : Replacing.newest (fun r : Request => r.arrival.version)
      (holding host p.sessionId dedupToken requests) with
  | none =>
      rw [hnewest] at hfigures
      have hnone : storedEvent host requests p.sessionId dedupToken = none := by
        simpa using hfigures
      simp [hnone]
  | some r =>
      rw [hnewest] at hfigures
      obtain ⟨hr, hholds⟩ := List.mem_filter.mp (Replacing.newest_mem _ hnewest)
      obtain ⟨haccepted, hholds⟩ := Bool.and_eq_true_iff.mp hholds
      obtain ⟨a, ha⟩ := Option.isSome_iff_exists.mp (Bool.and_eq_true_iff.mp hholds).2
      obtain ⟨e, he⟩ : ∃ e, storedEvent host requests p.sessionId dedupToken = some e := by
        cases hs : storedEvent host requests p.sessionId dedupToken with
        | some e => exact ⟨e, rfl⟩
        | none => exact absurd hfigures (by simp [hs, ha])
      have hrow : some e.figures = (r.payload.action? dedupToken).map
          (Action.figures (appliedSkew r.payload r.arrival)) := by
        rw [he] at hfigures
        exact hfigures
      constructor
      · intro hshows r' hr'
        obtain rfl := Option.some.inj hr'
        obtain ⟨r₂, hr₂, hacc₂, hd₂, heq⟩ := hshows e he
        exact Or.inr ⟨r₂, hr₂, hacc₂, hd₂, heq.trans hrow⟩
      · intro hlast e' he'
        obtain rfl : e = e' := Option.some.inj (he.symm.trans he')
        rcases hlast r rfl with hd | ⟨r₂, hr₂, hacc₂, hd₂, heq⟩
        · exact ⟨r, hr, of_decide_eq_true haccepted, hd, by rw [hrow, hd.action?]⟩
        · exact ⟨r₂, hr₂, hacc₂, hd₂, heq.trans hrow.symm⟩

/-! ### A payload from the offline queue -/

namespace StaleExample

def workspace : Workspace := ⟨"w", .active, {}⟩

/-- A visit of one page, seen after `duration` seconds. -/
def visit (duration : ℚ) (exitedAt : Int) : SessionPayload where
  workspaceId := "w"
  sessionId := "s"
  actions := [.pageview ⟨"/", 1, duration, 50, 0, exitedAt⟩]
  createdAt := 0
  updatedAt := exitedAt
  actions_le := show 1 ≤ 1000 by decide

def deliver (p : SessionPayload) (version : Int) : Request :=
  ⟨workspace, p, { version := version, now := version }⟩

end StaleExample

open StaleExample in
/-- The first payload leaves the queue after the second one has arrived. -/
theorem stored_figures_stale :
    ¬ShowsFiguresOf Host.bare [deliver (visit 25 25000) 26000, deliver (visit 10 10000) 60000]
      (visit 25 25000) "s_pv_1" := by
  have hrow : (storedEvent Host.bare
      [deliver (visit 25 25000) 26000, deliver (visit 10 10000) 60000] "s" "s_pv_1").map
        TrackingEvent.figures = some ⟨10, 50, 10000⟩ := by
    rw [storedEvent_figures]
    decide
  obtain ⟨e, he, hfigures⟩ := Option.map_eq_some_iff.mp hrow
  intro h
  obtain ⟨r, -, -, -, heq⟩ := h e he
  have haction : (visit 25 25000).action? "s_pv_1" =
      some (.pageview ⟨"/", 1, 25, 50, 0, 25000⟩) := by decide
  rw [haction, hfigures] at heq
  have hduration : (25 : ℚ) = 10 := congrArg Figures.duration (Option.some.inj heq)
  exact absurd hduration (by decide)

end Veridian
