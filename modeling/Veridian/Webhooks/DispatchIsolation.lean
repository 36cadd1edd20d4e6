/-
One webhook and the others.

The dispatcher walks the active webhooks of a workspace in one loop, and what is thrown in
it ends the loop: a filter that cannot be evaluated and a delivery that cannot be inserted
are both caught outside.  The webhooks before keep their deliveries and those behind get
none, so the walk is exact just when nothing that throws stands before a webhook that
matches (`dispatch_exact_iff`).
-/
import Veridian.Lib.Assoc
import Veridian.Webhooks.FilterEngine

namespace Veridian.DispatchIsolation

open FilterEngine

/-- A tracked event with the payload it came with. -/
structure JsonEvent (N : Type) where
  workspaceId : String
  eventType : String
  eventId : String
  payload : List (String × Json N)

variable {N O : Type}

/-- `{ ...event.payload, event_type, event_id, workspace_id }` -/
def JsonEvent.ctx (event : JsonEvent N) : List (String × Json N) :=
  Assoc.set
    (Assoc.set (Assoc.set event.payload "event_type" (.str event.eventType))
      "event_id" (.str event.eventId))
    "workspace_id" (.str event.workspaceId)

abbrev Webhook (N : Type) : Type := WebhookDefinition (List (WebhookFilter N))

def Subscribes (webhook : Webhook N) (event : JsonEvent N) : Prop :=
  webhook.events = [] ∨ event.eventType ∈ webhook.events

instance (webhook : Webhook N) (event : JsonEvent N) : Decidable (Subscribes webhook event) :=
  inferInstanceAs (Decidable (_ ∨ _))

/-- A call of `enqueueDelivery`. -/
structure EnqueueCall (N : Type) where
  webhook : Webhook N
  eventId : String
  eventType : String
  payload : List (String × Json N)

/-- A webhook of the list, and what inserting a delivery for it does when its turn comes. -/
structure Turn (N : Type) where
  webhook : Webhook N
  insert : Except String Unit

def Turn.call (turn : Turn N) (event : JsonEvent N) : EnqueueCall N :=
  { webhook := turn.webhook
    eventId := event.eventId
    eventType := event.eventType
    payload := event.ctx }

/-- The calls of a dispatch and the line it logs. -/
structure Dispatched (N : Type) where
  calls : List (EnqueueCall N)
  logged : Option String

def failureLine (event : JsonEvent N) (message : String) : String :=
  s!"dispatch failed for workspace {event.workspaceId} / event {event.eventId}: {message}"

section

variable [DecidableEq O]

/-- The calls and what is thrown. -/
def dispatchInternal (rt : Runtime N O) (event : JsonEvent N) :
    List (Turn N) → List (EnqueueCall N) × Option String
  | [] => ([], none)
  | turn :: rest =>
      if ¬Subscribes turn.webhook event then dispatchInternal rt event rest
      else match matchesAll rt turn.webhook.filters (.json (.obj event.ctx)) with
        | .error e => ([], some e)
        | .ok false => dispatchInternal rt event rest
        | .ok true =>
            match turn.insert with
            | .error e => ([turn.call event], some e)
            | .ok () =>
                let later := dispatchInternal rt event rest
                (turn.call event :: later.1, later.2)

def dispatch (rt : Runtime N O) (event : JsonEvent N) (turns : List (Turn N)) : Dispatched N :=
  let result := dispatchInternal rt event turns
  ⟨result.1, result.2.map (failureLine event)⟩

/-! ### What is asked for -/

/-- The webhook subscribes to the event and its filters let it through. -/
def Matches (rt : Runtime N O) (event : JsonEvent N) (turn : Turn N) : Prop :=
  Subscribes turn.webhook event ∧
    (matchesAll rt turn.webhook.filters (.json (.obj event.ctx))).toOption = some true

instance (rt : Runtime N O) (event : JsonEvent N) : DecidablePred (Matches rt event) :=
  fun _ => inferInstanceAs (Decidable (_ ∧ _))

/-- The calls are one for each webhook that matches. -/
def Exact (rt : Runtime N O) (event : JsonEvent N) (turns : List (Turn N)) : Prop :=
  (dispatch rt event turns).calls.Perm
    ((turns.filter fun turn => Matches rt event turn).map fun turn => turn.call event)

/-- The webhook is asked for the event, and its filters throw or its insert does. -/
def Throws (rt : Runtime N O) (event : JsonEvent N) (turn : Turn N) : Prop :=
  Subscribes turn.webhook event ∧
    ((matchesAll rt turn.webhook.filters (.json (.obj event.ctx))).toOption = none ∨
      Matches rt event turn ∧ turn.insert.toOption = none)

/-! ### One turn -/

variable {rt : Runtime N O} {event : JsonEvent N} {turn : Turn N}

/-- **A turn** passes on, calls and passes on, or is the last. -/
theorem turn_cases (rt : Runtime N O) (event : JsonEvent N) (turn : Turn N)
    (rest : List (Turn N)) :
    (¬Matches rt event turn ∧ ¬Throws rt event turn ∧
      (dispatch rt event (turn :: rest)).calls = (dispatch rt event rest).calls) ∨
    (Matches rt event turn ∧ ¬Throws rt event turn ∧
      (dispatch rt event (turn :: rest)).calls =
        turn.call event :: (dispatch rt event rest).calls) ∨
    (Throws rt event turn ∧
      (dispatch rt event (turn :: rest)).calls =
        if Matches rt event turn then [turn.call event] else []) := by
  by_cases hsub : Subscribes turn.webhook event
  · cases hfilters : matchesAll rt turn.webhook.filters (.json (.obj event.ctx)) with
    | error e =>
        refine Or.inr (Or.inr ⟨⟨hsub, Or.inl (by rw [hfilters]; rfl)⟩, ?_⟩)
        simp [dispatch, dispatchInternal, Matches, hsub, hfilters, Except.toOption]
    | ok passed =>
        cases passed with
        | false =>
            refine Or.inl ⟨?_, ?_, ?_⟩ <;>
              simp [dispatch, dispatchInternal, Matches, Throws, hsub, hfilters, Except.toOption]
        | true =>
            have hmatches : Matches rt event turn := ⟨hsub, by rw [hfilters]; rfl⟩
            cases hinsert : turn.insert with
            | error e =>
                refine Or.inr (Or.inr ⟨⟨hsub, Or.inr ⟨hmatches, by rw [hinsert]; rfl⟩⟩, ?_⟩)
                rw [if_pos hmatches]
                simp [dispatch, dispatchInternal, hsub, hfilters, hinsert]
            | ok u =>
                refine Or.inr (Or.inl ⟨hmatches, ?_, ?_⟩)
                · simp [Throws, hfilters, hinsert, Except.toOption]
                · simp [dispatch, dispatchInternal, hsub, hfilters, hinsert]
  · refine Or.inl ⟨fun h => hsub h.1, fun h => hsub h.1, ?_⟩
    simp [dispatch, dispatchInternal, hsub]

/-! ### The walk -/

variable {rest : List (Turn N)}

/-- What the loop should do behind a turn that ends it. -/
theorem filter_matches_cons (rt : Runtime N O) (event : JsonEvent N) (turn : Turn N)
    (rest : List (Turn N)) :
    ((turn :: rest).filter fun t => Matches rt event t).map (fun t => t.call event) =
      (if Matches rt event turn then [turn.call event] else []) ++
        (rest.filter fun t => Matches rt event t).map fun t => t.call event := by
  by_cases hmatches : Matches rt event turn
  · rw [List.filter_cons_of_pos (by simpa using hmatches), if_pos hmatches]
    rfl
  · rw [List.filter_cons_of_neg (by simpa using hmatches), if_neg hmatches]
    rfl

/-- A turn that throws is exact when no webhook behind it matches. -/
theorem exact_of_throws
    (hcalls : (dispatch rt event (turn :: rest)).calls =
      if Matches rt event turn then [turn.call event] else []) :
    Exact rt event (turn :: rest) ↔ ∀ later ∈ rest, ¬Matches rt event later := by
  unfold Exact
  rw [hcalls, filter_matches_cons]
  constructor
  · intro hperm later hlater hmatches
    have hlength := hperm.length_eq
    rw [List.length_append, List.length_map] at hlength
    have hnone := List.length_eq_zero_iff.mp (Nat.left_eq_add.mp hlength)
    exact List.filter_eq_nil_iff.mp hnone later hlater (decide_eq_true hmatches)
  · intro hnone
    rw [List.filter_eq_nil_iff.mpr fun t ht => by simpa using hnone t ht]
    rw [List.map_nil, List.append_nil]

/-- A turn that does not throw is exact when the rest is. -/
theorem exact_of_not_throws
    (hcalls : (dispatch rt event (turn :: rest)).calls =
      (if Matches rt event turn then [turn.call event] else []) ++
        (dispatch rt event rest).calls) :
    Exact rt event (turn :: rest) ↔ Exact rt event rest := by
  unfold Exact
  rw [hcalls, filter_matches_cons]
  exact List.perm_append_left_iff _

/--
**The walk is exact unless something throws before a match.**

Every webhook that matches gets one call and no other gets any, exactly when behind a
webhook whose filters or whose insert throw no webhook matches.
-/
theorem dispatch_exact_iff (rt : Runtime N O) (event : JsonEvent N) (turns : List (Turn N)) :
    Exact rt event turns ↔
      turns.Pairwise fun turn later => Throws rt event turn → ¬Matches rt event later := by
  induction turns with
  | nil => exact ⟨fun _ => List.Pairwise.nil, fun _ => List.Perm.refl _⟩
  | cons turn rest ih =>
      rw [List.pairwise_cons]
      rcases turn_cases rt event turn rest with
        ⟨hmatches, hthrows, hcalls⟩ | ⟨hmatches, hthrows, hcalls⟩ | ⟨hthrows, hcalls⟩
      · rw [exact_of_not_throws (by rw [hcalls, if_neg hmatches]; rfl), ih]
        exact ⟨fun h => ⟨fun _ _ ht => absurd ht hthrows, h⟩, fun h => h.2⟩
      · rw [exact_of_not_throws (by rw [hcalls, if_pos hmatches]; rfl), ih]
        exact ⟨fun h => ⟨fun _ _ ht => absurd ht hthrows, h⟩, fun h => h.2⟩
      · rw [exact_of_throws hcalls]
        refine ⟨fun h => ⟨fun later hlater _ => h later hlater, ?_⟩,
          fun h later hlater => h.1 later hlater hthrows⟩
        exact List.pairwise_of_forall_mem_list fun t _ later hlater _ => h later hlater

/-- **No other webhook gets a call**, whatever throws. -/
theorem mem_calls (rt : Runtime N O) (event : JsonEvent N) :
    ∀ {turns : List (Turn N)} {call : EnqueueCall N}, call ∈ (dispatch rt event turns).calls →
      ∃ turn ∈ turns, Matches rt event turn ∧ call = turn.call event := by
  intro turns
  induction turns with
  | nil => exact fun h => absurd h List.not_mem_nil
  | cons turn rest ih =>
      intro call hcall
      rcases turn_cases rt event turn rest with
        ⟨hmatches, -, hcalls⟩ | ⟨hmatches, -, hcalls⟩ | ⟨-, hcalls⟩
      · rw [hcalls] at hcall
        obtain ⟨t, ht, h⟩ := ih hcall
        exact ⟨t, List.mem_cons_of_mem _ ht, h⟩
      · rw [hcalls] at hcall
        rcases List.mem_cons.mp hcall with rfl | hcall
        · exact ⟨turn, List.mem_cons_self, hmatches, rfl⟩
        · obtain ⟨t, ht, h⟩ := ih hcall
          exact ⟨t, List.mem_cons_of_mem _ ht, h⟩
      · rw [hcalls] at hcall
        by_cases hmatches : Matches rt event turn
        · rw [if_pos hmatches] at hcall
          exact ⟨turn, List.mem_cons_self, hmatches, List.mem_singleton.mp hcall⟩
        · rw [if_neg hmatches] at hcall
          exact absurd hcall List.not_mem_nil

end

/-! ### Two webhooks -/

namespace FanOutFailureExample

/-- A runtime for events and filters without paths that leave the event. -/
def runtime : Runtime Nat Empty where
  toHost := Host.bare
  sameNumber := fun a b => a = b
  less := fun a b => a < b
  isFinite := fun _ => true
  ofLength := id
  number := fun _ => 0
  numberText := toString
  objectPrototype := fun _ => .undefined
  arrayPrototype := fun _ => .undefined
  isObject := fun _ => false
  property := fun _ _ => .undefined
  builtinText := fun _ => none

def webhook (id : String) : Webhook Nat where
  id := id
  workspaceId := "w"
  url := "https://example.org/hook"
  active := true
  events := []
  filters := []
  updatedAt := 0
  deletedAt := none

def event : JsonEvent Nat where
  workspaceId := "w"
  eventType := "goal"
  eventId := "e"
  payload := []

/-- The first insert fails. -/
def turns : List (Turn Nat) :=
  [⟨webhook "a", .error "connect ECONNREFUSED"⟩, ⟨webhook "b", .ok ()⟩]

/-- A filter on an object that has a member of its own named `toString`. -/
example :
    evaluateOne runtime ⟨"properties", .equals, some (.str "x")⟩
      (.json (.obj [("properties", .obj [("toString", .str "a")])])) = .error typeError := rfl

end FanOutFailureExample

open FanOutFailureExample in
/-- The second webhook matches and gets nothing. -/
theorem insert_of_one_stops_the_other : ¬Exact runtime event turns := by
  intro h
  have hlength := h.length_eq
  revert hlength
  decide

end Veridian.DispatchIsolation
