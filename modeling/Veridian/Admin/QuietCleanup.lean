/-
A clean-up that nothing outlives.

Of a probe there may be under way its request, events that the buffer still has, and inserts
that were given up on.  No step makes up an event (`mem_held_step`), so when nothing of a
probe is under way while it deletes, and nobody else sends its session id, nothing of it can
come later: `timely_of_quiet`.
-/
import Veridian.Events.Emitted
import Veridian.Admin.TrackingVerification

namespace Veridian

/-! ### What the buffer still has -/

/-- `addBatch` adds the events it was given. -/
theorem groupByWorkspace_perm (events : List TrackingEvent) :
    (groupByWorkspace events).Perm events := by
  have hfold : ∀ (events : List TrackingEvent) (m : List (String × List TrackingEvent)),
      ((events.foldl (fun m e => Assoc.push m e.workspaceId e) m).flatMap (·.2)).Perm
        (m.flatMap (·.2) ++ events) := by
    intro events
    induction events with
    | nil => intro m; rw [List.append_nil]; exact List.Perm.refl _
    | cons e rest ih =>
        intro m
        refine (ih _).trans ((Assoc.flatMap_push_perm.append_right rest).trans ?_)
        rw [List.append_assoc, List.singleton_append]
  exact hfold events []

namespace WorkspaceBuffer

/-- The events of a workspace that are not inserted yet. -/
def held (b : WorkspaceBuffer) : List TrackingEvent := b.inFlight.flatten ++ b.buffer

variable {b : WorkspaceBuffer} {e : TrackingEvent}

theorem mem_held_flush : e ∈ b.flush.1.held ↔ e ∈ b.held := by
  by_cases hblocked : b.buffer = [] ∨ b.flushing = true
  · rw [flush_of_blocked hblocked]
    exact Iff.rfl
  · rw [flush_of_free hblocked]
    simp [held]

theorem mem_held_push {event : TrackingEvent} :
    e ∈ (b.push event).held ↔ e ∈ b.held ∨ e = event := by
  have hinFlight : (b.push event).inFlight = b.inFlight := by
    unfold push
    simp only
    split <;> rfl
  rw [held, hinFlight, push_buffer, ← List.append_assoc, List.mem_append, List.mem_singleton]
  exact Iff.rfl

theorem mem_held_add {event : TrackingEvent} :
    e ∈ (b.add event).1.held ↔ e ∈ b.held ∨ e = event := by
  unfold add
  simp only
  split
  · rw [mem_held_flush, mem_held_push]
  · exact mem_held_push

theorem mem_held_insertSucceeded {i : Nat} (h : e ∈ (b.insertSucceeded i).held) : e ∈ b.held := by
  refine List.mem_append.mpr ((List.mem_append.mp h).imp_left fun hin => ?_)
  obtain ⟨batch, hbatch, he⟩ := List.mem_flatten.mp hin
  exact List.mem_flatten.mpr ⟨batch, List.mem_of_mem_eraseIdx hbatch, he⟩

/-- What a failed insert keeps was in flight or buffered. -/
theorem mem_held_insertFailed {cap i : Nat} {batch : List TrackingEvent}
    (hi : b.inFlight[i]? = some batch) (h : e ∈ (b.insertFailed cap i batch).held) :
    e ∈ b.held := by
  have hinFlight : (b.insertFailed cap i batch).inFlight = b.inFlight.eraseIdx i := by
    unfold insertFailed
    simp only
    split <;> rfl
  rw [held, hinFlight, Accounted.insertFailed_buffer] at h
  rcases List.mem_append.mp h with hin | hin
  · obtain ⟨other, hother, he⟩ := List.mem_flatten.mp hin
    exact List.mem_append_left _ (List.mem_flatten.mpr ⟨other, List.mem_of_mem_eraseIdx hother, he⟩)
  · rcases List.mem_append.mp (List.mem_of_mem_drop hin) with hbatch | hbuffer
    · exact List.mem_append_left _ (List.mem_flatten.mpr ⟨batch, List.mem_of_getElem? hi, hbatch⟩)
    · exact List.mem_append_right _ hbuffer

end WorkspaceBuffer

/-- The events an action hands to the service. -/
def BufferAction.brings : BufferAction → List TrackingEvent
  | .add event => [event]
  | .addBatch events => events
  | _ => []

namespace EventBuffer

/-- The events of the calls that are not through, and those of one workspace. -/
def held (s : EventBuffer) (w : String) : List TrackingEvent :=
  s.batches.flatMap (·.remaining) ++ (s.workspaces w).held

theorem mem_held_of_set {s : EventBuffer} {w w' : String} {b : WorkspaceBuffer} {e : TrackingEvent}
    (hb : e ∈ b.held → e ∈ (s.workspaces w').held) (h : e ∈ ((s.set w' b).workspaces w).held) :
    e ∈ (s.workspaces w).held := by
  by_cases hw : w = w'
  · subst hw
    rw [set_workspaces_self] at h
    exact hb h
  · rwa [set_workspaces_ne s b hw] at h

theorem mem_settle {batches : List AddBatch} {w : String} {succeeded : Bool} {e : TrackingEvent}
    (h : e ∈ (settle batches w succeeded).flatMap (·.remaining)) :
    e ∈ batches.flatMap (·.remaining) := by
  obtain ⟨batch, hbatch, he⟩ := List.mem_flatMap.mp h
  unfold settle at hbatch
  split at hbatch
  · obtain ⟨old, hold, rfl⟩ := List.mem_map.mp hbatch
    refine List.mem_flatMap.mpr ⟨old, hold, ?_⟩
    split at he <;> exact he
  · exact List.mem_flatMap.mpr ⟨batch, List.mem_of_mem_filter hbatch, he⟩

/-- **No step makes up an event.** -/
theorem mem_held_step {cap : Nat} {s s' : EventBuffer} {a : BufferAction} {w : String}
    {e : TrackingEvent} (h : step cap s a = some s') (he : e ∈ s'.held w) :
    e ∈ s.held w ∨ e ∈ a.brings := by
  unfold held at he ⊢
  rw [List.mem_append] at he ⊢
  cases stepped_of_step h with
  | add event =>
      rcases he with he | he
      · exact Or.inl (Or.inl he)
      · by_cases hnew : e = event
        · exact Or.inr (List.mem_singleton.mpr hnew)
        · exact Or.inl (Or.inr (mem_held_of_set (fun hin =>
            (WorkspaceBuffer.mem_held_add.mp hin).resolve_right hnew) he))
  | addBatch events =>
      rcases he with he | he
      · rw [List.flatMap_append, List.mem_append] at he
        refine he.imp Or.inl fun hnew => ?_
        rw [List.flatMap_singleton] at hnew
        exact (groupByWorkspace_perm events).mem_iff.mp hnew
      · exact Or.inl (Or.inr he)
  | resume i event rest hbatch =>
      have hmem : ⟨event :: rest, none⟩ ∈ s.batches := List.mem_of_getElem? hbatch
      refine Or.inl ?_
      rcases he with he | he
      · obtain ⟨batch, hin, he⟩ := List.mem_flatMap.mp he
        rcases List.mem_or_eq_of_mem_set hin with hin | rfl
        · exact Or.inl (List.mem_flatMap.mpr ⟨batch, hin, he⟩)
        · exact Or.inl (List.mem_flatMap.mpr ⟨_, hmem, List.mem_cons_of_mem _ he⟩)
      · by_cases hnew : e = event
        · exact Or.inl (List.mem_flatMap.mpr ⟨_, hmem, hnew ▸ List.mem_cons_self⟩)
        · exact Or.inr (mem_held_of_set (fun hin =>
            (WorkspaceBuffer.mem_held_add.mp hin).resolve_right hnew) he)
  | timer w' _ =>
      exact Or.inl (he.imp_right (mem_held_of_set WorkspaceBuffer.mem_held_flush.mp))
  | flush w' =>
      exact Or.inl (he.imp_right (mem_held_of_set WorkspaceBuffer.mem_held_flush.mp))
  | insertSucceeded w' i batch hi =>
      rcases he with he | he
      · have hsettled : e ∈ (settle s.batches w' true).flatMap (·.remaining) := he
        exact Or.inl (Or.inl (mem_settle hsettled))
      · exact Or.inl (Or.inr (mem_held_of_set WorkspaceBuffer.mem_held_insertSucceeded he))
  | insertFailed w' i batch hi =>
      rcases he with he | he
      · have hsettled : e ∈ (settle s.batches w' false).flatMap (·.remaining) := he
        exact Or.inl (Or.inl (mem_settle hsettled))
      · exact Or.inl (Or.inr (mem_held_of_set (WorkspaceBuffer.mem_held_insertFailed hi) he))

end EventBuffer

/-! ### What is under way of a probe -/

namespace TrackingVerification.VerifyState

variable {host : Host} {maxRetainedEvents : Nat} {workspaceId : String} {s s' : VerifyState}
  {a : VerifyAction} {probe : Probe}

/-- Events that may still reach the tables of the workspace. -/
def eventsUnderWay (workspaceId : String) (s : VerifyState) : List TrackingEvent :=
  s.service.held workspaceId ++ s.abandoned.flatten

/-- There is a request or an event with the session id of the probe. -/
def UnderWay (workspaceId : String) (s : VerifyState) (probe : Probe) : Prop :=
  (∃ payload ∈ s.request, payload.sessionId = probe.sessionId workspaceId) ∨
    ∃ e ∈ s.eventsUnderWay workspaceId, e.sessionId = probe.sessionId workspaceId

/-- The workspace is there, nobody else sends the session id of a probe, and a clean-up deletes
without fail and while nothing of its probe is under way. -/
structure Quiet (workspaceId : String) (s : VerifyState) (a : VerifyAction) : Prop where
  found : ∀ clock, a ≠ .checked false clock
  traffic : ∀ b, a = .service b → ∀ e ∈ b.brings, ∀ probe : Probe,
    e.sessionId ≠ probe.sessionId workspaceId
  deletes : ∀ probe table carriedOut, s.effect workspaceId a = .deletes probe table carriedOut →
    carriedOut = true ∧ ¬s.UnderWay workspaceId probe

/-- An event the handler passes on has the session id of its payload. -/
theorem mem_handle_sessionId {workspace : Workspace} {payload : SessionPayload} {arrival : Arrival}
    {e : TrackingEvent} (h : e ∈ handle host workspace payload arrival) :
    e.sessionId = payload.sessionId := by
  have hmem : e ∈ Request.events host ⟨workspace, payload, arrival⟩ := h
  exact congrArg Envelope.sessionId (Request.mem_events_envelope hmem)

/-- A batch whose insert settles was under way. -/
theorem mem_eventsUnderWay_of_inFlight {i : Nat} {batch : List TrackingEvent} {e : TrackingEvent}
    (h : (s.service.workspaces workspaceId).inFlight[i]? = some batch) (he : e ∈ batch) :
    e ∈ s.eventsUnderWay workspaceId := by
  have hflat : e ∈ (s.service.workspaces workspaceId).inFlight.flatten :=
    List.mem_flatten.mpr ⟨batch, List.mem_of_getElem? h, he⟩
  exact List.mem_append_left _ (List.mem_append_right _ (List.mem_append_left _ hflat))

/-- What a step inserts is under way, or it is the page view of the low-level probe. -/
theorem mem_effect_inserts {landed : Table → Bool} {block : List TrackingEvent}
    (h : s.effect workspaceId a = .inserts landed block) :
    (∀ e ∈ block, e ∈ s.eventsUnderWay workspaceId) ∨
      ∃ clock, s.lowLevel = .inserting clock ∧ block = [syntheticEvent workspaceId clock] := by
  cases a with
  | http answer expired =>
      simp only [effect] at h
      split at h
      · unfold purgeEffect at h
        split at h <;> cases h
      · cases h
  | lowLevel answer expired =>
      simp only [effect] at h
      split at h
      · rename_i clock hlow
        cases h
        exact Or.inr ⟨clock, hlow, rfl⟩
      · unfold purgeEffect at h
        split at h <;> cases h
      · cases h
  | service b =>
      cases h
      refine Or.inl fun e he => ?_
      unfold EventStore.inserted at he
      split at he
      · split at he
        · rename_i w i hw
          subst hw
          cases hbatch : (s.service.workspaces w).inFlight[i]? with
          | none =>
              rw [hbatch] at he
              exact absurd he List.not_mem_nil
          | some batch =>
              rw [hbatch] at he
              exact mem_eventsUnderWay_of_inFlight hbatch he
        · exact absurd he List.not_mem_nil
      · simp at he
      · exact absurd he List.not_mem_nil
  | lands i landed =>
      cases h
      refine Or.inl fun e he => ?_
      cases hblock : s.abandoned[i]? with
      | none =>
          rw [hblock] at he
          exact absurd he List.not_mem_nil
      | some block =>
          rw [hblock] at he
          exact List.mem_append_right _
            (List.mem_flatten.mpr ⟨block, List.mem_of_getElem? hblock, he⟩)
  | checked | received | refused | removed => cases h

/-- **What is under way of a probe after a step was so before, unless the probe has yet to
clean up.** -/
theorem underWay_step (h : verifyStep host maxRetainedEvents workspaceId s a = some s')
    (hquiet : s.Quiet workspaceId a) (hafter : s'.UnderWay workspaceId probe) :
    s.UnderWay workspaceId probe ∨ ∀ table, s'.cleared probe table = false := by
  obtain ⟨t, ht, rfl⟩ := Option.map_eq_some_iff.mp h
  -- what the step leaves of the service, of the request and of the inserts given up on
  have hkept : (∀ payload ∈ t.request, payload ∈ s.request) →
      (∀ e ∈ t.eventsUnderWay workspaceId, e ∈ s.eventsUnderWay workspaceId) →
      s.UnderWay workspaceId probe := by
    intro hrequest hevents
    rcases hafter with ⟨payload, hpayload, hid⟩ | ⟨e, he, hid⟩
    · exact Or.inl ⟨payload, hrequest payload hpayload, hid⟩
    · exact Or.inr ⟨e, hevents e he, hid⟩
  cases a with
  | checked found clock =>
      unfold control at ht
      dsimp only at ht
      split at ht
      · obtain rfl := Option.some.inj ht
        cases found <;> exact Or.inl (hkept (fun _ hp => hp) fun _ he => he)
      · exact nomatch ht
  | http answer expired =>
      obtain ⟨http, hnext, rfl⟩ := Option.map_eq_some_iff.mp ht
      cases hhttp : s.http with
      | derivingOrigin nowMs =>
          rcases hafter with ⟨payload, hpayload, hid⟩ | hevent
          · -- the request it sends has its own session id
            simp only [hhttp] at hpayload
            obtain rfl := Option.some.inj hpayload
            obtain rfl : Probe.http = probe := Probe.sessionId_injective workspaceId hid
            rw [hhttp] at hnext
            cases answer with
            | resolved =>
                obtain rfl := Option.some.inj hnext
                exact Or.inr fun _ => rfl
            | status code => exact nomatch hnext
            | rejected => exact nomatch hnext
          · exact Or.inl (Or.inr hevent)
      | _ =>
          simp only [hhttp] at hkept
          exact Or.inl (hkept (fun _ hp => hp) fun _ he => he)
  | lowLevel answer expired =>
      obtain ⟨lowLevel, hnext, rfl⟩ := Option.map_eq_some_iff.mp ht
      by_cases hfails : ∃ clock, s.lowLevel = .inserting clock ∧ answer = .rejected
      · obtain ⟨clock, hlow, rfl⟩ := hfails
        rw [hlow] at hnext
        obtain rfl := Option.some.inj hnext
        rcases hafter with hrequest | ⟨e, he, hid⟩
        · exact Or.inl (Or.inl hrequest)
        · simp only [eventsUnderWay, hlow, List.flatten_append, ← List.append_assoc] at he
          rcases List.mem_append.mp he with he | he
          · exact Or.inl (Or.inr ⟨e, he, hid⟩)
          · -- the page view has the session id of the low-level probe
            obtain rfl : e = syntheticEvent workspaceId clock := by simpa using he
            obtain rfl : Probe.lowLevel = probe := Probe.sessionId_injective workspaceId hid
            exact Or.inr fun _ => rfl
      · refine Or.inl (hkept (fun _ hp => hp) fun e he => ?_)
        dsimp only [eventsUnderWay] at he
        split at he
        · rename_i clock hlow
          exact absurd ⟨clock, hlow, rfl⟩ hfails
        · exact he
  | received workspace arrival =>
      obtain ⟨payload, hpayload, hmap⟩ := Option.bind_eq_some_iff.mp ht
      obtain ⟨service, hservice, rfl⟩ := Option.map_eq_some_iff.mp hmap
      rcases hafter with ⟨_, hnone, -⟩ | ⟨e, he, hid⟩
      · exact nomatch hnone
      · refine Or.inl ?_
        rcases List.mem_append.mp he with he | he
        · rcases EventBuffer.mem_held_step hservice he with hheld | hnew
          · exact Or.inr ⟨e, List.mem_append_left _ hheld, hid⟩
          · exact Or.inl ⟨payload, hpayload, (mem_handle_sessionId hnew).symm.trans hid⟩
        · exact Or.inr ⟨e, List.mem_append_right _ he, hid⟩
  | refused =>
      obtain ⟨_, -, rfl⟩ := Option.map_eq_some_iff.mp ht
      exact Or.inl (hkept (fun _ hp => nomatch hp) fun _ he => he)
  | service b =>
      obtain ⟨service, hservice, rfl⟩ := Option.map_eq_some_iff.mp ht
      rcases hafter with hrequest | ⟨e, he, hid⟩
      · exact Or.inl (Or.inl hrequest)
      · refine Or.inl (Or.inr ⟨e, ?_, hid⟩)
        rcases List.mem_append.mp he with he | he
        · rcases EventBuffer.mem_held_step hservice he with hheld | hnew
          · exact List.mem_append_left _ hheld
          · exact absurd hid (hquiet.traffic b rfl e hnew probe)
        · rw [List.flatten_append] at he
          rcases List.mem_append.mp he with he | he
          · exact List.mem_append_right _ he
          · obtain ⟨batch, hbatch, hin⟩ := List.mem_flatten.mp he
            unfold failedInsert at hbatch
            split at hbatch
            · split at hbatch
              · rename_i hw
                subst hw
                exact mem_eventsUnderWay_of_inFlight (Option.mem_toList.mp hbatch) hin
              · exact absurd hbatch List.not_mem_nil
            · exact absurd hbatch List.not_mem_nil
  | lands i landed =>
      obtain ⟨_, -, rfl⟩ := Option.map_eq_some_iff.mp ht
      refine Or.inl (hkept (fun _ hp => hp) fun e he => ?_)
      refine List.mem_append.mpr ((List.mem_append.mp he).imp_right fun hin => ?_)
      obtain ⟨block, hblock, hin⟩ := List.mem_flatten.mp hin
      exact List.mem_flatten.mpr ⟨block, List.mem_of_mem_eraseIdx hblock, hin⟩
  | removed kept =>
      obtain rfl := Option.some.inj ht
      exact Or.inl (hkept (fun _ hp => hp) fun _ he => he)

/-- Nothing is under way of a probe that has cleared a table. -/
def Silent (workspaceId : String) (s : VerifyState) : Prop :=
  ∀ (probe : Probe) (table : Table), s.cleared probe table = true → ¬s.UnderWay workspaceId probe

theorem silent_step (hs : s.Silent workspaceId) (hquiet : s.Quiet workspaceId a)
    (h : verifyStep host maxRetainedEvents workspaceId s a = some s') : s'.Silent workspaceId := by
  intro probe table hcleared hunderWay
  rcases underWay_step h hquiet hunderWay with hbefore | hnone
  · by_cases hchecked : ∃ found clock, a = .checked found clock
    · obtain ⟨found, clock, rfl⟩ := hchecked
      obtain ⟨-, -, hafter⟩ := checked_step h
      rw [hafter probe table] at hcleared
      cases found with
      | true => exact Bool.noConfusion hcleared
      | false => exact hquiet.found clock rfl
    · have ha : ∀ found clock, a ≠ .checked found clock := fun found clock heq =>
        hchecked ⟨found, clock, heq⟩
      rcases (cleared_step h ha probe table).mp hcleared with hold | ⟨carriedOut, heffect⟩
      · exact hs probe table hold hbefore
      · exact (hquiet.deletes probe table carriedOut heffect).2 hbefore
  · exact Bool.false_ne_true ((hnone table).symm.trans hcleared)

theorem timely_of_silent (hs : s.Silent workspaceId) (hquiet : s.Quiet workspaceId a) :
    Timely workspaceId s a := by
  have heffect : (s.effect workspaceId a).Timely workspaceId s := by
    cases heffect : s.effect workspaceId a with
    | keeps => trivial
    | inserts landed block =>
        intro probe table hlanded hcleared e he htakes hid
        rcases mem_effect_inserts heffect with hevents | ⟨clock, hlow, rfl⟩
        · exact hs probe table hcleared (Or.inr ⟨e, hevents e he, hid⟩)
        · obtain rfl := List.mem_singleton.mp he
          obtain rfl : Probe.lowLevel = probe := Probe.sessionId_injective workspaceId hid
          simp [cleared, hlow, LowLevelProbe.cleared] at hcleared
    | deletes probe table carriedOut =>
        exact Or.inl (hquiet.deletes probe table carriedOut heffect).1
  cases a with
  | checked found clock =>
      intro hfound
      subst hfound
      exact absurd rfl (hquiet.found clock)
  | http | lowLevel | received | refused | service | lands | removed => exact heffect

end TrackingVerification.VerifyState

namespace TrackingVerification

open VerifyState

/--
**A quiet clean-up is timely.**

In every run in which a probe deletes, without fail, only while nothing of it is under way and
nobody else sends its session id, every step is timely; so the verification leaves no trace
once ClickHouse has removed what the deletes took on.
-/
theorem timely_of_quiet {host : Host} {maxRetainedEvents : Nat} {workspaceId : String}
    {service : EventBuffer} {tables lingering : Tables} {as : List VerifyAction}
    (h : Machine.Meets (verifyStep host maxRetainedEvents workspaceId) (Quiet workspaceId)
      (.init service tables lingering) as) :
    Machine.Meets (verifyStep host maxRetainedEvents workspaceId) (Timely workspaceId)
      (.init service tables lingering) as := by
  have hinit : (VerifyState.init service tables lingering).Silent workspaceId := by
    intro probe table hcleared
    cases probe <;> exact Bool.noConfusion hcleared
  exact Machine.meets_of_invariant (P := Silent workspaceId)
    (fun _ _ _ hs hquiet hstep => silent_step hs hquiet hstep)
    (fun _ _ hs hquiet => timely_of_silent hs hquiet) hinit h

end TrackingVerification

end Veridian
