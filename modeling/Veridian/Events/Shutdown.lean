/-
Shutting the event buffer down.

`onModuleDestroy` stops the timers, calls `flush` for every buffer and awaits these calls.
A `flush` that finds another one of its workspace running returns at once, so its promise
says nothing about the insert in flight, nor about the events that came in since.

`flush` does nothing to a workspace without a buffer but clear its timer, so the loop over
the buffers is a call for every workspace, and what is awaited is a set of workspaces.
Afterwards other callers of `flush` may go on, and inserts settle in any order.
-/
import Veridian.Events.BufferRuns

namespace Veridian.BufferShutdown

open EventBuffer

structure Shutdown where
  service : EventBuffer
  /-- The workspaces whose insert `onModuleDestroy` awaits. -/
  awaiting : String → Bool

/-- `onModuleDestroy`, up to its `await`. -/
def onModuleDestroy (s : EventBuffer) : Shutdown where
  service := { s with workspaces := fun w => (s.workspaces w).stopFlushTimer.flush.1 }
  awaiting := fun w => (s.workspaces w).stopFlushTimer.flush.2

def Shutdown.step (maxRetainedEvents : Nat) (d : Shutdown) (a : BufferAction) : Option Shutdown :=
  (EventBuffer.step maxRetainedEvents d.service a).map fun service =>
    { service := service
      awaiting :=
        match a with
        | .insertSucceeded w _ => Function.update d.awaiting w false
        | _ => d.awaiting }

/-- Everything that `onModuleDestroy` awaits has settled. -/
def Shutdown.Resolved (d : Shutdown) : Prop := ∀ w, d.awaiting w = false

/-- No event is added, and no insert fails. -/
def Quiet : BufferAction → Prop
  | .timer _ | .flush _ | .insertSucceeded _ _ => True
  | .add _ | .addBatch _ | .resume _ | .insertFailed _ _ => False

/-- The buffers are empty, and what was accepted is what was inserted. -/
def Drained (s : EventBuffer) : Prop :=
  ∀ w, (s.workspaces w).buffer = [] ∧ (s.inserted w).flatten = (s.workspaces w).accepted

/-- Whenever `onModuleDestroy` resolves, the buffers are drained. -/
def DrainsFrom (maxRetainedEvents : Nat) (s : EventBuffer) : Prop :=
  ∀ bs d, (∀ a ∈ bs, Quiet a) →
    Machine.exec (Shutdown.step maxRetainedEvents) (onModuleDestroy s) bs = some d →
    d.Resolved → Drained d.service

/-! ### What is left of the accepted events -/

theorem length_events (past : List Outcome) :
    (past.flatMap Outcome.events).length =
      (past.filterMap Outcome.insertedBatch).flatten.length +
        (past.map Outcome.droppedCount).sum := by
  induction past with
  | nil => rfl
  | cons o rest ih =>
      cases o with
      | inserted batch =>
          simp only [List.flatMap_cons, List.length_append, ih, Outcome.events,
            Outcome.insertedBatch, List.filterMap_cons, List.flatten_cons, List.map_cons,
            List.sum_cons, Outcome.droppedCount]
          omega
      | dropped events =>
          simp only [List.flatMap_cons, List.length_append, ih, Outcome.events,
            Outcome.insertedBatch, List.filterMap_cons, List.map_cons, List.sum_cons,
            Outcome.droppedCount]
          omega

theorem events_of_nothing_dropped {past : List Outcome}
    (h : ∀ o ∈ past, o.droppedCount = 0) :
    past.flatMap Outcome.events = (past.filterMap Outcome.insertedBatch).flatten := by
  induction past with
  | nil => rfl
  | cons o rest ih =>
      have hrest := ih fun o ho => h o (List.mem_cons_of_mem _ ho)
      cases o with
      | inserted batch =>
          rw [List.flatMap_cons, hrest]
          rfl
      | dropped events =>
          obtain rfl := List.length_eq_zero_iff.mp (h _ List.mem_cons_self)
          exact hrest

/-- A workspace is drained when nothing of it waits, is in flight, or was dropped. -/
theorem drained_iff {past : List Outcome} {b : WorkspaceBuffer} (h : Accounted past b) :
    b.buffer = [] ∧ (past.filterMap Outcome.insertedBatch).flatten = b.accepted ↔
      b.buffer = [] ∧ b.inFlight.flatten = [] ∧ ∀ o ∈ past, o.droppedCount = 0 := by
  refine and_congr_right fun hbuffer => ?_
  rw [h.conserved, hbuffer, List.append_nil]
  constructor
  · intro heq
    have hlength := congrArg List.length heq
    rw [List.length_append, length_events] at hlength
    refine ⟨List.length_eq_zero_iff.mp (by omega), fun o ho => ?_⟩
    have hsum : (past.map Outcome.droppedCount).sum = 0 := by omega
    exact List.sum_eq_zero_iff_forall_eq_nat.mp hsum _ (List.mem_map_of_mem ho)
  · rintro ⟨hflight, hdropped⟩
    rw [hflight, List.append_nil, events_of_nothing_dropped hdropped]

theorem mem_outcomes {s : EventBuffer} {w : String} {o : Outcome} :
    o ∈ s.outcomes w ↔ (w, o) ∈ s.log := by
  unfold EventBuffer.outcomes
  rw [List.mem_filterMap]
  constructor
  · rintro ⟨⟨w', o'⟩, hentry, heq⟩
    by_cases hw : w' = w
    · rw [if_pos hw] at heq
      obtain rfl := Option.some.inj heq
      rwa [← hw]
    · rw [if_neg hw] at heq
      exact nomatch heq
  · intro hentry
    exact ⟨(w, o), hentry, if_pos rfl⟩

/-- Nothing was dropped at the cap exactly when no outcome drops anything. -/
theorem droppedEvents_eq_zero_iff {cap : Nat} {as : List BufferAction} {s : EventBuffer}
    (h : Machine.exec (step cap) .init as = some s) :
    s.droppedEvents = 0 ↔ ∀ w, ∀ o ∈ s.outcomes w, o.droppedCount = 0 := by
  rw [exec_droppedEvents h, droppedTotal, List.sum_eq_zero_iff_forall_eq_nat]
  constructor
  · intro hall w o ho
    exact hall _ (List.mem_map_of_mem (mem_outcomes.mp ho))
  · intro hall n hn
    obtain ⟨⟨w, o⟩, hentry, rfl⟩ := List.mem_map.mp hn
    exact hall w o (mem_outcomes.mpr hentry)

/-! ### Runs of the service -/

theorem flush_inFlight_ne {b : WorkspaceBuffer} (h : ∀ batch ∈ b.inFlight, batch ≠ []) :
    ∀ batch ∈ b.flush.1.inFlight, batch ≠ [] := by
  intro batch hbatch
  by_cases hblocked : b.buffer = [] ∨ b.flushing = true
  · rw [WorkspaceBuffer.flush_of_blocked hblocked] at hbatch
    exact h batch hbatch
  · rw [WorkspaceBuffer.flush_of_free hblocked] at hbatch
    rcases List.mem_append.mp hbatch with hold | hnew
    · exact h batch hold
    · rw [List.mem_singleton.mp hnew]
      exact fun hempty => hblocked (Or.inl hempty)

theorem push_inFlight (b : WorkspaceBuffer) (event : TrackingEvent) :
    (b.push event).inFlight = b.inFlight := by
  unfold WorkspaceBuffer.push
  simp only
  split <;> rfl

theorem insertFailed_inFlight (cap : Nat) (b : WorkspaceBuffer) (i : Nat)
    (batch : List TrackingEvent) :
    (b.insertFailed cap i batch).inFlight = b.inFlight.eraseIdx i := by
  unfold WorkspaceBuffer.insertFailed
  simp only
  split <;> rfl

theorem WorkspaceStep.inFlight_ne {cap : Nat} {w : String} {b b' : WorkspaceBuffer}
    {new : List Outcome} (hstep : WorkspaceStep cap w b new b')
    (h : ∀ batch ∈ b.inFlight, batch ≠ []) : ∀ batch ∈ b'.inFlight, batch ≠ [] := by
  cases hstep with
  | idle => exact h
  | add event _ =>
      have hpushed : ∀ batch ∈ (b.push event).inFlight, batch ≠ [] := by
        rwa [push_inFlight]
      unfold WorkspaceBuffer.add
      simp only
      split
      · exact flush_inFlight_ne hpushed
      · exact hpushed
  | flush => exact flush_inFlight_ne h
  | succeeded i _ _ => exact fun batch hmem => h batch (List.mem_of_mem_eraseIdx hmem)
  | failed i batch _ =>
      rw [insertFailed_inFlight]
      exact fun batch hmem => h batch (List.mem_of_mem_eraseIdx hmem)

/-- Batches in flight are not empty. -/
theorem exec_inFlight_ne {cap : Nat} {as : List BufferAction} {s : EventBuffer}
    (h : Machine.exec (step cap) .init as = some s) (w : String) :
    ∀ batch ∈ (s.workspaces w).inFlight, batch ≠ [] := by
  refine Machine.exec_invariant
    (P := fun s => ∀ batch ∈ (s.workspaces w).inFlight, batch ≠ []) ?_
    (fun batch hbatch => absurd hbatch List.not_mem_nil) h
  intro s a s' hs hstep
  obtain ⟨new, -, hw⟩ := step_workspace hstep w
  exact WorkspaceStep.inFlight_ne hw hs

/-- A step changes one workspace only. -/
theorem exists_only_workspace {cap : Nat} {s s' : EventBuffer} {a : BufferAction}
    (h : step cap s a = some s') :
    ∃ w', ∀ w, w ≠ w' → s'.workspaces w = s.workspaces w := by
  cases stepped_of_step h with
  | add event => exact ⟨event.workspaceId, fun w hw => set_workspaces_ne s _ hw⟩
  | addBatch events => exact ⟨"", fun _ _ => rfl⟩
  | resume i event rest _ => exact ⟨event.workspaceId, fun w hw => set_workspaces_ne s _ hw⟩
  | timer w' _ => exact ⟨w', fun w hw => set_workspaces_ne s _ hw⟩
  | flush w' => exact ⟨w', fun w hw => set_workspaces_ne s _ hw⟩
  | insertSucceeded w' i batch _ => exact ⟨w', fun w hw => set_workspaces_ne s _ hw⟩
  | insertFailed w' i batch _ => exact ⟨w', fun w hw => set_workspaces_ne s _ hw⟩

/-- Finitely many workspaces have anything in their buffer. -/
theorem exists_keys {cap : Nat} {as : List BufferAction} {s : EventBuffer}
    (h : Machine.exec (step cap) .init as = some s) :
    ∃ keys : List String, ∀ w, w ∉ keys → (s.workspaces w).buffer = [] := by
  refine Machine.exec_invariant
    (P := fun s => ∃ keys : List String, ∀ w, w ∉ keys → (s.workspaces w).buffer = []) ?_
    ⟨[], fun _ _ => rfl⟩ h
  rintro s a s' ⟨keys, hkeys⟩ hstep
  obtain ⟨w', hother⟩ := exists_only_workspace hstep
  refine ⟨w' :: keys, fun w hw => ?_⟩
  rw [List.mem_cons, not_or] at hw
  rw [hother w hw.1]
  exact hkeys w hw.2

/-! ### Runs of a shutdown -/

theorem Shutdown.step_eq_some {cap : Nat} {d d' : Shutdown} {a : BufferAction}
    (h : d.step cap a = some d') : EventBuffer.step cap d.service a = some d'.service := by
  obtain ⟨service, hservice, rfl⟩ := Option.map_eq_some_iff.mp h
  exact hservice

theorem accounted_onModuleDestroy {s : EventBuffer} {w : String}
    (h : Accounted (s.outcomes w) (s.workspaces w)) :
    Accounted ((onModuleDestroy s).service.outcomes w)
      ((onModuleDestroy s).service.workspaces w) :=
  Accounted.flush (b := (s.workspaces w).stopFlushTimer) ⟨h.conserved, h.atMostOne, h.flagged⟩

theorem exec_shutdown_accounted {cap : Nat} {d d' : Shutdown} {bs : List BufferAction}
    (hd : ∀ w, Accounted (d.service.outcomes w) (d.service.workspaces w))
    (h : Machine.exec (Shutdown.step cap) d bs = some d') :
    ∀ w, Accounted (d'.service.outcomes w) (d'.service.workspaces w) := by
  refine Machine.exec_invariant
    (P := fun d : Shutdown => ∀ w, Accounted (d.service.outcomes w) (d.service.workspaces w))
    ?_ hd h
  intro d a d' hd hstep w
  obtain ⟨new, hout, hw⟩ := step_workspace (Shutdown.step_eq_some hstep) w
  rw [hout]
  exact (hd w).step hw

/-- What holds from `onModuleDestroy` on when no flush was running and nothing dropped. -/
structure Draining (d : Shutdown) : Prop where
  accounted : ∀ w, Accounted (d.service.outcomes w) (d.service.workspaces w)
  buffer : ∀ w, (d.service.workspaces w).buffer = []
  awaited : ∀ w, d.awaiting w = false → (d.service.workspaces w).inFlight = []
  kept : ∀ w, ∀ o ∈ d.service.outcomes w, o.droppedCount = 0

theorem draining_onModuleDestroy {s : EventBuffer}
    (h : ∀ w, Accounted (s.outcomes w) (s.workspaces w))
    (hfree : ∀ w, (s.workspaces w).flushing = false)
    (hkept : ∀ w, ∀ o ∈ s.outcomes w, o.droppedCount = 0) : Draining (onModuleDestroy s) := by
  have hflush : ∀ w, ((s.workspaces w).stopFlushTimer.flush.1.buffer = []) ∧
      ((s.workspaces w).stopFlushTimer.flush.2 = false →
        (s.workspaces w).stopFlushTimer.flush.1.inFlight = []) := by
    intro w
    by_cases hempty : (s.workspaces w).buffer = []
    · have hblocked : (s.workspaces w).stopFlushTimer.buffer = [] ∨
          (s.workspaces w).stopFlushTimer.flushing = true := Or.inl hempty
      rw [WorkspaceBuffer.flush_of_blocked hblocked]
      refine ⟨hempty, fun _ => ?_⟩
      show (s.workspaces w).inFlight = []
      by_contra hne
      have hon := (h w).flagged.mpr hne
      rw [hfree w] at hon
      exact nomatch hon
    · have hgoes : ¬((s.workspaces w).stopFlushTimer.buffer = [] ∨
          (s.workspaces w).stopFlushTimer.flushing = true) := by
        rintro (hb | hon)
        · exact hempty hb
        · have hoff : (s.workspaces w).stopFlushTimer.flushing = false := hfree w
          rw [hoff] at hon
          exact nomatch hon
      rw [WorkspaceBuffer.flush_of_free hgoes]
      exact ⟨rfl, fun hno => nomatch hno⟩
  exact ⟨fun w => accounted_onModuleDestroy (h w), fun w => (hflush w).1, fun w => (hflush w).2,
    hkept⟩

/-- A call of `flush` finds nothing to do. -/
theorem Draining.flush {d : Shutdown} (hd : Draining d) (w : String) (awaiting : String → Bool)
    (hsame : awaiting = d.awaiting) :
    Draining ⟨d.service.set w (d.service.workspaces w).flush.1, awaiting⟩ := by
  subst hsame
  have hcalled := WorkspaceBuffer.flush_of_blocked (Or.inl (hd.buffer w))
  have hworkspaces : ∀ w', ((d.service.set w (d.service.workspaces w).flush.1).workspaces w').buffer =
      (d.service.workspaces w').buffer ∧
      ((d.service.set w (d.service.workspaces w).flush.1).workspaces w').inFlight =
        (d.service.workspaces w').inFlight := by
    intro w'
    by_cases hw : w' = w
    · subst hw
      rw [set_workspaces_self, hcalled]
      exact ⟨rfl, rfl⟩
    · rw [set_workspaces_ne _ _ hw]
      exact ⟨rfl, rfl⟩
  refine ⟨fun w' => ?_, fun w' => ?_, fun w' hno => ?_, hd.kept⟩
  · by_cases hw : w' = w
    · subst hw
      rw [set_workspaces_self]
      exact (hd.accounted w').flush
    · rw [set_workspaces_ne _ _ hw]
      exact hd.accounted w'
  · rw [(hworkspaces w').1]
    exact hd.buffer w'
  · rw [(hworkspaces w').2]
    exact hd.awaited w' hno

theorem Draining.step {cap : Nat} {d d' : Shutdown} {a : BufferAction} (hd : Draining d)
    (hquiet : Quiet a) (hstep : d.step cap a = some d') : Draining d' := by
  obtain ⟨service, hservice, rfl⟩ := Option.map_eq_some_iff.mp hstep
  have hrun : Machine.exec (Shutdown.step cap) d [a] = some _ :=
    Machine.exec_cons_eq_some.mpr ⟨_, hstep, rfl⟩
  have haccounted := exec_shutdown_accounted hd.accounted hrun
  cases stepped_of_step hservice with
  | add event => exact nomatch hquiet
  | addBatch events => exact nomatch hquiet
  | resume i event rest _ => exact nomatch hquiet
  | insertFailed w i batch _ => exact nomatch hquiet
  | timer w _ => exact hd.flush w _ rfl
  | flush w => exact hd.flush w _ rfl
  | insertSucceeded w i batch hbatch =>
      obtain ⟨hflight, rfl⟩ := (hd.accounted w).inFlight_eq hbatch
      refine ⟨haccounted, fun w' => ?_, fun w' hno => ?_, fun w' o ho => ?_⟩
      · by_cases hw : w' = w
        · subst hw
          show ((d.service.set w' _).workspaces w').buffer = []
          rw [set_workspaces_self]
          exact hd.buffer w'
        · show ((d.service.set w _).workspaces w').buffer = []
          rw [set_workspaces_ne _ _ hw]
          exact hd.buffer w'
      · by_cases hw : w' = w
        · subst hw
          show ((d.service.set w' _).workspaces w').inFlight = []
          rw [set_workspaces_self]
          show (d.service.workspaces w').inFlight.eraseIdx 0 = []
          rw [hflight]
          rfl
        · show ((d.service.set w _).workspaces w').inFlight = []
          rw [set_workspaces_ne _ _ hw]
          refine hd.awaited w' ?_
          rw [← hno]
          exact (Function.update_of_ne hw _ _).symm
      · rcases List.mem_append.mp (mem_outcomes.mp ho) with hold | hnew
        · exact hd.kept w' o (mem_outcomes.mpr hold)
        · obtain ⟨-, rfl⟩ := Prod.mk.inj (List.mem_singleton.mp hnew)
          rfl

theorem exec_draining {cap : Nat} : ∀ {bs : List BufferAction} {d d' : Shutdown},
    Draining d → (∀ a ∈ bs, Quiet a) → Machine.exec (Shutdown.step cap) d bs = some d' →
      Draining d' := by
  intro bs
  induction bs with
  | nil =>
      intro d d' hd _ h
      obtain rfl := Option.some.inj h
      exact hd
  | cons a rest ih =>
      intro d d' hd hquiet h
      obtain ⟨d₁, h₁, hrest⟩ := Machine.exec_cons_eq_some.mp h
      exact ih (hd.step (hquiet a List.mem_cons_self) h₁)
        (fun b hb => hquiet b (List.mem_cons_of_mem _ hb)) hrest

theorem Draining.drained {d : Shutdown} (hd : Draining d) (hresolved : d.Resolved) :
    Drained d.service := by
  intro w
  refine (drained_iff (hd.accounted w)).mpr ⟨hd.buffer w, ?_, hd.kept w⟩
  rw [hd.awaited w (hresolved w)]
  rfl

/-! ### The quickest shutdown

The inserts that are awaited settle, one after the other, and nothing else happens.
-/

/-- What is awaited is in flight. -/
def Awaits (d : Shutdown) : Prop :=
  ∀ w, d.awaiting w = true → (d.service.workspaces w).inFlight ≠ []

theorem awaits_onModuleDestroy (s : EventBuffer) : Awaits (onModuleDestroy s) := by
  intro w hawaited
  by_cases hblocked : (s.workspaces w).stopFlushTimer.buffer = [] ∨
      (s.workspaces w).stopFlushTimer.flushing = true
  · have hno : (onModuleDestroy s).awaiting w = false := by
      show (s.workspaces w).stopFlushTimer.flush.2 = false
      rw [WorkspaceBuffer.flush_of_blocked hblocked]
    rw [hno] at hawaited
    exact nomatch hawaited
  · show (s.workspaces w).stopFlushTimer.flush.1.inFlight ≠ []
    rw [WorkspaceBuffer.flush_of_free hblocked]
    exact List.append_ne_nil_of_right_ne_nil _ (List.cons_ne_nil _ _)

/-- The inserts of these workspaces can settle and leave everything else as it is. -/
theorem exists_settled (cap : Nat) : ∀ (keys : List String) (d : Shutdown), Awaits d →
    ∃ bs d', (∀ a ∈ bs, Quiet a) ∧ Machine.exec (Shutdown.step cap) d bs = some d' ∧
      (∀ w ∈ keys, d'.awaiting w = false) ∧
      (∀ w, d.awaiting w = false → d'.awaiting w = false ∧
        d'.service.workspaces w = d.service.workspaces w) ∧
      ∀ entry ∈ d.service.log, entry ∈ d'.service.log := by
  intro keys
  induction keys with
  | nil =>
      intro d _
      exact ⟨[], d, fun a ha => absurd ha List.not_mem_nil, rfl,
        fun w hw => absurd hw List.not_mem_nil, fun w hw => ⟨hw, rfl⟩, fun _ => id⟩
  | cons k keys ih =>
      intro d hd
      by_cases hk : d.awaiting k = true
      · -- the insert of `k` settles first
        obtain ⟨batch, hbatch⟩ : ∃ batch, (d.service.workspaces k).inFlight[0]? = some batch := by
          cases hflight : (d.service.workspaces k).inFlight with
          | nil => exact absurd hflight (hd k hk)
          | cons batch rest => exact ⟨batch, rfl⟩
        obtain ⟨d₁, hd₁⟩ : ∃ d₁, d₁ = (⟨{ d.service.set k
              ((d.service.workspaces k).insertSucceeded 0) with
            batches := settle d.service.batches k true
            log := d.service.log ++ [(k, .inserted batch)] },
          Function.update d.awaiting k false⟩ : Shutdown) := ⟨_, rfl⟩
        have hstep : d.step cap (.insertSucceeded k 0) = some d₁ := by
          unfold Shutdown.step EventBuffer.step
          simp only [hbatch, Option.map_some, hd₁]
        have hoff : d₁.awaiting k = false := by
          rw [hd₁]
          exact Function.update_self _ _ _
        have hother : ∀ w, w ≠ k → d₁.awaiting w = d.awaiting w ∧
            d₁.service.workspaces w = d.service.workspaces w := by
          intro w hw
          rw [hd₁]
          exact ⟨Function.update_of_ne hw _ _, set_workspaces_ne _ _ hw⟩
        have hawaits : Awaits d₁ := by
          intro w hw
          by_cases hwk : w = k
          · rw [hwk, hoff] at hw
            exact nomatch hw
          · rw [(hother w hwk).2]
            exact hd w ((hother w hwk).1 ▸ hw)
        obtain ⟨bs, d', hquiet, hexec, hsettled, hkept, hlog⟩ := ih d₁ hawaits
        refine ⟨.insertSucceeded k 0 :: bs, d', ?_, ?_, ?_, ?_, ?_⟩
        · exact List.forall_mem_cons.mpr ⟨trivial, hquiet⟩
        · exact Machine.exec_cons_eq_some.mpr ⟨d₁, hstep, hexec⟩
        · exact List.forall_mem_cons.mpr ⟨(hkept k hoff).1, hsettled⟩
        · intro w hw
          have hwk : w ≠ k := by
            rintro rfl
            rw [hw] at hk
            exact nomatch hk
          obtain ⟨hawaiting, hworkspace⟩ := hother w hwk
          obtain ⟨hfinal, hsame⟩ := hkept w (hawaiting.trans hw)
          exact ⟨hfinal, hsame.trans hworkspace⟩
        · intro entry hentry
          refine hlog entry ?_
          rw [hd₁]
          exact List.mem_append_left _ hentry
      · rw [Bool.not_eq_true] at hk
        obtain ⟨bs, d', hquiet, hexec, hsettled, hkept, hlog⟩ := ih d hd
        exact ⟨bs, d', hquiet, hexec, List.forall_mem_cons.mpr ⟨(hkept k hk).1, hsettled⟩, hkept,
          hlog⟩

/-- `onModuleDestroy` can resolve with everything it does not await as it was. -/
theorem exists_resolved {cap : Nat} {as : List BufferAction} {s : EventBuffer}
    (h : Machine.exec (step cap) .init as = some s) :
    ∃ bs d, (∀ a ∈ bs, Quiet a) ∧
      Machine.exec (Shutdown.step cap) (onModuleDestroy s) bs = some d ∧ d.Resolved ∧
      (∀ w, (s.workspaces w).flushing = true →
        d.service.workspaces w = (s.workspaces w).stopFlushTimer) ∧
      ∀ w, ∀ o ∈ s.outcomes w, o ∈ d.service.outcomes w := by
  obtain ⟨keys, hkeys⟩ := exists_keys h
  obtain ⟨bs, d, hquiet, hexec, hsettled, hkept, hlog⟩ :=
    exists_settled cap keys (onModuleDestroy s) (awaits_onModuleDestroy s)
  have hblocked : ∀ w, (s.workspaces w).buffer = [] ∨ (s.workspaces w).flushing = true →
      (onModuleDestroy s).awaiting w = false ∧
        (onModuleDestroy s).service.workspaces w = (s.workspaces w).stopFlushTimer := by
    intro w hw
    have hflush := WorkspaceBuffer.flush_of_blocked (b := (s.workspaces w).stopFlushTimer) hw
    exact ⟨congrArg Prod.snd hflush, congrArg Prod.fst hflush⟩
  refine ⟨bs, d, hquiet, hexec, fun w => ?_, fun w hon => ?_, fun w o ho => ?_⟩
  · by_cases hw : w ∈ keys
    · exact hsettled w hw
    · exact (hkept w (hblocked w (Or.inl (hkeys w hw))).1).1
  · obtain ⟨hno, hsame⟩ := hblocked w (Or.inr hon)
    exact (hkept w hno).2.trans hsame
  · exact mem_outcomes.mpr (hlog _ (mem_outcomes.mp ho))

/--
**Shutdown drains the buffers**, when no flush is running.

From a state reached by any run, whatever is flushed and settles in whatever order while
no event is added and no insert fails: whenever `onModuleDestroy` has resolved all buffers
are empty and every accepted event has been inserted, exactly when it began with no flush
in flight and no event had been dropped at the cap.
-/
theorem shutdown_drains_iff {maxRetainedEvents : Nat} {as : List BufferAction} {s : EventBuffer}
    (h : Machine.exec (step maxRetainedEvents) .init as = some s) :
    DrainsFrom maxRetainedEvents s ↔
      (∀ w, (s.workspaces w).flushing = false) ∧ s.droppedEvents = 0 := by
  rw [droppedEvents_eq_zero_iff h]
  constructor
  · intro hdrains
    obtain ⟨bs, d, hquiet, hexec, hresolved, hflushing, houtcomes⟩ := exists_resolved h
    have haccounted := exec_shutdown_accounted
      (fun w => accounted_onModuleDestroy (exec_accounted h w)) hexec
    have hdrained := fun w =>
      (drained_iff (haccounted w)).mp (hdrains bs d hquiet hexec hresolved w)
    refine ⟨fun w => ?_, fun w o ho => (hdrained w).2.2 o (houtcomes w o ho)⟩
    by_contra hon
    rw [Bool.not_eq_false] at hon
    -- the insert in flight is not awaited
    obtain ⟨batch, hbatch⟩ := (exec_accounted h w).inFlight_of_flushing hon
    have hflight : (d.service.workspaces w).inFlight = [batch] := by
      rw [hflushing w hon]
      exact hbatch
    have hempty := (hdrained w).2.1
    rw [hflight, List.flatten_cons, List.flatten_nil, List.append_nil] at hempty
    exact exec_inFlight_ne h w batch (by rw [hbatch]; exact List.mem_cons_self) hempty
  · rintro ⟨hfree, hkept⟩ bs d hquiet hexec hresolved
    have hstart := draining_onModuleDestroy (exec_accounted h) hfree hkept
    exact (exec_draining hstart hquiet hexec).drained hresolved

/-! ### A shutdown during a flush -/

namespace ShutdownExample

/-- The first event is in flight, the second one in the buffer. -/
def duringFlush : List BufferAction :=
  [.add BufferExample.visit, .timer "w", .add BufferExample.visit]

/-- Both are in the buffer. -/
def beforeFlush : List BufferAction := [.add BufferExample.visit, .add BufferExample.visit]

end ShutdownExample

open ShutdownExample in
theorem shutdown_drains_iff_before :
    ∃ s, Machine.exec (step 50000) .init beforeFlush = some s ∧
      (s.workspaces "w").buffer.length = 2 ∧ DrainsFrom 50000 s := by
  obtain ⟨s, hs⟩ : ∃ s, Machine.exec (step 50000) .init beforeFlush = some s := ⟨_, rfl⟩
  have hstate := Option.some.inj hs
  refine ⟨s, hs, ?_, (shutdown_drains_iff hs).mpr ⟨fun w => ?_, ?_⟩⟩
  · rw [← hstate]
    rfl
  · rw [← hstate]
    by_cases hw : w = BufferExample.visit.workspaceId
    · subst hw
      rfl
    · rw [set_workspaces_ne _ _ hw, set_workspaces_ne _ _ hw]
      rfl
  · rw [← hstate]
    rfl

open ShutdownExample in
/-- `onModuleDestroy` resolves at once: an event is in the buffer and another one in flight. -/
theorem shutdown_leaves_events :
    ¬∀ (maxRetainedEvents : Nat) (as : List BufferAction) (s : EventBuffer),
      Machine.exec (step maxRetainedEvents) .init as = some s →
        DrainsFrom maxRetainedEvents s := by
  intro hall
  obtain ⟨s, hs⟩ : ∃ s, Machine.exec (step 50000) .init duringFlush = some s := ⟨_, rfl⟩
  have hstate := Option.some.inj hs
  have hresolved : (onModuleDestroy s).Resolved := by
    intro w
    rw [← hstate]
    by_cases hw : w = "w"
    · subst hw
      rfl
    · have hw' : w ≠ BufferExample.visit.workspaceId := hw
      show (WorkspaceBuffer.flush (WorkspaceBuffer.stopFlushTimer _)).2 = false
      rw [set_workspaces_ne _ _ hw', set_workspaces_ne _ _ hw, set_workspaces_ne _ _ hw']
      rfl
  have hdrained := hall 50000 duringFlush s hs [] (onModuleDestroy s)
    (fun a ha => absurd ha List.not_mem_nil) rfl hresolved "w"
  rw [← hstate] at hdrained
  exact absurd (congrArg List.length hdrained.1) (by decide)

end Veridian.BufferShutdown
