/-
The heartbeat loop and its timeouts.

Whatever brings the page back schedules a heartbeat, and a heartbeat that fires schedules the
next.  `startHeartbeat` clears the timeout that is stored before it does, `resumeHeartbeat`
does not: when a page comes back that was never left, or comes back twice, the timeout of the
first time is stored no longer and goes on beside the second.
-/
import Veridian.Lib.Machine
import Veridian.Sdk.PageTime

namespace Veridian.HeartbeatLoop

open Machine Sdk
open PageTime (comesBack heartbeatState_updateScroll)

/-! ### The timeouts -/

structure Timeouts where
  heartbeatTimeout : Option Nat
  /-- The heartbeat timeouts that have neither fired nor been cleared. -/
  pending : List Nat
  /-- What `setTimeout` returns next. -/
  next : Nat

namespace Timeouts

variable (config : HeartbeatConfig) (now : Int) (h : HeartbeatState) (t : Timeouts)

def setTimeout : Timeouts where
  heartbeatTimeout := some t.next
  pending := t.pending ++ [t.next]
  next := t.next + 1

def stopHeartbeat : Timeouts :=
  match t.heartbeatTimeout with
  | none => t
  | some id => { t with heartbeatTimeout := none, pending := t.pending.filter (· ≠ id) }

def scheduleNextHeartbeat : Timeouts :=
  if !h.isActive then t
  else if h.maxDurationNow config now then t.stopHeartbeat
  else
    match config.interval (h.getCurrentTier config now).1 with
    | none => t.stopHeartbeat
    | some _ => t.setTimeout

def startHeartbeat : Timeouts :=
  if h.maxDurationReached then t
  else
    t.stopHeartbeat.scheduleNextHeartbeat config now
      { h.stopHeartbeat now false with
        activeStartTime := now
        isActive := true
        lastPingTime := now }

/-- The state `resumeHeartbeat` schedules from. -/
def resumed : HeartbeatState :=
  { h with
    activeStartTime := now
    pageStartTime := now
    isActive := true
    lastPingTime := now }

def resumeHeartbeat : Timeouts :=
  if h.maxDurationReached then t
  else t.scheduleNextHeartbeat config now (resumed now h)

/-- `resetHeartbeatState`, and the start that follows it everywhere. -/
def restartHeartbeat : Timeouts :=
  t.stopHeartbeat.startHeartbeat config now (HeartbeatState.fresh now)

variable (m : Moment) (s : StaminadsSDK)

def comeBack : Timeouts :=
  if !s.isPaused && !s.heartbeatState.maxDurationReached then
    t.resumeHeartbeat config m.now s.heartbeatState
  else t

def event : SdkEvent → Timeouts
  | .visibilityChange hidden => if hidden then t.stopHeartbeat else t.comeBack config m s
  | .focus => t.comeBack config m s
  | .blur => t.stopHeartbeat
  | .freeze => t.stopHeartbeat
  | .unfreeze => t.comeBack config m s
  | .unload => t
  | .pageShow persisted => if persisted then t.comeBack config m s else t
  | .navigation _ =>
      if config.resetHeartbeatOnNavigation then t.restartHeartbeat config m.now else t
  | .heartbeat visible =>
      if s.shouldSendPing visible then
        t.scheduleNextHeartbeat config m.now
          { s.heartbeatState with
            currentTierIndex := (s.heartbeatState.getCurrentTier config m.now).2
            lastPingTime := m.now }
      else t
  | .debouncedSend => t
  | .sent => t
  | .trackPageView _ => t
  | .trackGoal _ _ _ => t
  | .pause => t.stopHeartbeat
  | .resume => t.restartHeartbeat config m.now

end Timeouts

/-! ### The SDK with its timeouts -/

structure Loop where
  sdk : StaminadsSDK
  timeouts : Timeouts

inductive LoopEvent where
  | happens (m : Moment) (e : SdkEvent)
  /-- A pending timeout fires, while the page is visible or not. -/
  | fires (m : Moment) (id : Nat) (visible : Bool)

section Loops

variable (config : HeartbeatConfig)

def Loop.event (l : Loop) (m : Moment) (e : SdkEvent) : Loop where
  sdk := (l.sdk.event config m e).1
  timeouts := l.timeouts.event config m l.sdk e

def Loop.expire (l : Loop) (id : Nat) : Loop :=
  { l with timeouts := { l.timeouts with pending := l.timeouts.pending.erase id } }

/-- A heartbeat happens when a pending timeout fires, and not otherwise. -/
def step (l : Loop) : LoopEvent → Option Loop
  | .happens _ (.heartbeat _) => none
  | .happens m e => some (l.event config m e)
  | .fires m id visible =>
      if id ∈ l.timeouts.pending then
        some ((l.expire id).event config m (.heartbeat visible))
      else none

/-- The SDK as it is initialised; no timeout is zero. -/
def Loop.init (session : SessionStateConfig) (stored : Option SessionStateSnapshot)
    (path : String) (m : Moment) : Loop where
  sdk := StaminadsSDK.init config m session stored path
  timeouts :=
    (Timeouts.mk none [] 1).startHeartbeat config m.now
      { HeartbeatState.fresh m.now with activeStartTime := m.now }

/-! ### The claim and its condition -/

structure OneLoop (h : HeartbeatState) (t : Timeouts) : Prop where
  atMostOne : t.pending.length ≤ 1
  stored : ∀ id ∈ t.pending, t.heartbeatTimeout = some id
  inactive : h.isActive = false → t.pending = []

/-- Every state the run reaches has one loop at most. -/
def KeepsOneLoop (l : Loop) (es : List LoopEvent) : Prop :=
  ∀ before l', before <+: es → exec (step config) l before = some l' →
    OneLoop l'.sdk.heartbeatState l'.timeouts

/-- The heartbeat is over: its maximum duration is reached, or the tier has no interval. -/
def Ends (now : Int) (h : HeartbeatState) : Prop :=
  h.maxDurationNow config now = true ∨ config.interval (h.getCurrentTier config now).1 = none

/-- What resumes the heartbeat finds none pending, or ends it at once. -/
def ResumesAlone (l : Loop) : LoopEvent → Prop
  | .happens m e =>
      comesBack e = true → l.sdk.isPaused = false →
        l.sdk.heartbeatState.maxDurationReached = false →
          l.timeouts.pending = [] ∨ Ends config m.now (Timeouts.resumed m.now l.sdk.heartbeatState)
  | .fires _ _ _ => True

instance (now : Int) (h : HeartbeatState) : Decidable (Ends config now h) :=
  inferInstanceAs (Decidable (_ ∨ _))

instance (l : Loop) : ∀ e, Decidable (ResumesAlone config l e)
  | .happens _ _ => inferInstanceAs (Decidable (_ → _ → _ → _ ∨ _))
  | .fires _ _ _ => inferInstanceAs (Decidable True)

/-! ### One function at a time -/

section Functions

variable {config} {now : Int} {h : HeartbeatState} {t : Timeouts}

theorem pending_stop (hstored : ∀ id ∈ t.pending, t.heartbeatTimeout = some id) :
    t.stopHeartbeat.pending = [] := by
  refine List.eq_nil_iff_forall_not_mem.mpr fun id hid => ?_
  unfold Timeouts.stopHeartbeat at hid
  split at hid
  · next hnone => exact absurd (hnone.symm.trans (hstored id hid)) (by simp)
  · next id' hsome =>
      obtain ⟨hid, hne⟩ := List.mem_filter.mp hid
      have heq : id' = id := Option.some.inj (hsome.symm.trans (hstored id hid))
      simp [heq] at hne

theorem oneLoop_of_pending_nil (hpending : t.pending = []) : OneLoop h t where
  atMostOne := by simp [hpending]
  stored id hid := by simp [hpending] at hid
  inactive _ := hpending

/-- **Stopping leaves nothing pending.** -/
theorem OneLoop.stop {h' : HeartbeatState} (hone : OneLoop h t) : OneLoop h' t.stopHeartbeat :=
  oneLoop_of_pending_nil (pending_stop hone.stored)

/-- The only pending timeout has fired. -/
theorem OneLoop.expire {id : Nat} (hone : OneLoop h t) (hid : id ∈ t.pending) :
    t.pending.erase id = [] := by
  obtain ⟨id', hid'⟩ := List.length_eq_one_iff.mp
    (le_antisymm hone.atMostOne (List.length_pos_of_mem hid))
  rw [hid', List.mem_singleton] at hid
  simp [hid', hid]

/-- **Scheduling keeps one loop when nothing is pending yet, or when it ends the loop.** -/
theorem oneLoop_schedule_iff (hone : OneLoop h t) (hactive : h.isActive = true) :
    OneLoop (h.scheduleNextHeartbeat config now) (t.scheduleNextHeartbeat config now h) ↔
      t.pending = [] ∨ Ends config now h := by
  unfold HeartbeatState.scheduleNextHeartbeat Timeouts.scheduleNextHeartbeat Ends
  have hnot : ¬ (!h.isActive) = true := by simp [hactive]
  rw [if_neg hnot, if_neg hnot]
  by_cases hmax : h.maxDurationNow config now = true
  · rw [if_pos hmax, if_pos hmax]
    exact ⟨fun _ => Or.inr (Or.inl hmax), fun _ => hone.stop⟩
  · rw [if_neg hmax, if_neg hmax]
    cases hinterval : config.interval (h.getCurrentTier config now).1 with
    | none => exact ⟨fun _ => Or.inr (Or.inr rfl), fun _ => hone.stop⟩
    | some interval =>
        constructor
        · intro hnew
          have hlength : (t.pending ++ [t.next]).length ≤ 1 := hnew.atMostOne
          rw [List.length_append] at hlength
          exact Or.inl (List.length_eq_zero_iff.mp (by simpa using hlength))
        · rintro (hnil | hmax' | hnone)
          · exact
              { atMostOne := by simp [Timeouts.setTimeout, hnil]
                stored := fun id hid => by
                  simp only [Timeouts.setTimeout, hnil, List.nil_append, List.mem_singleton] at hid
                  rw [hid]
                  rfl
                inactive := fun hinactive => by simp [hactive] at hinactive }
          · exact absurd hmax' hmax
          · simp at hnone

theorem oneLoop_schedule (hpending : t.pending = []) :
    OneLoop (h.scheduleNextHeartbeat config now) (t.scheduleNextHeartbeat config now h) := by
  by_cases hactive : h.isActive = true
  · exact (oneLoop_schedule_iff (oneLoop_of_pending_nil hpending) hactive).mpr (Or.inl hpending)
  · unfold HeartbeatState.scheduleNextHeartbeat Timeouts.scheduleNextHeartbeat
    have hnot : (!h.isActive) = true := by simpa using hactive
    rw [if_pos hnot, if_pos hnot]
    exact oneLoop_of_pending_nil hpending

theorem OneLoop.start (hone : OneLoop h t) :
    OneLoop (h.startHeartbeat config now) (t.startHeartbeat config now h) := by
  unfold HeartbeatState.startHeartbeat Timeouts.startHeartbeat
  split
  · exact hone
  · exact oneLoop_schedule (pending_stop hone.stored)

theorem OneLoop.restart (hone : OneLoop h t) :
    OneLoop ((HeartbeatState.fresh now).startHeartbeat config now)
      (t.restartHeartbeat config now) :=
  OneLoop.start hone.stop

/-- **Resuming starts a second loop beside a pending one.** -/
theorem oneLoop_resume_iff (hone : OneLoop h t) (hmax : h.maxDurationReached = false) :
    OneLoop (h.resumeHeartbeat config now) (t.resumeHeartbeat config now h) ↔
      t.pending = [] ∨ Ends config now (Timeouts.resumed now h) := by
  unfold HeartbeatState.resumeHeartbeat Timeouts.resumeHeartbeat
  rw [if_neg (by simp [hmax]), if_neg (by simp [hmax])]
  refine oneLoop_schedule_iff ⟨hone.atMostOne, hone.stored, fun hinactive => ?_⟩ rfl
  exact absurd hinactive (by simp)

end Functions

/-! ### One event at a time -/

section Events

variable {config} {m : Moment} {s : StaminadsSDK} {t : Timeouts}

theorem heartbeatState_persist : (s.persist m).heartbeatState = s.heartbeatState := by
  unfold StaminadsSDK.persist
  split <;> rfl

theorem heartbeatState_flushOnce : (s.flushOnce m).1.heartbeatState = s.heartbeatState := by
  unfold StaminadsSDK.flushOnce
  split
  · rfl
  · show (StaminadsSDK.persist m _).heartbeatState = s.heartbeatState
    rw [heartbeatState_persist]
    exact heartbeatState_updateScroll { s with flushed := true } m

theorem heartbeatState_addPageview (path : String) :
    (s.addPageview m path).heartbeatState = s.heartbeatState.resetPageActiveTime m.now := by
  show (s.updateScroll m).heartbeatState.resetPageActiveTime m.now = _
  rw [heartbeatState_updateScroll]

theorem heartbeatState_comeBack :
    (s.comeBack config m).heartbeatState =
      if !s.isPaused && !s.heartbeatState.maxDurationReached then
        s.heartbeatState.resumeHeartbeat config m.now
      else s.heartbeatState := by
  unfold StaminadsSDK.comeBack
  split <;> rfl

theorem OneLoop.congr {h h' : HeartbeatState} (hone : OneLoop h t)
    (hactive : h'.isActive = h.isActive) : OneLoop h' t :=
  ⟨hone.atMostOne, hone.stored, fun hinactive => hone.inactive (hactive ▸ hinactive)⟩

variable (config m) in
/-- What comes back keeps one loop when it resumes alone. -/
theorem oneLoop_comeBack_iff (hone : OneLoop s.heartbeatState t) :
    OneLoop (s.comeBack config m).heartbeatState (t.comeBack config m s) ↔
      (s.isPaused = false → s.heartbeatState.maxDurationReached = false →
        t.pending = [] ∨ Ends config m.now (Timeouts.resumed m.now s.heartbeatState)) := by
  rw [heartbeatState_comeBack]
  unfold Timeouts.comeBack
  by_cases hruns : (!s.isPaused && !s.heartbeatState.maxDurationReached) = true
  · rw [if_pos hruns, if_pos hruns]
    obtain ⟨hpaused, hmax⟩ := Bool.and_eq_true_iff.mp hruns
    rw [oneLoop_resume_iff hone (by simpa using hmax)]
    exact ⟨fun h _ _ => h, fun h => h (by simpa using hpaused) (by simpa using hmax)⟩
  · rw [if_neg hruns, if_neg hruns]
    refine ⟨fun _ hpaused hmax => absurd ?_ hruns, fun _ => hone⟩
    simp [hpaused, hmax]

/-- The events after which a loop that ran goes on, or is stopped or started anew. -/
theorem OneLoop.event (hone : OneLoop s.heartbeatState t) {e : SdkEvent}
    (haway : comesBack e = false) (hbeat : ∀ visible, e ≠ .heartbeat visible) :
    OneLoop (s.event config m e).1.heartbeatState (t.event config m s e) := by
  cases e with
  | visibilityChange hidden =>
      cases hidden with
      | false => simp [comesBack] at haway
      | true =>
          show OneLoop ((s.stop m).flushOnce m).1.heartbeatState t.stopHeartbeat
          exact hone.stop
  | focus => simp [comesBack] at haway
  | blur => exact hone.stop
  | freeze => exact hone.stop
  | unfreeze => simp [comesBack] at haway
  | unload =>
      show OneLoop (s.flushOnce m).1.heartbeatState t
      rw [heartbeatState_flushOnce]
      exact hone
  | pageShow persisted =>
      cases persisted with
      | false => exact hone
      | true => simp [comesBack] at haway
  | navigation path =>
      show OneLoop (s.onNavigation config m path).heartbeatState
        (if config.resetHeartbeatOnNavigation then t.restartHeartbeat config m.now else t)
      unfold StaminadsSDK.onNavigation
      rw [heartbeatState_persist]
      by_cases hreset : config.resetHeartbeatOnNavigation = true
      · rw [if_pos hreset, if_pos hreset]
        exact hone.restart
      · rw [if_neg hreset, if_neg hreset, heartbeatState_addPageview]
        exact hone.congr rfl
  | heartbeat visible => exact absurd rfl (hbeat visible)
  | debouncedSend => exact hone
  | sent =>
      show OneLoop (s.persist m).heartbeatState t
      rw [heartbeatState_persist]
      exact hone
  | trackPageView path =>
      show OneLoop ((s.addPageview m path).persist m).heartbeatState t
      rw [heartbeatState_persist, heartbeatState_addPageview]
      exact hone.congr rfl
  | trackGoal name value properties => exact hone
  | pause => exact hone.stop
  | resume => exact hone.restart

/-- A heartbeat that fires was the only one. -/
theorem oneLoop_heartbeat (hpending : t.pending = []) (visible : Bool) :
    OneLoop (s.event config m (.heartbeat visible)).1.heartbeatState
      (t.event config m s (.heartbeat visible)) := by
  show OneLoop (if s.shouldSendPing visible = true then s.onHeartbeat config m
    else (s, none)).1.heartbeatState (if s.shouldSendPing visible = true then _ else t)
  by_cases hping : s.shouldSendPing visible = true
  · rw [if_pos hping, if_pos hping]
    exact oneLoop_schedule hpending
  · rw [if_neg hping, if_neg hping]
    exact oneLoop_of_pending_nil hpending

/-- **An event keeps one loop exactly when what it resumes it resumes alone.** -/
theorem oneLoop_step_iff {l l' : Loop} {e : LoopEvent}
    (hone : OneLoop l.sdk.heartbeatState l.timeouts) (h : step config l e = some l') :
    OneLoop l'.sdk.heartbeatState l'.timeouts ↔ ResumesAlone config l e := by
  cases e with
  | fires m id visible =>
      by_cases hid : id ∈ l.timeouts.pending
      · obtain rfl := Option.some.inj ((if_pos hid).symm.trans h)
        refine ⟨fun _ => trivial, fun _ => ?_⟩
        exact oneLoop_heartbeat (t := (l.expire id).timeouts) (hone.expire hid) visible
      · exact nomatch (if_neg hid).symm.trans h
  | happens m e =>
      have hbeat : ∀ visible, e ≠ .heartbeat visible := fun visible heq => by
        subst heq
        exact nomatch h
      obtain rfl : l.event config m e = l' := by
        cases e with
        | heartbeat visible => exact absurd rfl (hbeat visible)
        | _ => exact Option.some.inj h
      by_cases hback : comesBack e = true
      · have hiff := oneLoop_comeBack_iff config m hone
        have hrest : ResumesAlone config l (.happens m e) ↔ _ :=
          ⟨fun hC => hC hback, fun hC _ => hC⟩
        rw [hrest, ← hiff]
        cases e with
        | visibilityChange hidden =>
            cases hidden with
            | false => exact Iff.rfl
            | true => simp [comesBack] at hback
        | pageShow persisted =>
            cases persisted with
            | false => simp [comesBack] at hback
            | true => exact Iff.rfl
        | _ => first | exact Iff.rfl | simp [comesBack] at hback
      · refine ⟨fun _ hback' => absurd hback' hback, fun _ => ?_⟩
        exact hone.event (by simpa using hback) hbeat

end Events

/-! ### Runs -/

theorem oneLoop_init (session : SessionStateConfig) (stored : Option SessionStateSnapshot)
    (path : String) (m : Moment) :
    OneLoop (Loop.init config session stored path m).sdk.heartbeatState
      (Loop.init config session stored path m).timeouts := by
  have hfresh : OneLoop { HeartbeatState.fresh m.now with activeStartTime := m.now }
      (Timeouts.mk none [] 1) := oneLoop_of_pending_nil rfl
  exact hfresh.start

/-- **There is one heartbeat loop along a run exactly when whatever resumes it resumes it
alone.** -/
theorem one_loop_iff (session : SessionStateConfig) (stored : Option SessionStateSnapshot)
    (path : String) (m : Moment) (es : List LoopEvent) :
    KeepsOneLoop config (Loop.init config session stored path m) es ↔
      Meets (step config) (ResumesAlone config) (Loop.init config session stored path m) es := by
  refine always_iff_meets (I := fun _ => True)
    (P := fun l => OneLoop l.sdk.heartbeatState l.timeouts) (fun _ _ _ _ _ => trivial)
    (fun l e l' _ hone h => oneLoop_step_iff hone h) (fun l e h => ?_) trivial
    (oneLoop_init config session stored path m)
  cases e with
  | fires m id visible => trivial
  | happens m e =>
      intro hback
      cases e with
      | heartbeat visible => simp [comesBack] at hback
      | _ => exact nomatch h

end Loops

/-! ### Two loops -/

namespace FocusExample

def config : HeartbeatConfig where
  firstTier := ⟨0, some 10000, some 7000⟩
  otherTiers := []
  heartbeatMaxDuration := 600000
  resetHeartbeatOnNavigation := false
  isMobileDevice := false

def loaded : Loop :=
  Loop.init config ⟨"ws_1", "s_1", 0⟩ none "/a" { now := 0 }

/-- The visitor leaves the tab and comes back to it, for which there are two events. -/
def returns : List LoopEvent :=
  [.happens { now := 1000 } (.visibilityChange true),
   .happens { now := 2000 } (.visibilityChange false),
   .happens { now := 2000 } .focus]

/-- **The page becomes visible and gets the focus, and two heartbeats are pending.** -/
theorem focus_starts_second_loop : ¬ KeepsOneLoop config loaded returns := by
  intro h
  have hone := h returns _ (List.prefix_refl _) rfl
  exact absurd hone.atMostOne (by decide +kernel)

end FocusExample

end Veridian.HeartbeatLoop
