/-
The time a page is given.

Beside the SDK runs a clock that sees everything: while the tracker is active, the time
that passes goes to the page opened last.  The stopwatch of the SDK agrees with it until a
handler loses some: resuming what runs already starts the page stopwatch anew, `resume()`
sets it to zero, a page that `finalizeForUnload` has closed is never written again however
long the visitor stays on it, and a navigation past the last action resets the time of the
page before.
-/
import Mathlib.Tactic.NormNum
import Veridian.Lib.Machine
import Veridian.Sdk.Heartbeat

namespace Veridian.PageTime

open Machine SessionState Sdk

/-! ### The clock beside the SDK -/

structure Watched where
  sdk : StaminadsSDK
  /-- The time of the last event. -/
  clock : Int
  /-- The page that is the current one, by its place among the actions. -/
  current : Option Nat
  /-- The time given to the page at a place. -/
  spent : Nat → ℚ
  /-- The last payload, and what had been spent when it was sent. -/
  last : Option (SessionPayload × (Nat → ℚ))

/-- The time since the last event goes to the current page while the tracker is active. -/
def Watched.elapse (w : Watched) (now : Int) : Nat → ℚ :=
  match w.current with
  | none => w.spent
  | some i =>
      if w.sdk.heartbeatState.isActive then
        Function.update w.spent i (w.spent i + (now - w.clock : Int))
      else w.spent

def opensPage : SdkEvent → Bool
  | .navigation _ => true
  | .trackPageView _ => true
  | _ => false

def HasRoom (s : StaminadsSDK) : Prop := s.sessionState.actions.length < MAX_ACTIONS

instance (s : StaminadsSDK) : Decidable (HasRoom s) := inferInstanceAs (Decidable (_ < _))

variable (config : HeartbeatConfig)

def Watched.event (w : Watched) (e : Moment × SdkEvent) : Watched :=
  let spent := w.elapse e.1.now
  let (sdk, payload) := w.sdk.event config e.1 e.2
  { sdk := sdk
    clock := e.1.now
    current :=
      if opensPage e.2 ∧ HasRoom w.sdk then some w.sdk.sessionState.actions.length else w.current
    spent := spent
    last := (payload.map fun p => (p, spent)).or w.last }

def step (w : Watched) (e : Moment × SdkEvent) : Option Watched := some (w.event config e)

/-- Pages of an earlier load count with what they were restored with. -/
def initialTime (state : SessionState) (i : Nat) : ℚ :=
  match state.actions[i]? with
  | some (.pageview a) => if state.currentPageIndex = some i then 0 else a.duration
  | _ => 0

/-- The SDK as it is initialised. -/
def Watched.init (session : SessionStateConfig) (stored : Option SessionStateSnapshot)
    (path : String) (m : Moment) : Watched :=
  let sdk := StaminadsSDK.init config m session stored path
  { sdk := sdk
    clock := m.now
    current := sdk.sessionState.currentPageIndex
    spent := initialTime sdk.sessionState
    last := none }

/-! ### The claim and its condition -/

/-- Every pageview of the last payload has the time spent on it as its duration. -/
def Exact (w : Watched) : Prop :=
  ∀ p spent, w.last = some (p, spent) →
    ∀ i a, p.actions[i]? = some (.pageview a) → a.duration = spent i

def comesBack : SdkEvent → Bool
  | .visibilityChange hidden => !hidden
  | .focus => true
  | .unfreeze => true
  | .pageShow persisted => persisted
  | _ => false

def durationOf : Action → Option ℚ
  | .pageview a => some a.duration
  | .goal _ => none

/-- What lies in the storage for `restore` has the times of the state. -/
def StoresTimes (s : StaminadsSDK) : Prop :=
  ∀ data ∈ s.stored.toList, data.sessionId = s.sessionState.config.sessionId →
    data.actions.map durationOf = s.sessionState.actions.map durationOf ∧
      data.currentPageIndex = s.sessionState.currentPageIndex

instance (s : StaminadsSDK) : Decidable (StoresTimes s) :=
  inferInstanceAs (Decidable (∀ data ∈ s.stored.toList, _ → _ ∧ _))

/-- A handler loses no time of the current page. -/
structure HandlesTime (s : StaminadsSDK) (now : Int) (e : SdkEvent) : Prop where
  /-- What is resumed has been stopped, or was started at this very instant. -/
  stopped : comesBack e = true → s.isPaused = false →
    s.heartbeatState.maxDurationReached = false → s.sessionState.currentPageIndex ≠ none →
    s.heartbeatState.isActive = true → s.heartbeatState.pageStartTime = now
  /-- The stopwatch is at zero when `resume()` resets it. -/
  reset : e = .resume → s.sessionState.currentPageIndex ≠ none →
    s.heartbeatState.getPageActiveMs now = 0
  /-- The page that is navigated to is added, or there is no time of another to lose. -/
  added : opensPage e = true → HasRoom s ∨ s.sessionState.currentPageIndex = none ∨
    s.heartbeatState.getPageActiveMs now = 0
  /-- What comes out of the storage has the times of the state. -/
  restored : e = .pageShow true → StoresTimes s

/-- No time of the current page is lost up to the end of the event. -/
structure KeepsTime (w : Watched) (e : Moment × SdkEvent) : Prop where
  /-- None passes while the tracker is active on a page that was closed already. -/
  closed : w.sdk.sessionState.currentPageIndex = none → w.current ≠ none →
    w.sdk.heartbeatState.isActive = true → e.1.now = w.clock
  handled : HandlesTime w.sdk e.1.now e.2

set_option synthInstance.maxSize 256 in
instance (s : StaminadsSDK) (now : Int) (e : SdkEvent) : Decidable (HandlesTime s now e) :=
  decidable_of_iff (_ ∧ _ ∧ _ ∧ _)
    ⟨fun h => ⟨h.1, h.2.1, h.2.2.1, h.2.2.2⟩, fun h => ⟨h.stopped, h.reset, h.added, h.restored⟩⟩

instance (w : Watched) (e : Moment × SdkEvent) : Decidable (KeepsTime w e) :=
  decidable_of_iff (_ ∧ _) ⟨fun h => ⟨h.1, h.2⟩, fun h => ⟨h.closed, h.handled⟩⟩

/-! ### The stopwatch -/

section Stopwatch

variable (h : HeartbeatState) (now : Int)

theorem pageActive_stop (accumulate : Bool) (hacc : h.isActive = true → accumulate = true) :
    (h.stopHeartbeat now accumulate).getPageActiveMs now = h.getPageActiveMs now := by
  unfold HeartbeatState.stopHeartbeat HeartbeatState.getPageActiveMs
  by_cases hactive : h.isActive = true
  · simp [hactive, hacc hactive]
  · simp [hactive]

theorem pageActive_scheduleNext :
    (h.scheduleNextHeartbeat config now).getPageActiveMs now = h.getPageActiveMs now := by
  have hstop : (HeartbeatState.stopHeartbeat now { h with maxDurationReached := true }
      true).getPageActiveMs now = h.getPageActiveMs now :=
    (pageActive_stop { h with maxDurationReached := true } now true fun _ => rfl).trans rfl
  unfold HeartbeatState.scheduleNextHeartbeat
  split
  · rfl
  · split
    · exact hstop
    · split
      · exact hstop
      · rfl

/-- A stopwatch that is started after a reset stands at zero. -/
theorem pageActive_fresh :
    ((HeartbeatState.fresh now).startHeartbeat config now).getPageActiveMs now = 0 := by
  unfold HeartbeatState.startHeartbeat
  rw [if_neg (by exact Bool.false_ne_true), pageActive_scheduleNext]
  show (0 : Int) + (if true then now - now else 0) = 0
  simp

/-- Resuming keeps the time of a stopwatch that stood still. -/
theorem pageActive_resume (hstopped : h.isActive = true → h.pageStartTime = now) :
    (h.resumeHeartbeat config now).getPageActiveMs now = h.getPageActiveMs now := by
  unfold HeartbeatState.resumeHeartbeat
  split
  · rfl
  · rw [pageActive_scheduleNext]
    show h.pageActiveMs + (if true then now - now else 0) =
      h.pageActiveMs + if h.isActive then now - h.pageStartTime else 0
    by_cases hactive : h.isActive = true
    · simp [hactive, hstopped hactive]
    · simp [hactive]

theorem pageActive_resetPage : (h.resetPageActiveTime now).getPageActiveMs now = 0 := by
  show (0 : Int) + (if h.isActive then now - now else 0) = 0
  simp

end Stopwatch

/-! ### The accounts -/

/-- What the state has recorded, with the stopwatch at `running`, is what was spent. -/
structure Sound (state : SessionState) (running : ℚ) (current : Option Nat) (spent : Nat → ℚ) :
    Prop where
  recorded : ∀ i a, state.actions[i]? = some (.pageview a) → state.currentPageIndex ≠ some i →
    a.duration = spent i
  running : ∀ i, state.currentPageIndex = some i → current = some i ∧ running = spent i
  beyond : ∀ i, state.actions.length ≤ i → spent i = 0
  current_lt : ∀ i, current = some i → i < state.actions.length

/-- The durations of a payload are what was spent. -/
def ExactAs (spent : Nat → ℚ) (actions : List Action) : Prop :=
  ∀ i a, actions[i]? = some (.pageview a) → a.duration = spent i

section Accounts

variable {state : SessionState} {running : ℚ} {current : Option Nat} {spent : Nat → ℚ}

theorem Sound.onCurrentPage (h : Sound state running current spent)
    (f : PageviewAction → PageviewAction) :
    Sound (state.onCurrentPage f) running current spent where
  recorded i a ha hindex := by
    rw [currentPageIndex_onCurrentPage] at hindex
    rw [getElem?_onCurrentPage] at ha
    simp only [if_neg hindex, Option.map_id'] at ha
    exact h.recorded i a ha hindex
  running i hi := h.running i (by rwa [currentPageIndex_onCurrentPage] at hi)
  beyond i hi := h.beyond i (by rwa [length_onCurrentPage] at hi)
  current_lt i hi := by
    rw [length_onCurrentPage]
    exact h.current_lt i hi

/-- **Once the current page is closed with what the stopwatch shows, all durations are right.** -/
theorem Sound.exactAs_closed (h : Sound state running current spent) (now : Int) :
    ExactAs spent (state.onCurrentPage (closePage now running)).actions := by
  intro i a ha
  by_cases hindex : state.currentPageIndex = some i
  · rw [getElem?_onCurrentPage] at ha
    simp only [if_pos hindex] at ha
    obtain ⟨b, -, hb⟩ := Option.map_eq_some_iff.mp ha
    cases b with
    | pageview b =>
        obtain rfl := Action.pageview.inj hb
        exact (h.running i hindex).2
    | goal b => exact absurd hb (by simp [Action.onPageview])
  · exact (h.onCurrentPage _).recorded i a ha (by rwa [currentPageIndex_onCurrentPage])

theorem Sound.finalizeForUnload (h : Sound state running current spent) (now : Int)
    (running' : ℚ) : Sound (state.finalizeForUnload now running) running' current spent where
  recorded i a ha _ := h.exactAs_closed now i a ha
  running _ hi := nomatch hi
  beyond := (h.onCurrentPage (closePage now running)).beyond
  current_lt := (h.onCurrentPage (closePage now running)).current_lt

theorem Sound.addPageview (h : Sound state running current spent)
    (hroom : state.actions.length < MAX_ACTIONS) (path : String) (now : Int) :
    Sound (state.addPageview path now running) 0 (some state.actions.length) spent := by
  have hlength : (state.finalizeCurrentPageDuration now running).actions.length =
      state.actions.length := length_onCurrentPage state _
  unfold SessionState.addPageview
  rw [dif_pos hroom]
  refine ⟨fun i a ha hindex => ?_, fun i hi => ?_, fun i hi => ?_, fun i hi => ?_⟩
  · change (_ ++ [_])[i]? = _ at ha
    have hi : i ≠ (state.finalizeCurrentPageDuration now running).actions.length :=
      fun hc => hindex (congrArg some hc.symm)
    by_cases hlt : i < (state.finalizeCurrentPageDuration now running).actions.length
    · rw [List.getElem?_append_left hlt] at ha
      exact h.exactAs_closed now i a ha
    · rw [List.getElem?_eq_none (by rw [List.length_append, List.length_singleton]; omega)] at ha
      exact absurd ha (by simp)
  · obtain rfl := Option.some.inj hi
    exact ⟨congrArg some hlength.symm, (h.beyond _ (by rw [hlength])).symm⟩
  · change (_ ++ [_]).length ≤ i at hi
    rw [List.length_append, hlength] at hi
    exact h.beyond i (by omega)
  · obtain rfl := Option.some.inj hi
    show _ < (_ ++ [_]).length
    rw [List.length_append, hlength]
    exact Nat.lt_succ_self _

/-- A stopwatch at another time, where no page is open. -/
theorem Sound.of_running (h : Sound state running current spent) {running' : ℚ}
    (hrunning : state.currentPageIndex = none ∨ running' = running) :
    Sound state running' current spent := by
  refine ⟨h.recorded, fun i hi => ?_, h.beyond, h.current_lt⟩
  rcases hrunning with hnone | rfl
  · exact absurd (hnone.symm.trans hi) (by simp)
  · exact h.running i hi

theorem Sound.addGoal (h : Sound state running current spent) (name : String) (value : Option ℚ)
    (properties : Option (List (String × String))) (now : Int) :
    Sound (state.addGoal name value properties now).2 running current spent := by
  by_cases hroom : state.actions.length < MAX_ACTIONS
  · rw [addGoal_of_room hroom]
    refine ⟨fun i a ha hindex => ?_, h.running, fun i hi => ?_, fun i hi => ?_⟩
    · change (state.actions ++ [_])[i]? = _ at ha
      by_cases hlt : i < state.actions.length
      · rw [List.getElem?_append_left hlt] at ha
        exact h.recorded i a ha hindex
      · rw [List.getElem?_append_right (by omega), List.getElem?_singleton] at ha
        split at ha <;> exact absurd ha (by simp)
    · change (state.actions ++ [_]).length ≤ i at hi
      rw [List.length_append] at hi
      exact h.beyond i (by omega)
    · show i < (state.actions ++ [_]).length
      rw [List.length_append]
      exact Nat.lt_add_right _ (h.current_lt i hi)
  · have hsame : (state.addGoal name value properties now).2 = state := by
      unfold SessionState.addGoal
      rw [dif_neg hroom]
    rw [hsame]
    exact h

/-- Actions with the same durations, and the same current page. -/
theorem Sound.of_durations (h : Sound state running current spent) {state' : SessionState}
    (hdurations : state'.actions.map durationOf = state.actions.map durationOf)
    (hindex : state'.currentPageIndex = state.currentPageIndex) :
    Sound state' running current spent := by
  have hlength : state'.actions.length = state.actions.length := by
    have hmap := congrArg List.length hdurations
    rwa [List.length_map, List.length_map] at hmap
  refine ⟨fun i a ha hne => ?_, fun i hi => h.running i (hindex ▸ hi),
    fun i hi => h.beyond i (hlength ▸ hi), fun i hi => hlength.symm ▸ h.current_lt i hi⟩
  have hat := congrArg (·[i]?) hdurations
  simp only [List.getElem?_map, ha, Option.map_some] at hat
  obtain ⟨b, hb, hduration⟩ := Option.map_eq_some_iff.mp hat.symm
  cases b with
  | pageview b =>
      have hsame : b.duration = a.duration := Option.some.inj hduration
      rw [← hsame]
      exact h.recorded i b hb (hindex ▸ hne)
  | goal b => exact absurd hduration (by simp [durationOf])

end Accounts

/-! ### One handler -/

/-- The accounts of the SDK, its stopwatch read at the moment `m`. -/
def SoundAt (s : StaminadsSDK) (m : Moment) (current : Option Nat) (spent : Nat → ℚ) : Prop :=
  Sound s.sessionState (s.focusMs m) current spent

section Handlers

variable {s : StaminadsSDK} {m : Moment} {current : Option Nat} {spent : Nat → ℚ}

theorem heartbeatState_updateScroll (s : StaminadsSDK) (m : Moment) :
    (s.updateScroll m).heartbeatState = s.heartbeatState := by
  unfold StaminadsSDK.updateScroll
  split <;> rfl

theorem soundAt_updateScroll (h : SoundAt s m current spent) :
    SoundAt (s.updateScroll m) m current spent := by
  unfold StaminadsSDK.updateScroll
  split
  · exact h
  · exact Sound.onCurrentPage h _

theorem soundAt_persist (h : SoundAt s m current spent) :
    SoundAt (s.persist m) m current spent := by
  unfold StaminadsSDK.persist
  split <;> exact h

theorem soundAt_stop (h : SoundAt s m current spent) : SoundAt (s.stop m) m current spent := by
  refine Sound.of_running h (Or.inr ?_)
  exact congrArg (fun n : Int => (n : ℚ)) (pageActive_stop _ _ _ fun _ => rfl)

theorem soundAt_sendPayload (h : SoundAt s m current spent) :
    SoundAt (s.sendPayload m).1 m current spent ∧
      ∀ p, (s.sendPayload m).2 = some p → ExactAs spent p.actions := by
  refine ⟨Sound.onCurrentPage h _, fun p hp => ?_⟩
  obtain rfl := Option.some.inj hp
  exact Sound.exactAs_closed h m.now

/-- What the handlers that come back need, in the state they are called in. -/
theorem soundAt_comeBack (h : SoundAt s m current spent)
    (hstopped : s.isPaused = false → s.heartbeatState.maxDurationReached = false →
      s.sessionState.currentPageIndex ≠ none → s.heartbeatState.isActive = true →
      s.heartbeatState.pageStartTime = m.now) :
    SoundAt (s.comeBack config m) m current spent := by
  unfold StaminadsSDK.comeBack
  by_cases hruns : (!s.isPaused && !s.heartbeatState.maxDurationReached) = true
  · rw [if_pos hruns]
    obtain ⟨hpaused, hmax⟩ := Bool.and_eq_true_iff.mp hruns
    rw [Bool.not_eq_true'] at hpaused hmax
    refine Sound.of_running h ?_
    by_cases hindex : s.sessionState.currentPageIndex = none
    · exact Or.inl hindex
    · refine Or.inr (congrArg (fun n : Int => (n : ℚ)) ?_)
      exact pageActive_resume config _ _ (hstopped hpaused hmax hindex)
  · rw [if_neg hruns]
    exact h

theorem soundAt_flushOnce (h : SoundAt s m current spent) :
    SoundAt (s.flushOnce m).1 m current spent ∧
      ∀ p, (s.flushOnce m).2 = some p → ExactAs spent p.actions := by
  unfold StaminadsSDK.flushOnce
  split
  · exact ⟨h, fun p hp => absurd hp (by simp)⟩
  · have hscrolled : SoundAt (StaminadsSDK.updateScroll m { s with flushed := true }) m current
        spent := soundAt_updateScroll (s := { s with flushed := true }) h
    have hclosed := Sound.finalizeForUnload hscrolled m.now
      (StaminadsSDK.focusMs m (StaminadsSDK.updateScroll m { s with flushed := true }))
    obtain ⟨hsent, hpayload⟩ := soundAt_sendPayload (s :=
      { StaminadsSDK.updateScroll m { s with flushed := true } with sessionState := _ }) hclosed
    exact ⟨soundAt_persist hsent, hpayload⟩

/-- The place of the current page after an event. -/
def currentAfter (s : StaminadsSDK) (current : Option Nat) : Option Nat :=
  if HasRoom s then some s.sessionState.actions.length else current

theorem soundAt_addPageview (h : SoundAt s m current spent) (path : String)
    (hadded : HasRoom s ∨ s.sessionState.currentPageIndex = none ∨
      s.heartbeatState.getPageActiveMs m.now = 0) :
    SoundAt (s.addPageview m path) m (currentAfter s current) spent ∧
      ((s.addPageview m path).sessionState.currentPageIndex = none ∨
        (s.addPageview m path).focusMs m = 0) := by
  have hscrolled := soundAt_updateScroll h
  have hzero : (s.addPageview m path).focusMs m = 0 := by
    show (((HeartbeatState.resetPageActiveTime m.now _).getPageActiveMs m.now : Int) : ℚ) = 0
    rw [pageActive_resetPage]
    rfl
  have hlength : (s.updateScroll m).sessionState.actions.length = s.sessionState.actions.length := by
    unfold StaminadsSDK.updateScroll
    split
    · rfl
    · exact length_onCurrentPage _ _
  have hindex : (s.updateScroll m).sessionState.currentPageIndex =
      s.sessionState.currentPageIndex := by
    unfold StaminadsSDK.updateScroll
    split
    · rfl
    · exact currentPageIndex_onCurrentPage _
  refine ⟨?_, Or.inr hzero⟩
  unfold SoundAt
  rw [hzero, currentAfter]
  by_cases hroom : HasRoom s
  · rw [if_pos hroom, ← hlength]
    exact Sound.addPageview hscrolled (hlength.symm ▸ hroom) path m.now
  · rw [if_neg hroom]
    have hsame : (s.addPageview m path).sessionState = (s.updateScroll m).sessionState := by
      show SessionState.addPageview _ path m.now _ = _
      unfold SessionState.addPageview
      rw [dif_neg (by rw [hlength]; exact hroom)]
    rw [hsame]
    refine Sound.of_running hscrolled ?_
    rcases hadded.resolve_left hroom with hnone | hnot
    · exact Or.inl (hindex.trans hnone)
    · refine Or.inr ?_
      unfold StaminadsSDK.focusMs
      rw [heartbeatState_updateScroll, hnot]
      rfl

theorem soundAt_fresh (h : SoundAt s m current spent)
    (hreset : s.sessionState.currentPageIndex = none ∨ s.focusMs m = 0) :
    SoundAt { s with heartbeatState := (HeartbeatState.fresh m.now).startHeartbeat config m.now } m
      current spent := by
  refine Sound.of_running h (hreset.imp_right fun hzero => ?_)
  rw [hzero]
  show (((HeartbeatState.startHeartbeat config m.now _).getPageActiveMs m.now : Int) : ℚ) = 0
  rw [pageActive_fresh]
  rfl

theorem soundAt_heartbeat (h : SoundAt s m current spent) :
    SoundAt (s.onHeartbeat config m).1 m current spent ∧
      ∀ p, (s.onHeartbeat config m).2 = some p → ExactAs spent p.actions := by
  obtain ⟨hsent, hpayload⟩ := soundAt_sendPayload (soundAt_updateScroll h)
  have hheartbeat : ((s.updateScroll m).sendPayload m).1.heartbeatState = s.heartbeatState :=
    heartbeatState_updateScroll s m
  refine ⟨Sound.of_running hsent (Or.inr ?_), hpayload⟩
  refine congrArg (fun n : Int => (n : ℚ)) ((pageActive_scheduleNext config _ _).trans ?_)
  rw [hheartbeat]
  rfl

theorem soundAt_restore (h : SoundAt s m current spent)
    (hrestored : StoresTimes s) :
    SoundAt { s with
      sessionState := (s.sessionState.restore s.stored).1
      stored := (s.sessionState.restore s.stored).2 } m current spent := by
  cases hstored : s.stored with
  | none => exact h
  | some data =>
      by_cases hsession : data.sessionId = s.sessionState.config.sessionId
      · rw [restore_of_eq hsession]
        have hmem : data ∈ s.stored.toList := Option.mem_toList.mpr hstored
        obtain ⟨hdurations, hindex⟩ := hrestored data hmem hsession
        exact Sound.of_durations h hdurations hindex
      · rw [restore_of_ne hsession]
        exact h

end Handlers

/-! ### One event -/

theorem sound_event {s : StaminadsSDK} {m : Moment} {current : Option Nat} {spent : Nat → ℚ}
    {e : SdkEvent} (h : SoundAt s m current spent) (hkeeps : HandlesTime s m.now e) :
    SoundAt (s.event config m e).1 m
        (if opensPage e ∧ HasRoom s then some s.sessionState.actions.length else current) spent ∧
      ∀ p, (s.event config m e).2 = some p → ExactAs spent p.actions := by
  have hquiet : ∀ {s' : StaminadsSDK}, SoundAt s' m current spent → SoundAt s' m current spent ∧
      ∀ p, (none : Option SessionPayload) = some p → ExactAs spent p.actions :=
    fun hs => ⟨hs, fun _ hp => nomatch hp⟩
  have hplace : opensPage e = false →
      (if opensPage e ∧ HasRoom s then some s.sessionState.actions.length else current) =
        current := fun hno => if_neg fun hc => Bool.false_ne_true (hno.symm.trans hc.1)
  have hopened : opensPage e = true →
      (if opensPage e ∧ HasRoom s then some s.sessionState.actions.length else current) =
        currentAfter s current := by
    intro hyes
    unfold currentAfter
    rw [hyes]
    simp
  cases e with
  | visibilityChange hidden =>
      rw [hplace rfl]
      cases hidden with
      | true => exact soundAt_flushOnce (soundAt_stop h)
      | false => exact hquiet (soundAt_comeBack config h (hkeeps.stopped rfl))
  | focus =>
      rw [hplace rfl]
      exact hquiet (soundAt_comeBack config h (hkeeps.stopped rfl))
  | blur =>
      rw [hplace rfl]
      exact soundAt_flushOnce (soundAt_stop h)
  | freeze =>
      rw [hplace rfl]
      exact soundAt_flushOnce (soundAt_stop h)
  | unfreeze =>
      rw [hplace rfl]
      exact hquiet (soundAt_comeBack config h (hkeeps.stopped rfl))
  | unload =>
      rw [hplace rfl]
      exact soundAt_flushOnce h
  | pageShow persisted =>
      rw [hplace rfl]
      cases persisted with
      | false => exact hquiet h
      | true =>
          have hback := soundAt_comeBack config h (hkeeps.stopped rfl)
          have hframe : (s.comeBack config m).sessionState = s.sessionState ∧
              (s.comeBack config m).stored = s.stored := by
            unfold StaminadsSDK.comeBack
            split <;> exact ⟨rfl, rfl⟩
          refine hquiet (soundAt_restore hback ?_)
          unfold StoresTimes
          rw [hframe.1, hframe.2]
          exact hkeeps.restored rfl
  | navigation path =>
      rw [hopened rfl]
      obtain ⟨hadded, hzero⟩ := soundAt_addPageview h path (hkeeps.added rfl)
      refine ⟨soundAt_persist ?_, fun _ hp => nomatch hp⟩
      show SoundAt (if config.resetHeartbeatOnNavigation then _ else _) m _ spent
      split
      · exact soundAt_fresh config hadded hzero
      · exact hadded
  | heartbeat visible =>
      rw [hplace rfl]
      by_cases hping : s.shouldSendPing visible = true
      · rw [StaminadsSDK.event, if_pos hping]
        exact soundAt_heartbeat config h
      · rw [StaminadsSDK.event, if_neg hping]
        exact hquiet h
  | debouncedSend =>
      rw [hplace rfl]
      exact soundAt_sendPayload h
  | sent =>
      rw [hplace rfl]
      exact hquiet (soundAt_persist h)
  | trackPageView path =>
      rw [hopened rfl]
      obtain ⟨hadded, -⟩ := soundAt_addPageview h path (hkeeps.added rfl)
      exact ⟨soundAt_persist hadded, fun _ hp => nomatch hp⟩
  | trackGoal name value properties =>
      rw [hplace rfl]
      exact soundAt_sendPayload (s := { s with sessionState := _ })
        (Sound.addGoal h name value properties m.now)
  | pause =>
      rw [hplace rfl]
      exact hquiet (soundAt_stop h)
  | resume =>
      rw [hplace rfl]
      refine hquiet (soundAt_fresh config (s := s) h ?_)
      by_cases hindex : s.sessionState.currentPageIndex = none
      · exact Or.inl hindex
      · refine Or.inr ?_
        unfold StaminadsSDK.focusMs
        rw [hkeeps.reset rfl hindex]
        rfl

/-! ### Time passes -/

/-- The accounts of a watched SDK, at the time of the last event. -/
def Balanced (w : Watched) : Prop :=
  Sound w.sdk.sessionState (w.sdk.heartbeatState.getPageActiveMs w.clock : ℚ) w.current w.spent

theorem pageActive_later (h : HeartbeatState) (clock now : Int) :
    h.getPageActiveMs now = h.getPageActiveMs clock + if h.isActive then now - clock else 0 := by
  unfold HeartbeatState.getPageActiveMs
  split <;> omega

/-- **While time passes the stopwatch and the clock beside it go alike.** -/
theorem sound_elapse {w : Watched} (h : Balanced w) {m : Moment}
    (hclosed : w.sdk.sessionState.currentPageIndex = none → w.current ≠ none →
      w.sdk.heartbeatState.isActive = true → m.now = w.clock) :
    SoundAt w.sdk m w.current (w.elapse m.now) := by
  unfold SoundAt StaminadsSDK.focusMs
  rw [pageActive_later _ w.clock]
  by_cases hactive : w.sdk.heartbeatState.isActive = true
  · rw [if_pos hactive]
    cases hcurrent : w.current with
    | none =>
        have helapse : w.elapse m.now = w.spent := by
          unfold Watched.elapse
          rw [hcurrent]
        rw [helapse, ← hcurrent]
        refine Sound.of_running h (Or.inl ?_)
        by_contra hne
        obtain ⟨i, hi⟩ := Option.ne_none_iff_exists'.mp hne
        have hplace := (h.running i hi).1
        rw [hcurrent] at hplace
        exact absurd hplace (by simp)
    | some i =>
        have helapse : w.elapse m.now =
            Function.update w.spent i (w.spent i + (m.now - w.clock : Int)) := by
          unfold Watched.elapse
          rw [hcurrent]
          exact if_pos hactive
        rw [helapse]
        have hlt := h.current_lt i hcurrent
        refine ⟨fun j a ha hne => ?_, fun j hj => ?_, fun j hj => ?_, fun j hj => ?_⟩
        · -- a page that was closed has not been given any time
          by_cases hji : j = i
          · subst hji
            have hnone : w.sdk.sessionState.currentPageIndex = none := by
              by_contra hsome
              obtain ⟨k, hk⟩ := Option.ne_none_iff_exists'.mp hsome
              have hplace := Option.some.inj (hcurrent.symm.trans (h.running k hk).1)
              exact hne (hplace ▸ hk)
            have hnow := hclosed hnone (by simp [hcurrent]) hactive
            rw [Function.update_self, hnow, sub_self, h.recorded j a ha hne]
            simp
          · rw [Function.update_of_ne hji]
            exact h.recorded j a ha hne
        · obtain ⟨hplace, hrunning⟩ := h.running j hj
          obtain rfl : i = j := Option.some.inj (hcurrent.symm.trans hplace)
          refine ⟨rfl, ?_⟩
          rw [Function.update_self, ← hrunning]
          exact Int.cast_add _ _
        · rw [Function.update_of_ne (by omega)]
          exact h.beyond j hj
        · exact (Option.some.inj hj) ▸ hlt
  · have helapse : w.elapse m.now = w.spent := by
      unfold Watched.elapse
      split
      · rfl
      · exact if_neg hactive
    rw [if_neg hactive, add_zero, helapse]
    exact h

/-! ### Whole runs -/

theorem balanced_event {w : Watched} {e : Moment × SdkEvent} (h : Balanced w ∧ Exact w)
    (hkeeps : KeepsTime w e) : Balanced (w.event config e) ∧ Exact (w.event config e) := by
  obtain ⟨hbalanced, hpayload⟩ := sound_event config (sound_elapse h.1 hkeeps.closed)
    hkeeps.handled
  refine ⟨hbalanced, fun p spent hlast => ?_⟩
  cases hsent : (w.sdk.event config e.1 e.2).2 with
  | none =>
      refine h.2 p spent ?_
      rw [← hlast]
      show _ = ((w.sdk.event config e.1 e.2).2.map _).or w.last
      rw [hsent]
      rfl
  | some q =>
      have hpair : some (q, w.elapse e.1.now) = some (p, spent) := by
        rw [← hlast]
        show _ = ((w.sdk.event config e.1 e.2).2.map _).or w.last
        rw [hsent]
        rfl
      obtain ⟨rfl, rfl⟩ := Prod.mk.inj (Option.some.inj hpair)
      exact hpayload q hsent

theorem balanced_init (session : SessionStateConfig) (stored : Option SessionStateSnapshot)
    (path : String) (m : Moment) : Balanced (Watched.init config session stored path m) := by
  have hzero : (StaminadsSDK.init config m session stored path).heartbeatState.getPageActiveMs
      m.now = 0 := by
    show (HeartbeatState.startHeartbeat config m.now _).getPageActiveMs m.now = 0
    unfold HeartbeatState.startHeartbeat
    rw [if_neg (by exact Bool.false_ne_true), pageActive_scheduleNext]
    show (0 : Int) + (if true then m.now - m.now else 0) = 0
    simp
  have hpoints := (StaminadsSDK.init config m session stored path).sessionState.points
  unfold Balanced Watched.init
  dsimp only
  rw [hzero]
  refine ⟨fun i a ha hne => ?_, fun i hi => ⟨hi, ?_⟩, fun i hi => ?_, fun i hi => ?_⟩
  · unfold initialTime
    rw [ha]
    exact (if_neg hne).symm
  · obtain ⟨a, ha⟩ := hpoints i hi
    unfold initialTime
    rw [ha]
    exact (if_pos hi).symm
  · unfold initialTime
    rw [List.getElem?_eq_none hi]
  · obtain ⟨a, ha⟩ := hpoints i hi
    exact (List.getElem?_eq_some_iff.mp ha).1

/-- **In a run that loses no time, every payload gives each page the time spent on it.** -/
theorem page_time_exact (session : SessionStateConfig) (stored : Option SessionStateSnapshot)
    (path : String) (m : Moment) {events : List (Moment × SdkEvent)} {w : Watched}
    (hrun : exec (step config) (Watched.init config session stored path m) events = some w)
    (hkeeps : Meets (step config) KeepsTime (Watched.init config session stored path m) events) :
    Exact w := by
  refine (exec_invariant_of_meets (P := fun w => Balanced w ∧ Exact w) (fun w e w' h hC hstep =>
    Option.some.inj hstep ▸ balanced_event config h hC)
    ⟨balanced_init config session stored path m, ?_⟩ hkeeps hrun).2
  exact fun p spent hlast => nomatch hlast

namespace VisitExample

def heartbeatConfig : HeartbeatConfig := ⟨⟨0, some 10000, some 7000⟩, [], 0, false, false⟩

def session : SessionStateConfig := ⟨"w", "s", 0⟩

/-- The SDK is initialised on the first page. -/
def opened : Watched := Watched.init heartbeatConfig session none "/a" { now := 0 }

/-- A page for four seconds, a second one until the window loses the focus, and a third one
that is opened before it gets the focus back. -/
def visit : List (Moment × SdkEvent) :=
  [({ now := 4000 }, .navigation "/b"), ({ now := 9000 }, .heartbeat true),
    ({ now := 9500 }, .blur), ({ now := 9800 }, .navigation "/c"), ({ now := 10000 }, .focus),
    ({ now := 11000 }, .debouncedSend)]

theorem page_time_exact_visit : ∃ w,
    exec (step heartbeatConfig) opened visit = some w ∧ Exact w := by
  obtain ⟨w, hw⟩ : ∃ w, exec (step heartbeatConfig) opened visit = some w := ⟨_, rfl⟩
  exact ⟨w, hw, page_time_exact heartbeatConfig session none "/a" _ hw (by decide)⟩

/-- The window loses the focus after a second and gets it back for three more. -/
def interrupted : List (Moment × SdkEvent) :=
  [({ now := 1000 }, .blur), ({ now := 2000 }, .focus), ({ now := 5000 }, .debouncedSend)]

/-- The three seconds after the focus came back are not counted. -/
theorem focus_regained_lost : ∃ w,
    exec (step heartbeatConfig) opened interrupted = some w ∧ ¬Exact w := by
  obtain ⟨w, hw⟩ : ∃ w, exec (step heartbeatConfig) opened interrupted = some w := ⟨_, rfl⟩
  obtain ⟨p, spent, hlast, ha, hspent⟩ : ∃ p spent, w.last = some (p, spent) ∧
      p.actions[0]? = some (.pageview ⟨"/a", 1, ((1000 : Int) : ℚ), 0, 0, 1000⟩) ∧
      spent 0 = 0 + ((1000 : Int) : ℚ) + ((3000 : Int) : ℚ) := by
    obtain rfl := Option.some.inj hw
    exact ⟨_, _, rfl, rfl, rfl⟩
  refine ⟨w, hw, fun h => ?_⟩
  have hexact := h p spent hlast 0 _ ha
  rw [hspent] at hexact
  norm_num at hexact

end VisitExample

end Veridian.PageTime
