/-
What every run of a `SessionState` keeps.

The pages of a session are numbered in the order they were opened, the index is null or of a
page, and how far a page was scrolled is a percentage that only grows.  Actions stay where
they were added: only `restore` takes any away, for it puts back what was persisted last.
-/
import Mathlib.Tactic.NormNum
import Veridian.Sdk.Tabs

namespace Veridian.SessionRuns

open Machine SessionState Tabs

/-! ### Numbers -/

/-- What `updateScroll` may be given. -/
inductive Number where
  | nan
  | negInfinity
  | finite (x : ℚ)
  | infinity
  deriving DecidableEq

/-- `Math.min` -/
def Number.min : Number → Number → Number
  | .nan, _ => .nan
  | _, .nan => .nan
  | .negInfinity, _ => .negInfinity
  | _, .negInfinity => .negInfinity
  | .infinity, y => y
  | x, .infinity => x
  | .finite x, .finite y => .finite (Min.min x y)

/-- `Math.max` -/
def Number.max : Number → Number → Number
  | .nan, _ => .nan
  | _, .nan => .nan
  | .infinity, _ => .infinity
  | _, .infinity => .infinity
  | .negInfinity, y => y
  | x, .negInfinity => x
  | .finite x, .finite y => .finite (Max.max x y)

example : [Number.nan, .negInfinity, .finite 130].map
    (fun scrollPercent => Number.max (.finite 0) (Number.min (.finite 100) scrollPercent)) =
      [.nan, .finite 0, .finite 100] := by
  decide +kernel

/-- The write of `updateScroll`; a comparison with `NaN` is false. -/
def scrollToNumber (scrollPercent : Number) (a : PageviewAction) : PageviewAction :=
  match Number.max (.finite 0) (Number.min (.finite 100) scrollPercent) with
  | .finite clamped => if a.scroll < clamped then { a with scroll := clamped } else a
  | _ => a

/-- Any number scrolls to a percentage, or nowhere. -/
theorem scrollToNumber_eq (scrollPercent : Number) (a : PageviewAction) :
    scrollToNumber scrollPercent a = a ∨ ∃ x, scrollToNumber scrollPercent a = scrollTo x a := by
  cases scrollPercent with
  | nan => exact Or.inl rfl
  | negInfinity => exact Or.inr ⟨0, rfl⟩
  | finite x => exact Or.inr ⟨x, rfl⟩
  | infinity => exact Or.inr ⟨100, rfl⟩

/-! ### Calls -/

inductive Call where
  | addPageview (path : String) (now : Int) (focusMs : ℚ)
  | updateScroll (scrollPercent : Number)
  | addGoal (name : String) (value : Option ℚ) (properties : Option (List (String × String)))
      (now : Int)
  | buildPayload (attributes : SessionAttributes) (options : PayloadOptions) (now : Int)
      (focusMs : ℚ)
  | finalizeForUnload (now : Int) (focusMs : ℚ)
  /-- `setItem` may throw. -/
  | persist (throws : Bool)
  | restore

/-- A `SessionState` and what `sessionStorage` has for it. -/
structure Held where
  state : SessionState
  stored : Option SessionStateSnapshot

def Held.new (config : SessionStateConfig) (stored : Option SessionStateSnapshot) : Held :=
  ⟨.new config, stored⟩

def Held.call (t : Held) : Call → Held
  | .addPageview path now focusMs => { t with state := t.state.addPageview path now focusMs }
  | .updateScroll scrollPercent =>
      { t with state := t.state.onCurrentPage (scrollToNumber scrollPercent) }
  | .addGoal name value properties now =>
      { t with state := (t.state.addGoal name value properties now).2 }
  | .buildPayload attributes options now focusMs =>
      { t with state := (t.state.buildPayload attributes options now focusMs).2 }
  | .finalizeForUnload now focusMs => { t with state := t.state.finalizeForUnload now focusMs }
  | .persist throws => if throws then t else { t with stored := some t.state.persist }
  | .restore => ⟨(t.state.restore t.stored).1, (t.state.restore t.stored).2⟩

def step (t : Held) (c : Call) : Option Held := some (t.call c)

/-- What the storage may have when a state is made: of its own session, only what a state of
that session has persisted. -/
inductive StoredBy (sessionId : String) : Option SessionStateSnapshot → Prop
  | nothing : StoredBy sessionId none
  | other {data : SessionStateSnapshot} (h : data.sessionId ≠ sessionId) :
      StoredBy sessionId (some data)
  | run {config : SessionStateConfig} {stored : Option SessionStateSnapshot} {calls : List Call}
      {t : Held} (hid : config.sessionId = sessionId) (hstored : StoredBy sessionId stored)
      (h : exec step (Held.new config stored) calls = some t) : StoredBy sessionId t.stored

/-! ### What is kept -/

def Increasing (actions : List Action) : Prop :=
  (actions.filterMap Action.pageNumber?).Pairwise (· < ·)

def ScrollsInRange (actions : List Action) : Prop :=
  ∀ a, .pageview a ∈ actions → 0 ≤ a.scroll ∧ a.scroll ≤ 100

structure WellFormed (s : SessionState) : Prop where
  capacity : s.actions.length ≤ 1000
  increasing : Increasing s.actions
  index : PointsAtPage s.actions s.currentPageIndex
  scrolls : ScrollsInRange s.actions

/-- An action later in its life: of a page, the duration, the exit and the scroll may be
others, the scroll no smaller one. -/
def GrowsTo : Action → Action → Prop
  | .pageview a, .pageview b =>
      a.path = b.path ∧ a.pageNumber = b.pageNumber ∧ a.enteredAt = b.enteredAt ∧
        a.scroll ≤ b.scroll
  | .goal a, .goal b => a = b
  | _, _ => False

/-- The earlier actions are all there, in their places. -/
def Extends (actions actions' : List Action) : Prop :=
  ∀ (i : Nat) (a : Action), actions[i]? = some a → ∃ b, actions'[i]? = some b ∧ GrowsTo a b

theorem growsTo_refl (a : Action) : GrowsTo a a := by
  cases a with
  | pageview a => exact ⟨rfl, rfl, rfl, le_refl _⟩
  | goal a => rfl

theorem growsTo_trans {a b c : Action} (hab : GrowsTo a b) (hbc : GrowsTo b c) : GrowsTo a c := by
  cases a with
  | pageview a =>
      cases b with
      | goal b => exact hab.elim
      | pageview b =>
          cases c with
          | goal c => exact hbc.elim
          | pageview c =>
              exact ⟨hab.1.trans hbc.1, hab.2.1.trans hbc.2.1, hab.2.2.1.trans hbc.2.2.1,
                hab.2.2.2.trans hbc.2.2.2⟩
  | goal a =>
      cases b with
      | pageview b => exact hab.elim
      | goal b =>
          obtain rfl : a = b := hab
          exact hbc

theorem extends_refl (actions : List Action) : Extends actions actions :=
  fun _ a ha => ⟨a, ha, growsTo_refl a⟩

theorem Extends.trans {a b c : List Action} (hab : Extends a b) (hbc : Extends b c) :
    Extends a c := by
  intro i x hx
  obtain ⟨y, hy, hxy⟩ := hab i x hx
  obtain ⟨z, hz, hyz⟩ := hbc i y hy
  exact ⟨z, hz, growsTo_trans hxy hyz⟩

theorem Extends.push {actions actions' : List Action} (h : Extends actions actions')
    (action : Action) : Extends actions (actions' ++ [action]) := by
  intro i a ha
  obtain ⟨b, hb, hab⟩ := h i a ha
  exact ⟨b, (List.getElem?_append_left (List.getElem?_eq_some_iff.mp hb).1).trans hb, hab⟩

theorem Extends.length_le {actions actions' : List Action} (h : Extends actions actions') :
    actions.length ≤ actions'.length := by
  by_contra hlt
  have hlast : actions'.length < actions.length := Nat.lt_of_not_le hlt
  obtain ⟨b, hb, -⟩ := h actions'.length _ (List.getElem?_eq_getElem hlast)
  exact absurd (List.getElem?_eq_some_iff.mp hb).1 (Nat.lt_irrefl _)

/-! ### Writes to the current page -/

/-- A write to a page that leaves its number and keeps its scroll a percentage that grows. -/
structure Fair (f : PageviewAction → PageviewAction) : Prop where
  pageNumber : ∀ a, (f a).pageNumber = a.pageNumber
  grows : ∀ a, GrowsTo (.pageview a) (.pageview (f a))
  inRange : ∀ a, 0 ≤ a.scroll ∧ a.scroll ≤ 100 → 0 ≤ (f a).scroll ∧ (f a).scroll ≤ 100

theorem fair_closePage (now : Int) (focusMs : ℚ) : Fair (closePage now focusMs) where
  pageNumber _ := rfl
  grows _ := ⟨rfl, rfl, rfl, le_refl _⟩
  inRange _ h := h

theorem fair_scrollTo (scrollPercent : ℚ) : Fair (scrollTo scrollPercent) where
  pageNumber := pageNumber_scrollTo scrollPercent
  grows a := by
    unfold scrollTo
    dsimp only
    split
    · next hlt => exact ⟨rfl, rfl, rfl, hlt.le⟩
    · exact ⟨rfl, rfl, rfl, le_refl _⟩
  inRange a h := by
    unfold scrollTo
    dsimp only
    split
    · exact ⟨le_max_left _ _, max_le (by norm_num) (min_le_left _ _)⟩
    · exact h

theorem fair_scrollToNumber (scrollPercent : Number) : Fair (scrollToNumber scrollPercent) := by
  have heq : ∀ a, scrollToNumber scrollPercent a = a ∨
      ∃ x, scrollToNumber scrollPercent a = scrollTo x a := scrollToNumber_eq scrollPercent
  constructor
  · intro a
    rcases heq a with h | ⟨x, h⟩ <;> rw [h]
    exact (fair_scrollTo x).pageNumber a
  · intro a
    rcases heq a with h | ⟨x, h⟩ <;> rw [h]
    · exact growsTo_refl _
    · exact (fair_scrollTo x).grows a
  · intro a ha
    rcases heq a with h | ⟨x, h⟩ <;> rw [h]
    · exact ha
    · exact (fair_scrollTo x).inRange a ha

section Writes

variable {s : SessionState} {f : PageviewAction → PageviewAction}

theorem Fair.increasing (hf : Fair f) (h : Increasing s.actions) :
    Increasing (s.onCurrentPage f).actions := by
  unfold Increasing
  rw [filterMap_onCurrentPage hf.pageNumber]
  exact h

theorem Fair.scrolls (hf : Fair f) (h : ScrollsInRange s.actions) :
    ScrollsInRange (s.onCurrentPage f).actions := by
  intro a ha
  obtain ⟨i, hi⟩ := List.getElem?_of_mem ha
  rw [getElem?_onCurrentPage] at hi
  obtain ⟨b, hb, hab⟩ := Option.map_eq_some_iff.mp hi
  have hmem : b ∈ s.actions := List.mem_of_getElem? hb
  split at hab
  · cases b with
    | goal b => simp [Action.onPageview] at hab
    | pageview b =>
        obtain rfl : f b = a := by simpa [Action.onPageview] using hab
        exact hf.inRange b (h b hmem)
  · exact h a (hab ▸ hmem)

theorem Fair.extends (hf : Fair f) : Extends s.actions (s.onCurrentPage f).actions := by
  intro i a ha
  refine ⟨_, by rw [getElem?_onCurrentPage, ha]; rfl, ?_⟩
  split
  · cases a with
    | goal a => exact growsTo_refl _
    | pageview a => exact hf.grows a
  · exact growsTo_refl a

end Writes

/-! ### One call at a time -/

/-- What of a state is not in its type already. -/
structure Sound (actions : List Action) : Prop where
  increasing : Increasing actions
  scrolls : ScrollsInRange actions

section Calls

variable {s : SessionState}

theorem Sound.write (h : Sound s.actions) {f : PageviewAction → PageviewAction} (hf : Fair f) :
    Sound (s.onCurrentPage f).actions :=
  ⟨hf.increasing h.increasing, hf.scrolls h.scrolls⟩

theorem Sound.addPageview (h : Sound s.actions) (path : String) (now : Int) (focusMs : ℚ) :
    Sound (s.addPageview path now focusMs).actions := by
  by_cases hroom : s.actions.length < MAX_ACTIONS
  · constructor
    · unfold Increasing
      rw [pageNumbers_addPageview hroom]
      refine List.pairwise_append.mpr ⟨h.increasing, List.pairwise_singleton _ _, ?_⟩
      intro n hn m hm
      obtain ⟨a, ha, hnumber⟩ := List.mem_filterMap.mp hn
      have hlt := lt_getNextPageNumber ha
      rw [List.mem_singleton.mp hm]
      cases a with
      | goal a => simp [Action.pageNumber?] at hnumber
      | pageview a =>
          obtain rfl : a.pageNumber = n := Option.some.inj hnumber
          exact hlt
    · intro a ha
      unfold SessionState.addPageview at ha
      rw [dif_pos hroom] at ha
      rcases List.mem_append.mp ha with ha | ha
      · exact (fair_closePage now focusMs).scrolls h.scrolls a ha
      · obtain rfl := Action.pageview.inj (List.mem_singleton.mp ha)
        exact ⟨le_refl _, by norm_num [newPageview]⟩
  · unfold SessionState.addPageview
    rw [dif_neg hroom]
    exact h

theorem Sound.addGoal (h : Sound s.actions) (name : String) (value : Option ℚ)
    (properties : Option (List (String × String))) (now : Int) :
    Sound (s.addGoal name value properties now).2.actions := by
  constructor
  · unfold Increasing
    rw [Live.pageNumbers_addGoal]
    exact h.increasing
  · by_cases hroom : s.actions.length < MAX_ACTIONS
    · rw [addGoal_of_room hroom]
      intro a ha
      rcases List.mem_append.mp ha with ha | ha
      · exact h.scrolls a ha
      · exact absurd (List.mem_singleton.mp ha) (by simp)
    · unfold SessionState.addGoal
      rw [dif_neg hroom]
      exact h.scrolls

theorem extends_addPageview (path : String) (now : Int) (focusMs : ℚ) :
    Extends s.actions (s.addPageview path now focusMs).actions := by
  unfold SessionState.addPageview
  split
  · exact (fair_closePage now focusMs).extends.push _
  · exact extends_refl _

theorem extends_addGoal (name : String) (value : Option ℚ)
    (properties : Option (List (String × String))) (now : Int) :
    Extends s.actions (s.addGoal name value properties now).2.actions := by
  unfold SessionState.addGoal
  split
  · exact (extends_refl _).push _
  · exact extends_refl _

end Calls

/-- **A call other than `restore` keeps every action in its place.** -/
theorem extends_call {t : Held} {c : Call} (hc : c ≠ .restore) :
    Extends t.state.actions (t.call c).state.actions := by
  cases c with
  | addPageview path now focusMs => exact extends_addPageview path now focusMs
  | updateScroll scrollPercent => exact (fair_scrollToNumber scrollPercent).extends
  | addGoal name value properties now => exact extends_addGoal name value properties now
  | buildPayload attributes options now focusMs => exact (fair_closePage now focusMs).extends
  | finalizeForUnload now focusMs => exact (fair_closePage now focusMs).extends
  | persist throws =>
      cases throws with
      | false => exact extends_refl _
      | true => exact extends_refl _
  | restore => exact absurd rfl hc

theorem config_call (t : Held) (c : Call) : (t.call c).state.config = t.state.config := by
  cases c with
  | addPageview path now focusMs => exact config_addPageview t.state path now focusMs
  | updateScroll scrollPercent => exact config_onCurrentPage _
  | addGoal name value properties now =>
      show (t.state.addGoal name value properties now).2.config = _
      unfold SessionState.addGoal
      split <;> rfl
  | buildPayload attributes options now focusMs => exact config_onCurrentPage _
  | finalizeForUnload now focusMs => exact config_onCurrentPage _
  | persist throws => cases throws <;> rfl
  | restore =>
      show (t.state.restore t.stored).1.config = _
      unfold SessionState.restore
      split
      · rfl
      · split <;> rfl

/-! ### Runs -/

/-- What holds of a state and of what it would be restored with. -/
structure Held.Sound (t : Held) (sessionId : String) : Prop where
  own : t.state.config.sessionId = sessionId
  state : SessionRuns.Sound t.state.actions
  stored : ∀ data, t.stored = some data → data.sessionId = sessionId →
    SessionRuns.Sound data.actions

theorem sound_call {t : Held} {sessionId : String} (h : t.Sound sessionId) (c : Call) :
    (t.call c).Sound sessionId := by
  have hown : (t.call c).state.config.sessionId = sessionId := by rw [config_call, h.own]
  cases c with
  | addPageview path now focusMs => exact ⟨hown, h.state.addPageview path now focusMs, h.stored⟩
  | updateScroll scrollPercent =>
      exact ⟨hown, h.state.write (fair_scrollToNumber scrollPercent), h.stored⟩
  | addGoal name value properties now =>
      exact ⟨hown, h.state.addGoal name value properties now, h.stored⟩
  | buildPayload attributes options now focusMs =>
      exact ⟨hown, h.state.write (fair_closePage now focusMs), h.stored⟩
  | finalizeForUnload now focusMs =>
      exact ⟨hown, h.state.write (fair_closePage now focusMs), h.stored⟩
  | persist throws =>
      cases throws with
      | true => exact h
      | false =>
          refine ⟨hown, h.state, fun data hdata _ => ?_⟩
          obtain rfl := Option.some.inj hdata
          exact h.state
  | restore =>
      cases hstored : t.stored with
      | none =>
          have hcall : t.call .restore = ⟨t.state, none⟩ := by simp [Held.call, hstored, restore]
          rw [hcall]
          exact ⟨h.own, h.state, fun _ hdata => nomatch hdata⟩
      | some data =>
          by_cases hid : data.sessionId = t.state.config.sessionId
          · have hcall : t.call .restore = ⟨(t.state.restore (some data)).1, some data⟩ := by
              simp [Held.call, hstored, restore_of_eq hid]
            have hdata := h.stored data hstored (hid.trans h.own)
            rw [hcall, restore_of_eq hid]
            refine ⟨h.own, hdata, fun data' hdata' _ => ?_⟩
            obtain rfl := Option.some.inj hdata'
            exact hdata
          · have hcall : t.call .restore = ⟨t.state, none⟩ := by
              simp [Held.call, hstored, restore_of_ne hid]
            rw [hcall]
            exact ⟨h.own, h.state, fun _ hdata => nomatch hdata⟩

theorem sound_exec {t t' : Held} {sessionId : String} (h : t.Sound sessionId)
    {calls : List Call} (hexec : exec step t calls = some t') : t'.Sound sessionId :=
  exec_invariant (P := fun t => t.Sound sessionId) (fun t c t' ht hstep => by
    obtain rfl := Option.some.inj hstep
    exact sound_call ht c) h hexec

theorem sound_new {config : SessionStateConfig} {stored : Option SessionStateSnapshot}
    (hstored : ∀ data, stored = some data → data.sessionId = config.sessionId →
      Sound data.actions) : (Held.new config stored).Sound config.sessionId where
  own := rfl
  state := ⟨List.Pairwise.nil, fun _ ha => absurd ha List.not_mem_nil⟩
  stored := hstored

/-- Whatever a session has persisted is sound. -/
theorem StoredBy.sound {sessionId : String} {stored : Option SessionStateSnapshot}
    (h : StoredBy sessionId stored) :
    ∀ data, stored = some data → data.sessionId = sessionId → Sound data.actions := by
  induction h with
  | nothing => exact fun _ hdata => nomatch hdata
  | other hne =>
      intro data hdata hid
      obtain rfl := Option.some.inj hdata
      exact absurd hid hne
  | @run config stored calls t hid hstored hexec ih =>
      subst hid
      exact (sound_exec (sound_new ih) hexec).stored

theorem extends_exec {t t' : Held} {calls : List Call} (hcalls : ∀ c ∈ calls, c ≠ .restore)
    (hexec : exec step t calls = some t') : Extends t.state.actions t'.state.actions := by
  induction calls generalizing t with
  | nil =>
      obtain rfl : t = t' := by simpa [exec] using hexec
      exact extends_refl _
  | cons c rest ih =>
      obtain ⟨u, hu, hrest⟩ := exec_cons_eq_some.mp hexec
      obtain rfl := Option.some.inj hu
      exact (extends_call (hcalls c List.mem_cons_self)).trans
        (ih (fun c hc => hcalls c (List.mem_cons_of_mem _ hc)) hrest)

/-- What was persisted stays in the storage until something else is. -/
theorem stored_call {t : Held} {data : SessionStateSnapshot} (hstored : t.stored = some data)
    (hid : data.sessionId = t.state.config.sessionId) {c : Call} (hc : c ≠ .persist false) :
    (t.call c).stored = some data := by
  cases c with
  | persist throws =>
      cases throws with
      | true => exact hstored
      | false => exact absurd rfl hc
  | restore =>
      show (t.state.restore t.stored).2 = some data
      rw [hstored, restore_of_eq hid]
  | _ => exact hstored

theorem stored_exec {data : SessionStateSnapshot} :
    ∀ {calls : List Call} {t t' : Held}, t.stored = some data →
      data.sessionId = t.state.config.sessionId → (∀ c ∈ calls, c ≠ .persist false) →
      exec step t calls = some t' →
      t'.stored = some data ∧ data.sessionId = t'.state.config.sessionId := by
  intro calls
  induction calls with
  | nil =>
      intro t t' hstored hid _ hexec
      obtain rfl : t = t' := by simpa [exec] using hexec
      exact ⟨hstored, hid⟩
  | cons c rest ih =>
      intro t t' hstored hid hcalls hexec
      obtain ⟨u, hu, hrest⟩ := exec_cons_eq_some.mp hexec
      obtain rfl := Option.some.inj hu
      refine ih (stored_call hstored hid (hcalls c List.mem_cons_self)) ?_
        (fun c hc => hcalls c (List.mem_cons_of_mem _ hc)) hrest
      rw [config_call]
      exact hid

/-- `restore` puts back what was in the storage, however long ago it was put there. -/
theorem restore_stored {data : SessionStateSnapshot} {calls : List Call} {t t' : Held}
    (hstored : t.stored = some data) (hid : data.sessionId = t.state.config.sessionId)
    (hcalls : ∀ c ∈ calls, c ≠ .persist false) (hexec : exec step t calls = some t') :
    (t'.call .restore).state.actions = data.actions ∧
      (t'.call .restore).state.currentPageIndex = data.currentPageIndex := by
  obtain ⟨hstored', hid'⟩ := stored_exec hstored hid hcalls hexec
  show (t'.state.restore t'.stored).1.actions = _ ∧
    (t'.state.restore t'.stored).1.currentPageIndex = _
  rw [hstored', restore_of_eq hid']
  exact ⟨rfl, rfl⟩

/-- **What every run of a `SessionState` keeps, and what `restore` puts back.** -/
theorem session_state_kept {config : SessionStateConfig} {stored : Option SessionStateSnapshot}
    {calls : List Call} {t : Held} (hstored : StoredBy config.sessionId stored)
    (hexec : exec step (Held.new config stored) calls = some t) :
    WellFormed t.state ∧
      (∀ more t', (∀ c ∈ more, c ≠ .restore) → exec step t more = some t' →
        Extends t.state.actions t'.state.actions) ∧
      (∀ more t', (∀ c ∈ more, c ≠ .persist false) →
        exec step (t.call (.persist false)) more = some t' →
        (t'.call .restore).state.actions = t.state.actions ∧
          (t'.call .restore).state.currentPageIndex = t.state.currentPageIndex) ∧
      (∀ data, stored = some data → data.sessionId = config.sessionId →
        (∀ c ∈ calls, c ≠ .persist false) →
        (t.call .restore).state.actions = data.actions ∧
          (t.call .restore).state.currentPageIndex = data.currentPageIndex) := by
  have hsound := sound_exec (sound_new hstored.sound) hexec
  refine ⟨⟨t.state.actions_le, hsound.state.increasing, t.state.points, hsound.state.scrolls⟩,
    fun more t' hmore h => extends_exec hmore h, fun more t' hmore h => ?_,
    fun data hdata hid hcalls => restore_stored hdata hid hcalls hexec⟩
  have hput : (t.call (.persist false)).stored = some t.state.persist := rfl
  exact restore_stored hput rfl hmore h

namespace ForgottenExample

def config : SessionStateConfig := ⟨"ws_1", "s_1", 0⟩

/-- A page that is scrolled and persisted, and what comes after. -/
def calls : List Call :=
  [.addPageview "/a" 0 0, .updateScroll (.finite 30), .persist false, .updateScroll .infinity,
   .addPageview "/b" 5000 5000]

def unload : List Call := [.updateScroll .nan, .finalizeForUnload 9000 4000]

theorem session_state_kept_pages : ∃ t t',
    exec step (Held.new config none) calls = some t ∧ exec step t unload = some t' ∧
      WellFormed t.state ∧ Extends t.state.actions t'.state.actions := by
  have hexec : exec step (Held.new config none) calls = some _ := rfl
  obtain ⟨hformed, hextends, -⟩ := session_state_kept StoredBy.nothing hexec
  refine ⟨_, _, rfl, rfl, hformed, hextends unload _ (fun c hc => ?_) rfl⟩
  rcases List.mem_pair.mp hc with rfl | rfl
  · exact fun h => nomatch h
  · exact fun h => nomatch h

/-- **`restore` takes the second page away, and the first is scrolled less again.** -/
theorem restore_forgets_page : ∃ t, exec step (Held.new config none) calls = some t ∧
    ¬ Extends t.state.actions (t.call .restore).state.actions := by
  refine ⟨_, rfl, fun h => ?_⟩
  have hlength := h.length_le
  exact absurd hlength (by decide +kernel)

end ForgottenExample

end Veridian.SessionRuns
