/-
How long a session lasts.

A page load resumes the session of `localStorage` while its `last_active_at` is no older than
the timeout, and sets it to now.  Nothing else does: `updateSession`, which would, has no
caller, so that heartbeats, navigations and goals leave it where the last page load put it.
-/
import Veridian.Sdk.Tabs

namespace Veridian.SessionLife

open Machine Tabs

/-! ### Visits -/

/-- The tabs, the ids that the page loads have used, and when `localStorage` took the last of
them, for each site. -/
structure Visit where
  world : World
  used : List String
  loadedAt : Nat → Option Int

/-- What a visitor does: loads pages, and is active on them.  No id is generated twice. -/
def allowed (v : Visit) : TabCall → Bool
  | .load _ generated _ _ _ _ => decide (generated ∉ v.used)
  | .saveSession _ => false
  | .reset _ _ _ _ _ => false
  | _ => true

section Steps

variable (config : SdkConfig)

/-- The id a page load uses. -/
def usedId (w : World) : Nat × TabCall → Option String
  | (i, .load input generated _ now _ _) =>
      (w.tabs[i]?).map fun t =>
        (getOrCreateSession config.sessionTimeout input (w.shared t.site) generated now).id
  | _ => none

def reloadedAt (v : Visit) : Nat × TabCall → Nat → Option Int
  | (i, .load _ _ _ now _ stores) =>
      match v.world.tabs[i]? with
      | none => v.loadedAt
      | some t => if stores then Function.update v.loadedAt t.site (some now) else v.loadedAt
  | _ => v.loadedAt

def step (v : Visit) (action : Nat × TabCall) : Option Visit :=
  if allowed v action.2 then
    (v.world.step config action).map fun world =>
      ⟨world, v.used ++ (usedId config v.world action).toList, reloadedAt v action⟩
  else none

end Steps

/-- A visitor with empty tabs, over what earlier visits have left in the storage. -/
def Visit.start (sites : List Nat) (shared : Nat → Option Tabs.Session) : Visit where
  world := { World.new sites with shared := shared }
  used := []
  loadedAt := fun site => (shared site).map Tabs.Session.lastActiveAt

/-! ### The claim and its condition -/

/-- Every page load has used the same id. -/
def OneSession (v : Visit) : Prop := ∀ a ∈ v.used, ∀ b ∈ v.used, a = b

/-- When the visitor is active. -/
def activeAt : TabCall → Option Int
  | .load _ _ _ now _ _ => some now
  | .addPageview _ now _ => some now
  | .addGoal _ _ _ now => some now
  | .sendPayload _ _ now _ _ => some now
  | _ => none

/-- Consecutive activities are less than the timeout apart. -/
def Active (sessionTimeout : Int) (actions : List (Nat × TabCall)) : Prop :=
  (actions.filterMap fun action => activeAt action.2).IsChain fun before now =>
    before ≤ now ∧ now - before < sessionTimeout

/-- A page load after the first brings the id of the visit along, or finds its session in
`localStorage`, which took it at a page load no longer ago than the timeout. -/
def LoadsInTime (config : SdkConfig) (v : Visit) : Nat × TabCall → Prop
  | (i, .load input generated _ now _ _) =>
      ∀ t ∈ v.world.tabs[i]?, t.live.isNone = true → generated ∉ v.used → v.used ≠ [] →
        match input.filter (isValidCrossDomain now) with
        | some input => input.sessionId ∈ v.used
        | none =>
            (∃ session ∈ v.world.shared t.site, session.id ∈ v.used) ∧
              ∃ loaded ∈ v.loadedAt t.site, now - loaded ≤ config.sessionTimeout
  | _ => True

/-! ### One step -/

section Proofs

variable {config : SdkConfig}

theorem world_step {w w' : World} {i : Nat} {c : TabCall}
    (h : w.step config (i, c) = some w') :
    ∃ t o, w.tabs[i]? = some t ∧ t.call config (w.shared t.site) w.serial c = some o ∧
      w'.shared = Function.update w.shared t.site o.shared := by
  obtain ⟨t, ht, hcall⟩ := Option.bind_eq_some_iff.mp h
  obtain ⟨o, ho, rfl⟩ := Option.map_eq_some_iff.mp hcall
  exact ⟨t, o, ht, ho, rfl⟩

/-- What a page load leaves in `localStorage`. -/
theorem call_load {t : Tab} {shared : Option Tabs.Session} {serial : Nat}
    {input : Option CrossDomainInput} {generated path : String} {now : Int} {focusMs : ℚ}
    {stores : Bool} {o : Tabs.Outcome}
    (h : t.call config shared serial (.load input generated path now focusMs stores) = some o) :
    t.live = none ∧ o.shared =
      if stores then some (getOrCreateSession config.sessionTimeout input shared generated now)
      else shared := by
  cases hlive : t.live with
  | some l =>
      rw [Tab.call, hlive] at h
      exact nomatch h
  | none =>
      rw [Tab.call, hlive] at h
      obtain rfl := Option.some.inj h
      exact ⟨rfl, rfl⟩

/-- **In-page activity leaves the stored session as it is.** -/
theorem call_activity {t : Tab} {shared : Option Tabs.Session} {serial : Nat} {c : TabCall}
    {v : Visit} {o : Tabs.Outcome} (hallowed : allowed v c = true)
    (hload : ∀ input generated path now focusMs stores,
      c ≠ .load input generated path now focusMs stores)
    (h : t.call config shared serial c = some o) : o.shared = shared := by
  cases c with
  | load input generated path now focusMs stores => exact absurd rfl (hload _ _ _ _ _ _)
  | saveSession stores => exact absurd hallowed Bool.false_ne_true
  | reset generated path now focusMs stores => exact absurd hallowed Bool.false_ne_true
  | _ =>
      obtain ⟨l, hl, rfl⟩ := Option.map_eq_some_iff.mp h
      rfl

/-- A session that is looked up or made was active now. -/
theorem lastActiveAt_getOrCreateSession (sessionTimeout : Int) (input : Option CrossDomainInput)
    (stored : Option Tabs.Session) (generated : String) (now : Int) :
    (getOrCreateSession sessionTimeout input stored generated now).lastActiveAt = now := by
  unfold getOrCreateSession
  split
  · rfl
  · split <;> rfl

/-- `last_active_at` is the time of the last page load that was stored. -/
def Dated (v : Visit) : Prop :=
  ∀ site, v.loadedAt site = (v.world.shared site).map Tabs.Session.lastActiveAt

theorem step_eq_some {v v' : Visit} {action : Nat × TabCall}
    (h : step config v action = some v') :
    allowed v action.2 = true ∧ v.world.step config action = some v'.world ∧
      v'.used = v.used ++ (usedId config v.world action).toList ∧
      v'.loadedAt = reloadedAt v action := by
  by_cases hallowed : allowed v action.2 = true
  · obtain ⟨world, hworld, rfl⟩ := Option.map_eq_some_iff.mp ((if_pos hallowed).symm.trans h)
    exact ⟨hallowed, hworld, rfl, rfl⟩
  · exact nomatch (if_neg hallowed).symm.trans h

theorem dated_step {v v' : Visit} {action : Nat × TabCall} (hdated : Dated v)
    (h : step config v action = some v') : Dated v' := by
  obtain ⟨hallowed, hworld, -, hloaded⟩ := step_eq_some h
  obtain ⟨i, c⟩ := action
  obtain ⟨t, o, ht, hcall, hshared⟩ := world_step hworld
  intro site
  rw [hloaded, hshared]
  cases c with
  | load input generated path now focusMs stores =>
      obtain ⟨-, hsession⟩ := call_load hcall
      simp only [reloadedAt, ht, hsession]
      cases stores with
      | false =>
          rw [if_neg Bool.false_ne_true, if_neg Bool.false_ne_true, Function.update_eq_self]
          exact hdated site
      | true =>
          rw [if_pos rfl, if_pos rfl]
          by_cases hsite : site = t.site
          · subst hsite
            rw [Function.update_self, Function.update_self]
            exact congrArg some (lastActiveAt_getOrCreateSession ..).symm
          · rw [Function.update_of_ne hsite, Function.update_of_ne hsite]
            exact hdated site
  | _ =>
      have hkept := call_activity hallowed (fun _ _ _ _ _ _ h => nomatch h) hcall
      rw [hkept, Function.update_eq_self]
      exact hdated site

/-- A page is loaded into a tab that has none. -/
theorem step_load_isSome {v : Visit} {i : Nat} {t : Tab} {generated : String}
    (input : Option CrossDomainInput) (path : String) (now : Int) (focusMs : ℚ) (stores : Bool)
    (ht : v.world.tabs[i]? = some t) (hlive : t.live = none) (hfresh : generated ∉ v.used) :
    (step config v (i, .load input generated path now focusMs stores)).isSome = true := by
  have hallowed : allowed v (.load input generated path now focusMs stores) = true :=
    decide_eq_true hfresh
  have hcall : (t.call config (v.world.shared t.site) v.world.serial
      (.load input generated path now focusMs stores)).isSome = true := by
    unfold Tab.call
    rw [hlive]
    rfl
  unfold step
  rw [if_pos hallowed, Option.isSome_map]
  unfold World.step
  show ((v.world.tabs[i]?).bind _).isSome = true
  rw [ht, Option.bind_some, Option.isSome_map]
  exact hcall

theorem oneSession_append {v v' : Visit} {id : String} (hone : OneSession v)
    (hused : v'.used = v.used ++ [id]) : OneSession v' ↔ v.used = [] ∨ id ∈ v.used := by
  unfold OneSession
  rw [hused]
  constructor
  · intro h
    by_cases hnil : v.used = []
    · exact Or.inl hnil
    · obtain ⟨a, ha⟩ := List.exists_mem_of_ne_nil _ hnil
      have heq : id = a := h id (List.mem_append_right _ List.mem_cons_self) a
        (List.mem_append_left _ ha)
      exact Or.inr (heq ▸ ha)
  · intro h a ha b hb
    simp only [List.mem_append, List.mem_singleton] at ha hb
    rcases h with hnil | hid
    · rw [hnil] at ha hb
      simp only [List.not_mem_nil, false_or] at ha hb
      rw [ha, hb]
    · have hin : ∀ x, x ∈ v.used ∨ x = id → x ∈ v.used := fun x hx => hx.elim (fun h => h)
        fun h => h ▸ hid
      exact hone a (hin a ha) b (hin b hb)

/-- The id of a page load was used before exactly when it is brought along, or stored by a
page load not longer ago than the timeout. -/
theorem id_mem_used_iff {v : Visit} {t : Tab} {input : Option CrossDomainInput}
    {generated : String} {now : Int} (hdated : Dated v) (hfresh : generated ∉ v.used) :
    (getOrCreateSession config.sessionTimeout input (v.world.shared t.site) generated now).id ∈
        v.used ↔
      match input.filter (isValidCrossDomain now) with
      | some input => input.sessionId ∈ v.used
      | none =>
          (∃ session ∈ v.world.shared t.site, session.id ∈ v.used) ∧
            ∃ loaded ∈ v.loadedAt t.site, now - loaded ≤ config.sessionTimeout := by
  unfold getOrCreateSession
  cases input.filter (isValidCrossDomain now) with
  | some input => exact Iff.rfl
  | none =>
      rw [hdated t.site]
      cases hshared : v.world.shared t.site with
      | none =>
          refine ⟨fun h => absurd h hfresh, fun h => ?_⟩
          obtain ⟨session, hsession, -⟩ := h.1
          exact nomatch hsession
      | some session =>
          by_cases hexpired : isSessionExpired config.sessionTimeout now session = true
          · have hlate : ¬ now - session.lastActiveAt ≤ config.sessionTimeout :=
              not_le.mpr (of_decide_eq_true hexpired)
            have hfilter : (some session).filter (fun session =>
                !isSessionExpired config.sessionTimeout now session) = none := by
              simp [Option.filter, hexpired]
            rw [hfilter]
            refine ⟨fun h => absurd h hfresh, fun h => ?_⟩
            obtain ⟨loaded, hloaded, hle⟩ := h.2
            obtain rfl := Option.some.inj hloaded
            exact absurd hle hlate
          · have hearly : now - session.lastActiveAt ≤ config.sessionTimeout :=
              not_lt.mp fun hlt => hexpired (decide_eq_true hlt)
            have hfilter : (some session).filter (fun session =>
                !isSessionExpired config.sessionTimeout now session) = some session := by
              simp [Option.filter, hexpired]
            rw [hfilter]
            refine ⟨fun h => ⟨⟨session, rfl, h⟩, session.lastActiveAt, rfl, hearly⟩, fun h => ?_⟩
            obtain ⟨session', hsession, hid⟩ := h.1
            obtain rfl := Option.some.inj hsession
            exact hid

/-- **A step keeps the one session exactly when the page loads in time.** -/
theorem oneSession_step_iff {v v' : Visit} {action : Nat × TabCall} (hdated : Dated v)
    (hone : OneSession v) (h : step config v action = some v') :
    OneSession v' ↔ LoadsInTime config v action := by
  obtain ⟨hallowed, hworld, hused, -⟩ := step_eq_some h
  obtain ⟨i, c⟩ := action
  obtain ⟨t, o, ht, hcall, -⟩ := world_step hworld
  cases c with
  | load input generated path now focusMs stores =>
      obtain ⟨hlive, -⟩ := call_load hcall
      have hfresh : generated ∉ v.used := of_decide_eq_true hallowed
      have hid : v'.used = v.used ++
          [(getOrCreateSession config.sessionTimeout input (v.world.shared t.site)
            generated now).id] := by
        rw [hused]
        simp only [usedId, ht, Option.map_some, Option.toList_some]
      rw [oneSession_append hone hid, id_mem_used_iff hdated hfresh]
      constructor
      · intro hor t' ht' _ _ hne
        obtain rfl : t = t' := Option.some.inj (ht.symm.trans ht')
        exact hor.resolve_left hne
      · intro hload
        by_cases hnil : v.used = []
        · exact Or.inl hnil
        · exact Or.inr (hload t ht (by rw [hlive]; rfl) hfresh hnil)
  | _ =>
      have hsame : v'.used = v.used := by
        rw [hused]
        exact List.append_nil _
      refine ⟨fun _ => trivial, fun _ => ?_⟩
      intro a ha b hb
      rw [hsame] at ha hb
      exact hone a ha b hb

/-! ### Runs -/

/-- **Every page load of a run uses the same session exactly when each loads in time after
another, whatever happens on the pages.** -/
theorem one_session_iff (config : SdkConfig) (sites : List Nat)
    (shared : Nat → Option Tabs.Session) (actions : List (Nat × TabCall)) :
    (∀ before v, before <+: actions →
        exec (step config) (Visit.start sites shared) before = some v → OneSession v) ↔
      Meets (step config) (LoadsInTime config) (Visit.start sites shared) actions := by
  refine always_iff_meets (I := Dated) (P := OneSession)
    (fun v a v' hdated h => dated_step hdated h)
    (fun v a v' hdated hone h => oneSession_step_iff hdated hone h) (fun v a h => ?_)
    (fun _ => rfl) (fun _ ha => absurd ha List.not_mem_nil)
  obtain ⟨i, c⟩ := a
  cases c with
  | load input generated path now focusMs stores =>
      intro t ht hlive hfresh _
      have hsome : (step config v (i, .load input generated path now focusMs stores)).isSome =
          true := step_load_isSome input path now focusMs stores ht
            (Option.isNone_iff_eq_none.mp hlive) hfresh
      rw [h] at hsome
      exact absurd hsome Bool.false_ne_true
  | _ => trivial

end Proofs

/-! ### A long read -/

namespace ReadingExample

def config : SdkConfig := ⟨"ws_1", 1800000⟩

def load (generated path : String) (now : Int) : TabCall :=
  .load none generated path now 0 true

/-- A page is read for 35 minutes, with a heartbeat every 10 and a goal, and left for the
next. -/
def reading : List (Nat × TabCall) :=
  [(0, load "s_1" "/a" 0), (0, .sendPayload {} {} 600000 600000 true),
   (0, .sendPayload {} {} 1200000 1200000 true), (0, .addGoal "read" none none 1800000),
   (0, .unload), (0, load "s_2" "/b" 2100000)]

/-- **Never more than ten minutes without activity, and two sessions.** -/
theorem long_read_splits : Active config.sessionTimeout reading ∧ ∃ v,
    exec (step config) (Visit.start [0] fun _ => none) reading = some v ∧ ¬ OneSession v := by
  refine ⟨?_, _, rfl, fun h => ?_⟩
  · show List.IsChain _ [0, 600000, 1200000, 1800000, 2100000]
    decide +kernel
  · have heq : "s_1" = "s_2" := h "s_1" (by decide +kernel) "s_2" (by decide +kernel)
    exact absurd heq (by decide)

end ReadingExample

end Veridian.SessionLife
