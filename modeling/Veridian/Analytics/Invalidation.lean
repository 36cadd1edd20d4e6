/-
Whether an invalidated answer comes back.

A handler deletes what is cached when its event arrives.  An execution that began before the
event is not stopped by it: it may store its result afterwards, or still be joined, and a key
that is tracked while the handler waits is forgotten with the set.  Where results are stored
under tracked keys only, and a handler ends only when nothing older than its event is left,
no answer from before the event is given after it.
-/
import Mathlib.Data.List.Basic
import Veridian.Analytics.CacheService

namespace Veridian.Analytics.Invalidation

open Machine CacheService

/-! ### The claim and its condition -/

/-- What is asked after a handler has finished is not answered with a result from before its
event. -/
def NoneFromBefore (s : CacheService) : Prop :=
  ∀ a ∈ s.answers, ∀ h ∈ s.handled, h.workspace = a.key.workspace →
    h.finishedAt < a.askedAt → h.eventAt ≤ a.startedAt

/-- Every live entry is tracked. -/
def AllTracked (s : CacheService) : Prop := ∀ e ∈ s.cache, e.key ∈ s.tracked

/-- A result is stored under a tracked key; a handler ends when its workspace has no live
entry and no pending query from before the event; and an event that finds no keys finds no
pending query either. -/
def Orderly (s : CacheService) : Action → Prop
  | .store key => key ∈ s.tracked
  | .finish i => ∀ h ∈ s.handlings[i]?,
      (∀ e ∈ s.cache, e.key.workspace ≠ h.workspace) ∧
        ∀ p ∈ s.pending, p.key.workspace = h.workspace → h.eventAt ≤ p.startedAt
  | .event workspace => s.keysOf workspace = [] → ∀ p ∈ s.pending, p.key.workspace ≠ workspace
  | _ => True

instance (s : CacheService) (a : Action) : Decidable (Orderly s a) :=
  match a with
  | .store key => inferInstanceAs (Decidable (key ∈ s.tracked))
  | .finish i => inferInstanceAs (Decidable (∀ h ∈ s.handlings[i]?, _ ∧ _))
  | .event _ => inferInstanceAs (Decidable (_ → _))
  | .query _ | .resume _ | .settle _ | .reject _ | .expire _ => isTrue trivial

/-! ### What holds along an orderly run -/

/-- Nothing is younger than the clock, and what is left from before an event that has been
handled can no longer be an answer to what is asked now. -/
structure Clean (s : CacheService) : Prop where
  tracked : AllTracked s
  handling_lt : ∀ h ∈ s.handlings, h.eventAt < s.now
  handled_lt : ∀ h ∈ s.handled, h.eventAt < s.now
  look_lt : ∀ l ∈ s.looks, l.askedAt < s.now
  wait_lt : ∀ w ∈ s.waits, w.askedAt < s.now
  answer_lt : ∀ a ∈ s.answers, a.askedAt < s.now
  cache : ∀ h ∈ s.handled, ∀ e ∈ s.cache, e.key.workspace = h.workspace → h.eventAt ≤ e.startedAt
  pending : ∀ h ∈ s.handled, ∀ p ∈ s.pending, p.key.workspace = h.workspace →
    h.eventAt ≤ p.startedAt
  looks : ∀ h ∈ s.handled, ∀ l ∈ s.looks, l.key.workspace = h.workspace →
    h.finishedAt < l.askedAt → ∀ t ∈ l.cached, h.eventAt ≤ t
  answers : NoneFromBefore s

theorem clean_init : Clean init := by
  refine ⟨?_, ?_, ?_, ?_, ?_, ?_, ?_, ?_, ?_, ?_⟩
  all_goals
    intro x hx
    exact absurd hx List.not_mem_nil

/-! ### One step -/

variable {s s' : CacheService} {cap : Nat}

/-- Where a run only loses entries, executions, looks and handlers, and answers nobody. -/
theorem Clean.shrink (hs : Clean s) (hnow : s.now < s'.now) (htracked : AllTracked s')
    (hcache : ∀ e ∈ s'.cache, e ∈ s.cache) (hpending : ∀ p ∈ s'.pending, p ∈ s.pending)
    (hlooks : ∀ l ∈ s'.looks, l ∈ s.looks) (hwaits : ∀ w ∈ s'.waits, w ∈ s.waits)
    (hhandlings : ∀ h ∈ s'.handlings, h ∈ s.handlings) (hhandled : s'.handled = s.handled)
    (hanswers : s'.answers = s.answers) : Clean s' where
  tracked := htracked
  handling_lt h hh := Nat.lt_trans (hs.handling_lt h (hhandlings h hh)) hnow
  handled_lt h hh := Nat.lt_trans (hs.handled_lt h (hhandled ▸ hh)) hnow
  look_lt l hl := Nat.lt_trans (hs.look_lt l (hlooks l hl)) hnow
  wait_lt w hw := Nat.lt_trans (hs.wait_lt w (hwaits w hw)) hnow
  answer_lt a ha := Nat.lt_trans (hs.answer_lt a (hanswers ▸ ha)) hnow
  cache h hh e he := hs.cache h (hhandled ▸ hh) e (hcache e he)
  pending h hh p hp := hs.pending h (hhandled ▸ hh) p (hpending p hp)
  looks h hh l hl := hs.looks h (hhandled ▸ hh) l (hlooks l hl)
  answers a ha h hh := hs.answers a (hanswers ▸ ha) h (hhandled ▸ hh)

theorem clean_tick (hs : Clean s) : Clean s.tick :=
  hs.shrink (Nat.lt_succ_self _) hs.tracked (fun _ => id) (fun _ => id) (fun _ => id)
    (fun _ => id) (fun _ => id) rfl rfl

/-- The oldest key goes with its entry. -/
theorem evict_eq (cap : Nat) (s : CacheService) (key : CacheKey) :
    ∃ tracked cache, s.evict cap key = { s with tracked := tracked, cache := cache } ∧
      ∀ e ∈ cache, e ∈ s.cache ∧ (e.key ∈ s.tracked → e.key ∈ tracked) := by
  have keep : ∃ tracked cache, s = { s with tracked := tracked, cache := cache } ∧
      ∀ e ∈ cache, e ∈ s.cache ∧ (e.key ∈ s.tracked → e.key ∈ tracked) :=
    ⟨s.tracked, s.cache, rfl, fun e he => ⟨he, id⟩⟩
  simp only [evict]
  by_cases hfull : cap ≤ (s.keysOf key.workspace).length ∧ key ∉ s.keysOf key.workspace
  · rw [if_pos hfull]
    cases (s.keysOf key.workspace).head? with
    | none => exact keep
    | some oldest =>
        refine ⟨_, s.cache.filter (·.key ≠ oldest), rfl, fun e he => ?_⟩
        obtain ⟨hmem, hne⟩ := List.mem_filter.mp he
        exact ⟨hmem, fun htracked => List.mem_filter.mpr ⟨htracked, hne⟩⟩
  · rw [if_neg hfull]
    exact keep

/-- Tracking a key leaves no entry behind that is not tracked. -/
theorem trackCacheKey_eq (cap : Nat) (s : CacheService) (key : CacheKey) :
    ∃ tracked cache, s.trackCacheKey cap key = { s with tracked := tracked, cache := cache } ∧
      ∀ e ∈ cache, e ∈ s.cache ∧ (e.key ∈ s.tracked → e.key ∈ tracked) := by
  obtain ⟨tracked, cache, heq, hcache⟩ := evict_eq cap s key
  refine ⟨if key ∈ tracked then tracked else tracked ++ [key], cache, ?_, fun e he => ?_⟩
  · simp only [trackCacheKey, heq]
  · refine ⟨(hcache e he).1, fun htracked => ?_⟩
    have hold := (hcache e he).2 htracked
    by_cases hkey : key ∈ tracked
    · rwa [if_pos hkey]
    · rw [if_neg hkey]
      exact List.mem_append_left _ hold

theorem mem_cache_of_cached {key : CacheKey} {t : Nat} (h : s.cached key = some t) :
    ∃ e ∈ s.cache, e.key = key ∧ e.startedAt = t := by
  obtain ⟨e, he, ht⟩ := Option.map_eq_some_iff.mp h
  exact ⟨e, List.mem_of_find?_eq_some he, by simpa using List.find?_some he, ht⟩

/-- What is asked now finds nothing from before an event that has been handled. -/
theorem clean_query (hs : Clean s) (key : CacheKey) : Clean (s.query cap key).tick := by
  obtain ⟨tracked, cache, heq, hcache⟩ := trackCacheKey_eq cap s key
  have hmid : Clean { s with tracked := tracked, cache := cache }.tick :=
    hs.shrink (Nat.lt_succ_self _) (fun e he => (hcache e he).2 (hs.tracked e (hcache e he).1))
      (fun e he => (hcache e he).1) (fun _ => id) (fun _ => id) (fun _ => id) (fun _ => id) rfl rfl
  simp only [query, heq]
  refine { hmid with look_lt := ?_, looks := ?_ }
  · intro l hl
    rcases List.mem_append.mp hl with hl | hl
    · exact hmid.look_lt l hl
    · obtain rfl := List.mem_singleton.mp hl
      exact Nat.lt_succ_self _
  · intro h hh l hl hworkspace hasked t ht
    rcases List.mem_append.mp hl with hl | hl
    · exact hmid.looks h hh l hl hworkspace hasked t ht
    · obtain rfl := List.mem_singleton.mp hl
      obtain ⟨e, he, hkey, rfl⟩ := mem_cache_of_cached ht
      exact hmid.cache h hh e he (hkey ▸ hworkspace)

/-- An execution that starts now, or an answer that a look has found. -/
theorem clean_resume (hs : Clean s) {i : Nat} (h : s.resume i = some s') : Clean s'.tick := by
  obtain ⟨look, hlook, rfl⟩ := Option.map_eq_some_iff.mp h
  have hmem : look ∈ s.looks := List.mem_of_getElem? hlook
  have hmid : Clean { s with looks := s.looks.eraseIdx i }.tick :=
    hs.shrink (Nat.lt_succ_self _) hs.tracked (fun _ => id) (fun _ => id)
      (fun _ hl => List.mem_of_mem_eraseIdx hl) (fun _ => id) (fun _ => id) rfl rfl
  have hasked := Nat.lt_trans (hs.look_lt look hmem) (Nat.lt_succ_self s.now)
  cases hcached : look.cached with
  | some startedAt =>
      refine { hmid with answer_lt := ?_, answers := ?_ }
      · intro a ha
        rcases List.mem_append.mp ha with ha | ha
        · exact hmid.answer_lt a ha
        · obtain rfl := List.mem_singleton.mp ha
          exact hasked
      · intro a ha h hh hworkspace hlt
        rcases List.mem_append.mp ha with ha | ha
        · exact hmid.answers a ha h hh hworkspace hlt
        · obtain rfl := List.mem_singleton.mp ha
          exact hs.looks h hh look hmem hworkspace.symm hlt startedAt hcached
  | none =>
      have hwait : ∀ w ∈ s.waits ++ [⟨look.key, look.askedAt⟩], w.askedAt < s.now + 1 := by
        intro w hw
        rcases List.mem_append.mp hw with hw | hw
        · exact hmid.wait_lt w hw
        · obtain rfl := List.mem_singleton.mp hw
          exact hasked
      show Clean (tick (if _ then _ else _))
      by_cases hany : s.pending.any (·.key = look.key)
      · rw [if_pos hany]
        exact { hmid with wait_lt := hwait }
      · rw [if_neg hany]
        refine { hmid with wait_lt := hwait, pending := ?_ }
        intro h hh p hp hworkspace
        rcases List.mem_append.mp hp with hp | hp
        · exact hs.pending h hh p hp hworkspace
        · obtain rfl := List.mem_singleton.mp hp
          exact Nat.le_of_lt (hs.handled_lt h hh)

/-- A stored result is as old as its execution. -/
theorem clean_store (hs : Clean s) {key : CacheKey} (htracked : key ∈ s.tracked)
    (h : s.store key = some s') : Clean s'.tick := by
  obtain ⟨p, hfind, rfl⟩ := Option.map_eq_some_iff.mp h
  have hp : p ∈ s.pending := List.mem_of_find?_eq_some hfind
  have hkey : p.key = key := by
    have := List.find?_some hfind
    simp only [Bool.and_eq_true, decide_eq_true_eq] at this
    exact this.1
  refine { clean_tick hs with tracked := ?_, cache := ?_, pending := ?_ }
  · intro e he
    rcases List.mem_cons.mp he with rfl | he
    · exact htracked
    · exact hs.tracked e (List.mem_of_mem_filter he)
  · intro h hh e he hworkspace
    rcases List.mem_cons.mp he with rfl | he
    · exact hs.pending h hh p hp (hkey.symm ▸ hworkspace)
    · exact hs.cache h hh e (List.mem_of_mem_filter he) hworkspace
  · intro h hh q hq hworkspace
    obtain ⟨q', hq', rfl⟩ := List.mem_map.mp hq
    by_cases hsame : q'.key = key
    · rw [if_pos hsame] at hworkspace ⊢
      exact hs.pending h hh q' hq' hworkspace
    · rw [if_neg hsame] at hworkspace ⊢
      exact hs.pending h hh q' hq' hworkspace

/-- Who has joined an execution is answered with it. -/
theorem clean_settle (hs : Clean s) {key : CacheKey} (h : s.settle key = some s') :
    Clean s'.tick := by
  obtain ⟨p, hfind, rfl⟩ := Option.map_eq_some_iff.mp h
  have hp : p ∈ s.pending := List.mem_of_find?_eq_some hfind
  have hkey : p.key = key := by
    have := List.find?_some hfind
    simp only [Bool.and_eq_true, decide_eq_true_eq] at this
    exact this.1
  have hmid : Clean { s with
      pending := s.pending.filter (·.key ≠ key), waits := s.waits.filter (·.key ≠ key) }.tick :=
    hs.shrink (Nat.lt_succ_self _) hs.tracked (fun _ => id)
      (fun _ => List.mem_of_mem_filter) (fun _ => id) (fun _ => List.mem_of_mem_filter)
      (fun _ => id) rfl rfl
  refine { hmid with answer_lt := ?_, answers := ?_ }
  · intro a ha
    rcases List.mem_append.mp ha with ha | ha
    · exact hmid.answer_lt a ha
    · obtain ⟨w, hw, rfl⟩ := List.mem_map.mp ha
      exact Nat.lt_trans (hs.wait_lt w (List.mem_of_mem_filter hw)) (Nat.lt_succ_self _)
  · intro a ha h hh hworkspace hlt
    rcases List.mem_append.mp ha with ha | ha
    · exact hmid.answers a ha h hh hworkspace hlt
    · obtain ⟨w, -, rfl⟩ := List.mem_map.mp ha
      exact hs.pending h hh p hp (hkey.symm ▸ hworkspace.symm)

theorem clean_reject (hs : Clean s) (key : CacheKey) : Clean (s.reject key).tick :=
  hs.shrink (Nat.lt_succ_self _) hs.tracked (fun _ => id) (fun _ => List.mem_of_mem_filter)
    (fun _ => id) (fun _ => List.mem_of_mem_filter) (fun _ => id) rfl rfl

theorem clean_expire (hs : Clean s) (key : CacheKey) : Clean (s.del key).tick :=
  hs.shrink (Nat.lt_succ_self _) (fun e he => hs.tracked e (List.mem_of_mem_filter he))
    (fun _ => List.mem_of_mem_filter) (fun _ => id) (fun _ => id) (fun _ => id) (fun _ => id)
    rfl rfl

/-- A handler ends now: what was asked before is not concerned, and nothing older than its
event is left. -/
theorem clean_handled (hs : Clean s) {tracked : List CacheKey} {handlings : List Handling}
    (h : Handling) (htracked : ∀ e ∈ s.cache, e.key ∈ tracked)
    (hsub : ∀ x ∈ handlings, x ∈ s.handlings) (hevent : h.eventAt ≤ s.now)
    (hcache : ∀ e ∈ s.cache, e.key.workspace ≠ h.workspace)
    (hpending : ∀ p ∈ s.pending, p.key.workspace = h.workspace → h.eventAt ≤ p.startedAt) :
    Clean (tick { s with
      tracked := tracked, handlings := handlings
      handled := s.handled ++ [⟨h.workspace, h.eventAt, s.now⟩] }) := by
  have hmid : Clean { s with tracked := tracked, handlings := handlings }.tick :=
    hs.shrink (Nat.lt_succ_self _) htracked (fun _ => id) (fun _ => id) (fun _ => id)
      (fun _ => id) hsub rfl rfl
  refine { hmid with
    handled_lt := ?_, cache := ?_, pending := ?_, looks := ?_, answers := ?_ }
  · intro x hx
    rcases List.mem_append.mp hx with hx | hx
    · exact hmid.handled_lt x hx
    · obtain rfl := List.mem_singleton.mp hx
      exact Nat.lt_succ_of_le hevent
  · intro x hx e he hworkspace
    rcases List.mem_append.mp hx with hx | hx
    · exact hs.cache x hx e he hworkspace
    · obtain rfl := List.mem_singleton.mp hx
      exact absurd hworkspace (hcache e he)
  · intro x hx p hp hworkspace
    rcases List.mem_append.mp hx with hx | hx
    · exact hs.pending x hx p hp hworkspace
    · obtain rfl := List.mem_singleton.mp hx
      exact hpending p hp hworkspace
  · intro x hx l hl hworkspace hlt
    rcases List.mem_append.mp hx with hx | hx
    · exact hs.looks x hx l hl hworkspace hlt
    · obtain rfl := List.mem_singleton.mp hx
      exact absurd hlt (Nat.lt_asymm (hs.look_lt l hl))
  · intro a ha x hx hworkspace hlt
    rcases List.mem_append.mp hx with hx | hx
    · exact hs.answers a ha x hx hworkspace hlt
    · obtain rfl := List.mem_singleton.mp hx
      exact absurd hlt (Nat.lt_asymm (hs.answer_lt a ha))

theorem mem_keysOf {key : CacheKey} (h : key ∈ s.tracked) : key ∈ s.keysOf key.workspace :=
  List.mem_filter.mpr ⟨h, decide_eq_true rfl⟩

theorem clean_event (hs : Clean s) {workspace : String} (hC : Orderly s (.event workspace)) :
    Clean (s.event workspace).tick := by
  simp only [event]
  by_cases hkeys : s.keysOf workspace = []
  · rw [if_pos hkeys]
    refine clean_handled hs ⟨workspace, s.now⟩ hs.tracked (fun _ => id) (Nat.le_refl _) ?_ ?_
    · intro e he hworkspace
      have := mem_keysOf (hs.tracked e he)
      rw [hworkspace, hkeys] at this
      exact List.not_mem_nil this
    · intro p hp hworkspace
      exact absurd hworkspace (hC hkeys p hp)
  · rw [if_neg hkeys]
    have hmid : Clean { s with cache := s.cache.filter (·.key ∉ s.keysOf workspace) }.tick :=
      hs.shrink (Nat.lt_succ_self _) (fun e he => hs.tracked e (List.mem_of_mem_filter he))
        (fun _ => List.mem_of_mem_filter) (fun _ => id) (fun _ => id) (fun _ => id) (fun _ => id)
        rfl rfl
    refine { hmid with handling_lt := ?_ }
    intro h hh
    rcases List.mem_append.mp hh with hh | hh
    · exact hmid.handling_lt h hh
    · obtain rfl := List.mem_singleton.mp hh
      exact Nat.lt_succ_self _

theorem clean_finish (hs : Clean s) {i : Nat} (hC : Orderly s (.finish i))
    (hfinish : s.finish i = some s') : Clean s'.tick := by
  obtain ⟨h, hh, rfl⟩ := Option.map_eq_some_iff.mp hfinish
  obtain ⟨hcache, hpending⟩ := hC h hh
  refine clean_handled hs h ?_ (fun _ => List.mem_of_mem_eraseIdx)
    (Nat.le_of_lt (hs.handling_lt h (List.mem_of_getElem? hh))) hcache hpending
  intro e he
  exact List.mem_filter.mpr ⟨hs.tracked e he, decide_eq_true (hcache e he)⟩

/-- What one orderly step keeps. -/
theorem clean_step {a : Action} (hs : Clean s) (hC : Orderly s a) (h : step cap s a = some s') :
    Clean s' := by
  obtain ⟨t, ht, rfl⟩ := Option.map_eq_some_iff.mp h
  cases a with
  | query key =>
      obtain rfl := Option.some.inj ht
      exact clean_query hs key
  | resume i => exact clean_resume hs ht
  | store key => exact clean_store hs hC ht
  | settle key => exact clean_settle hs ht
  | reject key =>
      obtain rfl := Option.some.inj ht
      exact clean_reject hs key
  | expire key =>
      obtain rfl := Option.some.inj ht
      exact clean_expire hs key
  | event workspace =>
      obtain rfl := Option.some.inj ht
      exact clean_event hs hC
  | finish i => exact clean_finish hs hC ht

/-! ### Whole runs -/

namespace RunExample

def wanted : CacheKey := ⟨"ws_1", "visitors"⟩

/-- A query is answered and cached, a backfill ends, and the query is asked again. -/
def orderly : List Action :=
  [.query wanted, .resume 0, .store wanted, .settle wanted, .event "ws_1", .finish 0,
    .query wanted, .resume 0, .store wanted, .settle wanted]

/-- The backfill ends while the query runs. -/
def overtaken : List Action :=
  [.query wanted, .resume 0, .event "ws_1", .finish 0, .store wanted, .settle wanted,
    .query wanted, .resume 0]

end RunExample

end Veridian.Analytics.Invalidation
