/-
The page a goal is added under.

`addGoal` reads the current page off an index.  `finalizeForUnload` clears the index, and
the SDK calls it whenever the window loses the focus or is hidden; nothing sets it again
before the next pageview.  `restore` puts it where the stored snapshot had it.  So a goal
carries the page the user is on as long as neither happened since that page was opened,
and otherwise only by coincidence.
-/
import Veridian.Lib.Machine
import Veridian.Sdk.SessionState

namespace Veridian.GoalAttribution

open Machine SessionState

/-! ### Calls and what is noted of them -/

inductive SessionCall where
  | addPageview (path : String) (now : Int) (focusMs : ℚ)
  | updateScroll (scrollPercent : ℚ)
  | addGoal (name : String) (value : Option ℚ) (properties : Option (List (String × String)))
      (now : Int)
  | buildPayload (attributes : SessionAttributes) (options : PayloadOptions) (now : Int)
      (focusMs : ℚ)
  | finalizeForUnload (now : Int) (focusMs : ℚ)
  /-- `setItem` throws in private mode and when the quota is used up. -/
  | persist (throws : Bool)
  | restore

/-- What became of `currentPageIndex` since a pageview was last added. -/
inductive IndexFate where
  | kept
  | cleared
  /-- It was put where a snapshot had it. -/
  | restored (place : Option (String × Nat))

/-- A tab: the state and the storage, and beside them what the run has done so far. -/
structure Tab where
  state : SessionState
  stored : Option SessionStateSnapshot
  /-- The pageview added last. -/
  latest : Option PageviewAction
  index : IndexFate
  /-- The goals added, each with the pageview added last before it. -/
  goals : List (GoalAction × Option PageviewAction)

/-- A new state over whatever an earlier page load left in the storage. -/
def Tab.new (config : SessionStateConfig) (stored : Option SessionStateSnapshot) : Tab where
  state := SessionState.new config
  stored := stored
  latest := none
  index := .cleared
  goals := []

/-- The place a snapshot points at. -/
def snapshotPlace (data : SessionStateSnapshot) : Option (String × Nat) :=
  (data.currentPageIndex.bind fun i => data.actions[i]?).map Action.place

/-- Whether there is room for one more action. -/
def Tab.HasRoom (t : Tab) : Prop := t.state.actions.length < MAX_ACTIONS

instance (t : Tab) : Decidable t.HasRoom := inferInstanceAs (Decidable (_ < _))

def Tab.call (t : Tab) : SessionCall → Tab
  | .addPageview path now focusMs =>
      if t.HasRoom then
        { t with
          state := t.state.addPageview path now focusMs
          latest := some (newPageview path
            (getNextPageNumber (t.state.finalizeCurrentPageDuration now focusMs).actions) now)
          index := .kept }
      else t
  | .updateScroll scrollPercent => { t with state := t.state.updateScroll scrollPercent }
  | .addGoal name value properties now =>
      if t.HasRoom then
        { t with
          state := (t.state.addGoal name value properties now).2
          goals := t.goals ++ [(t.state.newGoal name value properties now, t.latest)] }
      else t
  | .buildPayload attributes options now focusMs =>
      { t with state := (t.state.buildPayload attributes options now focusMs).2 }
  | .finalizeForUnload now focusMs =>
      { t with state := t.state.finalizeForUnload now focusMs, index := .cleared }
  | .persist throws => if throws then t else { t with stored := some t.state.persist }
  | .restore =>
      { t with
        state := (t.state.restore t.stored).1
        stored := (t.state.restore t.stored).2
        index :=
          match t.stored with
          | none => t.index
          | some data =>
              if data.sessionId ≠ t.state.config.sessionId then t.index
              else .restored (snapshotPlace data) }

def Tab.run (t : Tab) (calls : List SessionCall) : Tab := calls.foldl Tab.call t

def step (t : Tab) (c : SessionCall) : Option Tab := some (t.call c)

/-! ### The claim and its condition -/

/-- Every goal added after a pageview carries the path and the number of the one added
last. -/
def Tab.Attributed (t : Tab) : Prop :=
  ∀ g p, (g, some p) ∈ t.goals → g.path = p.path ∧ g.pageNumber = p.pageNumber

/-- A goal added now would be added to the page `p`, which was opened last: the index still
points at it, or the defaults for a missing page happen to be its own, or the snapshot
that was restored had the index on a page of the same path and number. -/
def IndexFate.LeadsTo (p : PageviewAction) : IndexFate → Prop
  | .kept => p.path ≠ ""
  | .cleared => p.path = "/" ∧ p.pageNumber = 1
  | .restored place => goalPlace place = (p.path, p.pageNumber)

/-- A goal is added only while the index leads to the page opened last. -/
def GoalOnPage (t : Tab) : SessionCall → Prop
  | .addGoal .. => t.HasRoom → ∀ p, t.latest = some p → t.index.LeadsTo p
  | _ => True

/-! ### The index is where its fate says -/

/-- What the fate of the index says of the state. -/
def Tab.Tracks (t : Tab) : Prop :=
  match t.index with
  | .kept => ∃ p, t.latest = some p ∧ 0 < p.pageNumber ∧
      t.state.currentPlace = some (p.path, p.pageNumber)
  | .cleared => t.state.currentPlace = none
  | .restored place => t.state.currentPlace = place

theorem tracks_new (config : SessionStateConfig) (stored : Option SessionStateSnapshot) :
    (Tab.new config stored).Tracks := rfl

/-- A call that leaves the current place and what is noted of it. -/
theorem tracks_of_currentPlace {t t' : Tab} (h : t.Tracks) (hindex : t'.index = t.index)
    (hlatest : t'.latest = t.latest) (hplace : t'.state.currentPlace = t.state.currentPlace) :
    t'.Tracks := by
  unfold Tab.Tracks at h ⊢
  rw [hindex, hlatest, hplace]
  exact h

theorem currentPlace_addPageview {s : SessionState} (h : s.actions.length < MAX_ACTIONS)
    (path : String) (now : Int) (focusMs : ℚ) :
    (s.addPageview path now focusMs).currentPlace =
      some (path, getNextPageNumber (s.finalizeCurrentPageDuration now focusMs).actions) := by
  unfold addPageview
  rw [dif_pos h]
  show ((_ ++ [_])[_]?).map Action.place = _
  rw [List.getElem?_concat_length]
  rfl

/-- A push moves no index. -/
theorem currentPlace_push {s : SessionState} (action : Action)
    (h : s.actions.length < MAX_ACTIONS) : (s.push action h).currentPlace = s.currentPlace := by
  rw [currentPlace_eq, currentPlace_eq]
  show (s.currentPageIndex.bind fun i => ((s.actions ++ [action]).map Action.place)[i]?) = _
  cases hindex : s.currentPageIndex with
  | none => rfl
  | some i =>
      obtain ⟨a, ha⟩ := s.points i hindex
      have hlt : i < (s.actions.map Action.place).length := by
        rw [List.length_map]
        exact (List.getElem?_eq_some_iff.mp ha).1
      rw [List.map_append]
      exact List.getElem?_append_left hlt

/-- **A call keeps the index where its fate says.** -/
theorem tracks_call {t : Tab} (h : t.Tracks) (c : SessionCall) : (t.call c).Tracks := by
  cases c with
  | addPageview path now focusMs =>
      by_cases hroom : t.HasRoom
      · rw [Tab.call, if_pos hroom]
        exact ⟨_, rfl, getNextPageNumber_pos _, currentPlace_addPageview hroom path now focusMs⟩
      · rw [Tab.call, if_neg hroom]
        exact h
  | updateScroll scrollPercent =>
      exact tracks_of_currentPlace h rfl rfl (currentPlace_onCurrentPage (place_scrollTo _))
  | addGoal name value properties now =>
      by_cases hroom : t.HasRoom
      · rw [Tab.call, if_pos hroom]
        refine tracks_of_currentPlace h rfl rfl ?_
        rw [addGoal_of_room hroom]
        exact currentPlace_push _ hroom
      · rw [Tab.call, if_neg hroom]
        exact h
  | buildPayload attributes options now focusMs =>
      exact tracks_of_currentPlace h rfl rfl (currentPlace_onCurrentPage (place_closePage _ _))
  | finalizeForUnload now focusMs => exact rfl
  | persist throws =>
      cases throws with
      | true => exact h
      | false => exact tracks_of_currentPlace h rfl rfl rfl
  | restore =>
      rw [Tab.call]
      cases hstored : t.stored with
      | none => exact tracks_of_currentPlace h rfl rfl rfl
      | some data =>
          by_cases hsession : data.sessionId ≠ t.state.config.sessionId
          · refine tracks_of_currentPlace h (if_pos hsession) rfl ?_
            rw [restore_of_ne hsession]
          · rw [restore_of_eq (not_not.mp hsession)]
            unfold Tab.Tracks
            dsimp only
            rw [if_neg hsession]
            rfl

/-! ### One call -/

theorem goalPlace_eq_iff {path : String} {pageNumber : Nat} (h : 0 < pageNumber) :
    goalPlace (some (path, pageNumber)) = (path, pageNumber) ↔ path ≠ "" := by
  have hnumber : ¬pageNumber = 0 := by omega
  show (if path = "" then "/" else path, if pageNumber = 0 then 1 else pageNumber) = _ ↔ _
  rw [if_neg hnumber, Prod.mk.injEq]
  by_cases hpath : path = ""
  · simp [hpath]
  · simp [hpath]

/-- The index leads to the page opened last when `addGoal` would read that page off it. -/
theorem leadsTo_iff {t : Tab} (h : t.Tracks) {p : PageviewAction} (hp : t.latest = some p) :
    t.index.LeadsTo p ↔ goalPlace t.state.currentPlace = (p.path, p.pageNumber) := by
  unfold Tab.Tracks at h
  cases hindex : t.index with
  | kept =>
      rw [hindex] at h
      obtain ⟨q, hq, hpos, hplace⟩ := h
      obtain rfl : p = q := Option.some.inj (hp.symm.trans hq)
      rw [hplace]
      exact (goalPlace_eq_iff hpos).symm
  | cleared =>
      rw [hindex] at h
      have hplace : t.state.currentPlace = none := h
      rw [hplace]
      show p.path = "/" ∧ p.pageNumber = 1 ↔ ("/", 1) = (p.path, p.pageNumber)
      rw [Prod.mk.injEq]
      exact and_congr eq_comm eq_comm
  | restored place =>
      rw [hindex] at h
      have hplace : t.state.currentPlace = place := h
      rw [hplace]
      exact Iff.rfl

/-- **A call keeps the goals attributed exactly when it adds none off the page.** -/
theorem attributed_call_iff {t : Tab} (h : t.Tracks) (c : SessionCall) :
    (t.call c).Attributed ↔ t.Attributed ∧ GoalOnPage t c := by
  have hsame : ∀ {t' : Tab}, t'.goals = t.goals →
      (t'.Attributed ↔ t.Attributed ∧ True) := by
    intro t' hgoals
    unfold Tab.Attributed
    rw [hgoals, and_true]
  cases c with
  | addPageview path now focusMs =>
      refine hsame ?_
      rw [Tab.call]
      split <;> rfl
  | updateScroll scrollPercent => exact hsame rfl
  | buildPayload attributes options now focusMs => exact hsame rfl
  | finalizeForUnload now focusMs => exact hsame rfl
  | persist throws =>
      refine hsame ?_
      rw [Tab.call]
      split <;> rfl
  | restore => exact hsame rfl
  | addGoal name value properties now =>
      rw [Tab.call, GoalOnPage]
      by_cases hroom : t.HasRoom
      · rw [if_pos hroom]
        have hnew : (∀ p, t.latest = some p →
            (t.state.newGoal name value properties now).path = p.path ∧
              (t.state.newGoal name value properties now).pageNumber = p.pageNumber) ↔
            ∀ p, t.latest = some p → t.index.LeadsTo p := by
          refine forall_congr' fun p => imp_congr_right fun hp => ?_
          rw [leadsTo_iff h hp]
          exact (Prod.ext_iff (x := goalPlace t.state.currentPlace)
            (y := (p.path, p.pageNumber))).symm
        rw [show (t.HasRoom → ∀ p, t.latest = some p → t.index.LeadsTo p) ↔
          ∀ p, t.latest = some p → t.index.LeadsTo p from ⟨fun hc => hc hroom, fun hc _ => hc⟩,
          ← hnew]
        constructor
        · intro hall
          refine ⟨fun g p hg => hall g p (List.mem_append_left _ hg), fun p hp => ?_⟩
          exact hall _ p (List.mem_append_right _ (by rw [hp]; exact List.mem_singleton_self _))
        · rintro ⟨hold, hadded⟩ g p hg
          rcases List.mem_append.mp hg with hg | hg
          · exact hold g p hg
          · obtain ⟨rfl, hp⟩ := Prod.mk.inj (List.mem_singleton.mp hg)
            exact hadded p hp.symm
      · rw [if_neg hroom]
        exact ⟨fun hall => ⟨hall, fun hc => absurd hc hroom⟩, And.left⟩

/-! ### Whole runs -/

/-- **The goals of a run are attributed to the page the user is on exactly when each is added
while the index leads there.** -/
theorem goals_attributed_iff (config : SessionStateConfig)
    (stored : Option SessionStateSnapshot) (calls : List SessionCall) :
    ((Tab.new config stored).run calls).Attributed ↔
      Meets step GoalOnPage (Tab.new config stored) calls := by
  have hrun := exec_iff_meets (I := Tab.Tracks) (P := Tab.Attributed)
    (C := GoalOnPage) (fun t c t' h hstep => Option.some.inj hstep ▸ tracks_call h c)
    (fun t c t' h hstep => Option.some.inj hstep ▸ attributed_call_iff h c)
    (tracks_new config stored) (exec_some Tab.call _ calls)
  refine hrun.trans (and_iff_right ?_)
  intro g p hg
  exact absurd hg List.not_mem_nil

namespace BlurExample

def config : SessionStateConfig := ⟨"w", "s", 0⟩

/-- The pricing page is opened, the window loses the focus and gets it back, and the visitor
signs up on that same page. -/
def calls : List SessionCall :=
  [.addPageview "/pricing" 0 0, .finalizeForUnload 1000 1000, .addGoal "signup" none none 5000]

/-- The goal is filed under the root page. -/
theorem blurred_goal_misfiled : ¬((Tab.new config none).run calls).Attributed := by
  intro h
  have hgoals : ((Tab.new config none).run calls).goals =
      [(⟨"signup", "/", 1, 5000, none, none⟩, some (newPageview "/pricing" 1 0))] := rfl
  have hpath := (h _ _ (hgoals ▸ List.mem_singleton_self _)).1
  exact absurd hpath (by decide)

end BlurExample

end Veridian.GoalAttribution
