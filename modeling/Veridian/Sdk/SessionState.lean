/-
`SessionState`: the actions of a session as one tab of a browser keeps them.

A pageview is in the list from the moment its page is opened, and `currentPageIndex` says
which entry is the page on screen.  The clock and the SDK's focus time are read by the
calls, so they are arguments of them here.
-/
import Veridian.Events.Payload

namespace Veridian

/-! ### Actions -/

def Action.path : Action → String
  | .pageview a => a.path
  | .goal a => a.path

def Action.pageNumber : Action → Nat
  | .pageview a => a.pageNumber
  | .goal a => a.pageNumber

/-- A write to an action that is a pageview. -/
def Action.onPageview (f : PageviewAction → PageviewAction) : Action → Action
  | .pageview a => .pageview (f a)
  | .goal a => .goal a

/-- What of an action no call writes after it was added. -/
def Action.place (a : Action) : String × Nat := (a.path, a.pageNumber)

theorem Action.place_onPageview {f : PageviewAction → PageviewAction}
    (hpath : ∀ a, (f a).path = a.path) (hnumber : ∀ a, (f a).pageNumber = a.pageNumber)
    (a : Action) : (a.onPageview f).place = a.place := by
  cases a with
  | pageview a => exact Prod.ext (hpath a) (hnumber a)
  | goal a => rfl

/-! ### The state -/

structure SessionStateConfig where
  workspaceId : String
  sessionId : String
  createdAt : Int

/-- The index is of a pageview, if it is set. -/
def PointsAtPage (actions : List Action) (currentPageIndex : Option Nat) : Prop :=
  ∀ i, currentPageIndex = some i → ∃ a, actions[i]? = some (.pageview a)

theorem pointsAtPage_none (actions : List Action) : PointsAtPage actions none :=
  fun _ h => nomatch h

theorem PointsAtPage.push {actions : List Action} {currentPageIndex : Option Nat}
    (h : PointsAtPage actions currentPageIndex) (action : Action) :
    PointsAtPage (actions ++ [action]) currentPageIndex := by
  intro i hi
  obtain ⟨a, ha⟩ := h i hi
  exact ⟨a, (List.getElem?_append_left (List.getElem?_eq_some_iff.mp ha).1).trans ha⟩

theorem PointsAtPage.modify {actions : List Action} {currentPageIndex : Option Nat}
    (h : PointsAtPage actions currentPageIndex) (j : Nat) (f : PageviewAction → PageviewAction) :
    PointsAtPage (actions.modify j (Action.onPageview f)) currentPageIndex := by
  intro i hi
  obtain ⟨a, ha⟩ := h i hi
  rw [List.getElem?_modify, ha]
  by_cases hj : j = i
  · exact ⟨f a, by simp [hj, Action.onPageview]⟩
  · exact ⟨a, by simp [hj]⟩

theorem pointsAtPage_last (actions : List Action) (a : PageviewAction) :
    PointsAtPage (actions ++ [.pageview a]) (some actions.length) := by
  intro i hi
  obtain rfl := Option.some.inj hi
  exact ⟨a, List.getElem?_concat_length⟩

/-- What lies under `stm_session_state` in the `sessionStorage` of a tab. -/
structure SessionStateSnapshot where
  sessionId : String
  actions : List Action
  currentPageIndex : Option Nat
  actions_le : actions.length ≤ MAX_ACTIONS
  points : PointsAtPage actions currentPageIndex

structure SessionState where
  config : SessionStateConfig
  actions : List Action
  currentPageIndex : Option Nat
  actions_le : actions.length ≤ MAX_ACTIONS
  points : PointsAtPage actions currentPageIndex

namespace SessionState

/-- `new SessionState(config)` -/
def new (config : SessionStateConfig) : SessionState where
  config := config
  actions := []
  currentPageIndex := none
  actions_le := Nat.zero_le _
  points := pointsAtPage_none _

variable (s : SessionState)

/-- `this.actions[this.currentPageIndex]` -/
def currentAction : Option Action := s.currentPageIndex.bind fun i => s.actions[i]?

structure CurrentPage where
  path : String
  pageNumber : Nat
  enteredAt : Int
  scroll : ℚ

def getCurrentPage : Option CurrentPage :=
  match s.currentAction with
  | some (.pageview a) => some ⟨a.path, a.pageNumber, a.enteredAt, a.scroll⟩
  | _ => none

/-- A write to the current page, if there is one and it is a pageview. -/
def onCurrentPage (f : PageviewAction → PageviewAction) : SessionState :=
  match s.currentPageIndex with
  | none => s
  | some i =>
      { s with
        actions := s.actions.modify i (Action.onPageview f)
        actions_le := (List.length_modify ..).trans_le s.actions_le
        points := s.points.modify i f }

/-! ### Pages -/

/-- The duration and the exit time a page is given when it is left or sent. -/
def closePage (now : Int) (focusMs : ℚ) (a : PageviewAction) : PageviewAction :=
  { a with duration := focusMs, exitedAt := now }

def finalizeCurrentPageDuration (now : Int) (focusMs : ℚ) : SessionState :=
  s.onCurrentPage (closePage now focusMs)

def getNextPageNumber (actions : List Action) : Nat :=
  actions.foldl (fun maxPageNumber a => max maxPageNumber a.pageNumber) 0 + 1

def newPageview (path : String) (pageNumber : Nat) (now : Int) : PageviewAction where
  path := path
  pageNumber := pageNumber
  duration := 0
  scroll := 0
  enteredAt := now
  exitedAt := now

/-- `this.actions.push(action)`, where there is room. -/
def push (action : Action) (h : s.actions.length < MAX_ACTIONS) : SessionState :=
  { s with
    actions := s.actions ++ [action]
    actions_le := by rw [List.length_append]; exact h
    points := s.points.push action }

theorem length_onCurrentPage (f : PageviewAction → PageviewAction) :
    (s.onCurrentPage f).actions.length = s.actions.length := by
  unfold onCurrentPage
  split
  · rfl
  · exact List.length_modify ..

def addPageview (path : String) (now : Int) (focusMs : ℚ) : SessionState :=
  if h : s.actions.length < MAX_ACTIONS then
    let left := s.finalizeCurrentPageDuration now focusMs
    let page := newPageview path (getNextPageNumber left.actions) now
    { left.push (.pageview page) ((s.length_onCurrentPage _).trans_lt h) with
      currentPageIndex := some left.actions.length
      points := pointsAtPage_last _ page }
  else s

def scrollTo (scrollPercent : ℚ) (a : PageviewAction) : PageviewAction :=
  let clamped := max 0 (min 100 scrollPercent)
  if a.scroll < clamped then { a with scroll := clamped } else a

def updateScroll (scrollPercent : ℚ) : SessionState := s.onCurrentPage (scrollTo scrollPercent)

/-! ### Goals -/

/-- `currentPage?.path || '/'` and `currentPage?.page_number || 1` -/
def goalPlace : Option (String × Nat) → String × Nat
  | none => ("/", 1)
  | some (path, pageNumber) =>
      (if path = "" then "/" else path, if pageNumber = 0 then 1 else pageNumber)

/-- The path and the number of the action the index points at. -/
def currentPlace : Option (String × Nat) := s.currentAction.map Action.place

def newGoal (name : String) (value : Option ℚ) (properties : Option (List (String × String)))
    (now : Int) : GoalAction where
  name := name
  path := (goalPlace s.currentPlace).1
  pageNumber := (goalPlace s.currentPlace).2
  timestamp := now
  value := value
  properties := properties

/-- The answer of `addGoal`, and the state it leaves. -/
def addGoal (name : String) (value : Option ℚ) (properties : Option (List (String × String)))
    (now : Int) : Bool × SessionState :=
  if h : s.actions.length < MAX_ACTIONS then
    (true, s.push (.goal (s.newGoal name value properties now)) h)
  else (false, s)

/-! ### Payloads -/

structure PayloadOptions where
  userId : Option String := none
  visitorId : Option String := none
  dimensions : List (String × String) := []

/-- `APP_VERSION`, which the build puts for `__SDK_VERSION__`. -/
def SDK_VERSION : String := "12.0.0"

def buildPayload (attributes : SessionAttributes) (options : PayloadOptions) (now : Int)
    (focusMs : ℚ) : SessionPayload × SessionState :=
  let sent := s.onCurrentPage (closePage now focusMs)
  ({ workspaceId := s.config.workspaceId
     sessionId := s.config.sessionId
     actions := sent.actions
     attributes := attributes
     createdAt := s.config.createdAt
     updatedAt := now
     sdkVersion := some SDK_VERSION
     userId := options.userId
     visitorId := options.visitorId
     dimensions := options.dimensions
     actions_le := sent.actions_le }, sent)

def finalizeForUnload (now : Int) (focusMs : ℚ) : SessionState :=
  { s.onCurrentPage (closePage now focusMs) with
    currentPageIndex := none
    points := pointsAtPage_none _ }

/-! ### The storage of the tab -/

def persist : SessionStateSnapshot where
  sessionId := s.config.sessionId
  actions := s.actions
  currentPageIndex := s.currentPageIndex
  actions_le := s.actions_le
  points := s.points

/-- The state `restore` leaves, and what it leaves in the storage. -/
def restore (stored : Option SessionStateSnapshot) : SessionState × Option SessionStateSnapshot :=
  match stored with
  | none => (s, none)
  | some data =>
      if data.sessionId ≠ s.config.sessionId then (s, none)
      else
        ({ s with
           actions := data.actions
           currentPageIndex := data.currentPageIndex
           actions_le := data.actions_le
           points := data.points }, some data)

/-! ### What the calls leave as it was -/

variable {s}

theorem getElem?_onCurrentPage (f : PageviewAction → PageviewAction) (i : Nat) :
    (s.onCurrentPage f).actions[i]? =
      (s.actions[i]?).map fun a => if s.currentPageIndex = some i then a.onPageview f else a := by
  unfold onCurrentPage
  split
  · rename_i hindex
    simp [hindex]
  · rename_i j hindex
    show (s.actions.modify j _)[i]? = _
    rw [List.getElem?_modify, hindex]
    by_cases hij : j = i <;> simp [hij]

theorem map_onCurrentPage {β : Type*} {view : Action → β} {f : PageviewAction → PageviewAction}
    (hview : ∀ a, view (a.onPageview f) = view a) :
    (s.onCurrentPage f).actions.map view = s.actions.map view := by
  refine List.ext_getElem? fun i => ?_
  rw [List.getElem?_map, List.getElem?_map, getElem?_onCurrentPage, Option.map_map]
  refine congrArg (Option.map · s.actions[i]?) (funext fun a => ?_)
  show view (if _ then _ else _) = _
  split
  · exact hview a
  · rfl

theorem currentPageIndex_onCurrentPage (f : PageviewAction → PageviewAction) :
    (s.onCurrentPage f).currentPageIndex = s.currentPageIndex := by
  unfold onCurrentPage
  split <;> rfl

theorem config_onCurrentPage (f : PageviewAction → PageviewAction) :
    (s.onCurrentPage f).config = s.config := by
  unfold onCurrentPage
  split <;> rfl

/-- The place the index points at, read off the places of the actions. -/
theorem currentPlace_eq : s.currentPlace =
    s.currentPageIndex.bind fun i => (s.actions.map Action.place)[i]? := by
  unfold currentPlace currentAction
  cases s.currentPageIndex with
  | none => rfl
  | some i => exact List.getElem?_map.symm

theorem place_closePage (now : Int) (focusMs : ℚ) (a : Action) :
    (a.onPageview (closePage now focusMs)).place = a.place :=
  Action.place_onPageview (f := closePage now focusMs) (fun _ => rfl) (fun _ => rfl) a

theorem place_scrollTo (scrollPercent : ℚ) (a : Action) :
    (a.onPageview (scrollTo scrollPercent)).place = a.place := by
  refine Action.place_onPageview (fun a => ?_) (fun a => ?_) a <;>
  · unfold scrollTo
    dsimp only
    split <;> rfl

/-- A write to the current page that keeps the places keeps the current one. -/
theorem currentPlace_onCurrentPage {f : PageviewAction → PageviewAction}
    (hf : ∀ a : Action, (a.onPageview f).place = a.place) :
    (s.onCurrentPage f).currentPlace = s.currentPlace := by
  rw [currentPlace_eq, currentPlace_eq, currentPageIndex_onCurrentPage, map_onCurrentPage hf]

theorem addGoal_of_room {name : String} {value : Option ℚ}
    {properties : Option (List (String × String))} {now : Int}
    (h : s.actions.length < MAX_ACTIONS) : s.addGoal name value properties now =
      (true, s.push (.goal (s.newGoal name value properties now)) h) := dif_pos h

theorem restore_of_ne {data : SessionStateSnapshot} (h : data.sessionId ≠ s.config.sessionId) :
    s.restore (some data) = (s, none) := if_pos h

theorem restore_of_eq {data : SessionStateSnapshot} (h : data.sessionId = s.config.sessionId) :
    s.restore (some data) =
      ({ s with
         actions := data.actions
         currentPageIndex := data.currentPageIndex
         actions_le := data.actions_le
         points := data.points }, some data) := if_neg (not_not_intro h)

/-- The pages are numbered from one. -/
theorem getNextPageNumber_pos (actions : List Action) : 0 < getNextPageNumber actions :=
  Nat.succ_pos _

/-- An action has a smaller number than the next page. -/
theorem lt_getNextPageNumber {actions : List Action} {a : Action} (h : a ∈ actions) :
    a.pageNumber < getNextPageNumber actions := by
  have hfold : ∀ (l : List Action) (m : Nat),
      m ≤ l.foldl (fun maxPageNumber a => max maxPageNumber a.pageNumber) m ∧
        ∀ a ∈ l, a.pageNumber ≤ l.foldl (fun maxPageNumber a => max maxPageNumber a.pageNumber) m := by
    intro l
    induction l with
    | nil => intro m; exact ⟨le_refl m, fun a ha => absurd ha List.not_mem_nil⟩
    | cons b rest ih =>
        intro m
        obtain ⟨hstart, hrest⟩ := ih (max m b.pageNumber)
        refine ⟨(le_max_left _ _).trans hstart, fun a ha => ?_⟩
        rcases List.mem_cons.mp ha with rfl | ha
        · exact (le_max_right _ _).trans hstart
        · exact hrest a ha
  exact Nat.lt_succ_of_le ((hfold actions 0).2 a h)

theorem getNextPageNumber_congr {actions actions' : List Action}
    (h : actions.map Action.pageNumber = actions'.map Action.pageNumber) :
    getNextPageNumber actions = getNextPageNumber actions' := by
  have hmap : ∀ l : List Action, getNextPageNumber l = (l.map Action.pageNumber).foldl max 0 + 1 :=
    fun l => congrArg (· + 1) List.foldl_map.symm
  rw [hmap, hmap, h]

end SessionState

end Veridian
