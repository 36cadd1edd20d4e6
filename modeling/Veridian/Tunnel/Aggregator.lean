/-
The aggregate the scoring bridge reads, and the order of the events under it.

Each identity has one accumulator, which every event of it updates.  Sessions and pages are
sets, clicks and bookings are counted, the scroll and the last visit are maxima, and the
flags are only ever set: none of this depends on the order.  One update reads what it
writes: the goal of an audit view counts only while no view is counted, a page view always.
So the goal in front of the first page view counts and behind it does not.
-/
import Mathlib.Logic.Function.Conjugate
import Mathlib.Data.Finset.Card
import Mathlib.Order.Lattice
import Mathlib.Algebra.Ring.Nat
import Veridian.Lib.KeyedFold
import Veridian.Lib.Text

namespace Veridian.Tunnel

/-! ### Reference sets -/

def HOT_PATHS : List String := ["/tarifs", "/contact", "/roi"]

def CTA_GOALS : List String := ["audit_cta_rdv", "appointment_click", "roi_lead_click", "cta_click"]

def RDV_GOALS : List String := ["rdv_booked"]

def CONSENT_GOALS : List String := ["consent_granted"]

def AUDIT_VIEW_GOALS : List String := ["audit_view", "audit_page_view"]

def AUDIT_SCROLL_GOALS : List String := ["audit_scroll", "scroll_depth"]

def SIGNUP_GOALS : List String := ["signup"]

def APP_STARTED_GOALS : List String := ["app_started"]

def APP_STARTED_SCORED_APPS : List String := ["notifuse", "prospection"]

/-! ### Rows and aggregates -/

/-- What the host makes of texts.  The numbers `N` are those that are not `NaN`. -/
structure Readers (N : Type) where
  /-- `Number(text)`: `none` is `NaN`. -/
  number : String → Option N
  /-- `new Date(text)`, in milliseconds: `none` when it is invalid. -/
  date : String → Option Int
  toISOString : Int → String

structure RawEventRow (N : Type) where
  userId : Option String
  sessionId : String
  name : String
  path : String
  maxScroll : N
  goalName : String
  properties : List (String × String)
  goalTimestamp : Option String
  updatedAt : String

structure AnalyticsAggregate (N : Type) where
  userId : String
  auditViews : Nat
  auditScrollMax : N
  hotPages : Nat
  otherPages : Nat
  consented : Bool
  ctaClicks : Nat
  rdvBooked : Nat
  identifiedByEmail : Bool
  appStarted : Bool
  sessions : Nat
  lastSeen : Option String
  deriving DecidableEq

structure Acc (N : Type) where
  agg : AnalyticsAggregate N
  sessions : Finset String
  hot : Finset String
  other : Finset String
  lastSeen : Option Int

section

variable {N : Type} [LinearOrder N] [Zero N] (readers : Readers N)

/-- `s.replace(' ', 'T')`: the first blank. -/
def replaceBlank : List Char → List Char
  | [] => []
  | c :: cs => if c = ' ' then 'T' :: cs else c :: replaceBlank cs

def parseClickHouseDate (s : String) : Option Int :=
  if s = "" then none
  else readers.date (if Text.includes s "T" then s else String.ofList (replaceBlank s.toList) ++ "Z")

/-! ### One event -/

def Acc.start (id : String) : Acc N where
  agg :=
    { userId := id, auditViews := 0, auditScrollMax := 0, hotPages := 0, otherPages := 0,
      consented := false, ctaClicks := 0, rdvBooked := 0,
      identifiedByEmail := Text.includes id "@", appStarted := false, sessions := 0,
      lastSeen := none }
  sessions := ∅
  hot := ∅
  other := ∅
  lastSeen := none

def Acc.inSession (sessionId : String) (acc : Acc N) : Acc N :=
  let sessions := insert sessionId acc.sessions
  { acc with sessions := sessions, agg := { acc.agg with sessions := sessions.card } }

def Acc.seenAt (eventDate : Option Int) (acc : Acc N) : Acc N :=
  match eventDate with
  | none => acc
  | some date =>
      if acc.lastSeen.all (· < date) then
        { acc with
          lastSeen := some date
          agg := { acc.agg with lastSeen := some (readers.toISOString date) } }
      else acc

/-- The branch of the loop an event takes, with what the branch reads of it. -/
inductive Branch (N : Type) where
  | auditPage (scroll : N)
  | hotPage (path : String)
  | otherPage (path : String)
  | auditView
  | auditScroll (depth : Option N)
  | cta
  | rdv
  | consent
  | signup
  | appStarted (app : String)
  | ignored

def RawEventRow.branch (e : RawEventRow N) : Branch N :=
  if e.name = "screen_view" then
    if Text.startsWith e.path "/audit/" then .auditPage e.maxScroll
    else if HOT_PATHS.contains e.path then .hotPage e.path
    else .otherPage e.path
  else if e.name = "goal" then
    if AUDIT_VIEW_GOALS.contains e.goalName then .auditView
    else if AUDIT_SCROLL_GOALS.contains e.goalName then
      .auditScroll (match e.properties.lookup "depth" with
        | none => some 0
        | some depth => readers.number depth)
    else if CTA_GOALS.contains e.goalName then .cta
    else if RDV_GOALS.contains e.goalName then .rdv
    else if CONSENT_GOALS.contains e.goalName then .consent
    else if SIGNUP_GOALS.contains e.goalName then .signup
    else if APP_STARTED_GOALS.contains e.goalName then
      .appStarted ((e.properties.lookup "app").getD "")
    else .ignored
  else .ignored

/-- `if (value > agg.auditScrollMax) agg.auditScrollMax = value` -/
def scrolled (value : N) (agg : AnalyticsAggregate N) : AnalyticsAggregate N :=
  if agg.auditScrollMax < value then { agg with auditScrollMax := value } else agg

def Branch.apply (b : Branch N) (acc : Acc N) : Acc N :=
  match b with
  | .auditPage scroll =>
      { acc with agg := scrolled scroll { acc.agg with auditViews := acc.agg.auditViews + 1 } }
  | .hotPage path =>
      let hot := insert path acc.hot
      { acc with hot := hot, agg := { acc.agg with hotPages := hot.card } }
  | .otherPage path =>
      let other := insert path acc.other
      { acc with other := other, agg := { acc.agg with otherPages := other.card } }
  | .auditView =>
      { acc with agg :=
        { acc.agg with
          auditViews := acc.agg.auditViews + if acc.agg.auditViews = 0 then 1 else 0 } }
  | .auditScroll (some depth) => { acc with agg := scrolled depth acc.agg }
  -- a comparison with `NaN` is false
  | .auditScroll none => acc
  | .cta => { acc with agg := { acc.agg with ctaClicks := acc.agg.ctaClicks + 1 } }
  | .rdv => { acc with agg := { acc.agg with rdvBooked := acc.agg.rdvBooked + 1 } }
  | .consent => { acc with agg := { acc.agg with consented := true } }
  | .signup => { acc with agg := { acc.agg with identifiedByEmail := true } }
  | .appStarted app =>
      if APP_STARTED_SCORED_APPS.contains app then
        { acc with agg := { acc.agg with appStarted := true } }
      else acc
  | .ignored => acc

def observe (acc : Acc N) (e : RawEventRow N) : Acc N :=
  (e.branch readers).apply <|
    (acc.inSession e.sessionId).seenAt readers <|
      parseClickHouseDate readers (e.goalTimestamp.getD e.updatedAt)

/-! ### All events -/

/-- `e.user_id`, of which an empty one counts as none. -/
def RawEventRow.identity (e : RawEventRow N) : Option String := e.userId.filter (· ≠ "")

def aggregateEvents (events : List (RawEventRow N)) (previous : Option (List (String × Acc N))) :
    List (String × Acc N) :=
  KeyedFold.fold RawEventRow.identity Acc.start (observe readers) events (previous.getD [])

/-- The pages one after the other, each with the map of the one before. -/
def aggregatePages (pages : List (List (RawEventRow N))) : List (String × Acc N) :=
  pages.foldl (fun acc page => aggregateEvents readers page (some acc)) []

def aggregateOf (accs : List (String × Acc N)) (id : String) : Option (AnalyticsAggregate N) :=
  (accs.lookup id).map Acc.agg

end

/-! ### Updates that may change places -/

section

open Function (Commute)

variable {N : Type} [LinearOrder N] (readers : Readers N)

/-- The two that may not: a page view of an audit and the goal of one. -/
def Branch.Clash : Branch N → Branch N → Prop
  | .auditPage _, .auditView => True
  | .auditView, .auditPage _ => True
  | _, _ => False

theorem scrolled_eq (value : N) (agg : AnalyticsAggregate N) :
    scrolled value agg = { agg with auditScrollMax := max agg.auditScrollMax value } := by
  unfold scrolled
  split
  · rename_i hlt
    rw [max_eq_right hlt.le]
  · rename_i hle
    rw [max_eq_left (not_lt.mp hle)]

theorem apply_auditScroll (depth : Option N) (acc : Acc N) :
    (Branch.auditScroll depth).apply acc =
      { acc with agg :=
        { acc.agg with
          auditScrollMax := depth.elim acc.agg.auditScrollMax (max acc.agg.auditScrollMax) } } := by
  cases depth with
  | none => rfl
  | some depth => simp only [Branch.apply, scrolled_eq, Option.elim_some]

theorem apply_appStarted (app : String) (acc : Acc N) :
    (Branch.appStarted app).apply acc =
      { acc with agg :=
        { acc.agg with
          appStarted := acc.agg.appStarted || APP_STARTED_SCORED_APPS.contains app } } := by
  simp only [Branch.apply]
  cases APP_STARTED_SCORED_APPS.contains app with
  | true => rw [if_pos rfl, Bool.or_true]
  | false => rw [if_neg Bool.false_ne_true, Bool.or_false]

theorem apply_auditPage (scroll : N) (acc : Acc N) :
    (Branch.auditPage scroll).apply acc =
      { acc with agg :=
        { acc.agg with
          auditViews := acc.agg.auditViews + 1
          auditScrollMax := max acc.agg.auditScrollMax scroll } } := by
  simp only [Branch.apply, scrolled_eq]

theorem Branch.apply_comm {a b : Branch N} (h : ¬a.Clash b) : Commute a.apply b.apply := by
  intro acc
  -- what writes different fields is settled by the fields; nine pairs are left
  cases a <;> cases b <;>
    (try simp only [apply_auditPage, apply_auditScroll, apply_appStarted]) <;> try rfl
  case auditPage.auditPage => rw [max_right_comm]
  case auditPage.auditView => exact absurd trivial h
  case auditView.auditPage => exact absurd trivial h
  case auditPage.auditScroll scroll depth =>
    cases depth with
    | none => rfl
    | some depth => rw [Option.elim_some, Option.elim_some, max_right_comm]
  case auditScroll.auditPage depth scroll =>
    cases depth with
    | none => rfl
    | some depth => rw [Option.elim_some, Option.elim_some, max_right_comm]
  case auditScroll.auditScroll first second =>
    cases first with
    | none => rfl
    | some first =>
        cases second with
        | none => rfl
        | some second => simp only [Option.elim_some, max_right_comm]
  case hotPage.hotPage => simp only [Branch.apply, Finset.insert_comm]
  case otherPage.otherPage => simp only [Branch.apply, Finset.insert_comm]
  case appStarted.appStarted => rw [Bool.or_right_comm]

/-! ### The session and the date -/

theorem Branch.apply_inSession (b : Branch N) (sessionId : String) :
    Commute b.apply (Acc.inSession sessionId) := by
  intro acc
  cases b <;> (try simp only [apply_auditPage, apply_auditScroll, apply_appStarted]) <;> rfl

theorem Branch.apply_seenAt (b : Branch N) (eventDate : Option Int) :
    Commute b.apply (Acc.seenAt readers eventDate) := by
  intro acc
  cases eventDate with
  | none => rfl
  | some date =>
      have hlast : (b.apply acc).lastSeen = acc.lastSeen := by
        cases b <;> (try simp only [apply_auditScroll, apply_appStarted]) <;> rfl
      simp only [Acc.seenAt, hlast]
      split
      · cases b <;> (try simp only [apply_auditPage, apply_auditScroll, apply_appStarted]) <;> rfl
      · rfl

omit [LinearOrder N] in
theorem inSession_comm (s t : String) :
    Commute (Acc.inSession (N := N) s) (Acc.inSession t) := by
  intro acc
  simp only [Acc.inSession, Finset.insert_comm]

omit [LinearOrder N] in
theorem seenAt_inSession (eventDate : Option Int) (sessionId : String) :
    Commute (Acc.seenAt readers eventDate) (Acc.inSession (N := N) sessionId) := by
  intro acc
  cases eventDate with
  | none => rfl
  | some date =>
      have hlast : (acc.inSession sessionId).lastSeen = acc.lastSeen := rfl
      simp only [Acc.seenAt, hlast]
      split <;> rfl

omit [LinearOrder N] in
/-- Of two dates only the later one counts. -/
theorem seenAt_of_lt {d d' : Int} (h : d < d') (acc : Acc N) :
    (acc.seenAt readers (some d')).seenAt readers (some d) = acc.seenAt readers (some d') ∧
      (acc.seenAt readers (some d)).seenAt readers (some d') = acc.seenAt readers (some d') := by
  obtain ⟨agg, sessions, hot, other, lastSeen⟩ := acc
  cases lastSeen with
  | none => simp [Acc.seenAt, h, h.le]
  | some last =>
      by_cases hlast : last < d'
      · by_cases hfirst : last < d
        · simp [Acc.seenAt, hlast, hfirst, h, h.le]
        · simp [Acc.seenAt, hlast, hfirst, h.le]
      · have hfirst : ¬last < d := fun hc => hlast (hc.trans h)
        simp [Acc.seenAt, hlast, hfirst]

omit [LinearOrder N] in
theorem seenAt_comm (d d' : Option Int) :
    Commute (Acc.seenAt (N := N) readers d) (Acc.seenAt readers d') := by
  intro acc
  cases d with
  | none => rfl
  | some d =>
      cases d' with
      | none => rfl
      | some d' =>
          rcases lt_trichotomy d d' with h | rfl | h
          · rw [(seenAt_of_lt readers h acc).1, (seenAt_of_lt readers h acc).2]
          · rfl
          · rw [(seenAt_of_lt readers h acc).1, (seenAt_of_lt readers h acc).2]

variable [Zero N]

/-- Two events of which neither is a page view where the other is the goal. -/
theorem observe_comm {x y : RawEventRow N}
    (h : ¬(y.branch readers).Clash (x.branch readers)) (acc : Acc N) :
    observe readers (observe readers acc x) y = observe readers (observe readers acc y) x := by
  let date := fun e : RawEventRow N =>
    Acc.seenAt (N := N) readers (parseClickHouseDate readers (e.goalTimestamp.getD e.updatedAt))
  have hrow : ∀ g : Acc N → Acc N, Commute g (x.branch readers).apply → Commute g (date x) →
      Commute g (Acc.inSession x.sessionId) → Commute g fun acc => observe readers acc x :=
    fun g hbranch hdate hsession => hbranch.comp_right (hdate.comp_right hsession)
  have hbranch := hrow (y.branch readers).apply (Branch.apply_comm h)
    (Branch.apply_seenAt readers _ _) (Branch.apply_inSession _ _)
  have hdate := hrow (date y) (Branch.apply_seenAt readers _ _).symm (seenAt_comm readers _ _)
    (seenAt_inSession readers _ _)
  have hsession := hrow (Acc.inSession y.sessionId) (Branch.apply_inSession _ _).symm
    (seenAt_inSession readers _ _).symm (inSession_comm _ _)
  exact hbranch.comp_left (hdate.comp_left hsession) acc

/-! ### Where the order shows -/

/-- What a branch makes of the number of views. -/
def Branch.views : Branch N → Nat → Nat
  | .auditPage _, n => n + 1
  | .auditView, n => n + if n = 0 then 1 else 0
  | _, n => n

theorem observe_auditViews (acc : Acc N) (e : RawEventRow N) :
    (observe readers acc e).agg.auditViews = (e.branch readers).views acc.agg.auditViews := by
  have hseen : ∀ (eventDate : Option Int) (acc : Acc N),
      (acc.seenAt readers eventDate).agg.auditViews = acc.agg.auditViews := by
    intro eventDate acc
    cases eventDate with
    | none => rfl
    | some date =>
        unfold Acc.seenAt
        dsimp only
        split <;> rfl
  have happly : ∀ (b : Branch N) (acc : Acc N),
      (b.apply acc).agg.auditViews = b.views acc.agg.auditViews := by
    intro b acc
    cases b <;> (try simp only [apply_auditPage, apply_auditScroll, apply_appStarted]) <;> rfl
  unfold observe
  rw [happly, hseen]
  rfl

/-- The views of two accumulators stay apart when one is ahead of views already counted. -/
theorem foldl_auditViews_ahead (events : List (RawEventRow N)) : ∀ acc acc' : Acc N,
    acc'.agg.auditViews = acc.agg.auditViews + 1 → acc.agg.auditViews ≠ 0 →
    (events.foldl (observe readers) acc').agg.auditViews =
      (events.foldl (observe readers) acc).agg.auditViews + 1 := by
  induction events with
  | nil => exact fun acc acc' h _ => h
  | cons e rest ih =>
      intro acc acc' h hne
      have hstep : ∀ b : Branch N, b.views acc'.agg.auditViews =
          b.views acc.agg.auditViews + 1 ∧ b.views acc.agg.auditViews ≠ 0 := by
        intro b
        rw [h]
        cases b <;> simp [Branch.views, hne]
      refine ih _ _ ?_ ?_
      · rw [observe_auditViews, observe_auditViews]
        exact (hstep _).1
      · rw [observe_auditViews]
        exact (hstep _).2

/-- A page view of an audit. -/
def RawEventRow.isAuditPage (e : RawEventRow N) : Bool :=
  e.name = "screen_view" && Text.startsWith e.path "/audit/"

/-- The goal of an audit view. -/
def RawEventRow.isAuditView (e : RawEventRow N) : Bool :=
  e.name = "goal" && AUDIT_VIEW_GOALS.contains e.goalName

omit [LinearOrder N] in
theorem isAuditPage_iff (e : RawEventRow N) :
    e.isAuditPage = true ↔ ∃ scroll, e.branch readers = .auditPage scroll := by
  unfold RawEventRow.isAuditPage RawEventRow.branch
  by_cases hname : e.name = "screen_view"
  · rw [if_pos hname]
    by_cases hpath : Text.startsWith e.path "/audit/" = true
    · rw [if_pos hpath]
      exact iff_of_true (Bool.and_eq_true_iff.mpr ⟨decide_eq_true hname, hpath⟩) ⟨_, rfl⟩
    · rw [if_neg hpath]
      split <;> simp [hpath]
  · rw [if_neg hname]
    refine iff_of_false (by simp [hname]) ?_
    rintro ⟨scroll, hbranch⟩
    repeat' split at hbranch
    all_goals cases hbranch

omit [LinearOrder N] in
theorem isAuditView_iff (e : RawEventRow N) :
    e.isAuditView = true ↔ e.branch readers = .auditView := by
  unfold RawEventRow.isAuditView RawEventRow.branch
  by_cases hname : e.name = "goal"
  · have hpage : e.name ≠ "screen_view" := by
      rw [hname]
      decide
    rw [if_neg hpage, if_pos hname]
    by_cases hview : AUDIT_VIEW_GOALS.contains e.goalName = true
    · rw [if_pos hview]
      exact iff_of_true (Bool.and_eq_true_iff.mpr ⟨decide_eq_true hname, hview⟩) rfl
    · rw [if_neg hview]
      refine iff_of_false (fun h => hview (Bool.and_eq_true_iff.mp h).2) fun hbranch => ?_
      repeat' split at hbranch
      all_goals cases hbranch
  · rw [if_neg hname]
    refine iff_of_false (by simp [hname]) fun hbranch => ?_
    repeat' split at hbranch
    all_goals cases hbranch

/-- However the events are ordered and cut into pages, each identity has one aggregate. -/
def OrderFree (events : List (RawEventRow N)) : Prop :=
  ∀ pages : List (List (RawEventRow N)), pages.flatten.Perm events → ∀ id,
    aggregateOf (aggregatePages readers pages) id =
      aggregateOf (aggregateEvents readers events none) id

/-- Some identity has both a page view of an audit and the goal of one. -/
def MixesAuditViews (events : List (RawEventRow N)) : Prop :=
  ∃ page ∈ events, ∃ goal ∈ events, ∃ id, page.identity = some id ∧ goal.identity = some id ∧
    page.isAuditPage = true ∧ goal.isAuditView = true

theorem aggregatePages_eq (pages : List (List (RawEventRow N))) :
    aggregatePages readers pages = aggregateEvents readers pages.flatten none :=
  KeyedFold.foldl_pages pages []

omit [LinearOrder N] in
theorem clash_iff {x y : RawEventRow N} :
    (x.branch readers).Clash (y.branch readers) ↔
      x.isAuditPage = true ∧ y.isAuditView = true ∨ x.isAuditView = true ∧ y.isAuditPage = true := by
  rw [isAuditPage_iff readers, isAuditPage_iff readers, isAuditView_iff readers,
    isAuditView_iff readers]
  cases x.branch readers <;> cases y.branch readers <;> simp [Branch.Clash]

theorem orderFree_of_not_mixes {events : List (RawEventRow N)} (h : ¬MixesAuditViews events) :
    OrderFree readers events := by
  intro pages hperm id
  rw [aggregatePages_eq]
  refine congrArg (Option.map Acc.agg) (KeyedFold.lookup_fold_of_perm hperm ?_)
  intro x hx y hy acc
  obtain ⟨hxmem, hxid⟩ := KeyedFold.mem_own.mp hx
  obtain ⟨hymem, hyid⟩ := KeyedFold.mem_own.mp hy
  have hxe := hperm.mem_iff.mp hxmem
  have hye := hperm.mem_iff.mp hymem
  refine observe_comm readers (fun hclash => h ?_) acc
  rcases (clash_iff readers).mp hclash with ⟨hpage, hgoal⟩ | ⟨hgoal, hpage⟩
  · exact ⟨y, hye, x, hxe, id, hyid, hxid, hpage, hgoal⟩
  · exact ⟨x, hxe, y, hye, id, hxid, hyid, hpage, hgoal⟩

/-- The goal first counts one view more than the page first. -/
theorem views_of_order {page goal : RawEventRow N} {id : String} (hpid : page.identity = some id)
    (hgid : goal.identity = some id) (hpage : page.isAuditPage = true)
    (hgoal : goal.isAuditView = true) (rest : List (RawEventRow N)) :
    aggregateOf (aggregateEvents readers (goal :: page :: rest) none) id ≠
      aggregateOf (aggregateEvents readers (page :: goal :: rest) none) id := by
  obtain ⟨scroll, hpageBranch⟩ := (isAuditPage_iff readers page).mp hpage
  have hgoalBranch := (isAuditView_iff readers goal).mp hgoal
  have hown : ∀ x y : RawEventRow N, x.identity = some id → y.identity = some id →
      KeyedFold.own RawEventRow.identity id (x :: y :: rest) =
        x :: y :: KeyedFold.own RawEventRow.identity id rest := by
    intro x y hx hy
    simp [KeyedFold.own, hx, hy]
  have hlookup : ∀ x y : RawEventRow N, x.identity = some id → y.identity = some id →
      aggregateOf (aggregateEvents readers (x :: y :: rest) none) id =
        some ((KeyedFold.own RawEventRow.identity id rest).foldl (observe readers)
          (observe readers (observe readers (Acc.start id) x) y)).agg := by
    intro x y hx hy
    unfold aggregateOf aggregateEvents
    rw [KeyedFold.lookup_fold, hown x y hx hy, if_neg (List.cons_ne_nil _ _)]
    rfl
  have hstart : (Acc.start id : Acc N).agg.auditViews = 0 := rfl
  rw [hlookup goal page hgid hpid, hlookup page goal hpid hgid]
  intro heq
  have hviews := congrArg AnalyticsAggregate.auditViews (Option.some.inj heq)
  rw [foldl_auditViews_ahead readers _ (observe readers (observe readers (Acc.start id) page) goal)]
    at hviews
  · omega
  · simp [observe_auditViews, hpageBranch, hgoalBranch, Branch.views, hstart]
  · simp [observe_auditViews, hpageBranch, hgoalBranch, Branch.views, hstart]

/-- **The order of the events and the scoring aggregate.**

For every list of events: every order of them and every way to cut it into pages give each
identity the same aggregate, if and only if no identity has both a page view of an audit and
the goal of an audit view. -/
theorem order_free_iff (events : List (RawEventRow N)) :
    OrderFree readers events ↔ ¬MixesAuditViews events := by
  refine ⟨?_, orderFree_of_not_mixes readers⟩
  rintro hfree ⟨page, hpage, goal, hgoal, id, hpid, hgid, hisPage, hisGoal⟩
  obtain ⟨before, after, rfl⟩ := List.append_of_mem hpage
  have hne : goal ≠ page := by
    rintro rfl
    obtain ⟨scroll, hbranch⟩ := (isAuditPage_iff readers goal).mp hisPage
    rw [(isAuditView_iff readers goal).mp hisGoal] at hbranch
    exact nomatch hbranch
  have hrest : goal ∈ before ++ after := by
    rcases List.mem_append.mp hgoal with h | h
    · exact List.mem_append_left _ h
    · exact List.mem_append_right _ ((List.mem_cons.mp h).resolve_left hne)
  obtain ⟨before', after', hsplit⟩ := List.append_of_mem hrest
  have hperm : (page :: goal :: (before' ++ after')).Perm (before ++ page :: after) := by
    refine List.Perm.trans ?_ List.perm_middle.symm
    rw [hsplit]
    exact List.Perm.cons _ List.perm_middle.symm
  have hone : ∀ l : List (RawEventRow N), l.Perm (before ++ page :: after) →
      aggregateOf (aggregateEvents readers l none) id =
        aggregateOf (aggregateEvents readers (before ++ page :: after) none) id := by
    intro l hl
    have := hfree [l] (by simpa using hl) id
    rwa [aggregatePages_eq, List.flatten_singleton] at this
  exact views_of_order readers hpid hgid hisPage hisGoal _
    ((hone _ ((List.Perm.swap _ _ _).trans hperm)).trans (hone _ hperm).symm)

end

namespace AuditExample

/-- A host that reads no date and no number. -/
def readers : Readers ℕ where
  number := fun _ => none
  date := fun _ => none
  toISOString := fun _ => ""

def page : RawEventRow ℕ where
  userId := some "jo@yoga.fr"
  sessionId := "s1"
  name := "screen_view"
  path := "/audit/yoga"
  maxScroll := 40
  goalName := ""
  properties := []
  goalTimestamp := none
  updatedAt := "2026-06-10 09:00:00.000"

def goal : RawEventRow ℕ :=
  { page with name := "goal", goalName := "audit_view", updatedAt := "2026-06-10 08:59:00.000" }

end AuditExample

open AuditExample in
/-- One visit of an audit counts as one view or as two. -/
theorem audit_views_of_order :
    (aggregateOf (aggregateEvents readers [goal, page] none) "jo@yoga.fr").map
        AnalyticsAggregate.auditViews = some 2 ∧
      (aggregateOf (aggregatePages readers [[page], [goal]]) "jo@yoga.fr").map
        AnalyticsAggregate.auditViews = some 1 ∧
      ¬OrderFree readers [goal, page] := by
  have hgoal : (aggregateOf (aggregateEvents readers [goal, page] none) "jo@yoga.fr").map
      AnalyticsAggregate.auditViews = some 2 := by decide
  have hpage : (aggregateOf (aggregatePages readers [[page], [goal]]) "jo@yoga.fr").map
      AnalyticsAggregate.auditViews = some 1 := by decide
  refine ⟨hgoal, hpage, fun hfree => ?_⟩
  rw [hfree [[page], [goal]] (List.Perm.swap goal page []) "jo@yoga.fr", hgoal] at hpage
  exact absurd hpage (by decide)

end Veridian.Tunnel
