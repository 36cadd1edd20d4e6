/-
The funnel and the conversion table on one goal.

A session enters a funnel once, whatever its goals carry.  The conversion table counts it in
every channel group and app of its goals.  So the two agree exactly when no session has the
goal in two of these groups.
-/
import Veridian.Analytics.Conversions
import Veridian.Analytics.Funnel

namespace Veridian.Analytics.FunnelConversions

variable {N : Type} (meaning : Meaning N)

/-- A funnel by sessions that starts with a goal, without filters and segments. -/
def sessionFunnel (goal : String) (rest : List String) (start stop : Int) (windowSeconds : Nat) :
    FunnelQuerySpec N where
  steps := goal :: rest
  start := start
  stop := stop
  unit := .session
  windowSeconds := windowSeconds
  filters := []
  segment := none

/-- What is built from it. -/
def sessionQuery (goal : String) (rest : List String) (start stop : Int) (windowSeconds : Nat) :
    BuiltFunnelQuery N where
  steps := goal :: rest
  start := start
  stop := stop
  unit := .session
  windowSeconds := windowSeconds
  conditions := []
  segment := none

/-- `steps[0].count` of the first row. -/
def entered (rows : List FunnelRow) : Nat := (rows.head?.bind fun r => r.counts.head?).getD 0

/-- The conversions of the response, all rows together. -/
def totalConversions (rows : List ConversionRate) : Nat := (rows.map (·.conversions)).sum

/-- The goals of one session that convert are in one channel group and app. -/
def OneGroup (c : ConversionsQuery) (table : List Goal) : Prop :=
  ∀ g ∈ table, ∀ g' ∈ table, c.selects g = true → c.selects g' = true →
    g.sessionId = g'.sessionId → ConversionsQuery.group g = ConversionsQuery.group g'

/-- The sessions that convert, each with every group it converts in. -/
theorem totalConversions_eq (sessionsByChannel : String → Nat) (c : ConversionsQuery)
    (table : List Goal) : totalConversions (conversionsByChannel sessionsByChannel c table) =
      Grouping.uniqExact ((table.filter c.selects).map fun g =>
        (g.sessionId, ConversionsQuery.group g)) := by
  unfold totalConversions conversionsByChannel
  rw [← Grouping.sum_uniqExact_groups, List.map_map, ConversionsQuery.rows, List.map_map]
  rfl

section Entered

variable {meaning} {goal : String} {rest : List String} {start stop : Int} {windowSeconds : Nat}

/-- The WHERE clause of the funnel. -/
theorem selects_iff (g : Goal) :
    (sessionQuery goal rest start stop windowSeconds).selects meaning g = true ↔
      start ≤ g.goalTimestamp ∧ g.goalTimestamp ≤ stop ∧ g.sessionId ≠ "" := by
  show (decide (start ≤ g.goalTimestamp ∧ g.goalTimestamp ≤ stop ∧ g.sessionId ≠ "") && true) =
    true ↔ _
  rw [Bool.and_true, decide_eq_true_iff]

/-- The WHERE clause of the conversions. -/
theorem conversions_selects_iff (g : Goal) :
    ConversionsQuery.selects ⟨start, stop, [goal]⟩ g = true ↔
      (start ≤ g.goalTimestamp ∧ g.goalTimestamp ≤ stop ∧ g.sessionId ≠ "") ∧
        g.goalName = goal := by
  rw [ConversionsQuery.selects, decide_eq_true_iff, List.mem_singleton]
  tauto

/-- A session enters with a goal that converts. -/
theorem mem_reached_iff {table : List Goal} {k : String × Option Cell} :
    k ∈ (sessionQuery goal rest start stop windowSeconds).reached meaning table none 0 ↔
      k.2 = none ∧ ∃ g ∈ table, ConversionsQuery.selects ⟨start, stop, [goal]⟩ g = true ∧
        g.sessionId = k.1 := by
  rw [BuiltFunnelQuery.mem_reached, BuiltFunnelQuery.one_le_level_iff]
  refine and_congr_right fun hseg => ?_
  obtain ⟨session, segment⟩ := k
  obtain rfl : segment = none := hseg
  constructor
  · rintro ⟨name, hname, g, hg, hstep⟩
    obtain ⟨hmem, hselects, hgroup⟩ := BuiltFunnelQuery.mem_goalsOf.mp hg
    obtain rfl : goal = name := Option.some.inj hname
    exact ⟨g, hmem, (conversions_selects_iff g).mpr ⟨(selects_iff g).mp hselects, hstep⟩,
      congrArg Prod.fst hgroup⟩
  · rintro ⟨g, hmem, hselects, rfl⟩
    obtain ⟨hrange, hstep⟩ := (conversions_selects_iff g).mp hselects
    exact ⟨goal, rfl, g, BuiltFunnelQuery.mem_goalsOf.mpr ⟨hmem, (selects_iff g).mpr hrange, rfl⟩,
      hstep⟩

/-- The sessions that enter. -/
theorem entered_eq (table : List Goal) :
    entered ((sessionQuery goal rest start stop windowSeconds).rows meaning table) =
      Grouping.uniqExact ((table.filter (ConversionsQuery.selects ⟨start, stop, [goal]⟩)).map
        (·.sessionId)) := by
  have hentered : entered ((sessionQuery goal rest start stop windowSeconds).rows meaning table) =
      (sessionQuery goal rest start stop windowSeconds).count meaning table none 0 := by
    show ((List.range (rest.length + 1)).map _).head?.getD 0 = _
    rw [List.range_succ_eq_map]
    rfl
  have hreached : (sessionQuery goal rest start stop windowSeconds).reached meaning table none 0 =
      ((table.filter (ConversionsQuery.selects ⟨start, stop, [goal]⟩)).map
        (·.sessionId)).toFinset.image fun session => (session, none) := by
    ext k
    rw [mem_reached_iff, Finset.mem_image]
    simp only [List.mem_toFinset, List.mem_map, List.mem_filter, and_assoc]
    constructor
    · rintro ⟨hseg, g, hmem, hselects, hsession⟩
      exact ⟨k.1, ⟨g, hmem, hselects, hsession⟩, Prod.ext rfl hseg.symm⟩
    · rintro ⟨session, ⟨g, hmem, hselects, hsession⟩, rfl⟩
      exact ⟨rfl, g, hmem, hselects, hsession⟩
  rw [hentered, BuiltFunnelQuery.count_eq_card, hreached, Grouping.uniqExact_eq_card,
    Finset.card_image_of_injective _ fun s s' h => congrArg Prod.fst h]

end Entered

/-- The funnel and the conversion table agree on a goal exactly when each session has it in
one channel group and app. -/
theorem entered_eq_conversions_iff (sessionsByChannel : String → Nat) (table : List Goal)
    (goal : String) (rest : List String) (start stop : Int) (windowSeconds : Nat) :
    ∃ q : BuiltFunnelQuery N,
      buildFunnelQuery (sessionFunnel goal rest start stop windowSeconds) = .ok q ∧
      (entered (q.rows meaning table) =
          totalConversions (conversionsByChannel sessionsByChannel ⟨start, stop, [goal]⟩ table) ↔
        OneGroup ⟨start, stop, [goal]⟩ table) := by
  refine ⟨sessionQuery goal rest start stop windowSeconds, rfl, ?_⟩
  rw [entered_eq, totalConversions_eq, eq_comm, Grouping.uniqExact_pair_eq_iff]
  simp only [OneGroup, List.mem_filter]
  constructor
  · intro hall g hg g' hg' hselects hselects' hsession
    exact hall g ⟨hg, hselects⟩ g' ⟨hg', hselects'⟩ hsession
  · intro hone g hg g' hg' hsession
    exact hone g hg.1 g' hg'.1 hg.2 hg'.2 hsession

/-! ### A session with two apps -/

namespace AppsExample

def unfiltered : Meaning ℕ := fun _ _ _ => true

def signup (at_ : Int) (app : String) : Goal :=
  ⟨at_, "s1", "signup", 0, "v1", "direct", [("app", app)], [], 0⟩

def table : List Goal := [signup 1000 "notes", signup 2000 "tasks"]

def funnel : BuiltFunnelQuery ℕ where
  steps := ["signup", "paid"]
  start := 0
  stop := 9000
  unit := .session
  windowSeconds := 3600
  conditions := []
  segment := none

/-- One session enters the funnel, and two conversions are reported. -/
theorem session_converts_twice :
    buildFunnelQuery (sessionFunnel "signup" ["paid"] 0 9000 3600) = .ok funnel ∧
      entered (funnel.rows unfiltered table) = 1 ∧
      totalConversions (conversionsByChannel (fun _ => 1) ⟨0, 9000, ["signup"]⟩ table) = 2 := by
  refine ⟨rfl, ?_, ?_⟩
  · decide +kernel
  · decide +kernel

end AppsExample

end Veridian.Analytics.FunnelConversions
