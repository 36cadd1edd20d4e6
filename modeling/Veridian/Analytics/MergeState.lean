/-
Goal analytics on a table that has not been merged.

`TABLE_CONFIGS` asks for FINAL on `goals`, but the funnel and the conversions read the table
as it is, outdated versions included.  Every group of the merged table is part of a group of
the table itself, so a funnel level, a number of sessions and a sum of values can only grow;
they stay what they are exactly when nothing that an outdated version adds is new.
-/
import Veridian.Analytics.Conversions
import Veridian.Analytics.Funnel
import Mathlib.Algebra.Order.BigOperators.Group.List
import Mathlib.Algebra.Order.Ring.NNRat

namespace Veridian.Analytics.MergeState

variable {N : Type} (meaning : Meaning N)

/-! ### The claim and its condition -/

/-- The funnel has the rows that it has on the merged table. -/
def FunnelUnchanged (q : BuiltFunnelQuery N) (table : List Goal) : Prop :=
  ∀ row, row ∈ q.rows meaning table ↔ row ∈ q.rows meaning (goalsFinal table)

/-- The conversions are those of the merged table. -/
def ConversionsUnchanged (c : ConversionsQuery) (table : List Goal) : Prop :=
  ∀ row, row ∈ c.rows table ↔ row ∈ c.rows (goalsFinal table)

/-- Outdated versions bring no segment of their own and complete no chain of a unit, and are
worth nothing where their unit enters the funnel. -/
structure FunnelSafe (q : BuiltFunnelQuery N) (table : List Goal) : Prop where
  segments : q.segment.isSome = true → ∀ g ∈ outdatedGoals table, q.selects meaning g = true →
    ∃ g' ∈ goalsFinal table, q.selects meaning g' = true ∧ q.segmentOf g' = q.segmentOf g
  chains : ∀ k, ∀ i < q.steps.length, q.chain (q.goalsOf meaning table k) (i + 1) = true →
    q.chain (q.goalsOf meaning (goalsFinal table) k) (i + 1) = true
  values : ∀ g ∈ outdatedGoals table, q.selects meaning g = true →
    (∃ name ∈ q.steps.head?, ∃ e ∈ table,
      q.selects meaning e = true ∧ q.group e = q.group g ∧ e.goalName = name) →
    g.goalValue = 0

/-- Every outdated conversion has a newest version of the same session, channel group and
app. -/
def ConversionsSafe (c : ConversionsQuery) (table : List Goal) : Prop :=
  ∀ g ∈ outdatedGoals table, c.selects g = true →
    ∃ g' ∈ goalsFinal table, c.selects g' = true ∧
      ConversionsQuery.group g' = ConversionsQuery.group g ∧ g'.sessionId = g.sessionId

theorem mem_table_iff {table : List Goal} {g : Goal} :
    g ∈ table ↔ g ∈ goalsFinal table ∨ g ∈ outdatedGoals table := by
  rw [← (goalsFinal_append_perm table).mem_iff, List.mem_append]

/-! ### Conversions -/

theorem conversionsUnchanged_iff (c : ConversionsQuery) (table : List Goal) :
    ConversionsUnchanged c table ↔ ConversionsSafe c table := by
  have hsub : ∀ k, c.sessionsOf (goalsFinal table) k ⊆ c.sessionsOf table k := by
    intro k session hsession
    rw [ConversionsQuery.mem_sessionsOf] at hsession ⊢
    obtain ⟨g, hg, hrest⟩ := hsession
    exact ⟨g, goalsFinal_subset table hg, hrest⟩
  constructor
  · intro hrows g hg hselects
    have hsession : g.sessionId ∈ c.sessionsOf table (ConversionsQuery.group g) :=
      ConversionsQuery.mem_sessionsOf.mpr ⟨g, mem_table_iff.mpr (Or.inr hg), hselects, rfl, rfl⟩
    have hrow : c.row table (ConversionsQuery.group g) ∈ c.rows table :=
      List.mem_map_of_mem (ConversionsQuery.mem_groups.mpr ⟨_, hsession⟩)
    obtain ⟨k, -, hk⟩ := List.mem_map.mp ((hrows _).mp hrow)
    simp only [ConversionsQuery.row, ConversionCount.mk.injEq] at hk
    obtain ⟨hchannel, happ, hcount⟩ := hk
    obtain rfl : k = ConversionsQuery.group g := Prod.ext hchannel happ
    have hback := (Grouping.uniqExact_eq_iff_of_subset (hsub _)).mp hcount hsession
    obtain ⟨g', hg', hselects', hgroup, hid⟩ := ConversionsQuery.mem_sessionsOf.mp hback
    exact ⟨g', hg', hselects', hgroup, hid⟩
  · intro hsafe
    have hback : ∀ k, c.sessionsOf table k ⊆ c.sessionsOf (goalsFinal table) k := by
      intro k session hsession
      rw [ConversionsQuery.mem_sessionsOf] at hsession ⊢
      obtain ⟨g, hg, hselects, rfl, rfl⟩ := hsession
      rcases mem_table_iff.mp hg with hfinal | houtdated
      · exact ⟨g, hfinal, hselects, rfl, rfl⟩
      · exact hsafe g houtdated hselects
    have hrow : c.row (goalsFinal table) = c.row table := by
      funext k
      simp only [ConversionsQuery.row, (Grouping.uniqExact_eq_iff_of_subset (hsub k)).mpr (hback k)]
    have hgroups : ∀ k, k ∈ c.groups table ↔ k ∈ c.groups (goalsFinal table) := by
      intro k
      rw [ConversionsQuery.mem_groups, ConversionsQuery.mem_groups]
      exact ⟨fun ⟨s, hs⟩ => ⟨s, hback k hs⟩, fun ⟨s, hs⟩ => ⟨s, hsub k hs⟩⟩
    intro row
    simp only [ConversionsQuery.rows, hrow, List.mem_map, hgroups]

/-! ### Counts and values of the funnel -/

section Funnel

open BuiltFunnelQuery (mem_goalsOf mem_groups mem_groups_of_level mem_reached mem_segments
  segment_mem_segments le_level_iff one_le_level_iff)

variable {meaning} {q : BuiltFunnelQuery N} {table : List Goal} {segment : Option Cell} {i : Nat}

theorem reached_subset : q.reached meaning (goalsFinal table) segment i ⊆
    q.reached meaning table segment i := by
  intro k hk
  rw [mem_reached] at hk ⊢
  exact ⟨hk.1, hk.2.trans
    (BuiltFunnelQuery.level_mono (BuiltFunnelQuery.goalsOf_subset (goalsFinal_subset table)))⟩

/-- As many units exactly when they are the same ones. -/
theorem count_eq_iff :
    q.count meaning table segment i = q.count meaning (goalsFinal table) segment i ↔
      q.reached meaning table segment i = q.reached meaning (goalsFinal table) segment i := by
  rw [BuiltFunnelQuery.count_eq_card, BuiltFunnelQuery.count_eq_card]
  constructor
  · intro hcard
    exact (Finset.eq_of_subset_of_card_le reached_subset (le_of_eq hcard)).symm
  · intro hreached
    rw [hreached]

/-- The value of a unit is what its newest versions are worth and what its outdated ones
add. -/
theorem unitLevel_value (k : String × Option Cell) : (q.unitLevel meaning table k).value =
    (q.unitLevel meaning (goalsFinal table) k).value +
      ((q.goalsOf meaning (outdatedGoals table) k).map (·.goalValue)).sum := by
  have hperm : (q.goalsOf meaning (goalsFinal table) k ++
      q.goalsOf meaning (outdatedGoals table) k).Perm (q.goalsOf meaning table k) := by
    unfold BuiltFunnelQuery.goalsOf
    rw [← List.filter_append, ← List.filter_append]
    exact ((goalsFinal_append_perm table).filter _).filter _
  show ((q.goalsOf meaning table k).map (·.goalValue)).sum = _
  rw [← (hperm.map _).sum_eq, List.map_append, List.sum_append]
  rfl

/-- Where the same units are counted, the values agree exactly when the outdated versions of
these units are worth nothing. -/
theorem value_eq_iff
    (h : q.reached meaning table segment i = q.reached meaning (goalsFinal table) segment i) :
    q.value meaning table segment i = q.value meaning (goalsFinal table) segment i ↔
      ∀ k ∈ q.reached meaning table segment i, ∀ g ∈ q.goalsOf meaning (outdatedGoals table) k,
        g.goalValue = 0 := by
  rw [BuiltFunnelQuery.value_eq_sum, BuiltFunnelQuery.value_eq_sum, ← h,
    Finset.sum_congr rfl fun k _ => unitLevel_value k, Finset.sum_add_distrib, add_eq_left,
    Finset.sum_eq_zero_iff]
  refine forall₂_congr fun k _ => ?_
  rw [List.sum_eq_zero_iff]
  simp

theorem row_eq_iff : q.row meaning table segment = q.row meaning (goalsFinal table) segment ↔
    ∀ i < q.steps.length,
      q.count meaning table segment i = q.count meaning (goalsFinal table) segment i ∧
        q.value meaning table segment i = q.value meaning (goalsFinal table) segment i := by
  simp only [BuiltFunnelQuery.row, FunnelRow.mk.injEq, List.map_inj_left, List.mem_range, true_and]
  exact forall₂_and.symm

theorem segments_subset {x : Option Cell} (hx : x ∈ q.segments meaning (goalsFinal table)) :
    x ∈ q.segments meaning table := by
  rw [mem_segments] at hx ⊢
  refine hx.imp_right fun ⟨hsome, g, hg, hrest⟩ => ⟨hsome, g, goalsFinal_subset table hg, hrest⟩

/-- Rows are compared segment by segment. -/
theorem funnelUnchanged_iff_rows : FunnelUnchanged meaning q table ↔
    ∀ x ∈ q.segments meaning table, x ∈ q.segments meaning (goalsFinal table) ∧
      q.row meaning table x = q.row meaning (goalsFinal table) x := by
  constructor
  · intro hrows x hx
    obtain ⟨y, hy, hrow⟩ := List.mem_map.mp ((hrows _).mp (List.mem_map_of_mem hx))
    obtain rfl : y = x := congrArg FunnelRow.segment hrow
    exact ⟨hy, hrow.symm⟩
  · intro hall row
    constructor
    · intro hrow
      obtain ⟨x, hx, rfl⟩ := List.mem_map.mp hrow
      exact List.mem_map.mpr ⟨x, (hall x hx).1, (hall x hx).2.symm⟩
    · intro hrow
      obtain ⟨x, hx, rfl⟩ := List.mem_map.mp hrow
      exact List.mem_map.mpr ⟨x, segments_subset hx, (hall x (segments_subset hx)).2⟩

theorem funnelUnchanged_iff (q : BuiltFunnelQuery N) (table : List Goal) :
    FunnelUnchanged meaning q table ↔ FunnelSafe meaning q table := by
  rw [funnelUnchanged_iff_rows]
  constructor
  · intro hall
    have hrow : ∀ x ∈ q.segments meaning table, ∀ i < q.steps.length,
        q.reached meaning table x i = q.reached meaning (goalsFinal table) x i ∧
          ∀ k ∈ q.reached meaning table x i, ∀ g ∈ q.goalsOf meaning (outdatedGoals table) k,
            g.goalValue = 0 := by
      intro x hx i hi
      obtain ⟨hcount, hvalue⟩ := row_eq_iff.mp (hall x hx).2 i hi
      have hreached := count_eq_iff.mp hcount
      exact ⟨hreached, (value_eq_iff hreached).mp hvalue⟩
    refine ⟨?_, ?_, ?_⟩
    · intro hsome g hg hselects
      have hx : q.segmentOf g ∈ q.segments meaning table := mem_segments.mpr
        (Or.inr ⟨hsome, g, mem_table_iff.mpr (Or.inr hg), hselects, rfl⟩)
      rcases mem_segments.mp (hall _ hx).1 with ⟨hnone, -⟩ | ⟨-, hfinal⟩
      · rw [hnone] at hsome
        exact absurd hsome (by simp)
      · exact hfinal
    · intro k i hi hchain
      have hlevel := le_level_iff.mpr ⟨hi, hchain⟩
      obtain ⟨g, hg⟩ := mem_groups.mp (mem_groups_of_level hlevel)
      have hk : k ∈ q.reached meaning table k.2 i := mem_reached.mpr ⟨rfl, hlevel⟩
      rw [(hrow k.2 (segment_mem_segments hg) i hi).1] at hk
      exact (le_level_iff.mp (mem_reached.mp hk).2).2
    · intro g hg hselects hstep
      have hgroup : g ∈ q.goalsOf meaning table (q.group g) :=
        mem_goalsOf.mpr ⟨mem_table_iff.mpr (Or.inr hg), hselects, rfl⟩
      have hlevel : 1 ≤ q.level (q.goalsOf meaning table (q.group g)) := by
        obtain ⟨name, hname, e, he, hesel, hegroup, hstep⟩ := hstep
        exact one_le_level_iff.mpr
          ⟨name, hname, e, mem_goalsOf.mpr ⟨he, hesel, hegroup⟩, hstep⟩
      refine (hrow _ (segment_mem_segments hgroup) 0 (le_level_iff.mp hlevel).1).2 _
        (mem_reached.mpr ⟨rfl, hlevel⟩) g ?_
      exact mem_goalsOf.mpr ⟨hg, hselects, rfl⟩
  · intro hsafe x hx
    refine ⟨?_, row_eq_iff.mpr fun i hi => ?_⟩
    · rcases mem_segments.mp hx with hnone | ⟨hsome, g, hg, hselects, rfl⟩
      · exact mem_segments.mpr (Or.inl hnone)
      · refine mem_segments.mpr (Or.inr ⟨hsome, ?_⟩)
        rcases mem_table_iff.mp hg with hfinal | houtdated
        · exact ⟨g, hfinal, hselects, rfl⟩
        · exact hsafe.segments hsome g houtdated hselects
    · have hreached : q.reached meaning table x i = q.reached meaning (goalsFinal table) x i := by
        refine Finset.Subset.antisymm (fun k hk => ?_) reached_subset
        obtain ⟨hseg, hlevel⟩ := mem_reached.mp hk
        have hchain := hsafe.chains k i hi (le_level_iff.mp hlevel).2
        exact mem_reached.mpr
          ⟨hseg, le_level_iff.mpr ⟨hi, hchain⟩⟩
      refine ⟨count_eq_iff.mpr hreached, (value_eq_iff hreached).mpr fun k hk g hg => ?_⟩
      obtain ⟨hmem, hselects, rfl⟩ := mem_goalsOf.mp hg
      obtain ⟨name, hname, e, he, hstep⟩ := one_le_level_iff.mp
        (Nat.le_trans (Nat.le_add_left 1 i) (mem_reached.mp hk).2)
      obtain ⟨hetable, hesel, hegroup⟩ := mem_goalsOf.mp he
      exact hsafe.values g hmem hselects ⟨name, hname, e, hetable, hesel, hegroup, hstep⟩

end Funnel

/-- Goal analytics are those of the merged table exactly when no outdated version adds
anything to them. -/
theorem goal_analytics_merged_iff (table : List Goal) :
    (∀ q : BuiltFunnelQuery N, FunnelUnchanged meaning q table ↔ FunnelSafe meaning q table) ∧
      ∀ c : ConversionsQuery, ConversionsUnchanged c table ↔ ConversionsSafe c table :=
  ⟨fun q => funnelUnchanged_iff q table, fun c => conversionsUnchanged_iff c table⟩

/-! ### Two versions of one goal -/

namespace VersionsExample

def unfiltered : Meaning ℕ := fun _ _ _ => true

def signup : Goal := ⟨1000, "s1", "signup", 10, "v1", "direct", [], [], 0⟩

/-- The second version knows the channel. -/
def table : List Goal := [signup, { signup with channelGroup := "ads", version := 1 }]

def funnel : BuiltFunnelQuery ℕ where
  steps := ["signup", "paid"]
  start := 0
  stop := 2000
  unit := .session
  windowSeconds := 3600
  conditions := []
  segment := none

def conversions : ConversionsQuery := ⟨0, 2000, ["signup"]⟩

/-- The goal is worth twice its value, and converts in two channels. -/
theorem unmerged_goal_counted_twice :
    (funnel.rows unfiltered table = [⟨none, [1, 0], [20, 0]⟩] ∧
      funnel.rows unfiltered (goalsFinal table) = [⟨none, [1, 0], [10, 0]⟩]) ∧
    (conversions.rows table = [⟨"direct", "", 1⟩, ⟨"ads", "", 1⟩] ∧
      conversions.rows (goalsFinal table) = [⟨"ads", "", 1⟩]) ∧
    ¬FunnelUnchanged unfiltered funnel table ∧ ¬ConversionsUnchanged conversions table := by
  have hrows : funnel.rows unfiltered table = [⟨none, [1, 0], [20, 0]⟩] := by decide +kernel
  have hfinal : funnel.rows unfiltered (goalsFinal table) = [⟨none, [1, 0], [10, 0]⟩] := by
    decide +kernel
  have hcounts : conversions.rows table = [⟨"direct", "", 1⟩, ⟨"ads", "", 1⟩] := by decide
  have hmerged : conversions.rows (goalsFinal table) = [⟨"ads", "", 1⟩] := by decide
  refine ⟨⟨hrows, hfinal⟩, ⟨hcounts, hmerged⟩, ?_, ?_⟩
  · intro hsame
    have hrow := (hsame ⟨none, [1, 0], [20, 0]⟩).mp (by rw [hrows]; exact List.mem_cons_self)
    rw [hfinal] at hrow
    exact absurd hrow (by decide +kernel)
  · intro hsame
    have hrow := (hsame ⟨"direct", "", 1⟩).mp (by rw [hcounts]; exact List.mem_cons_self)
    rw [hmerged] at hrow
    exact absurd hrow (by decide)

end VersionsExample

end Veridian.Analytics.MergeState
