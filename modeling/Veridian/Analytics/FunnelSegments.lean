/-
A funnel and its segments.

The segment column joins the GROUP BY of the inner select, so a unit whose goals differ in
it is split: each part is a unit of its own, with a level of its own.  The segments add up
to the plain funnel exactly when the split never tears a unit that enters.
-/
import Veridian.Analytics.Funnel

namespace Veridian.Analytics.FunnelSegments

open BuiltFunnelQuery (mem_goalsOf mem_groups mem_groups_of_level mem_reached mem_segments
  segment_mem_segments le_level_iff one_le_level_iff)

variable {N : Type}

/-- The funnel without segmentation. -/
def plain (q : BuiltFunnelQuery N) : BuiltFunnelQuery N := { q with segment := none }

/-- The funnel with a segment. -/
def segmented (q : BuiltFunnelQuery N) (s : FunnelSegment) : BuiltFunnelQuery N :=
  { q with segment := some s }

variable (meaning : Meaning N)

/-! ### The claim and its condition -/

/-- Over the segments, every step adds up to its count in the plain funnel. -/
def AddsUp (q : BuiltFunnelQuery N) (table : List Goal) (answer : List FunnelRow) : Prop :=
  ∀ i < q.steps.length,
    (answer.map fun r => r.counts.getD i 0).sum = (plain q).count meaning table none i

/-- Units that enter keep one segment value: that of their goals of the first step, and some
chain within it goes as far as any chain of the unit. -/
structure KeepsSegment (q : BuiltFunnelQuery N) (s : FunnelSegment) (table : List Goal) : Prop where
  entry : ∀ name ∈ q.steps.head?, ∀ g ∈ table, ∀ g' ∈ table,
    q.selects meaning g = true → q.selects meaning g' = true →
    g.goalName = name → g'.goalName = name → q.unit.of g = q.unit.of g' →
    g.cell s.column = g'.cell s.column
  chains : ∀ unit, ∀ i < q.steps.length,
    q.chain ((plain q).goalsOf meaning table (unit, none)) (i + 1) = true →
    ∃ x, q.chain ((segmented q s).goalsOf meaning table (unit, some x)) (i + 1) = true

/-! ### The groups of both funnels -/

variable {meaning} {q : BuiltFunnelQuery N} {s : FunnelSegment} {table : List Goal} {i : Nat}
  {unit : String}

theorem mem_plain_goalsOf {g : Goal} : g ∈ (plain q).goalsOf meaning table (unit, none) ↔
    g ∈ table ∧ q.selects meaning g = true ∧ q.unit.of g = unit := by
  rw [mem_goalsOf]
  show g ∈ table ∧ q.selects meaning g = true ∧ (q.unit.of g, none) = (unit, none) ↔ _
  rw [Prod.mk.injEq, and_iff_left rfl]

theorem mem_segmented_goalsOf {g : Goal} {x : Cell} :
    g ∈ (segmented q s).goalsOf meaning table (unit, some x) ↔
      g ∈ table ∧ q.selects meaning g = true ∧ q.unit.of g = unit ∧ g.cell s.column = x := by
  rw [mem_goalsOf]
  show g ∈ table ∧ q.selects meaning g = true ∧
    (q.unit.of g, some (g.cell s.column)) = (unit, some x) ↔ _
  rw [Prod.mk.injEq, Option.some.injEq]

theorem segmented_goalsOf_subset {x : Cell} :
    (segmented q s).goalsOf meaning table (unit, some x) ⊆
      (plain q).goalsOf meaning table (unit, none) := by
  intro g hg
  obtain ⟨hmem, hselects, hunit, -⟩ := mem_segmented_goalsOf.mp hg
  exact mem_plain_goalsOf.mpr ⟨hmem, hselects, hunit⟩

/-- The groups of the segmented funnel that reach the step behind `i` others. -/
def parts (meaning : Meaning N) (q : BuiltFunnelQuery N) (s : FunnelSegment) (table : List Goal)
    (i : Nat) : Finset (String × Option Cell) :=
  ((segmented q s).groups meaning table).toFinset.filter fun k =>
    i + 1 ≤ q.level ((segmented q s).goalsOf meaning table k)

/-- The units of the plain funnel that do. -/
def units (meaning : Meaning N) (q : BuiltFunnelQuery N) (table : List Goal) (i : Nat) :
    Finset String :=
  ((plain q).reached meaning table none i).image Prod.fst

theorem mem_units : unit ∈ units meaning q table i ↔
    i + 1 ≤ q.level ((plain q).goalsOf meaning table (unit, none)) := by
  unfold units
  rw [Finset.mem_image]
  constructor
  · rintro ⟨⟨u, x⟩, hk, rfl⟩
    obtain ⟨rfl, hlevel⟩ := mem_reached.mp hk
    exact hlevel
  · intro hlevel
    exact ⟨(unit, none), mem_reached.mpr ⟨rfl, hlevel⟩, rfl⟩

theorem card_units : (units meaning q table i).card = (plain q).count meaning table none i := by
  rw [BuiltFunnelQuery.count_eq_card]
  refine Finset.card_image_of_injOn fun k hk k' hk' hunit => Prod.ext hunit ?_
  rw [(mem_reached.mp hk).1, (mem_reached.mp hk').1]

theorem mem_parts_iff_level {k : String × Option Cell} : k ∈ parts meaning q s table i ↔
    i + 1 ≤ q.level ((segmented q s).goalsOf meaning table k) := by
  unfold parts
  rw [Finset.mem_filter, List.mem_toFinset]
  exact ⟨fun h => h.2, fun h => ⟨mem_groups_of_level (q := segmented q s) h, h⟩⟩

/-- Every part has a segment value. -/
theorem mem_parts {k : String × Option Cell} : k ∈ parts meaning q s table i ↔
    ∃ x, k.2 = some x ∧
      i + 1 ≤ q.level ((segmented q s).goalsOf meaning table (k.1, some x)) := by
  rw [mem_parts_iff_level]
  constructor
  · intro hlevel
    obtain ⟨g, hg⟩ := mem_groups.mp (mem_groups_of_level (q := segmented q s) hlevel)
    obtain ⟨-, -, rfl⟩ := mem_goalsOf.mp hg
    exact ⟨g.cell s.column, rfl, hlevel⟩
  · rintro ⟨x, hx, hlevel⟩
    obtain ⟨unit, segment⟩ := k
    obtain rfl : segment = some x := hx
    exact hlevel

theorem image_parts_subset : (parts meaning q s table i).image Prod.fst ⊆
    units meaning q table i := by
  intro unit hunit
  obtain ⟨k, hk, rfl⟩ := Finset.mem_image.mp hunit
  obtain ⟨x, -, hlevel⟩ := mem_parts.mp hk
  exact mem_units.mpr (hlevel.trans (BuiltFunnelQuery.level_mono segmented_goalsOf_subset))

/-! ### Adding up the segments -/

/-- The segments count the parts. -/
theorem sum_answer {answer : List FunnelRow} (hi : i < q.steps.length)
    (hfew : ((segmented q s).segments meaning table).length ≤ s.limit)
    (h : (segmented q s).Answer meaning table answer) :
    (answer.map fun r => r.counts.getD i 0).sum = (parts meaning q s table i).card := by
  obtain ⟨ranked, hperm, -, rfl⟩ := h
  have hlength : ranked.length ≤ s.limit := by
    rw [hperm.length_eq, BuiltFunnelQuery.rows, List.length_map]
    exact hfew
  rw [List.take_of_length_le hlength, (hperm.map _).sum_eq, BuiltFunnelQuery.rows, List.map_map]
  have hcount : ∀ x, ((fun r : FunnelRow => r.counts.getD i 0) ∘
      (segmented q s).row meaning table) x = (segmented q s).count meaning table x i := by
    intro x
    show ((List.range q.steps.length).map ((segmented q s).count meaning table x)).getD i 0 = _
    rw [List.getD_eq_getElem?_getD, List.getElem?_map, List.getElem?_range hi]
    rfl
  have hnodup : ((segmented q s).segments meaning table).Nodup := List.nodup_dedup _
  rw [funext hcount, ← List.sum_toFinset _ hnodup,
    Finset.card_eq_sum_card_fiberwise (f := Prod.snd)
      (t := ((segmented q s).segments meaning table).toFinset)]
  · refine Finset.sum_congr rfl fun x _ => ?_
    rw [BuiltFunnelQuery.count_eq_card]
    congr 1
    ext k
    rw [mem_reached, Finset.mem_filter, mem_parts_iff_level, and_comm]
    rfl
  · intro k hk
    obtain ⟨g, hg⟩ := mem_groups.mp (mem_groups_of_level (q := segmented q s)
      (mem_parts_iff_level.mp hk))
    simpa using segment_mem_segments hg

/-! ### When nothing is torn -/

/-- The first step is met by one goal, which is in some part. -/
theorem image_parts_zero :
    (parts meaning q s table 0).image Prod.fst = units meaning q table 0 := by
  refine Finset.Subset.antisymm image_parts_subset fun unit hunit => ?_
  obtain ⟨name, hname, g, hg, hstep⟩ := one_le_level_iff.mp (mem_units.mp hunit)
  obtain ⟨hmem, hselects, hof⟩ := mem_plain_goalsOf.mp hg
  refine Finset.mem_image.mpr ⟨(unit, some (g.cell s.column)), mem_parts.mpr ⟨_, rfl, ?_⟩, rfl⟩
  exact one_le_level_iff.mpr
    ⟨name, hname, g, mem_segmented_goalsOf.mpr ⟨hmem, hselects, hof, rfl⟩, hstep⟩

theorem parts_subset_zero : parts meaning q s table i ⊆ parts meaning q s table 0 := by
  intro k hk
  rw [mem_parts_iff_level] at hk ⊢
  exact (Nat.le_add_left 1 i).trans hk

/-- The goals that enter agree on the segment exactly when no unit enters in two parts. -/
theorem injOn_parts_iff :
    Set.InjOn Prod.fst (parts meaning q s table 0 : Set (String × Option Cell)) ↔
    ∀ name ∈ q.steps.head?, ∀ g ∈ table, ∀ g' ∈ table,
      q.selects meaning g = true → q.selects meaning g' = true →
      g.goalName = name → g'.goalName = name → q.unit.of g = q.unit.of g' →
      g.cell s.column = g'.cell s.column := by
  constructor
  · intro hinj name hname g hg g' hg' hselects hselects' hstep hstep' hunit
    have hpart : ∀ e ∈ table, q.selects meaning e = true → e.goalName = name →
        (q.unit.of e, some (e.cell s.column)) ∈ parts meaning q s table 0 := by
      intro e he hesel hestep
      exact mem_parts.mpr ⟨_, rfl, one_le_level_iff.mpr
        ⟨name, hname, e, mem_segmented_goalsOf.mpr ⟨he, hesel, rfl, rfl⟩, hestep⟩⟩
    have hpair := hinj (hpart g hg hselects hstep) (hpart g' hg' hselects' hstep') hunit
    exact Option.some.inj (Prod.mk.inj hpair).2
  · intro hentry k hk k' hk' hfst
    obtain ⟨x, hx, hlevel⟩ := mem_parts.mp hk
    obtain ⟨x', hx', hlevel'⟩ := mem_parts.mp hk'
    obtain ⟨name, hname, g, hg, hstep⟩ := one_le_level_iff.mp hlevel
    obtain ⟨name', hname', g', hg', hstep'⟩ := one_le_level_iff.mp hlevel'
    obtain rfl : name = name' := Option.mem_unique hname hname'
    obtain ⟨hmem, hselects, hunit, rfl⟩ := mem_segmented_goalsOf.mp hg
    obtain ⟨hmem', hselects', hunit', rfl⟩ := mem_segmented_goalsOf.mp hg'
    refine Prod.ext hfst ?_
    rw [hx, hx', hentry name hname g hmem g' hmem' hselects hselects' hstep hstep'
      (by rw [hunit, hunit']; exact hfst)]

theorem cards_eq_iff : (∀ i < q.steps.length,
      (parts meaning q s table i).card = (units meaning q table i).card) ↔
    KeepsSegment meaning q s table := by
  constructor
  · intro hcards
    have hinj : 0 < q.steps.length → Set.InjOn Prod.fst
        (parts meaning q s table 0 : Set (String × Option Cell)) := by
      intro hpos
      rw [← Finset.card_image_iff, image_parts_zero, hcards 0 hpos]
    refine ⟨?_, ?_⟩
    · intro name hname
      have hpos : 0 < q.steps.length := by
        cases hsteps : q.steps with
        | nil => rw [hsteps] at hname; exact absurd hname (by simp)
        | cons first rest => simp
      exact injOn_parts_iff.mp (hinj hpos) name hname
    · intro unit i hi hchain
      have himage : (parts meaning q s table i).image Prod.fst = units meaning q table i := by
        refine Finset.eq_of_subset_of_card_le image_parts_subset ?_
        have hsub := (hinj (Nat.zero_lt_of_lt hi)).mono
          (Finset.coe_subset.mpr (parts_subset_zero (i := i)))
        rw [Finset.card_image_of_injOn hsub, hcards i hi]
      have hunit := mem_units.mpr (le_level_iff.mpr ⟨hi, hchain⟩)
      rw [← himage] at hunit
      obtain ⟨k, hk, rfl⟩ := Finset.mem_image.mp hunit
      obtain ⟨x, -, hlevel⟩ := mem_parts.mp hk
      exact ⟨x, (le_level_iff.mp hlevel).2⟩
  · intro hkeeps i hi
    have hinj := (injOn_parts_iff.mpr hkeeps.entry).mono
      (Finset.coe_subset.mpr (parts_subset_zero (i := i)))
    have himage : (parts meaning q s table i).image Prod.fst = units meaning q table i := by
      refine Finset.Subset.antisymm image_parts_subset fun unit hunit => ?_
      obtain ⟨x, hchain⟩ := hkeeps.chains unit i hi (le_level_iff.mp (mem_units.mp hunit)).2
      exact Finset.mem_image.mpr
        ⟨(unit, some x), mem_parts.mpr ⟨x, rfl, le_level_iff.mpr ⟨hi, hchain⟩⟩, rfl⟩
    rw [← Finset.card_image_of_injOn hinj, himage]

/-- The segments of a funnel add up to it exactly when every unit that enters keeps its
segment value. -/
theorem segments_add_up_iff {dimension : String} {answer : List FunnelRow}
    (hs : segmentBy dimension = .ok s)
    (hfew : ((segmented q s).segments meaning table).length ≤ SEGMENT_MAX)
    (h : (segmented q s).Answer meaning table answer) :
    AddsUp meaning q table answer ↔ KeepsSegment meaning q s table := by
  have hlimit : s.limit = SEGMENT_MAX + 1 := by
    unfold segmentBy at hs
    cases hcolumn : columnOn .goals dimension with
    | error message => rw [hcolumn] at hs; exact absurd hs (by simp [bind, Except.bind])
    | ok column => rw [hcolumn] at hs; exact (Except.ok.inj hs) ▸ rfl
  rw [← cards_eq_iff]
  refine forall₂_congr fun i hi => ?_
  rw [sum_answer hi (by omega) h, card_units]

/-! ### A session that saw two variants -/

namespace VariantExample

def unfiltered : Meaning ℕ := fun _ _ _ => true

def signup (variant : String) : Goal :=
  ⟨1000, "s1", "signup", 0, "v1", "direct", [("variant", variant)], [], 0⟩

def paid (variant : String) : Goal :=
  ⟨5000, "s1", "paid", 49, "v1", "direct", [("variant", variant)], [], 0⟩

def funnel : BuiltFunnelQuery ℕ where
  steps := ["signup", "paid"]
  start := 0
  stop := 9000
  unit := .session
  windowSeconds := 3600
  conditions := []
  segment := none

def byVariant : FunnelSegment := ⟨.entry "properties" "variant", "variant", 13⟩

def answerOn (table : List Goal) : List FunnelRow :=
  (segmented funnel byVariant).rows unfiltered table

theorem answer_kept : (segmented funnel byVariant).Answer unfiltered [signup "A", paid "A"]
    (answerOn [signup "A", paid "A"]) :=
  ⟨answerOn [signup "A", paid "A"], List.Perm.refl _, by decide +kernel, by decide +kernel⟩

theorem segments_add_up_one_variant :
    KeepsSegment unfiltered funnel byVariant [signup "A", paid "A"] :=
  (segments_add_up_iff (show segmentBy "variant" = .ok byVariant from rfl) (by decide +kernel)
    answer_kept).mp (by unfold AddsUp; decide +kernel)

/-- The session signed up in variant A and paid in variant B: it reaches the second step, and
in no segment it does. -/
theorem torn_session_lost : segmentBy "variant" = .ok byVariant ∧
    (segmented funnel byVariant).Answer unfiltered [signup "A", paid "B"]
      (answerOn [signup "A", paid "B"]) ∧
    (answerOn [signup "A", paid "B"]).map (·.counts) = [[1, 0], [0, 0]] ∧
    (plain funnel).count unfiltered [signup "A", paid "B"] none 1 = 1 ∧
    ¬AddsUp unfiltered funnel [signup "A", paid "B"] (answerOn [signup "A", paid "B"]) := by
  refine ⟨rfl, ⟨answerOn [signup "A", paid "B"], List.Perm.refl _, ?_, ?_⟩, ?_, ?_, ?_⟩
  · decide +kernel
  · decide +kernel
  · decide +kernel
  · decide +kernel
  · unfold AddsUp
    decide +kernel

end VariantExample

end Veridian.Analytics.FunnelSegments
