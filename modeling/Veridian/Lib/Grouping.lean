/-
Aggregates over the groups of a list.

A query that groups twice adds up what the inner groups gave.  Sums and counts are the
same whichever way they are grouped; a number of distinct values is so only where no two
groups share one.  Counting is done on lists without repetition, which are read as finite
sets.
-/
import Mathlib.Algebra.BigOperators.Group.Finset.Piecewise
import Mathlib.Algebra.Ring.Nat
import Mathlib.Data.Finset.Card
import Mathlib.Algebra.BigOperators.Group.Multiset.Basic
import Mathlib.Data.List.Dedup
import Veridian.Lib.Replacing

namespace Veridian.Grouping

variable {ρ κ φ : Type*} [DecidableEq κ] [DecidableEq φ]

/-! ### Distinct values -/

/-- `uniqExact` -/
def uniqExact (l : List κ) : Nat := l.dedup.length

theorem uniqExact_eq_card (l : List κ) : uniqExact l = l.toFinset.card :=
  (List.card_toFinset l).symm

theorem uniqExact_eq_iff_of_subset {l l' : List κ} (h : l' ⊆ l) :
    uniqExact l' = uniqExact l ↔ l ⊆ l' := by
  have hsub : l'.toFinset ⊆ l.toFinset := fun a ha => by simpa using h (by simpa using ha)
  rw [uniqExact_eq_card, uniqExact_eq_card]
  constructor
  · intro hcard a ha
    have heq := Finset.eq_of_subset_of_card_le hsub (le_of_eq hcard.symm)
    have hmem : a ∈ l'.toFinset := by simpa [heq] using ha
    simpa using hmem
  · intro hback
    have heq : l'.toFinset = l.toFinset := by
      refine Finset.Subset.antisymm hsub fun a ha => ?_
      simpa using hback (by simpa using ha)
    rw [heq]

/-- Applying a function leaves as many distinct values exactly when it tells them apart. -/
theorem uniqExact_map_eq_iff (f : κ → φ) (l : List κ) :
    uniqExact (l.map f) = uniqExact l ↔ ∀ a ∈ l, ∀ b ∈ l, f a = f b → a = b := by
  have himage : (l.map f).toFinset = l.toFinset.image f := by
    ext x
    simp
  rw [uniqExact_eq_card, uniqExact_eq_card, himage, Finset.card_image_iff]
  constructor
  · intro hinj a ha b hb hab
    exact hinj (by simpa using ha) (by simpa using hb) hab
  · intro hdet a ha b hb hab
    exact hdet a (by simpa using ha) b (by simpa using hb) hab

theorem nodup_eraseDups : ∀ (n : Nat) (l : List κ), l.length ≤ n → l.eraseDups.Nodup := by
  intro n
  induction n with
  | zero =>
      intro l hl
      rw [List.eq_nil_of_length_eq_zero (Nat.le_zero.mp hl)]
      exact List.nodup_nil
  | succ n ih =>
      intro l hl
      cases l with
      | nil => exact List.nodup_nil
      | cons a rest =>
          rw [List.eraseDups_cons]
          refine List.nodup_cons.mpr ⟨?_, ih _ ?_⟩
          · simp
          · exact Nat.le_trans (List.length_filter_le _ _) (Nat.le_of_succ_le_succ hl)

theorem eraseDups_perm_dedup (l : List κ) : l.eraseDups.Perm l.dedup :=
  (List.perm_ext_iff_of_nodup (nodup_eraseDups l.length l (Nat.le_refl _))
    (List.nodup_dedup l)).mpr fun _ => by simp

/-- Pairs are as many as their first parts exactly when these determine the second. -/
theorem uniqExact_pair_eq_iff (k : ρ → κ) (f : ρ → φ) (l : List ρ) :
    uniqExact (l.map fun a => (k a, f a)) = uniqExact (l.map k) ↔
      ∀ a ∈ l, ∀ b ∈ l, k a = k b → f a = f b := by
  have himage : (l.map k).toFinset = (l.map fun a => (k a, f a)).toFinset.image Prod.fst := by
    ext x
    simp
  rw [uniqExact_eq_card, uniqExact_eq_card, himage, eq_comm, Finset.card_image_iff]
  constructor
  · intro hinj a ha b hb hk
    have hmem : ∀ c ∈ l, (k c, f c) ∈ ((l.map fun a => (k a, f a)).toFinset : Set (κ × φ)) := by
      intro c hc
      simpa using ⟨c, hc, rfl, rfl⟩
    exact congrArg Prod.snd (hinj (hmem a ha) (hmem b hb) hk)
  · intro hdet x hx y hy hxy
    obtain ⟨a, ha, rfl⟩ : ∃ a ∈ l, (k a, f a) = x := by simpa using hx
    obtain ⟨b, hb, rfl⟩ : ∃ b ∈ l, (k b, f b) = y := by simpa using hy
    exact Prod.ext hxy (hdet a ha b hb hxy)

/-- Distinct values counted group by group are the distinct pairs of value and group. -/
theorem sum_uniqExact_fiber (k : ρ → κ) (f : ρ → φ) (l : List ρ) {xs : List φ}
    (hnodup : xs.Nodup) (hmem : ∀ a ∈ l, f a ∈ xs) :
    (xs.map fun x => uniqExact ((l.filter fun a => f a = x).map k)).sum =
      uniqExact (l.map fun a => (k a, f a)) := by
  have hmaps : ∀ p ∈ (l.map fun a => (k a, f a)).toFinset, p.2 ∈ xs.toFinset := by
    intro p hp
    obtain ⟨a, ha, rfl⟩ : ∃ a ∈ l, (k a, f a) = p := by simpa using hp
    simpa using hmem a ha
  rw [← List.sum_toFinset _ hnodup, uniqExact_eq_card, Finset.card_eq_sum_card_fiberwise hmaps]
  refine Finset.sum_congr rfl fun x _ => ?_
  have hfiber : (l.map fun a => (k a, f a)).toFinset.filter (fun p => p.2 = x) =
      ((l.filter fun a => f a = x).map k).toFinset.image fun y => (y, x) := by
    ext p
    simp only [Finset.mem_filter, Finset.mem_image, List.mem_toFinset, List.mem_map,
      List.mem_filter, decide_eq_true_iff]
    constructor
    · rintro ⟨⟨a, ha, rfl⟩, rfl⟩
      exact ⟨k a, ⟨a, ⟨ha, rfl⟩, rfl⟩, rfl⟩
    · rintro ⟨-, ⟨a, ⟨ha, rfl⟩, rfl⟩, rfl⟩
      exact ⟨⟨a, ha, rfl⟩, rfl⟩
  rw [uniqExact_eq_card, hfiber, Finset.card_image_of_injective _ fun y y' h => congrArg Prod.fst h]

theorem sum_uniqExact_groups (k : ρ → κ) (f : ρ → φ) (l : List ρ) :
    ((l.map f).dedup.map fun x => uniqExact ((l.filter fun a => f a = x).map k)).sum =
      uniqExact (l.map fun a => (k a, f a)) :=
  sum_uniqExact_fiber k f l (List.nodup_dedup _) fun _ ha =>
    List.mem_dedup.mpr (List.mem_map_of_mem ha)

/-! ### Adding up the groups -/

variable {M : Type*} [AddCommMonoid M]

/-- What is added up group by group is added up once. -/
theorem sum_fiber (f : ρ → φ) (g : ρ → M) (l : List ρ) {xs : List φ} (hnodup : xs.Nodup)
    (hmem : ∀ a ∈ l, f a ∈ xs) :
    (xs.map fun x => ((l.filter fun a => f a = x).map g).sum).sum = (l.map g).sum := by
  induction l with
  | nil => simp
  | cons a rest ih =>
      have hsplit : ∀ x, (((a :: rest).filter fun b => f b = x).map g).sum =
          (if f a = x then g a else 0) + ((rest.filter fun b => f b = x).map g).sum := by
        intro x
        by_cases hx : f a = x
        · simp [hx]
        · simp [hx]
      have hone : (xs.map fun x => if f a = x then g a else 0).sum = g a := by
        rw [← List.sum_toFinset _ hnodup, Finset.sum_ite_eq]
        exact if_pos (List.mem_toFinset.mpr (hmem a List.mem_cons_self))
      rw [List.map_congr_left fun x _ => hsplit x, List.sum_map_add, hone,
        ih fun b hb => hmem b (List.mem_cons_of_mem _ hb), List.map_cons, List.sum_cons]

/-! ### The rows of the groups -/

open Replacing (groupBy)

variable {key : ρ → κ} {rows : List ρ}

theorem groupBy_flatten_perm : (groupBy key rows).flatten.Perm rows := by
  have hkeys : ∀ r ∈ rows, key r ∈ (rows.map key).dedup := fun r hr =>
    List.mem_dedup.mpr (List.mem_map_of_mem hr)
  have hsum := sum_fiber key (fun r => ({r} : Multiset ρ)) rows (List.nodup_dedup _) hkeys
  have hsingle : ∀ l : List ρ, (l.map fun r => ({r} : Multiset ρ)).sum = (l : Multiset ρ) := by
    intro l
    induction l with
    | nil => rfl
    | cons r rest ih => rw [List.map_cons, List.sum_cons, ih]; rfl
  have hflatten : ∀ L : List (List ρ), (L.map Multiset.ofList).sum =
      Multiset.ofList L.flatten := by
    intro L
    induction L with
    | nil => rfl
    | cons l rest ih => rw [List.map_cons, List.sum_cons, ih]; rfl
  simp only [hsingle] at hsum
  refine Multiset.coe_eq_coe.mp ?_
  rw [← hflatten, groupBy, List.map_map]
  exact hsum

/-- Keys that tell the same rows apart make the same groups. -/
theorem groupBy_congr {κ' : Type*} [DecidableEq κ'] {key' : ρ → κ'}
    (h : ∀ r s, key r = key s ↔ key' r = key' s) : groupBy key rows = groupBy key' rows := by
  have same : ∀ l : List ρ,
      ((l.map key).dedup.map fun k => rows.filter fun r => key r = k) =
        (l.map key').dedup.map fun k => rows.filter fun r => key' r = k := by
    intro l
    induction l with
    | nil => rfl
    | cons r l ih =>
        have hmem : key r ∈ l.map key ↔ key' r ∈ l.map key' := by
          simp only [List.mem_map, h]
        have hgroup : (rows.filter fun s => key s = key r) = rows.filter fun s => key' s = key' r := by
          simp only [h]
        rw [List.map_cons, List.map_cons]
        by_cases hin : key r ∈ l.map key
        · rw [List.dedup_cons_of_mem hin, List.dedup_cons_of_mem (hmem.mp hin)]
          exact ih
        · rw [List.dedup_cons_of_notMem hin, List.dedup_cons_of_notMem (fun hc => hin (hmem.mpr hc)),
            List.map_cons, List.map_cons, hgroup, ih]
  exact same rows

/-- Dropping groups drops their rows. -/
theorem filter_groupBy_perm (having : List ρ → Bool) :
    ((groupBy key rows).filter having).Perm
      (groupBy key (rows.filter fun r => having (rows.filter fun r' => key r' = key r))) := by
  have hfilter : (groupBy key rows).filter having = (((rows.map key).dedup).filter fun k =>
      having (rows.filter fun r => key r = k)).map fun k => rows.filter fun r => key r = k :=
    List.filter_map
  have hsame : groupBy key (rows.filter fun r => having (rows.filter fun r' => key r' = key r)) =
      (((rows.filter fun r => having (rows.filter fun r' => key r' = key r)).map key).dedup).map
        fun k => rows.filter fun r => key r = k := by
    refine List.map_congr_left fun k hk => ?_
    obtain ⟨r, hr, rfl⟩ := List.mem_map.mp (List.mem_dedup.mp hk)
    rw [List.filter_filter]
    refine List.filter_congr fun r' _ => ?_
    by_cases hkey : key r' = key r
    · simp [hkey, (List.mem_filter.mp hr).2]
    · simp [hkey]
  rw [hfilter, hsame]
  refine List.Perm.map _ ((List.perm_ext_iff_of_nodup ((List.nodup_dedup _).filter _)
    (List.nodup_dedup _)).mpr fun k => ?_)
  simp only [List.mem_filter, List.mem_dedup, List.mem_map]
  constructor
  · rintro ⟨⟨r, hr, rfl⟩, hhaving⟩
    exact ⟨r, ⟨hr, hhaving⟩, rfl⟩
  · rintro ⟨r, ⟨hr, hhaving⟩, rfl⟩
    exact ⟨⟨r, hr, rfl⟩, hhaving⟩

end Veridian.Grouping
