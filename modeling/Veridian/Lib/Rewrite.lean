/-
Rewriting the rows of a table class by class.

A rewrite `f` is applied to all rows of one key at a time: an UPDATE whose WHERE names
the key.  Rewriting moves a row to another class, so a later statement could catch it
again.  When no rewritten row lands in a class that is itself on the list, that does
not happen, and the statements together rewrite every row of the listed classes once,
in whatever order they are issued (`rewriteClasses_eq_map`).
-/
import Mathlib.Data.List.Nodup
import Mathlib.Algebra.BigOperators.Group.List.Basic
import Mathlib.Algebra.GroupWithZero.Nat

namespace Veridian.Rewrite

variable {ρ κ : Type*} [DecidableEq κ] (key : ρ → κ) (f : ρ → ρ)

/-- `UPDATE … WHERE key = k` -/
def rewriteClass (rows : List ρ) (k : κ) : List ρ := rows.map fun r => if key r = k then f r else r

def rewriteClasses (ks : List κ) (rows : List ρ) : List ρ := ks.foldl (rewriteClass key f) rows

variable {key f}

/-- **The statements rewrite every row of the listed classes, once.** -/
theorem rewriteClasses_eq_map {ks : List κ} (hstable : ∀ r, key r ∈ ks → key (f r) ∉ ks)
    (rows : List ρ) :
    rewriteClasses key f ks rows = rows.map fun r => if key r ∈ ks then f r else r := by
  -- one row at a time: `done` are the classes behind us
  have hrow : ∀ (rest : List κ) (rows : List ρ), (∀ k ∈ rest, k ∈ ks) →
      rewriteClasses key f rest rows = rows.map fun r => if key r ∈ rest then f r else r := by
    intro rest
    induction rest with
    | nil =>
        intro rows _
        simp [rewriteClasses]
    | cons k rest ih =>
        intro rows hsub
        have hk := hsub k (by simp)
        show rewriteClasses key f rest (rewriteClass key f rows k) = _
        rw [ih _ fun k' hk' => hsub k' (List.mem_cons_of_mem _ hk'), rewriteClass, List.map_map]
        refine List.map_congr_left fun r _ => ?_
        show (if key (if key r = k then f r else r) ∈ rest then _ else _) = _
        by_cases hr : key r = k
        · -- rewritten now, and in no class that is still to come
          have hout : key (f r) ∉ rest := fun hc =>
            hstable r (hr ▸ hk) (hsub _ (List.mem_cons_of_mem _ hc))
          rw [if_pos hr, if_neg hout, if_pos (by simp [hr])]
        · have hmem : (key r ∈ k :: rest) = (key r ∈ rest) := by simp [hr]
          simp only [if_neg hr, hmem]
  exact hrow ks rows fun _ h => h

/-- The sizes of distinct classes add up to the number of rows in any of them. -/
theorem sum_countP_classes {ks : List κ} (hnodup : ks.Nodup) (rows : List ρ) :
    (ks.map fun k => rows.countP fun r => key r = k).sum = rows.countP fun r => key r ∈ ks := by
  induction ks with
  | nil => simp
  | cons k rest ih =>
      obtain ⟨hnotin, hrest⟩ := List.nodup_cons.mp hnodup
      rw [List.map_cons, List.sum_cons, ih hrest]
      clear ih
      -- no row is in two classes
      induction rows with
      | nil => rfl
      | cons r rows ihrows =>
          rw [List.countP_cons, List.countP_cons, List.countP_cons, ← ihrows]
          by_cases hr : key r = k
          · subst hr
            simp only [hnotin, List.mem_cons, true_or, decide_true, decide_false, if_true]
            simp
            omega
          · simp only [hr, List.mem_cons, false_or, decide_false]
            simp
            omega

end Veridian.Rewrite
