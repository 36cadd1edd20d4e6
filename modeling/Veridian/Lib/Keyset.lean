/-
Pages by keyset.

The rows are in the order of a key that no two of them share.  What comes after the last row
of a page are the rows with a greater key, so a page that starts there goes on where the page
before ended.
-/
import Veridian.Lib.Sorting

namespace Veridian.Keyset

variable {α κ : Type*} [LinearOrder κ] (key : α → κ)

/-- The comparison of an ascending sort by `key`. -/
def Ascending (a b : α) : Prop := key a ≤ key b

instance : DecidableRel (Ascending key) := fun a b => inferInstanceAs (Decidable (key a ≤ key b))

instance : IsTrans α (Ascending key) := ⟨fun _ _ _ hab hbc => le_trans hab hbc⟩

instance : Std.Total (Ascending key) := ⟨fun a b => le_total (key a) (key b)⟩

/-- `ORDER BY key ASC` -/
def ordered (rows : List α) : List α := rows.insertionSort (Ascending key)

/-- The rows with a greater key. -/
def after (k : κ) (rows : List α) : List α := rows.filter fun a => decide (k < key a)

variable {key}

theorem ordered_perm (rows : List α) : (ordered key rows).Perm rows := List.perm_insertionSort _ rows

theorem ordered_filter (p : α → Bool) (rows : List α) :
    ordered key (rows.filter p) = (ordered key rows).filter p :=
  (Sorting.filter_insertionSort (Ascending key) p rows).symm

/-- Distinct keys are in strict order. -/
theorem ordered_pairwise_lt {rows : List α} (h : (rows.map key).Nodup) :
    (ordered key rows).Pairwise fun a b => key a < key b := by
  have hnodup : ((ordered key rows).map key).Nodup :=
    ((ordered_perm rows).map key).nodup_iff.mpr h
  have hle : (ordered key rows).Pairwise (Ascending key) := List.pairwise_insertionSort _ rows
  have hne : (ordered key rows).Pairwise fun a b => key a ≠ key b := List.pairwise_map.mp hnodup
  exact (hle.and hne).imp fun hab => lt_of_le_of_ne hab.1 hab.2

/-- **After a row come the rows behind it.** -/
theorem after_of_split {front rest : List α} {a : α}
    (h : (front ++ a :: rest).Pairwise fun a b => key a < key b) :
    after key (key a) (front ++ a :: rest) = rest := by
  obtain ⟨-, htail, hcross⟩ := List.pairwise_append.mp h
  have hrest : ∀ b ∈ rest, key a < key b := (List.pairwise_cons.mp htail).1
  have hfront : ∀ b ∈ front, ¬key a < key b := fun b hb =>
    not_lt.mpr (hcross b hb a List.mem_cons_self).le
  unfold after
  rw [List.filter_append, List.filter_cons_of_neg (by simp),
    List.filter_eq_nil_iff.mpr (by simpa using hfront),
    List.filter_eq_self.mpr (by simpa using hrest), List.nil_append]

/-- The last row of a page, and what is behind the page. -/
theorem after_page {rows : List α} (h : rows.Pairwise fun a b => key a < key b) {limit : Nat}
    {last : α} (hlast : (rows.take limit).getLast? = some last) :
    after key (key last) rows = rows.drop limit := by
  obtain ⟨front, hfront⟩ := List.getLast?_eq_some_iff.mp hlast
  have hsplit : rows = front ++ last :: rows.drop limit := by
    conv_lhs => rw [← List.take_append_drop limit rows, hfront]
    rw [List.append_assoc]
    rfl
  conv_lhs => rw [hsplit]
  exact after_of_split (hsplit ▸ h)

end Veridian.Keyset
