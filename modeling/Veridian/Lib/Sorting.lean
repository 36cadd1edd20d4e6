/-
Stable sorting by a key.

`List.insertionSort` keeps the order of elements that compare equal, which is what
`Array.prototype.sort` promises.  Three consequences are needed whenever a program
sorts a list of rules before it walks through them: dropping elements commutes
with sorting, a list whose keys are pairwise distinct has one sorted order, so
the order it was written in is lost, and of the order it was written in nothing
else is left than how elements of equal keys stand to each other.
-/
import Mathlib.Data.List.MinMax
import Mathlib.Data.List.Sort

namespace Veridian.Sorting

variable {α : Type*} (r : α → α → Prop) [DecidableRel r]

/-! ### Filtering commutes with sorting -/

theorem filter_orderedInsert_of_neg (p : α → Bool) {a : α} (ha : p a = false) :
    ∀ l : List α, (l.orderedInsert r a).filter p = l.filter p := by
  intro l
  induction l with
  | nil => simp [ha]
  | cons b rest ih =>
      rw [List.orderedInsert_cons]
      split
      · rw [List.filter_cons_of_neg (by simp [ha])]
      · rw [List.filter_cons, List.filter_cons, ih]

/-- Inserting in front of a list whose elements all come later only prepends. -/
theorem orderedInsert_of_le {a : α} :
    ∀ l : List α, (∀ b ∈ l, r a b) → l.orderedInsert r a = a :: l := by
  intro l h
  cases l with
  | nil => rfl
  | cons b rest => rw [List.orderedInsert_cons, if_pos (h b (by simp))]

theorem filter_orderedInsert_of_pos [IsTrans α r] (p : α → Bool) {a : α} (ha : p a = true) :
    ∀ l : List α, l.Pairwise r →
      (l.orderedInsert r a).filter p = (l.filter p).orderedInsert r a := by
  intro l
  induction l with
  | nil => intro _; simp [ha]
  | cons b rest ih =>
      intro hs
      obtain ⟨hb, hrest⟩ := List.pairwise_cons.mp hs
      rw [List.orderedInsert_cons]
      split
      · rename_i hab
        -- everything behind `b` also comes after `a`, kept or not
        rw [List.filter_cons_of_pos ha, orderedInsert_of_le r ((b :: rest).filter p)]
        intro c hc
        rcases List.mem_cons.mp (List.mem_of_mem_filter hc) with rfl | hc'
        · exact hab
        · exact IsTrans.trans _ _ _ hab (hb c hc')
      · rename_i hab
        by_cases hpb : p b = true
        · rw [List.filter_cons_of_pos hpb, List.filter_cons_of_pos hpb, ih hrest,
            List.orderedInsert_cons, if_neg hab]
        · rw [List.filter_cons_of_neg hpb, List.filter_cons_of_neg hpb, ih hrest]

theorem filter_insertionSort [IsTrans α r] [Std.Total r] (p : α → Bool) :
    ∀ l : List α, (l.insertionSort r).filter p = (l.filter p).insertionSort r := by
  intro l
  induction l with
  | nil => rfl
  | cons a rest ih =>
      rw [List.insertionSort_cons]
      by_cases ha : p a = true
      · rw [filter_orderedInsert_of_pos r p ha _ (List.pairwise_insertionSort r rest), ih,
          List.filter_cons_of_pos ha, List.insertionSort_cons]
      · rw [filter_orderedInsert_of_neg r p (by simpa using ha), ih, List.filter_cons_of_neg ha]

/-! ### Distinct keys leave one order -/

variable {κ : Type*} [LinearOrder κ] (key : α → κ)

/-- The comparison of a descending sort by `key`. -/
def Descending (a b : α) : Prop := key b ≤ key a

instance : DecidableRel (Descending key) := fun a b => inferInstanceAs (Decidable (key b ≤ key a))

instance : IsTrans α (Descending key) := ⟨fun _ _ _ hab hbc => le_trans hbc hab⟩

instance : Std.Total (Descending key) := ⟨fun a b => le_total (key b) (key a)⟩

/-- **Two arrangements of the same elements sort to the same list when no two
elements share a key.** -/
theorem insertionSort_eq_of_perm {l m : List α} (h : l.Perm m)
    (hkey : ∀ a ∈ l, ∀ b ∈ l, key a = key b → a = b) :
    l.insertionSort (Descending key) = m.insertionSort (Descending key) := by
  have hperm : (l.insertionSort (Descending key)).Perm (m.insertionSort (Descending key)) :=
    (List.perm_insertionSort _ l).trans (h.trans (List.perm_insertionSort _ m).symm)
  refine hperm.eq_of_pairwise ?_ (List.pairwise_insertionSort _ l)
    (List.pairwise_insertionSort _ m)
  intro a b ha hb hab hba
  have hal : a ∈ l := (List.mem_insertionSort _).mp ha
  have hbl : b ∈ l := h.mem_iff.mpr ((List.mem_insertionSort _).mp hb)
  exact hkey a hal b hbl (le_antisymm hba hab)

/-! ### The first row of an order

Of equal keys it is the row that is read first.
-/

/-- `ORDER BY key DESC LIMIT 1` -/
def latest (l : List α) : Option α := l.argmax key

/-- `ORDER BY key ASC LIMIT 1` -/
def earliest (l : List α) : Option α := l.argmin key

variable {key}

theorem mem_of_latest {l : List α} {a : α} (h : latest key l = some a) : a ∈ l :=
  List.argmax_mem h

theorem mem_of_earliest {l : List α} {a : α} (h : earliest key l = some a) : a ∈ l :=
  List.argmin_mem h

theorem key_le_of_earliest {l : List α} {a : α} (h : earliest key l = some a) :
    ∀ b ∈ l, key a ≤ key b :=
  fun _ hb => List.le_of_mem_argmin hb h

theorem earliest_eq_none {l : List α} : earliest key l = none ↔ l = [] :=
  List.argmin_eq_none

variable (key)

/-! ### Equal keys in one order leave one order -/

variable [DecidableEq α]

/-- Cut down to `a` and `b`, the two lists are the same. -/
def SameOrder (a b : α) (l m : List α) : Prop :=
  (l.filter fun c => c = a ∨ c = b) = m.filter fun c => c = a ∨ c = b

instance (a b : α) (l m : List α) : Decidable (SameOrder a b l m) :=
  inferInstanceAs (Decidable (_ = _))

theorem SameOrder.filter {a b : α} {l m : List α} (h : SameOrder a b l m) (p : α → Bool) :
    SameOrder a b (l.filter p) (m.filter p) := by
  unfold SameOrder
  rw [List.filter_comm, h, List.filter_comm]

theorem SameOrder.of_cons {a b c : α} {l m : List α} (h : SameOrder a b (c :: l) (c :: m)) :
    SameOrder a b l m := by
  unfold SameOrder at h
  by_cases hc : c = a ∨ c = b
  · rw [List.filter_cons_of_pos (by simpa using hc), List.filter_cons_of_pos (by simpa using hc)]
      at h
    exact (List.cons.inj h).2
  · rw [List.filter_cons_of_neg (by simpa using hc), List.filter_cons_of_neg (by simpa using hc)]
      at h
    exact h

/-- Two lists that start differently order their first elements differently. -/
theorem head_eq_of_sameOrder {a b : α} {l m : List α} (h : SameOrder a b (a :: l) (b :: m)) :
    a = b := by
  unfold SameOrder at h
  rw [List.filter_cons_of_pos (by simp), List.filter_cons_of_pos (by simp)] at h
  exact (List.cons.inj h).1

/-- A rearrangement that keeps every two elements in order is the list itself. -/
theorem eq_of_perm_of_sameOrder :
    ∀ {l m : List α}, l.Perm m → (∀ a ∈ l, ∀ b ∈ l, a ≠ b → SameOrder a b l m) → l = m := by
  intro l
  induction l with
  | nil => intro m h _; exact h.nil_eq
  | cons a l ih =>
      intro m h horder
      cases m with
      | nil => exact absurd h.symm (List.not_perm_nil_cons _ _)
      | cons b m =>
          have hab : a = b := by
            by_contra hne
            have hb : b ∈ a :: l := h.mem_iff.mpr List.mem_cons_self
            exact hne (head_eq_of_sameOrder (horder a List.mem_cons_self b hb hne))
          subst hab
          have hrest : l = m := ih h.cons_inv fun c hc d hd hcd =>
            (horder c (List.mem_cons_of_mem _ hc) d (List.mem_cons_of_mem _ hd) hcd).of_cons
          rw [hrest]

/-- **Two arrangements of the same elements sort to the same list when every two
elements that share a key stand in the same order in both.** -/
theorem insertionSort_eq_of_sameOrder {l m : List α} (h : l.Perm m)
    (horder : ∀ a ∈ l, ∀ b ∈ l, a ≠ b → key a = key b → SameOrder a b l m) :
    l.insertionSort (Descending key) = m.insertionSort (Descending key) := by
  have hperm : (l.insertionSort (Descending key)).Perm (m.insertionSort (Descending key)) :=
    (List.perm_insertionSort _ l).trans (h.trans (List.perm_insertionSort _ m).symm)
  refine eq_of_perm_of_sameOrder hperm ?_
  intro a ha b hb hab
  have hal : a ∈ l := (List.mem_insertionSort _).mp ha
  have hbl : b ∈ l := (List.mem_insertionSort _).mp hb
  unfold SameOrder
  rw [filter_insertionSort, filter_insertionSort]
  by_cases hkey : key a = key b
  · rw [horder a hal b hbl hab hkey]
  · -- two keys: the order the list was written in is lost
    refine insertionSort_eq_of_perm key (h.filter _) ?_
    intro c hc d hd hcd
    have hc' : c = a ∨ c = b := by simpa using (List.mem_filter.mp hc).2
    have hd' : d = a ∨ d = b := by simpa using (List.mem_filter.mp hd).2
    rcases hc' with rfl | rfl
    · rcases hd' with rfl | rfl
      · rfl
      · exact absurd hcd hkey
    · rcases hd' with rfl | rfl
      · exact absurd hcd.symm hkey
      · rfl

end Veridian.Sorting
