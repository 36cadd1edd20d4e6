/-
Rows that belong to someone, addressed by an id.

A table is shared by several owners, and its rows carry an id.  `Coherent` says that
the rows of one id have one owner, which is what makes an id a reference to a
resource of that owner.  An observer sees the rows of the owners it stands for.

Whatever is read by an id of its own depends on what the observer sees alone
(`filter_id_visible`).  Any other id is a channel: the rows under it can be there or
not without the observer's part changing (`exists_toggled`).
-/
import Mathlib.Data.List.Infix
import Mathlib.Data.Finset.Dedup
import Mathlib.Data.Fintype.EquivFin

namespace Veridian.Owned

variable {ρ ι ω : Type*} (id : ρ → ι) (owner : ρ → ω)

/-- The rows of one id have one owner. -/
def Coherent (rows : List ρ) : Prop :=
  ∀ r ∈ rows, ∀ r' ∈ rows, id r = id r' → owner r = owner r'

/-- The rows of the owners an observer stands for. -/
def visible (own : ω → Bool) (rows : List ρ) : List ρ := rows.filter fun r => own (owner r)

variable {id owner} {own : ω → Bool} {rows : List ρ}

namespace Coherent

theorem filter (h : Coherent id owner rows) (p : ρ → Bool) : Coherent id owner (rows.filter p) :=
  fun r hr r' hr' => h r (List.mem_of_mem_filter hr) r' (List.mem_of_mem_filter hr')

theorem subset (h : Coherent id owner rows) {rows' : List ρ} (hsub : ∀ r ∈ rows', r ∈ rows) :
    Coherent id owner rows' :=
  fun r hr r' hr' => h r (hsub r hr) r' (hsub r' hr')

/-- Another version of a row that is there. -/
theorem append_version (h : Coherent id owner rows) {r x : ρ} (hr : r ∈ rows)
    (hid : id x = id r) (howner : owner x = owner r) : Coherent id owner (rows ++ [x]) := by
  have hx : ∀ q ∈ rows, id q = id x → owner q = owner x := by
    intro q hq heq
    rw [howner]
    exact h q hq r hr (heq.trans hid)
  intro q hq q' hq' heq
  rcases List.mem_append.mp hq with hq | hq <;> rcases List.mem_append.mp hq' with hq' | hq'
  · exact h q hq q' hq' heq
  · rw [List.mem_singleton.mp hq'] at heq ⊢
    exact hx q hq heq
  · rw [List.mem_singleton.mp hq] at heq ⊢
    exact (hx q' hq' heq.symm).symm
  · rw [List.mem_singleton.mp hq, List.mem_singleton.mp hq']

/-- A row of an id that is not in use. -/
theorem append_fresh (h : Coherent id owner rows) {x : ρ} (hx : ∀ r ∈ rows, id r ≠ id x) :
    Coherent id owner (rows ++ [x]) := by
  intro q hq q' hq' heq
  rcases List.mem_append.mp hq with hq | hq <;> rcases List.mem_append.mp hq' with hq' | hq'
  · exact h q hq q' hq' heq
  · rw [List.mem_singleton.mp hq'] at heq
    exact absurd heq (hx q hq)
  · rw [List.mem_singleton.mp hq] at heq
    exact absurd heq.symm (hx q' hq')
  · rw [List.mem_singleton.mp hq, List.mem_singleton.mp hq']

/-- Other versions of rows that are there. -/
theorem append_versions {new : List ρ} (h : Coherent id owner rows)
    (hnew : ∀ x ∈ new, ∃ r ∈ rows, id x = id r ∧ owner x = owner r) :
    Coherent id owner (rows ++ new) := by
  induction new generalizing rows with
  | nil => rwa [List.append_nil]
  | cons x rest ih =>
      obtain ⟨r, hr, hid, howner⟩ := hnew x List.mem_cons_self
      rw [List.append_cons]
      refine ih (h.append_version hr hid howner) fun y hy => ?_
      obtain ⟨q, hq, hsame⟩ := hnew y (List.mem_cons_of_mem _ hy)
      exact ⟨q, List.mem_append_left _ hq, hsame⟩

end Coherent

/-! ### What the observer sees -/

theorem mem_visible {r : ρ} : r ∈ visible owner own rows ↔ r ∈ rows ∧ own (owner r) = true :=
  List.mem_filter

/-- A row of someone else leaves what the observer sees as it was. -/
theorem visible_append_of_foreign {x : ρ} (hx : own (owner x) = false) :
    visible owner own (rows ++ [x]) = visible owner own rows := by
  rw [visible, List.filter_append, List.filter_cons_of_neg (by simp [hx])]
  exact List.append_nil _

/-- So does dropping rows of someone else. -/
theorem visible_filter_of_foreign {p : ρ → Bool}
    (h : ∀ r ∈ rows, own (owner r) = true → p r = true) :
    visible owner own (rows.filter p) = visible owner own rows := by
  rw [visible, List.filter_filter]
  refine List.filter_congr fun r hr => ?_
  cases hown : own (owner r) with
  | false => rfl
  | true => rw [h r hr hown]; rfl

variable [DecidableEq ι]

/-- **The rows of an id of the observer's own are among those it sees.** -/
theorem filter_id_visible (h : Coherent id owner rows) {r : ρ} (hr : r ∈ rows)
    (hown : own (owner r) = true) :
    (visible owner own rows).filter (fun q => id q = id r) = rows.filter fun q => id q = id r := by
  rw [visible, List.filter_filter]
  refine List.filter_congr fun q hq => ?_
  by_cases hid : id q = id r
  · rw [h q hq r hr hid, hown, Bool.and_true]
  · simp [hid]

/-- Two tables of which the observer sees the same have the same rows under its ids. -/
theorem filter_id_eq_of_visible_eq {rows' : List ρ} (h : Coherent id owner rows)
    (h' : Coherent id owner rows') (heq : visible owner own rows' = visible owner own rows) {r : ρ}
    (hr : r ∈ rows) (hown : own (owner r) = true) :
    rows'.filter (fun q => id q = id r) = rows.filter fun q => id q = id r := by
  have hr' : r ∈ rows' := (mem_visible.mp (heq ▸ mem_visible.mpr ⟨hr, hown⟩)).1
  rw [← filter_id_visible h hr hown, ← filter_id_visible h' hr' hown, heq]

/-- **An id that is not the observer's own is there or not without the observer seeing it.** -/
theorem exists_toggled (h : Coherent id owner rows) {k : ι}
    (hk : ∀ r ∈ rows, id r = k → own (owner r) = false) {x : ρ} (hid : id x = k)
    (hx : own (owner x) = false) :
    ∃ rows', Coherent id owner rows' ∧ visible owner own rows' = visible owner own rows ∧
      ((∃ r ∈ rows', id r = k) ↔ ¬∃ r ∈ rows, id r = k) := by
  by_cases hin : ∃ r ∈ rows, id r = k
  · refine ⟨rows.filter fun r => id r ≠ k, h.filter _, visible_filter_of_foreign ?_,
      iff_of_false ?_ (not_not.mpr hin)⟩
    · intro r hr hown
      refine decide_eq_true fun heq => ?_
      rw [hk r hr heq] at hown
      exact Bool.noConfusion hown
    · rintro ⟨r, hr, heq⟩
      exact of_decide_eq_true (List.mem_filter.mp hr).2 heq
  · refine ⟨rows ++ [x], h.append_fresh ?_, visible_append_of_foreign hx,
      iff_of_true ⟨x, by simp, hid⟩ hin⟩
    intro r hr heq
    exact hin ⟨r, hr, heq.trans hid⟩

omit [DecidableEq ι] in
/-- There is always an id that is not in use. -/
theorem exists_fresh [Infinite ι] (id : ρ → ι) (rows : List ρ) : ∃ k, ∀ r ∈ rows, id r ≠ k := by
  classical
  obtain ⟨k, hk⟩ := Infinite.exists_notMem_finset (rows.map id).toFinset
  refine ⟨k, fun r hr heq => hk ?_⟩
  rw [List.mem_toFinset]
  exact List.mem_map.mpr ⟨r, hr, heq⟩

end Veridian.Owned
