/-
A forest of rows.

`replaceAt` maps a forest, changes every row that is asked for together with what is under
it, and does not look below a changed row.  It changes exactly one row when the keys of the
rows are distinct.

Keys that are paths, the key of the parent in front, are distinct when siblings have
different parts and the parts form a code: what is written behind a part, nothing or a
separator, never completes it to another one.
-/
import Mathlib.Data.List.Basic

namespace Veridian

universe u

inductive Forest (α : Type u) where
  | nil
  | cons (row : α) (children rest : Forest α)

namespace Forest

variable {α : Type u}

/-- Every row in front of those under it. -/
def rows : Forest α → List α
  | nil => []
  | cons row children rest => row :: (children.rows ++ rest.rows)

def siblings : Forest α → List α
  | nil => []
  | cons row _ rest => row :: rest.siblings

/-- Rows with nothing under them. -/
def ofRows : List α → Forest α
  | [] => nil
  | row :: rest => cons row nil (ofRows rest)

theorem siblings_ofRows (l : List α) : (ofRows l).siblings = l := by
  induction l with
  | nil => rfl
  | cons row l ih => exact congrArg (row :: ·) ih

/-! ### Changing rows -/

section Replacing

variable (p : α → Bool) (f : α → α) (g : Forest α → Forest α)

def replaceAt : Forest α → Forest α
  | nil => nil
  | cons row children rest =>
      if p row then cons (f row) (g children) (replaceAt rest)
      else cons row (replaceAt children) (replaceAt rest)

/-- One row is another, and has other rows under it; nothing else differs. -/
inductive Replaced (row row' : α) (children children' : Forest α) : Forest α → Forest α → Prop
  | here (rest : Forest α) :
      Replaced row row' children children' (cons row children rest) (cons row' children' rest)
  | under {other : α} {t t' : Forest α} (rest : Forest α)
      (h : Replaced row row' children children' t t') :
      Replaced row row' children children' (cons other t rest) (cons other t' rest)
  | later {other : α} {t t' : Forest α} (c : Forest α)
      (h : Replaced row row' children children' t t') :
      Replaced row row' children children' (cons other c t) (cons other c t')

variable {p f g}

theorem replaceAt_eq_self {t : Forest α} (h : ∀ row ∈ t.rows, p row = false) :
    t.replaceAt p f g = t := by
  induction t with
  | nil => rfl
  | cons row children rest ihChildren ihRest =>
      have hrow : p row = false := h row List.mem_cons_self
      have hchildren := ihChildren fun r hr =>
        h r (List.mem_cons_of_mem _ (List.mem_append_left _ hr))
      have hrest := ihRest fun r hr =>
        h r (List.mem_cons_of_mem _ (List.mem_append_right _ hr))
      unfold replaceAt
      rw [hrow, hchildren, hrest]
      rfl

/-- **The one row with a key is changed, and no other.** -/
theorem replaced_of_nodup {κ : Type*} [DecidableEq κ] {key : α → κ} {t : Forest α}
    (h : (t.rows.map key).Nodup) {k : κ} (hk : k ∈ t.rows.map key) :
    ∃ row children, key row = k ∧
      Replaced row (f row) children (g children) t (t.replaceAt (fun r => key r = k) f g) := by
  have hself : ∀ {t : Forest α}, k ∉ t.rows.map key →
      t.replaceAt (fun r => key r = k) f g = t := by
    intro t hmem
    refine replaceAt_eq_self fun r hr => decide_eq_false fun heq => ?_
    exact hmem (heq ▸ List.mem_map_of_mem hr)
  induction t with
  | nil => exact absurd hk List.not_mem_nil
  | cons row children rest ihChildren ihRest =>
      have hrows : (cons row children rest).rows.map key =
          key row :: (children.rows.map key ++ rest.rows.map key) := by
        show _ :: List.map key (_ ++ _) = _
        rw [List.map_append]
      rw [hrows] at h hk
      obtain ⟨hfresh, hboth⟩ := List.nodup_cons.mp h
      obtain ⟨hchildren, hrest, hdisjoint⟩ := List.nodup_append.mp hboth
      by_cases hrow : key row = k
      · have hnotRest : k ∉ rest.rows.map key := fun hmem =>
          hfresh (hrow ▸ List.mem_append_right _ hmem)
        refine ⟨row, children, hrow, ?_⟩
        unfold replaceAt
        rw [decide_eq_true hrow, hself hnotRest]
        exact .here rest
      · rcases List.mem_append.mp ((List.mem_cons.mp hk).resolve_left (Ne.symm hrow))
          with hmem | hmem
        · obtain ⟨r, c, hkey, hreplaced⟩ := ihChildren hchildren hmem
          have hnotRest : k ∉ rest.rows.map key := fun hk' => hdisjoint _ hmem _ hk' rfl
          refine ⟨r, c, hkey, ?_⟩
          unfold replaceAt
          rw [decide_eq_false hrow, hself hnotRest]
          exact .under rest hreplaced
        · obtain ⟨r, c, hkey, hreplaced⟩ := ihRest hrest hmem
          have hnotChildren : k ∉ children.rows.map key := fun hk' => hdisjoint _ hk' _ hmem rfl
          refine ⟨r, c, hkey, ?_⟩
          unfold replaceAt
          rw [decide_eq_false hrow, hself hnotChildren]
          exact .later children hreplaced

/-- Where the keys stay, so do those of the siblings. -/
theorem siblings_replaceAt {κ : Type*} {key : α → κ} (hf : ∀ row, key (f row) = key row)
    (t : Forest α) : (t.replaceAt p f g).siblings.map key = t.siblings.map key := by
  induction t with
  | nil => rfl
  | cons row children rest _ ihRest =>
      unfold replaceAt
      split
      · show key (f row) :: _ = key row :: _
        rw [hf, ihRest]
      · show key row :: _ = key row :: _
        rw [ihRest]

end Replacing

/-! ### Paths as keys -/

section Keys

variable {γ : Type u} (sep : γ)

/-- What may stand behind a part. -/
def Continues (r : List γ) : Prop := r = [] ∨ ∃ r', r = sep :: r'

/-- Parts that can be told apart at the front of a path. -/
structure PathCode (Part : List γ → Prop) : Prop where
  ne_nil : ∀ c, Part c → c ≠ []
  cancel : ∀ c c' r r', Part c → Part c' → Continues sep r → Continues sep r' →
    c ++ r = c' ++ r' → c = c'

variable (Part : List γ → Prop) (key : α → List γ)

/-- Every key is that of the parent, with its separator, and a part that no sibling has. -/
def Keyed : List γ → Forest α → Prop
  | _, nil => True
  | pre, cons row children rest =>
      (∃ c, Part c ∧ key row = pre ++ c) ∧ key row ∉ rest.siblings.map key ∧
        Keyed (key row ++ [sep]) children ∧ Keyed pre rest

variable {sep Part key}

/-- Every key of the forest continues that of one of its siblings. -/
theorem Keyed.exists_sibling {pre : List γ} {t : Forest α} (h : t.Keyed sep Part key pre) :
    ∀ k ∈ t.rows.map key, ∃ c r, Part c ∧ pre ++ c ∈ t.siblings.map key ∧ Continues sep r ∧
      k = pre ++ c ++ r := by
  induction t generalizing pre with
  | nil => exact fun _ hk => absurd hk List.not_mem_nil
  | cons row children rest ihChildren ihRest =>
      obtain ⟨⟨c, hc, hkey⟩, -, hchildren, hrest⟩ := h
      intro k hk
      have hmem : k = key row ∨ k ∈ children.rows.map key ∨ k ∈ rest.rows.map key := by
        simpa [rows] using hk
      have hhead : pre ++ c ∈ (cons row children rest).siblings.map key := by
        rw [← hkey]
        exact List.mem_cons_self
      rcases hmem with rfl | hmem | hmem
      · exact ⟨c, [], hc, hhead, Or.inl rfl, by rw [hkey, List.append_nil]⟩
      · obtain ⟨c', r, -, -, -, rfl⟩ := ihChildren hchildren k hmem
        refine ⟨c, sep :: (c' ++ r), hc, hhead, Or.inr ⟨_, rfl⟩, ?_⟩
        rw [hkey]
        simp only [List.append_assoc, List.cons_append, List.nil_append]
      · obtain ⟨c', r, hc', hsibling, hr, rfl⟩ := ihRest hrest k hmem
        exact ⟨c', r, hc', List.mem_cons_of_mem _ hsibling, hr, rfl⟩

/-- **Paths of a code are distinct.** -/
theorem Keyed.nodup (hcode : PathCode sep Part) {pre : List γ} {t : Forest α}
    (h : t.Keyed sep Part key pre) : (t.rows.map key).Nodup := by
  induction t generalizing pre with
  | nil => exact List.nodup_nil
  | cons row children rest ihChildren ihRest =>
      have hbelow := (show (cons row children rest).Keyed sep Part key pre from h)
      obtain ⟨⟨c, hc, hkey⟩, hfresh, hchildren, hrest⟩ := h
      -- the key of the row, continued, is no key of the other siblings
      have hother : ∀ r, Continues sep r → key row ++ r ∉ rest.rows.map key := by
        intro r hr hmem
        obtain ⟨c', r', hc', hsibling, hr', heq⟩ := hrest.exists_sibling _ hmem
        rw [hkey, List.append_assoc, List.append_assoc] at heq
        have hpart := hcode.cancel c c' r r' hc hc' hr hr' (List.append_cancel_left heq)
        rw [← hpart, ← hkey] at hsibling
        exact hfresh hsibling
      have hunder : ∀ k ∈ children.rows.map key, ∃ r, r ≠ [] ∧ Continues sep r ∧
          k = key row ++ r := by
        intro k hk
        obtain ⟨c', r, -, -, -, rfl⟩ := hchildren.exists_sibling k hk
        exact ⟨sep :: (c' ++ r), List.cons_ne_nil _ _, Or.inr ⟨_, rfl⟩, by simp⟩
      show (key row :: List.map key (children.rows ++ rest.rows)).Nodup
      rw [List.map_append, List.nodup_cons, List.nodup_append]
      refine ⟨?_, ihChildren hchildren, ihRest hrest, ?_⟩
      · intro hmem
        rcases List.mem_append.mp hmem with hk | hk
        · obtain ⟨r, hr, -, heq⟩ := hunder _ hk
          exact hr (List.append_cancel_left (heq.symm.trans (List.append_nil _).symm))
        · exact hother [] (Or.inl rfl) (by rwa [List.append_nil])
      · rintro k hk _ hk' rfl
        obtain ⟨r, -, hr, rfl⟩ := hunder _ hk
        exact hother r hr hk'

theorem Keyed.ne_nil (hcode : PathCode sep Part) {pre : List γ} {t : Forest α}
    (h : t.Keyed sep Part key pre) {k : List γ} (hk : k ∈ t.rows.map key) : k ≠ [] := by
  obtain ⟨c, r, hc, -, -, rfl⟩ := h.exists_sibling k hk
  simp [hcode.ne_nil c hc]

/-- Changes that keep the keys, and put keyed rows under the row. -/
theorem Keyed.replaceAt {p : α → Bool} {f : α → α} {g : Forest α → Forest α}
    (hf : ∀ row, key (f row) = key row)
    (hg : ∀ row, p row = true → ∀ children, Keyed sep Part key (key row ++ [sep]) children →
      Keyed sep Part key (key row ++ [sep]) (g children))
    {pre : List γ} {t : Forest α} (h : t.Keyed sep Part key pre) :
    (t.replaceAt p f g).Keyed sep Part key pre := by
  induction t generalizing pre with
  | nil => exact trivial
  | cons row children rest ihChildren ihRest =>
      obtain ⟨hpart, hfresh, hchildren, hrest⟩ := h
      unfold Forest.replaceAt
      split
      · rename_i hp
        refine ⟨by rwa [hf], ?_, ?_, ihRest hrest⟩
        · rwa [hf, siblings_replaceAt hf]
        · rw [hf]
          exact hg row hp children hchildren
      · refine ⟨hpart, ?_, ihChildren hchildren, ihRest hrest⟩
        rwa [siblings_replaceAt hf]

/-- Rows with nothing under them. -/
theorem keyed_ofRows {pre : List γ} {l : List α} (hparts : ∀ row ∈ l, ∃ c, Part c ∧
    key row = pre ++ c) (hnodup : (l.map key).Nodup) : (ofRows l).Keyed sep Part key pre := by
  induction l with
  | nil => exact trivial
  | cons row l ih =>
      obtain ⟨hrow, hrest⟩ := List.forall_mem_cons.mp hparts
      obtain ⟨hfresh, htail⟩ := List.nodup_cons.mp hnodup
      refine ⟨hrow, ?_, trivial, ih hrest htail⟩
      rwa [siblings_ofRows]

end Keys

end Forest

end Veridian
