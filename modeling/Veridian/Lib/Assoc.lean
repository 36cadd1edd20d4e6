/-
An insertion-ordered map, as a list of pairs.

`Map<K, V[]>` is how a program groups values by key: get or start an empty list,
push, set.  A key keeps the place it was first inserted at, which is the order the
map is walked in.
-/
import Mathlib.Data.List.Basic

namespace Veridian.Assoc

variable {κ α β γ : Type*} [DecidableEq κ]

/-- `get` or `[]`, `push`, `set`. -/
def push : List (κ × List α) → κ → α → List (κ × List α)
  | [], k, a => [(k, [a])]
  | (k', as) :: rest, k, a =>
      if k' = k then (k', as ++ [a]) :: rest else (k', as) :: push rest k a

/-- `Map.set` -/
def set : List (κ × α) → κ → α → List (κ × α)
  | [], k, a => [(k, a)]
  | (k', a') :: rest, k, a => if k' = k then (k', a) :: rest else (k', a') :: set rest k a

/-- A new key is set at the end. -/
theorem set_of_not_mem {k : κ} {a : α} :
    ∀ {m : List (κ × α)}, k ∉ m.map Prod.fst → set m k a = m ++ [(k, a)] := by
  intro m
  induction m with
  | nil => exact fun _ => rfl
  | cons entry rest ih =>
      intro hk
      obtain ⟨hne, hrest⟩ := not_or.mp (mt List.mem_cons.mpr hk)
      rw [set, if_neg (Ne.symm hne), ih hrest]
      rfl

/-- The entry of a key whose values are `as`: there is none without values. -/
def entryOf (as : List α) : Option (List α) :=
  match as with
  | [] => none
  | _ => some as

theorem entryOf_append_singleton (as : List α) (a : α) :
    entryOf (as ++ [a]) = some (as ++ [a]) := by
  cases as <;> rfl

theorem lookup_push (k k' : κ) (a : α) :
    ∀ m : List (κ × List α), (push m k' a).lookup k =
      if k = k' then some ((m.lookup k).getD [] ++ [a]) else m.lookup k := by
  intro m
  induction m with
  | nil =>
      by_cases h : k = k'
      · simp [push, h]
      · simp [push, h, List.lookup_cons, beq_eq_false_iff_ne.mpr h]
  | cons entry rest ih =>
      obtain ⟨j, as⟩ := entry
      by_cases hj : j = k'
      · subst hj
        by_cases h : k = j
        · simp [push, h]
        · simp [push, h, List.lookup_cons, beq_eq_false_iff_ne.mpr h]
      · simp only [push, if_neg hj, List.lookup_cons]
        by_cases h : k = j
        · subst h
          simp [hj]
        · rw [beq_eq_false_iff_ne.mpr h]
          exact ih

theorem lookup_push_self {k : κ} {m : List (κ × List α)} {as : List α}
    (h : m.lookup k = entryOf as) (a : α) : (push m k a).lookup k = entryOf (as ++ [a]) := by
  rw [lookup_push, if_pos rfl, entryOf_append_singleton, h]
  cases as <;> rfl

theorem keys_push (k : κ) (a : α) :
    ∀ m : List (κ × List α),
      (push m k a).map Prod.fst =
        if k ∈ m.map Prod.fst then m.map Prod.fst else m.map Prod.fst ++ [k] := by
  intro m
  induction m with
  | nil => rfl
  | cons entry rest ih =>
      obtain ⟨j, as⟩ := entry
      by_cases hj : j = k
      · subst hj
        simp [push]
      · rw [push, if_neg hj, List.map_cons, ih, List.map_cons]
        by_cases hk : k ∈ rest.map Prod.fst
        · rw [if_pos hk, if_pos (List.mem_cons_of_mem j hk)]
        · rw [if_neg hk, if_neg fun h => hk ((List.mem_cons.mp h).resolve_left (Ne.symm hj))]
          rfl

/-- A key is in the map once. -/
theorem nodup_push {m : List (κ × List α)} (h : (m.map Prod.fst).Nodup) (k : κ) (a : α) :
    ((push m k a).map Prod.fst).Nodup := by
  rw [keys_push]
  split
  · exact h
  · rename_i hk
    refine List.nodup_append.mpr ⟨h, List.pairwise_singleton _ k, fun x hx y hy hxy => hk ?_⟩
    rwa [← List.mem_singleton.mp hy, ← hxy]

/-- An entry of the map after a push was there before, or is the one of the key. -/
theorem mem_push {k : κ} {a : α} {e : κ × List α} :
    ∀ {m : List (κ × List α)}, e ∈ push m k a →
      e ∈ m ∨ e.1 = k ∧ ∀ b ∈ e.2, b = a ∨ ∃ old ∈ m, old.1 = k ∧ b ∈ old.2 := by
  intro m
  induction m with
  | nil =>
      intro h
      obtain rfl := List.mem_singleton.mp h
      exact Or.inr ⟨rfl, fun b hb => Or.inl (List.mem_singleton.mp hb)⟩
  | cons entry rest ih =>
      obtain ⟨j, as⟩ := entry
      intro h
      unfold push at h
      split at h
      · rename_i hj
        rcases List.mem_cons.mp h with rfl | h
        · refine Or.inr ⟨hj, fun b hb => ?_⟩
          rcases List.mem_append.mp hb with hb | hb
          · exact Or.inr ⟨(j, as), List.mem_cons_self, hj, hb⟩
          · exact Or.inl (List.mem_singleton.mp hb)
        · exact Or.inl (List.mem_cons_of_mem _ h)
      · rcases List.mem_cons.mp h with rfl | h
        · exact Or.inl List.mem_cons_self
        · rcases ih h with hold | ⟨hkey, hvalues⟩
          · exact Or.inl (List.mem_cons_of_mem _ hold)
          · refine Or.inr ⟨hkey, fun b hb => ?_⟩
            rcases hvalues b hb with hb | ⟨old, hmem, hold⟩
            · exact Or.inl hb
            · exact Or.inr ⟨old, List.mem_cons_of_mem _ hmem, hold⟩

/-- A push adds one value. -/
theorem flatMap_push_perm {k : κ} {a : α} :
    ∀ {m : List (κ × List α)},
      ((push m k a).flatMap Prod.snd).Perm (m.flatMap Prod.snd ++ [a]) := by
  intro m
  induction m with
  | nil => exact List.Perm.refl _
  | cons entry rest ih =>
      obtain ⟨j, as⟩ := entry
      unfold push
      split
      · show (as ++ [a] ++ rest.flatMap Prod.snd).Perm (as ++ rest.flatMap Prod.snd ++ [a])
        rw [List.append_assoc, List.append_assoc]
        exact List.Perm.append_left _ List.perm_append_comm
      · show (as ++ (push rest k a).flatMap Prod.snd).Perm (as ++ rest.flatMap Prod.snd ++ [a])
        rw [List.append_assoc]
        exact ih.append_left _

theorem lookup_eq_some_iff_mem {l : List (κ × β)} (h : (l.map Prod.fst).Nodup) {k : κ} {v : β} :
    l.lookup k = some v ↔ (k, v) ∈ l := by
  induction l with
  | nil => simp
  | cons entry rest ih =>
      obtain ⟨j, w⟩ := entry
      obtain ⟨hj, hrest⟩ := List.nodup_cons.mp h
      rw [List.lookup_cons]
      by_cases hk : k = j
      · subst hk
        rw [beq_self_eq_true]
        constructor
        · intro hv
          exact List.mem_cons.mpr (Or.inl (by rw [Option.some.inj hv]))
        · intro hmem
          rcases List.mem_cons.mp hmem with heq | hmem
          · exact congrArg some (Prod.mk.inj heq).2.symm
          · exact absurd (List.mem_map.mpr ⟨_, hmem, rfl⟩) hj
      · rw [beq_eq_false_iff_ne.mpr hk, List.mem_cons]
        refine (ih hrest).trans ⟨Or.inr, ?_⟩
        rintro (heq | hmem)
        · exact absurd (Prod.mk.inj heq).1 hk
        · exact hmem

/-- Entries made of the elements of a list are found as the elements are. -/
theorem lookup_map (f : α → κ) (g : α → β) (k : κ) :
    ∀ l : List α, (l.map fun a => (f a, g a)).lookup k = (l.find? fun a => f a = k).map g := by
  intro l
  induction l with
  | nil => rfl
  | cons a rest ih =>
      rw [List.map_cons, List.lookup_cons, List.find?_cons]
      by_cases h : f a = k
      · rw [decide_eq_true h, beq_iff_eq.mpr h.symm]
        rfl
      · rw [decide_eq_false h, beq_eq_false_iff_ne.mpr (Ne.symm h)]
        exact ih

/-- Looking a key up among the keys of a list that have a value. -/
theorem lookup_filterMap_keys (g : κ → Option β) (k : κ) :
    ∀ l : List κ, (l.filterMap fun j => (g j).map fun v => (j, v)).lookup k =
      if k ∈ l then g k else none := by
  intro l
  induction l with
  | nil => rfl
  | cons j rest ih =>
      by_cases h : k = j
      · subst h
        cases hg : g k with
        | none => simp only [List.filterMap_cons, hg, Option.map_none, ih, ite_self]
        | some v => simp [hg]
      · cases hg : g j with
        | none =>
            simp only [List.filterMap_cons, hg, Option.map_none, ih, List.mem_cons, h, false_or]
        | some v =>
            simp only [List.filterMap_cons, hg, Option.map_some, List.lookup_cons,
              beq_eq_false_iff_ne.mpr h, ih, List.mem_cons, h, false_or]

/-- Looking a key up after some keys were dropped and the values mapped. -/
theorem lookup_filter_map_keys (p : κ → Bool) (g : κ → β → γ) (k : κ) :
    ∀ l : List (κ × β), ((l.filter fun e => p e.1).map fun e => (e.1, g e.1 e.2)).lookup k =
      if p k then (l.lookup k).map (g k) else none := by
  intro l
  induction l with
  | nil => simp
  | cons e rest ih =>
      obtain ⟨j, v⟩ := e
      rw [List.filter_cons, List.lookup_cons]
      by_cases h : k = j
      · subst h
        by_cases hp : p k = true <;> simp [hp, ih]
      · rw [beq_eq_false_iff_ne.mpr h]
        by_cases hp : p j = true
        · rw [if_pos hp, List.map_cons, List.lookup_cons, beq_eq_false_iff_ne.mpr h]
          exact ih
        · rw [if_neg hp]
          exact ih

end Veridian.Assoc
