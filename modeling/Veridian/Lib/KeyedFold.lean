/-
Folding a stream into one accumulator per key.

`get` or a fresh accumulator, update, `set`.  What a key has in the end is the fold of its
own elements alone, so cutting the stream into pages changes nothing, and its order only
matters as far as it matters to a single accumulator.
-/
import Veridian.Lib.Assoc

namespace Veridian.KeyedFold

variable {κ ε σ : Type*} [DecidableEq κ]

theorem lookup_set (k k' : κ) (a : σ) (m : List (κ × σ)) :
    (Assoc.set m k a).lookup k' = if k' = k then some a else m.lookup k' := by
  induction m with
  | nil =>
      by_cases h : k' = k
      · simp [Assoc.set, h]
      · have hne : (k' == k) = false := beq_false_of_ne h
        rw [Assoc.set, List.lookup_cons, hne, if_neg h]
  | cons entry rest ih =>
      obtain ⟨k₁, a₁⟩ := entry
      by_cases hhead : k₁ = k
      · rw [Assoc.set, if_pos hhead]
        by_cases h : k' = k
        · simp [h, hhead]
        · have hne : (k' == k₁) = false := by simpa [hhead] using h
          rw [if_neg h, List.lookup_cons, List.lookup_cons, hne]
      · rw [Assoc.set, if_neg hhead, List.lookup_cons, List.lookup_cons, ih]
        by_cases h : k' = k
        · have hne : (k' == k₁) = false := by simpa [h] using Ne.symm hhead
          rw [hne, if_pos h]
        · simp only [if_neg h]

variable (key : ε → Option κ) (init : κ → σ) (f : σ → ε → σ)

def step (m : List (κ × σ)) (e : ε) : List (κ × σ) :=
  match key e with
  | none => m
  | some k => Assoc.set m k (f ((m.lookup k).getD (init k)) e)

def fold (events : List ε) (m : List (κ × σ)) : List (κ × σ) := events.foldl (step key init f) m

/-- The elements of one key, in their order. -/
def own (k : κ) (events : List ε) : List ε := events.filter fun e => key e = some k

variable {key init f}

theorem mem_own {k : κ} {events : List ε} {e : ε} :
    e ∈ own key k events ↔ e ∈ events ∧ key e = some k := by
  rw [own, List.mem_filter, decide_eq_true_iff]

theorem lookup_step (k : κ) (m : List (κ × σ)) (e : ε) :
    (step key init f m e).lookup k =
      if key e = some k then some (f ((m.lookup k).getD (init k)) e) else m.lookup k := by
  unfold step
  cases hkey : key e with
  | none => rw [if_neg (by simp)]
  | some k₁ =>
      rw [lookup_set]
      by_cases h : k = k₁
      · rw [if_pos h, if_pos (congrArg some h.symm), h]
      · rw [if_neg h, if_neg fun hc => h (Option.some.inj hc).symm]

/-- **A key has the fold of its own elements.** -/
theorem lookup_fold (k : κ) (events : List ε) : ∀ m : List (κ × σ),
    (fold key init f events m).lookup k =
      if own key k events = [] then m.lookup k
      else some ((own key k events).foldl f ((m.lookup k).getD (init k))) := by
  induction events with
  | nil => exact fun m => rfl
  | cons e rest ih =>
      intro m
      have hfold : fold key init f (e :: rest) m = fold key init f rest (step key init f m e) := rfl
      rw [hfold, ih, lookup_step]
      by_cases hkey : key e = some k
      · have hown : own key k (e :: rest) = e :: own key k rest := by simp [own, hkey]
        rw [hown, if_neg (List.cons_ne_nil _ _), if_pos hkey, List.foldl_cons, Option.getD_some]
        split
        · rename_i hnil
          rw [hnil, List.foldl_nil]
        · rfl
      · have hown : own key k (e :: rest) = own key k rest := by simp [own, hkey]
        rw [hown, if_neg hkey]

/-- Pages folded one after the other are the whole stream. -/
theorem foldl_pages (pages : List (List ε)) (m : List (κ × σ)) :
    pages.foldl (fun m page => fold key init f page m) m = fold key init f pages.flatten m :=
  List.foldl_flatten.symm

/-- Where the elements of a key may change places, so may the stream. -/
theorem lookup_fold_of_perm {k : κ} {events events' : List ε} (hperm : events'.Perm events)
    (hcomm : ∀ x ∈ own key k events', ∀ y ∈ own key k events', ∀ acc,
      f (f acc x) y = f (f acc y) x) :
    (fold key init f events' []).lookup k = (fold key init f events []).lookup k := by
  have hown : (own key k events').Perm (own key k events) := hperm.filter _
  rw [lookup_fold, lookup_fold, hown.foldl_eq' hcomm]
  by_cases hnil : own key k events = []
  · have hnil' : own key k events' = [] := by simpa [hnil] using hown
    rw [if_pos hnil, if_pos hnil']
  · have hnil' : own key k events' ≠ [] := fun h => hnil (by simpa [h] using hown)
    rw [if_neg hnil, if_neg hnil']

end Veridian.KeyedFold
