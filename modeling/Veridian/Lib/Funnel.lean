/-
Chains of events in a window.

`windowFunnel` looks for events that meet the steps of a list one after the other: none
earlier than the one it follows, and all within the window that opens at the first.  Its
value is the number of steps of the longest chain.  A chain can be cut short, so a level is
reached exactly when there is a chain through that many steps; and more rows never lower it.
-/
import Mathlib.Data.Nat.Find
import Mathlib.Order.Defs.LinearOrder

namespace Veridian.Funnel

variable {ρ τ : Type*} [LinearOrder τ] [Add τ] (time : ρ → τ) (window : τ)

/-- Events for the steps from the instant `t` on, none after the deadline. -/
def follows (rows : List ρ) (deadline : τ) : τ → List (ρ → Bool) → Bool
  | _, [] => true
  | t, p :: rest => rows.any fun e =>
      p e && decide (t ≤ time e ∧ time e ≤ deadline) && follows rows deadline (time e) rest

/-- There is a chain through the steps. -/
def reaches (rows : List ρ) : List (ρ → Bool) → Bool
  | [] => true
  | p :: rest => rows.any fun e => p e && follows time rows (time e + window) (time e) rest

/-- `windowFunnel(window)(time, steps…)` -/
def windowFunnel (rows : List ρ) (steps : List (ρ → Bool)) : Nat :=
  Nat.findGreatest (fun k => reaches time window rows (steps.take k) = true) steps.length

variable {time window} {rows rows' : List ρ}

/-! ### More rows -/

omit [Add τ] in
theorem follows_of_subset (h : rows ⊆ rows') {deadline : τ} :
    ∀ {steps : List (ρ → Bool)} {t : τ}, follows time rows deadline t steps = true →
      follows time rows' deadline t steps = true := by
  intro steps
  induction steps with
  | nil => intro t _; rfl
  | cons p rest ih =>
      intro t hrows
      obtain ⟨e, he, hstep⟩ := List.any_eq_true.mp hrows
      refine List.any_eq_true.mpr ⟨e, h he, ?_⟩
      rw [Bool.and_eq_true] at hstep ⊢
      exact ⟨hstep.1, ih hstep.2⟩

theorem reaches_of_subset (h : rows ⊆ rows') {steps : List (ρ → Bool)}
    (hrows : reaches time window rows steps = true) : reaches time window rows' steps = true := by
  cases steps with
  | nil => rfl
  | cons p rest =>
      obtain ⟨e, he, hstep⟩ := List.any_eq_true.mp hrows
      refine List.any_eq_true.mpr ⟨e, h he, ?_⟩
      rw [Bool.and_eq_true] at hstep ⊢
      exact ⟨hstep.1, follows_of_subset h hstep.2⟩

/-! ### Fewer steps -/

omit [Add τ] in
theorem follows_of_append {deadline : τ} {more : List (ρ → Bool)} :
    ∀ {steps : List (ρ → Bool)} {t : τ}, follows time rows deadline t (steps ++ more) = true →
      follows time rows deadline t steps = true := by
  intro steps
  induction steps with
  | nil => intro t _; rfl
  | cons p rest ih =>
      intro t hall
      obtain ⟨e, he, hstep⟩ := List.any_eq_true.mp hall
      refine List.any_eq_true.mpr ⟨e, he, ?_⟩
      rw [Bool.and_eq_true] at hstep ⊢
      exact ⟨hstep.1, ih hstep.2⟩

theorem reaches_of_append {steps more : List (ρ → Bool)}
    (hall : reaches time window rows (steps ++ more) = true) :
    reaches time window rows steps = true := by
  cases steps with
  | nil => rfl
  | cons p rest =>
      obtain ⟨e, he, hstep⟩ := List.any_eq_true.mp hall
      refine List.any_eq_true.mpr ⟨e, he, ?_⟩
      rw [Bool.and_eq_true] at hstep ⊢
      exact ⟨hstep.1, follows_of_append hstep.2⟩

theorem reaches_take {steps : List (ρ → Bool)} {k m : Nat} (hkm : k ≤ m)
    (hm : reaches time window rows (steps.take m) = true) :
    reaches time window rows (steps.take k) = true := by
  have hsplit := (List.take_append_drop k (steps.take m)).symm
  rw [List.take_take, min_eq_left hkm] at hsplit
  rw [hsplit] at hm
  exact reaches_of_append hm

/-! ### The level -/

/-- A level is reached exactly when there is a chain through that many steps. -/
theorem le_windowFunnel_iff {steps : List (ρ → Bool)} {k : Nat} :
    k ≤ windowFunnel time window rows steps ↔
      k ≤ steps.length ∧ reaches time window rows (steps.take k) = true := by
  constructor
  · intro hk
    have hle := Nat.findGreatest_le (P := fun k => reaches time window rows (steps.take k) = true)
      steps.length
    have hlevel : reaches time window rows (steps.take (windowFunnel time window rows steps)) =
        true := Nat.findGreatest_spec (P := fun k => reaches time window rows (steps.take k) = true)
      (Nat.zero_le _) rfl
    exact ⟨Nat.le_trans hk hle, reaches_take hk hlevel⟩
  · intro h
    exact Nat.le_findGreatest h.1 h.2

/-- The first step needs one event. -/
theorem one_le_windowFunnel_iff {p : ρ → Bool} {rest : List (ρ → Bool)} :
    1 ≤ windowFunnel time window rows (p :: rest) ↔ ∃ e ∈ rows, p e = true := by
  rw [le_windowFunnel_iff]
  constructor
  · intro h
    obtain ⟨e, he, hstep⟩ := List.any_eq_true.mp h.2
    exact ⟨e, he, (Bool.and_eq_true _ _ ▸ hstep).1⟩
  · rintro ⟨e, he, hp⟩
    refine ⟨by simp, List.any_eq_true.mpr ⟨e, he, ?_⟩⟩
    rw [hp]
    rfl

end Veridian.Funnel
