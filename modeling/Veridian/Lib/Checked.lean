/-
Computations that check as they go.

A check that fails ends the computation with its error.  So a sequence of checks succeeds
exactly when each of them does, and a list of checked elements holds what each element gave.
-/
import Mathlib.Data.List.Forall2

namespace Veridian.Checked

variable {ε α β : Type}

theorem bind_eq_ok_iff {x : Except ε α} {f : α → Except ε β} {b : β} :
    x >>= f = .ok b ↔ ∃ a, x = .ok a ∧ f a = .ok b := by
  cases x with
  | error e => exact ⟨fun h => absurd h (by simp [bind, Except.bind]), fun ⟨a, h, _⟩ => by cases h⟩
  | ok a =>
      constructor
      · exact fun h => ⟨a, rfl, h⟩
      · rintro ⟨a', ha, hb⟩
        obtain rfl := Except.ok.inj ha
        exact hb

theorem map_eq_ok_iff {x : Except ε α} {f : α → β} {b : β} :
    x.map f = .ok b ↔ ∃ a, x = .ok a ∧ f a = b := by
  cases x with
  | error e => exact ⟨fun h => absurd h (by simp [Except.map]), fun ⟨a, h, _⟩ => nomatch h⟩
  | ok a =>
      constructor
      · intro h
        exact ⟨a, rfl, Except.ok.inj h⟩
      · rintro ⟨a', ha, rfl⟩
        obtain rfl := Except.ok.inj ha
        rfl

/-- A list is checked element by element. -/
theorem mapM_eq_ok_iff {f : α → Except ε β} :
    ∀ {l : List α} {out : List β},
      l.mapM f = .ok out ↔ List.Forall₂ (fun a b => f a = .ok b) l out := by
  intro l
  induction l with
  | nil =>
      intro out
      rw [List.mapM_nil, List.forall₂_nil_left_iff]
      exact ⟨fun h => (Except.ok.inj h).symm, fun h => congrArg Except.ok h.symm⟩
  | cons a rest ih =>
      intro out
      rw [List.mapM_cons, bind_eq_ok_iff, List.forall₂_cons_left_iff]
      constructor
      · rintro ⟨b, hb, h⟩
        obtain ⟨bs, hbs, hout⟩ := bind_eq_ok_iff.mp h
        exact ⟨b, bs, hb, ih.mp hbs, (Except.ok.inj hout).symm⟩
      · rintro ⟨b, bs, hb, hbs, rfl⟩
        exact ⟨b, hb, bind_eq_ok_iff.mpr ⟨bs, ih.mpr hbs, rfl⟩⟩

/-- Checks that succeed for every element succeed for the list. -/
theorem exists_mapM_eq_ok {f : α → Except ε β} {l : List α} (h : ∀ a ∈ l, ∃ b, f a = .ok b) :
    ∃ bs, l.mapM f = .ok bs := by
  induction l with
  | nil => exact ⟨[], mapM_eq_ok_iff.mpr List.Forall₂.nil⟩
  | cons a rest ih =>
      obtain ⟨b, hb⟩ := h a List.mem_cons_self
      obtain ⟨bs, hbs⟩ := ih fun x hx => h x (List.mem_cons_of_mem _ hx)
      exact ⟨b :: bs, mapM_eq_ok_iff.mpr (List.Forall₂.cons hb (mapM_eq_ok_iff.mp hbs))⟩

end Veridian.Checked
