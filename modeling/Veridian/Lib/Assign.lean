/-
Simultaneous assignment.

An UPDATE computes every right-hand side on the row as it was and then writes them all.
Here it is a function from the row to what it writes, column by column; a column it is
silent about is kept.  Doing it twice is doing it once exactly when, on the updated row,
it writes nothing but what is there; and an assignment that writes none of what another
one reads leaves that one alone.
-/
import Mathlib.Data.Set.Defs

namespace Veridian.Assign

variable {κ ν : Type*}

/-- What is written, column by column, on a row. -/
abbrev Assignment (κ ν : Type*) := (κ → ν) → κ → Option ν

def apply (f : Assignment κ ν) (row : κ → ν) : κ → ν := fun c => (f row c).getD (row c)

variable {f g : Assignment κ ν} {row : κ → ν} {c : κ} {R : Set κ}

theorem apply_of_some {v : ν} (h : f row c = some v) : apply f row c = v := by
  rw [apply, h, Option.getD_some]

theorem apply_of_none (h : f row c = none) : apply f row c = row c := by
  rw [apply, h, Option.getD_none]

/-- Nothing is written but what is there. -/
def Settled (f : Assignment κ ν) (row : κ → ν) : Prop := ∀ c v, f row c = some v → v = row c

theorem apply_eq_self_iff : apply f row = row ↔ Settled f row := by
  constructor
  · intro h c v hv
    rw [← apply_of_some hv, h]
  · intro h
    funext c
    cases hc : f row c with
    | none => exact apply_of_none hc
    | some v => rw [apply_of_some hc, h c v hc]

/-- `f` looks at no other columns than those of `R`. -/
def ReadsOnly (f : Assignment κ ν) (R : Set κ) : Prop :=
  ∀ row row', (∀ c ∈ R, row c = row' c) → f row = f row'

/-- **What writes none of the columns `g` reads leaves `g` alone.** -/
theorem ReadsOnly.after (hg : ReadsOnly g R) (h : ∀ c ∈ R, f row c = none) :
    g (apply f row) = g row :=
  hg _ _ fun c hc => apply_of_none (h c hc)

/-- **Doing it twice is doing it once** when it writes nothing that it reads. -/
theorem ReadsOnly.apply_apply (hf : ReadsOnly f R) (h : ∀ c ∈ R, f row c = none) :
    apply f (apply f row) = apply f row := by
  refine apply_eq_self_iff.mpr fun c v hv => ?_
  rw [hf.after h] at hv
  exact (apply_of_some hv).symm

end Veridian.Assign
