/-
How many instants fall into a window of a given width.

A cap on every window is kept by a new last instant exactly when the window that ends with
it had room for one more.  Windows with bounds of their own cover all that lies between the
first and the last when each begins before the one ahead of it ends.
-/
import Mathlib.Data.Int.Order.Basic
import Mathlib.Data.List.Count
import Mathlib.Order.Lattice

namespace Veridian.Window

/-- The instants from `start` on, up to `width` later. -/
def countIn (width start : Int) (times : List Int) : Nat :=
  times.countP fun t => start ≤ t && t < start + width

/-- No window holds more than `n` of the instants. -/
def Capped (n : Nat) (width : Int) (times : List Int) : Prop :=
  ∀ start, countIn width start times ≤ n

/-- The instants less than `width` before `t`. -/
def recent (width t : Int) (times : List Int) : Nat :=
  times.countP fun s => t - width < s

theorem capped_nil (n : Nat) (width : Int) : Capped n width [] := fun _ => Nat.zero_le n

/-- A cap on some instants is a cap on a part of them. -/
theorem Capped.sublist {n : Nat} {width : Int} {part times : List Int}
    (h : Capped n width times) (hpart : part.Sublist times) : Capped n width part :=
  fun start => Nat.le_trans hpart.countP_le (h start)

theorem countIn_append_singleton (width start : Int) (times : List Int) (t : Int) :
    countIn width start (times ++ [t]) =
      countIn width start times + if start ≤ t ∧ t < start + width then 1 else 0 := by
  unfold countIn
  rw [List.countP_append, List.countP_singleton]
  simp

/-- **The cap and a new last instant.** -/
theorem capped_append_singleton {n : Nat} {width : Int} {times : List Int} {t : Int}
    (hwidth : 0 < width) (hlast : ∀ s ∈ times, s ≤ t) :
    Capped n width (times ++ [t]) ↔ Capped n width times ∧ recent width t times < n := by
  have hrecent : countIn width (t - width + 1) times = recent width t times := by
    refine List.countP_congr fun s hs => ?_
    have hle := hlast s hs
    simp only [Bool.and_eq_true, decide_eq_true_eq]
    omega
  constructor
  · intro h
    refine ⟨fun start => ?_, ?_⟩
    · have hall := h start
      rw [countIn_append_singleton] at hall
      omega
    · have hall := h (t - width + 1)
      rw [countIn_append_singleton, hrecent, if_pos (by omega)] at hall
      omega
  · rintro ⟨hcap, hroom⟩ start
    rw [countIn_append_singleton]
    split
    · rename_i hin
      have hle : countIn width start times ≤ recent width t times := by
        refine List.countP_mono_left fun s _ hs => ?_
        simp only [Bool.and_eq_true, decide_eq_true_eq] at hs ⊢
        omega
      omega
    · exact hcap start

theorem recent_append (width t : Int) (a b : List Int) :
    recent width t (a ++ b) = recent width t a + recent width t b :=
  List.countP_append

/-- Instants that are all recent. -/
theorem recent_eq_length {width t : Int} {times : List Int} (h : ∀ s ∈ times, t - width < s) :
    recent width t times = times.length :=
  List.countP_eq_length.mpr fun s hs => decide_eq_true (h s hs)

/-! ### Windows in a row -/

/-- **Windows that reach from one to the next leave no gap.** -/
theorem exists_window_of_isChain {τ ω : Type*} [LinearOrder τ] (low high : ω → τ) {t : τ} :
    ∀ {windows : List ω} {first : ω},
      (first :: windows).IsChain (fun a b => low b ≤ high a) → low first ≤ t →
        (∃ last ∈ first :: windows, t ≤ high last) →
          ∃ w ∈ first :: windows, low w ≤ t ∧ t ≤ high w := by
  intro windows
  induction windows with
  | nil =>
      rintro first - hlow ⟨last, hlast, hhigh⟩
      obtain rfl := List.mem_singleton.mp hlast
      exact ⟨last, hlast, hlow, hhigh⟩
  | cons second rest ih =>
      intro first hchain hlow hlast
      obtain ⟨hreach, hrest⟩ := List.isChain_cons_cons.mp hchain
      rcases le_or_gt t (high first) with hfirst | hfirst
      · exact ⟨first, List.mem_cons_self, hlow, hfirst⟩
      · obtain ⟨last, hmem, hhigh⟩ := hlast
        have hlater : last ∈ second :: rest := by
          rcases List.mem_cons.mp hmem with rfl | hmem
          · exact absurd hhigh (not_le.mpr hfirst)
          · exact hmem
        obtain ⟨w, hw, hin⟩ := ih hrest (le_trans hreach (le_of_lt hfirst)) ⟨last, hlater, hhigh⟩
        exact ⟨w, List.mem_cons_of_mem _ hw, hin⟩

end Veridian.Window
