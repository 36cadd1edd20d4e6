/-
Runs of a machine with a partial step function.

`step s a = none` says that `a` cannot happen in `s`.  A run is a list of actions, so
every interleaving of whatever the actions stand for is a run, and a property of all
reachable states is one induction over that list.

The rules come in two forms.  `exec_invariant` is for what every step preserves.
`exec_invariant_of_meets` is for what a step preserves when it meets a condition on the
state it is taken in, and speaks of the runs all of whose steps do; `exec_iff_meets` and
`always_iff_meets` are the same for a condition that is also needed.
-/
import Mathlib.Data.Option.Basic

namespace Veridian.Machine

variable {σ α : Type*} (step : σ → α → Option σ)

def exec (s : σ) : List α → Option σ
  | [] => some s
  | a :: rest => (step s a).bind fun s' => exec s' rest

variable {step}

/-- Taking a run apart after its first action. -/
theorem exec_cons_eq_some {s t : σ} {a : α} {rest : List α} :
    exec step s (a :: rest) = some t ↔ ∃ s', step s a = some s' ∧ exec step s' rest = some t :=
  Option.bind_eq_some_iff

theorem exec_append {s t u : σ} :
    ∀ {as bs : List α}, exec step s as = some t → exec step t bs = some u →
      exec step s (as ++ bs) = some u := by
  intro as bs hst htu
  induction as generalizing s with
  | nil =>
      obtain rfl : s = t := by simpa [exec] using hst
      exact htu
  | cons a rest ih =>
      obtain ⟨s', hs', hrest⟩ := exec_cons_eq_some.mp hst
      exact exec_cons_eq_some.mpr ⟨s', hs', ih hrest⟩

/-- Taking a run apart anywhere. -/
theorem exec_of_append {s u : σ} :
    ∀ {as bs : List α}, exec step s (as ++ bs) = some u →
      ∃ t, exec step s as = some t ∧ exec step t bs = some u := by
  intro as bs hsu
  induction as generalizing s with
  | nil => exact ⟨s, rfl, hsu⟩
  | cons a rest ih =>
      obtain ⟨s', hs', hrest⟩ := exec_cons_eq_some.mp hsu
      obtain ⟨t, ht, hu⟩ := ih hrest
      exact ⟨t, exec_cons_eq_some.mpr ⟨s', hs', ht⟩, hu⟩

/-- A machine all of whose actions can happen. -/
theorem exec_some (f : σ → α → σ) (s : σ) (as : List α) :
    exec (fun s a => some (f s a)) s as = some (as.foldl f s) := by
  induction as generalizing s with
  | nil => rfl
  | cons a rest ih => exact ih (f s a)

/-! ### Invariants -/

/-- **What every step preserves holds after every run.** -/
theorem exec_invariant {P : σ → Prop} (hstep : ∀ s a s', P s → step s a = some s' → P s') :
    ∀ {as : List α} {s t : σ}, P s → exec step s as = some t → P t := by
  intro as
  induction as with
  | nil =>
      intro s t hs hst
      obtain rfl : s = t := by simpa [exec] using hst
      exact hs
  | cons a rest ih =>
      intro s t hs hst
      obtain ⟨s', hs', hrest⟩ := exec_cons_eq_some.mp hst
      exact ih (hstep s a s' hs hs') hrest

variable (step) in
/-- Every action of the run meets `C` in the state it is taken in. -/
def Meets (C : σ → α → Prop) (s : σ) : List α → Prop
  | [] => True
  | a :: rest => C s a ∧ ∀ s', step s a = some s' → Meets C s' rest

/-- A run meets `C` step by step. -/
theorem meets_cons {C : σ → α → Prop} {s s' : σ} {a : α} {rest : List α} (hC : C s a)
    (h : step s a = some s') (hrest : Meets step C s' rest) : Meets step C s (a :: rest) := by
  refine ⟨hC, fun t ht => ?_⟩
  obtain rfl : s' = t := Option.some.inj (h.symm.trans ht)
  exact hrest

/-- Whether a run meets `C` is found by running it. -/
instance decidableMeets {C : σ → α → Prop} [∀ s a, Decidable (C s a)] :
    ∀ (s : σ) (as : List α), Decidable (Meets step C s as)
  | _, [] => isTrue trivial
  | s, a :: rest =>
      match h : step s a with
      | none => decidable_of_iff (C s a)
          ⟨fun hC => ⟨hC, fun _ hs' => absurd (h.symm.trans hs') (by simp)⟩, And.left⟩
      | some s' =>
          have : Decidable (Meets step C s' rest) := decidableMeets s' rest
          decidable_of_iff (C s a ∧ Meets step C s' rest)
            ⟨fun hC => meets_cons hC.1 h hC.2, fun hC => ⟨hC.1, hC.2 s' h⟩⟩

/-- Actions that meet `C` wherever they are taken. -/
theorem meets_of_forall {C : σ → α → Prop} :
    ∀ {as : List α} {s : σ}, (∀ a ∈ as, ∀ s, C s a) → Meets step C s as := by
  intro as
  induction as with
  | nil => intro s _; exact trivial
  | cons a rest ih =>
      intro s h
      exact ⟨h a List.mem_cons_self s, fun s' _ => ih fun b hb => h b (List.mem_cons_of_mem _ hb)⟩

/-- Two conditions that say the same of every action say it of every run. -/
theorem meets_congr {C C' : σ → α → Prop} (h : ∀ s a, C s a ↔ C' s a) :
    ∀ {as : List α} {s : σ}, Meets step C s as ↔ Meets step C' s as := by
  intro as
  induction as with
  | nil => intro s; exact Iff.rfl
  | cons a rest ih =>
      intro s
      exact and_congr (h s a) (forall_congr' fun t => imp_congr_right fun _ => ih)

/-- The two parts of a run that meets `C` meet it. -/
theorem meets_append {C : σ → α → Prop} :
    ∀ {as bs : List α} {s t : σ}, Meets step C s (as ++ bs) → exec step s as = some t →
      Meets step C s as ∧ Meets step C t bs := by
  intro as bs
  induction as with
  | nil =>
      intro s t h hst
      obtain rfl : s = t := by simpa [exec] using hst
      exact ⟨trivial, h⟩
  | cons a rest ih =>
      intro s t h hst
      obtain ⟨s', hs', hrest⟩ := exec_cons_eq_some.mp hst
      obtain ⟨hmeets, hbs⟩ := ih (h.2 s' hs') hrest
      exact ⟨meets_cons h.1 hs' hmeets, hbs⟩

/-- **What every step that meets `C` preserves holds after every run that does.** -/
theorem exec_invariant_of_meets {C : σ → α → Prop} {P : σ → Prop}
    (hstep : ∀ s a s', P s → C s a → step s a = some s' → P s') :
    ∀ {as : List α} {s t : σ}, P s → Meets step C s as → exec step s as = some t → P t := by
  intro as
  induction as with
  | nil =>
      intro s t hs _ hst
      obtain rfl : s = t := by simpa [exec] using hst
      exact hs
  | cons a rest ih =>
      intro s t hs hmeets hst
      obtain ⟨s', hs', hrest⟩ := exec_cons_eq_some.mp hst
      exact ih (hstep s a s' hs hmeets.1 hs') (hmeets.2 s' hs') hrest

/-- What such a property says of the steps it holds before. -/
theorem meets_of_invariant {C C' : σ → α → Prop} {P : σ → Prop}
    (hstep : ∀ s a s', P s → C s a → step s a = some s' → P s')
    (h : ∀ s a, P s → C s a → C' s a) :
    ∀ {as : List α} {s : σ}, P s → Meets step C s as → Meets step C' s as := by
  intro as
  induction as with
  | nil => intro s _ _; exact trivial
  | cons a rest ih =>
      intro s hs hmeets
      exact ⟨h s a hs hmeets.1, fun s' hs' => ih (hstep s a s' hs hmeets.1 hs') (hmeets.2 s' hs')⟩

/-- **Where `I` holds and a step keeps `P` exactly when it meets `C`, the runs that keep `P`
are the ones that meet `C`.** -/
theorem exec_iff_meets {C : σ → α → Prop} {I P : σ → Prop}
    (hinv : ∀ s a s', I s → step s a = some s' → I s')
    (hstep : ∀ s a s', I s → step s a = some s' → (P s' ↔ P s ∧ C s a)) :
    ∀ {as : List α} {s t : σ}, I s → exec step s as = some t →
      (P t ↔ P s ∧ Meets step C s as) := by
  intro as
  induction as with
  | nil =>
      intro s t _ hst
      obtain rfl : s = t := by simpa [exec] using hst
      exact ⟨fun h => ⟨h, trivial⟩, And.left⟩
  | cons a rest ih =>
      intro s t hs hst
      obtain ⟨s', hs', hrest⟩ := exec_cons_eq_some.mp hst
      rw [ih (hinv s a s' hs hs') hrest, hstep s a s' hs hs', and_assoc]
      refine and_congr_right fun _ => and_congr_right fun _ => ⟨fun h u hu => ?_, fun h => h s' hs'⟩
      obtain rfl : s' = u := Option.some.inj (hs'.symm.trans hu)
      exact h

/-- **Where `I` and `P` hold and a step keeps `P` exactly when it meets `C`, `P` holds all
along the runs that meet `C`.**  `I` is to be kept by the steps from where `P` holds. -/
theorem always_iff_meets_while {C : σ → α → Prop} {I P : σ → Prop}
    (hinv : ∀ s a s', I s → P s → step s a = some s' → I s')
    (hstep : ∀ s a s', I s → P s → step s a = some s' → (P s' ↔ C s a))
    (hnone : ∀ s a, step s a = none → C s a) :
    ∀ {as : List α} {s : σ}, I s → P s →
      ((∀ before t, before <+: as → exec step s before = some t → P t) ↔ Meets step C s as) := by
  intro as
  induction as with
  | nil =>
      intro s _ hs
      refine ⟨fun _ => trivial, fun _ before t hbefore hst => ?_⟩
      obtain rfl := List.prefix_nil.mp hbefore
      obtain rfl : s = t := by simpa [exec] using hst
      exact hs
  | cons a rest ih =>
      intro s hI hs
      constructor
      · intro h
        -- what holds all along the run holds after its first action
        have hfirst : ∀ s', step s a = some s' → P s' := fun s' hs' =>
          h [a] s' (List.prefix_append [a] rest) (exec_cons_eq_some.mpr ⟨s', hs', rfl⟩)
        refine ⟨?_, fun s' hs' => (ih (hinv s a s' hI hs hs') (hfirst s' hs')).mp
          fun before t hbefore ht => ?_⟩
        · cases hs' : step s a with
          | none => exact hnone s a hs'
          | some s' => exact (hstep s a s' hI hs hs').mp (hfirst s' hs')
        · exact h (a :: before) t ((List.prefix_cons_inj a).mpr hbefore)
            (exec_cons_eq_some.mpr ⟨s', hs', ht⟩)
      · intro hmeets before t hbefore hst
        rcases List.prefix_cons_iff.mp hbefore with rfl | ⟨before', rfl, hbefore'⟩
        · obtain rfl : s = t := by simpa [exec] using hst
          exact hs
        · obtain ⟨s', hs', ht⟩ := exec_cons_eq_some.mp hst
          have hkept : P s' := (hstep s a s' hI hs hs').mpr hmeets.1
          exact (ih (hinv s a s' hI hs hs') hkept).mpr (hmeets.2 s' hs') before' t hbefore' ht

/-- The same with an `I` that every step keeps. -/
theorem always_iff_meets {C : σ → α → Prop} {I P : σ → Prop}
    (hinv : ∀ s a s', I s → step s a = some s' → I s')
    (hstep : ∀ s a s', I s → P s → step s a = some s' → (P s' ↔ C s a))
    (hnone : ∀ s a, step s a = none → C s a) {as : List α} {s : σ} (hI : I s) (hP : P s) :
    (∀ before t, before <+: as → exec step s before = some t → P t) ↔ Meets step C s as :=
  always_iff_meets_while (fun s a s' hs _ => hinv s a s' hs) hstep hnone hI hP

end Veridian.Machine
