/-
Processes that share a store.

A process is a value that says how far it has come.  One step of it reads and writes the
store and moves it on, and a run starts processes and steps them in any order, so every
interleaving of the steps is a run.

The rule is `exec_holds`.  An invariant speaks of the store, an assertion of the store and
one process, and a step has three things to keep: the invariant, the assertion of the
process that takes it, and the assertion of any other one.  `always_iff_guarded` is for a
property of the store alone and a condition that is also needed.
-/
import Veridian.Lib.Machine

namespace Veridian.Interleave

variable {σ ω ψ τ : Type*}

structure State (σ ψ : Type*) where
  shared : σ
  procs : List ψ
  deriving DecidableEq

inductive Action (ω τ : Type*) where
  | start (op : ω)
  /-- The `i`-th process takes its next step. -/
  | step (i : Nat) (input : τ)

variable (start : ω → ψ) (proc : σ → ψ → τ → Option (σ × ψ))

def step (s : State σ ψ) : Action ω τ → Option (State σ ψ)
  | .start op => some { s with procs := s.procs ++ [start op] }
  | .step i input =>
      (s.procs[i]?).bind fun p => (proc s.shared p input).map fun (shared, p') =>
        ⟨shared, s.procs.set i p'⟩

/-- A condition on the steps of the processes, as one on the actions of a run. -/
def Guarded (C : σ → ψ → τ → Prop) (s : State σ ψ) : Action ω τ → Prop
  | .start _ => True
  | .step i input => ∀ p, s.procs[i]? = some p → C s.shared p input

instance {C : σ → ψ → τ → Prop} [∀ s p input, Decidable (C s p input)] (s : State σ ψ) :
    ∀ a : Action ω τ, Decidable (Guarded C s a)
  | .start _ => isTrue trivial
  | .step i input =>
      match h : s.procs[i]? with
      | none => isTrue fun p hp => absurd (h.symm.trans hp) (by simp)
      | some p => decidable_of_iff (C s.shared p input)
          ⟨fun hC q hq => Option.some.inj (h.symm.trans hq) ▸ hC, fun hC => hC p h⟩

variable {start proc}

/-- **What a step of a run is**: a process that starts, or one that moves on. -/
theorem step_cases {s t : State σ ψ} {a : Action ω τ} (h : step start proc s a = some t) :
    (∃ op, a = .start op ∧ t = { s with procs := s.procs ++ [start op] }) ∨
    (∃ i input p shared p', a = .step i input ∧ s.procs[i]? = some p ∧
      proc s.shared p input = some (shared, p') ∧ t = ⟨shared, s.procs.set i p'⟩) := by
  cases a with
  | start op => exact Or.inl ⟨op, rfl, (Option.some.inj h).symm⟩
  | step i input =>
      obtain ⟨p, hp, hmap⟩ := Option.bind_eq_some_iff.mp h
      obtain ⟨⟨shared, p'⟩, hproc, ht⟩ := Option.map_eq_some_iff.mp hmap
      exact Or.inr ⟨i, input, p, shared, p', rfl, hp, hproc, ht.symm⟩

/-- `I` holds of the store, and `L` of every process. -/
structure Holds (I : σ → Prop) (L : σ → ψ → Prop) (s : State σ ψ) : Prop where
  shared : I s.shared
  procs : ∀ p ∈ s.procs, L s.shared p

/-- What a step that meets `C` is to keep, it keeps. -/
theorem holds_step {C : σ → ψ → τ → Prop} {I : σ → Prop} {L : σ → ψ → Prop}
    (hstart : ∀ s op, I s → L s (start op))
    (hproc : ∀ s p input s' p', I s → L s p → C s p input → proc s p input = some (s', p') →
      I s' ∧ L s' p' ∧ ∀ q, L s q → L s' q)
    (s : State σ ψ) (a : Action ω τ) (t : State σ ψ) (hs : Holds I L s) (hC : Guarded C s a)
    (h : step start proc s a = some t) : Holds I L t := by
  obtain ⟨op, rfl, rfl⟩ | ⟨i, input, p, shared, p', rfl, hp, hstep, rfl⟩ := step_cases h
  · refine ⟨hs.shared, fun q hq => ?_⟩
    rcases List.mem_append.mp hq with hq | hq
    · exact hs.procs q hq
    · rw [List.mem_singleton.mp hq]
      exact hstart _ op hs.shared
  · have hL : L s.shared p := hs.procs p (List.mem_of_getElem? hp)
    obtain ⟨hI, hL', hother⟩ := hproc _ p input shared p' hs.shared hL (hC p hp) hstep
    refine ⟨hI, fun q hq => ?_⟩
    rcases List.mem_or_eq_of_mem_set hq with hq | rfl
    · exact hother q (hs.procs q hq)
    · exact hL'

/-- **An invariant and assertions that no step breaks when it meets `C` hold after every run
whose steps do.** -/
theorem exec_holds {C : σ → ψ → τ → Prop} {I : σ → Prop} {L : σ → ψ → Prop}
    (hstart : ∀ s op, I s → L s (start op))
    (hproc : ∀ s p input s' p', I s → L s p → C s p input → proc s p input = some (s', p') →
      I s' ∧ L s' p' ∧ ∀ q, L s q → L s' q) :
    ∀ {as : List (Action ω τ)} {s t : State σ ψ}, Holds I L s →
      Machine.Meets (step start proc) (Guarded C) s as →
      Machine.exec (step start proc) s as = some t → Holds I L t :=
  Machine.exec_invariant_of_meets (holds_step hstart hproc)

/-- **Two conditions that say the same of what a process that keeps its assertion does say it
of every run.** -/
theorem meets_congr_of_holds {C C' : σ → ψ → τ → Prop} {L : σ → ψ → Prop}
    (hstart : ∀ s op, L s (start op))
    (hproc : ∀ s p input s' p', L s p → proc s p input = some (s', p') →
      L s' p' ∧ ∀ q, L s q → L s' q)
    (hiff : ∀ s p input, L s p → (C s p input ↔ C' s p input))
    {as : List (Action ω τ)} {s : State σ ψ} (hs : ∀ p ∈ s.procs, L s.shared p) :
    Machine.Meets (step start proc) (Guarded C) s as ↔
      Machine.Meets (step start proc) (Guarded C') s as := by
  have hkeeps : ∀ (D : σ → ψ → τ → Prop) (s : State σ ψ) (a : Action ω τ) (t : State σ ψ),
      Holds (fun _ => True) L s → Guarded D s a → step start proc s a = some t →
        Holds (fun _ => True) L t := by
    intro D
    refine holds_step (fun s op _ => hstart s op) fun s p input s' p' _ hL _ h => ?_
    exact ⟨trivial, hproc s p input s' p' hL h⟩
  have hsame : ∀ (D D' : σ → ψ → τ → Prop), (∀ s p input, L s p → D s p input → D' s p input) →
      ∀ (s : State σ ψ) (a : Action ω τ), Holds (fun _ => True) L s → Guarded D s a →
        Guarded D' s a := by
    intro D D' hD s a hs hguarded
    cases a with
    | start op => trivial
    | step i input =>
        intro p hp
        exact hD _ p input (hs.procs p (List.mem_of_getElem? hp)) (hguarded p hp)
  constructor
  · exact Machine.meets_of_invariant (hkeeps C)
      (hsame C C' fun s p input hL => (hiff s p input hL).mp) ⟨trivial, hs⟩
  · exact Machine.meets_of_invariant (hkeeps C')
      (hsame C' C fun s p input hL => (hiff s p input hL).mpr) ⟨trivial, hs⟩

/-- A process that is there takes no step where none can be taken. -/
theorem proc_eq_none {s : State σ ψ} {i : Nat} {input : τ} {p : ψ}
    (h : step start proc s (.step i input) = none) (hp : s.procs[i]? = some p) :
    proc s.shared p input = none := by
  have hbind : ((s.procs[i]?).bind fun p => (proc s.shared p input).map fun (shared, p') =>
      (⟨shared, s.procs.set i p'⟩ : State σ ψ)) = none := h
  rw [hp, Option.bind_some] at hbind
  exact Option.map_eq_none_iff.mp hbind

/-- **A property of the store that a step keeps exactly when it meets `C` holds all along the
runs whose steps meet it.**  An invariant and assertions that every step keeps may be used. -/
theorem always_iff_guarded_of_holds {C : σ → ψ → τ → Prop} {I P : σ → Prop} {L : σ → ψ → Prop}
    (hstart : ∀ s op, I s → L s (start op))
    (hkeeps : ∀ s p input s' p', I s → L s p → proc s p input = some (s', p') →
      I s' ∧ L s' p' ∧ ∀ q, L s q → L s' q)
    (hproc : ∀ s p input s' p', I s → L s p → P s → proc s p input = some (s', p') →
      (P s' ↔ C s p input))
    (hnone : ∀ s p input, proc s p input = none → C s p input)
    {as : List (Action ω τ)} {s : State σ ψ} (hs : Holds I L s) (hP : P s.shared) :
    (∀ before t, before <+: as → Machine.exec (step start proc) s before = some t →
        P t.shared) ↔
      Machine.Meets (step start proc) (Guarded C) s as := by
  refine Machine.always_iff_meets (I := Holds I L) (P := fun t : State σ ψ => P t.shared)
    (fun t a t' ht hstep => ?_) (fun t a t' hholds ht hstep => ?_) (fun t a h => ?_) hs hP
  · refine holds_step (C := fun _ _ _ => True) hstart
      (fun s p input s' p' hI hL _ => hkeeps s p input s' p' hI hL) t a t' ht ?_ hstep
    cases a with
    | start op => trivial
    | step i input => exact fun _ _ => trivial
  · obtain ⟨op, rfl, rfl⟩ | ⟨i, input, p, shared, p', rfl, hp, hmoves, rfl⟩ := step_cases hstep
    · exact ⟨fun _ => trivial, fun _ => ht⟩
    · rw [hproc _ _ _ _ _ hholds.shared (hholds.procs p (List.mem_of_getElem? hp)) ht hmoves]
      constructor
      · intro hC q hq
        obtain rfl := Option.some.inj (hp.symm.trans hq)
        exact hC
      · intro hguarded
        exact hguarded p hp
  · cases a with
    | start op => trivial
    | step i input =>
        intro p hp
        exact hnone _ _ _ (proc_eq_none h hp)

/-- The same for a property that needs no invariant. -/
theorem always_iff_guarded {C : σ → ψ → τ → Prop} {P : σ → Prop}
    (hproc : ∀ s p input s' p', P s → proc s p input = some (s', p') → (P s' ↔ C s p input))
    (hnone : ∀ s p input, proc s p input = none → C s p input)
    {as : List (Action ω τ)} {s : State σ ψ} (hs : P s.shared) :
    (∀ before t, before <+: as → Machine.exec (step start proc) s before = some t →
        P t.shared) ↔
      Machine.Meets (step start proc) (Guarded C) s as :=
  always_iff_guarded_of_holds (I := fun _ => True) (L := fun _ _ => True)
    (fun _ _ _ => trivial) (fun _ _ _ _ _ _ _ _ => ⟨trivial, trivial, fun _ _ => trivial⟩)
    (fun s p input s' p' _ _ => hproc s p input s' p') hnone ⟨trivial, fun _ _ => trivial⟩ hs

end Veridian.Interleave
