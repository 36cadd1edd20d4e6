/-
Prioritised rules writing to one slot.

A rule sets the slot, clears it, or proposes a default.  Two readings of a list of
rules are defined here, both over any priorities `κ` and values `V`.

* `accumulate` runs through the list with two accumulators, the value and the
  priority it was set with.  A set or clear of lower priority is skipped; a default
  fills a slot that is untouched or cleared and leaves the priority alone.
* `firstMatch` lets the first rule decide, as a CASE expression does.

`accumulate_eq_declared` gives the first one a meaning that mentions no
accumulator: the last overriding rule among those of maximal priority decides, and
a default counts only where nothing overrides or behind a deciding clear.
`declared_eq_firstMatch` says when the two readings agree.
-/
import Mathlib.Order.Lattice
import Mathlib.Data.List.Basic

namespace Veridian.Rules

inductive Action (V : Type*) where
  | set (v : V)
  | clear
  | default (v : V)
  deriving DecidableEq, Repr

structure Rule (κ V : Type*) where
  priority : κ
  action : Action V
  deriving DecidableEq, Repr

variable {κ V : Type*}

/-- A set or a clear, as opposed to a default. -/
def Rule.overrides (r : Rule κ V) : Bool :=
  match r.action with
  | .default _ => false
  | _ => true

def Rule.default? (r : Rule κ V) : Option V :=
  match r.action with
  | .default v => some v
  | _ => none

/-- The value of the first default in the list. -/
def firstDefault (l : List (Rule κ V)) : Option V := l.findSome? Rule.default?

@[simp] theorem firstDefault_nil : firstDefault ([] : List (Rule κ V)) = none := rfl

theorem firstDefault_cons_of_overrides {r : Rule κ V} (h : r.overrides = true)
    (l : List (Rule κ V)) : firstDefault (r :: l) = firstDefault l := by
  obtain ⟨p, a⟩ := r
  cases a with
  | default v => simp [Rule.overrides] at h
  | set v => rfl
  | clear => rfl

theorem firstDefault_of_overrides {l : List (Rule κ V)} (h : ∀ q ∈ l, q.overrides = true) :
    firstDefault l = none := by
  induction l with
  | nil => rfl
  | cons r rest ih =>
      rw [firstDefault_cons_of_overrides (h r (by simp))]
      exact ih fun q hq => h q (by simp [hq])

/-! ### Which rule decides -/

variable [LinearOrder κ]

/-- `w` is the last overriding rule among those of maximal priority in
`before ++ w :: after`. -/
structure Decisive (before : List (Rule κ V)) (w : Rule κ V) (after : List (Rule κ V)) :
    Prop where
  overrides : w.overrides = true
  before_le : ∀ r ∈ before, r.overrides = true → r.priority ≤ w.priority
  after_lt : ∀ r ∈ after, r.overrides = true → r.priority < w.priority

/-- The deciding rule and what follows it. -/
def decisive : List (Rule κ V) → Option (Rule κ V × List (Rule κ V))
  | [] => none
  | r :: rest =>
      match decisive rest with
      | some (w, after) =>
          if r.overrides = true ∧ w.priority < r.priority then some (r, rest)
          else some (w, after)
      | none => if r.overrides = true then some (r, rest) else none

theorem decisive_eq_none_iff :
    ∀ l : List (Rule κ V), decisive l = none ↔ ∀ r ∈ l, r.overrides = false := by
  intro l
  induction l with
  | nil => simp [decisive]
  | cons r rest ih =>
      rw [decisive]
      cases hrest : decisive rest with
      | some wa =>
          have hne : ¬∀ q ∈ rest, q.overrides = false := by rw [← ih, hrest]; simp
          constructor
          · intro h
            simp only at h
            split at h <;> simp at h
          · intro h
            exact absurd (fun q hq => h q (by simp [hq])) hne
      | none =>
          have hall := ih.mp hrest
          by_cases hr : r.overrides = true <;> simp_all

theorem decisive_spec :
    ∀ {l : List (Rule κ V)} {w : Rule κ V} {after : List (Rule κ V)},
      decisive l = some (w, after) →
        ∃ before, l = before ++ w :: after ∧ Decisive before w after := by
  intro l
  induction l with
  | nil => intro w after h; simp [decisive] at h
  | cons r rest ih =>
      intro w after h
      rw [decisive] at h
      cases hrest : decisive rest with
      | none =>
          have hall := (decisive_eq_none_iff rest).mp hrest
          rw [hrest] at h
          by_cases hr : r.overrides = true
          · rw [if_pos hr] at h
            obtain ⟨rfl, rfl⟩ : r = w ∧ rest = after := by simpa using h
            refine ⟨[], rfl, hr, by simp, ?_⟩
            intro q hq hov
            rw [hall q hq] at hov
            exact Bool.noConfusion hov
          · rw [if_neg hr] at h
            simp at h
      | some wa =>
          obtain ⟨w', after'⟩ := wa
          obtain ⟨before, hsplit, hdec⟩ := ih hrest
          rw [hrest] at h
          by_cases hr : r.overrides = true ∧ w'.priority < r.priority
          · -- `r` has a higher priority than everything behind it
            simp only [if_pos hr] at h
            obtain ⟨rfl, rfl⟩ : r = w ∧ rest = after := by simpa using h
            refine ⟨[], rfl, hr.1, by simp, ?_⟩
            intro q hq hov
            rw [hsplit] at hq
            rcases List.mem_append.mp hq with hqb | hqa
            · exact lt_of_le_of_lt (hdec.before_le q hqb hov) hr.2
            · rcases List.mem_cons.mp hqa with rfl | hqa'
              · exact hr.2
              · exact lt_trans (hdec.after_lt q hqa' hov) hr.2
          · simp only [if_neg hr] at h
            obtain ⟨rfl, rfl⟩ : w' = w ∧ after' = after := by simpa using h
            refine ⟨r :: before, by rw [hsplit]; rfl, hdec.overrides, ?_, hdec.after_lt⟩
            intro q hq hov
            rcases List.mem_cons.mp hq with rfl | hq'
            · exact not_lt.mp fun hlt => hr ⟨hov, hlt⟩
            · exact hdec.before_le q hq' hov

/-- There is only one way to be decisive, so `decisive` finds it. -/
theorem decisive_eq_of_split {w : Rule κ V} {after : List (Rule κ V)} :
    ∀ {before : List (Rule κ V)}, Decisive before w after →
      decisive (before ++ w :: after) = some (w, after) := by
  intro before
  induction before with
  | nil =>
      intro h
      rw [List.nil_append, decisive]
      cases hafter : decisive after with
      | none => simp [h.overrides]
      | some wa =>
          obtain ⟨w', after'⟩ := wa
          obtain ⟨before', hsplit, hdec⟩ := decisive_spec hafter
          have hlt : w'.priority < w.priority :=
            h.after_lt w' (by rw [hsplit]; simp) hdec.overrides
          simp [h.overrides, hlt]
  | cons r rest ih =>
      intro h
      have hrec := ih ⟨h.overrides, fun q hq => h.before_le q (by simp [hq]), h.after_lt⟩
      rw [List.cons_append, decisive, hrec]
      have hr : ¬(r.overrides = true ∧ w.priority < r.priority) := by
        rintro ⟨hov, hlt⟩
        exact absurd (h.before_le r (by simp) hov) (not_le.mpr hlt)
      simp [hr]

/-! ### The declared value

`none` leaves the slot alone, `some none` empties it.
-/

/-- What a deciding rule leaves: its value, or the first default behind a clear. -/
def Rule.outcome (w : Rule κ V) (after : List (Rule κ V)) : Option V :=
  match w.action with
  | .set v => some v
  | _ => firstDefault after

def declared (l : List (Rule κ V)) : Option (Option V) :=
  match decisive l with
  | none => (firstDefault l).map some
  | some (w, after) => some (w.outcome after)

theorem declared_of_no_override {l : List (Rule κ V)} (h : ∀ r ∈ l, r.overrides = false) :
    declared l = (firstDefault l).map some := by
  rw [declared, (decisive_eq_none_iff l).mpr h]

theorem declared_of_decisive {before after : List (Rule κ V)} {w : Rule κ V}
    (h : Decisive before w after) :
    declared (before ++ w :: after) = some (w.outcome after) := by
  rw [declared, decisive_eq_of_split h]

/-- Some rule at all is enough for the slot to be written. -/
theorem declared_isSome_of_ne_nil {l : List (Rule κ V)} (h : l ≠ []) :
    ∃ v, declared l = some v := by
  unfold declared
  cases hdec : decisive l with
  | some wa => exact ⟨_, rfl⟩
  | none =>
      cases l with
      | nil => exact absurd rfl h
      | cons r rest =>
          have hdef := (decisive_eq_none_iff _).mp hdec r (by simp)
          obtain ⟨p, a⟩ := r
          cases a with
          | set v => simp [Rule.overrides] at hdef
          | clear => simp [Rule.overrides] at hdef
          | default v => exact ⟨some v, rfl⟩

/-! ### Running through the list with two accumulators -/

structure Slot (κ V : Type*) where
  value : Option (Option V)
  setBy : Option κ

def Slot.empty : Slot κ V := ⟨none, none⟩

/-- Something of higher priority has set the slot already. -/
def Slot.blocks (s : Slot κ V) (p : κ) : Prop := ∃ q, s.setBy = some q ∧ p < q

instance (s : Slot κ V) (p : κ) : Decidable (s.blocks p) :=
  match h : s.setBy with
  | none => isFalse (by rintro ⟨q, hq, -⟩; rw [h] at hq; simp at hq)
  | some q =>
      decidable_of_iff (p < q) ⟨fun hlt => ⟨q, h, hlt⟩, by
        rintro ⟨q', hq', hlt⟩
        rw [h] at hq'
        rwa [Option.some.inj hq']⟩

def step (s : Slot κ V) (r : Rule κ V) : Slot κ V :=
  match r.action with
  | .set v => if s.blocks r.priority then s else ⟨some (some v), some r.priority⟩
  | .clear => if s.blocks r.priority then s else ⟨some none, some r.priority⟩
  | .default v =>
      match s.value with
      | some (some _) => s
      | _ => { s with value := some (some v) }

def accumulate (l : List (Rule κ V)) : Slot κ V := l.foldl step Slot.empty

theorem step_of_default {s : Slot κ V} {r : Rule κ V} (h : r.overrides = false) :
    (step s r).setBy = s.setBy := by
  obtain ⟨p, a⟩ := r
  cases a with
  | set v => simp [Rule.overrides] at h
  | clear => simp [Rule.overrides] at h
  | default v =>
      unfold step
      simp only
      split <;> rfl

theorem step_of_blocked {s : Slot κ V} {r : Rule κ V} (h : r.overrides = true)
    (hb : s.blocks r.priority) : step s r = s := by
  obtain ⟨p, a⟩ := r
  cases a with
  | set v => exact if_pos hb
  | clear => exact if_pos hb
  | default v => simp [Rule.overrides] at h

theorem step_setBy_of_overrides {s : Slot κ V} {r : Rule κ V} (h : r.overrides = true)
    (hb : ¬s.blocks r.priority) : (step s r).setBy = some r.priority := by
  obtain ⟨p, a⟩ := r
  cases a with
  | set v => exact congrArg Slot.setBy (if_neg hb)
  | clear => exact congrArg Slot.setBy (if_neg hb)
  | default v => simp [Rule.overrides] at h

/-- The recorded priority is that of a rule that ran, or was there before. -/
theorem foldl_setBy {l : List (Rule κ V)} :
    ∀ {s : Slot κ V} {p : κ}, (l.foldl step s).setBy = some p →
      s.setBy = some p ∨ ∃ r ∈ l, r.overrides = true ∧ r.priority = p := by
  induction l with
  | nil => intro s p h; exact Or.inl h
  | cons r rest ih =>
      intro s p h
      rcases ih h with hs | ⟨q, hq, hov, hpq⟩
      · by_cases hov : r.overrides = true
        · by_cases hb : s.blocks r.priority
          · rw [step_of_blocked hov hb] at hs
            exact Or.inl hs
          · rw [step_setBy_of_overrides hov hb] at hs
            exact Or.inr ⟨r, by simp, hov, Option.some.inj hs⟩
        · rw [step_of_default (by simpa using hov)] at hs
          exact Or.inl hs
      · exact Or.inr ⟨q, by simp [hq], hov, hpq⟩

/-- Once every overriding rule left is blocked, only a default can still act, and
only on a slot without a value. -/
theorem foldl_value_of_blocked {l : List (Rule κ V)} :
    ∀ {s : Slot κ V}, (∀ r ∈ l, r.overrides = true → s.blocks r.priority) →
      (l.foldl step s).value =
        match s.value with
        | some (some v) => some (some v)
        | none => (firstDefault l).map some
        | some none => some (firstDefault l) := by
  induction l with
  | nil =>
      intro s _
      rw [List.foldl_nil, firstDefault_nil]
      rcases hv : s.value with _ | _ | v <;> rfl
  | cons r rest ih =>
      intro s h
      rw [List.foldl_cons]
      by_cases hov : r.overrides = true
      · rw [step_of_blocked hov (h r (by simp) hov), firstDefault_cons_of_overrides hov]
        exact ih fun q hq => h q (by simp [hq])
      · have hdef : r.overrides = false := by simpa using hov
        have hblocks : ∀ q ∈ rest, q.overrides = true → (step s r).blocks q.priority := by
          intro q hq hqov
          obtain ⟨p, hp, hlt⟩ := h q (by simp [hq]) hqov
          exact ⟨p, by rw [step_of_default hdef, hp], hlt⟩
        rw [ih hblocks]
        obtain ⟨p, a⟩ := r
        cases a with
        | set v => simp [Rule.overrides] at hdef
        | clear => simp [Rule.overrides] at hdef
        | default v =>
            -- the default fills the slot unless a value is already there
            have hfirst : firstDefault (⟨p, .default v⟩ :: rest) = some v := rfl
            rw [hfirst]
            rcases hv : s.value with _ | _ | u <;> simp [step, hv]

/-- **The accumulators compute the declared value**, whatever the order of the list. -/
theorem accumulate_eq_declared (l : List (Rule κ V)) : (accumulate l).value = declared l := by
  cases hdec : decisive l with
  | none =>
      have hall := (decisive_eq_none_iff l).mp hdec
      rw [declared_of_no_override hall, accumulate, foldl_value_of_blocked]
      · rfl
      · intro r hr hov
        rw [hall r hr] at hov
        exact Bool.noConfusion hov
  | some wa =>
      obtain ⟨w, after⟩ := wa
      obtain ⟨before, rfl, hw⟩ := decisive_spec hdec
      rw [declared_of_decisive hw, accumulate, List.foldl_append, List.foldl_cons]
      set s := before.foldl step Slot.empty with hs
      -- nothing that ran before `w` has a higher priority, so `w` acts
      have hfree : ¬s.blocks w.priority := by
        rintro ⟨q, hq, hlt⟩
        rcases foldl_setBy (hs ▸ hq) with hnone | ⟨r, hr, hov, rfl⟩
        · simp [Slot.empty] at hnone
        · exact absurd (hw.before_le r hr hov) (not_le.mpr hlt)
      have hset : (step s w).setBy = some w.priority := step_setBy_of_overrides hw.overrides hfree
      rw [foldl_value_of_blocked fun r hr hov => ⟨w.priority, hset, hw.after_lt r hr hov⟩]
      have hov := hw.overrides
      obtain ⟨p, a⟩ := w
      cases a with
      | set v => simp only [step, if_neg hfree, Rule.outcome]
      | clear => simp only [step, if_neg hfree, Rule.outcome]
      | default v => simp [Rule.overrides] at hov

/-! ### The first rule decides

`kept` says that the slot already holds a value which a default must not replace;
then the defaults are skipped.
-/

/-- What a single rule writes when nothing else is looked at. -/
def Rule.written (r : Rule κ V) : Option V :=
  match r.action with
  | .set v => some v
  | .clear => none
  | .default v => some v

def firstMatch (kept : Bool) (l : List (Rule κ V)) : Option (Option V) :=
  (l.find? fun r => r.overrides || !kept).map Rule.written

/-- The first rule that counts is not overruled by what follows.  Behind a set no
other set or clear of its priority comes, behind a default no set or clear at all; a
clear in front is fine when the deciding rule is a clear too, with no default behind
it.  A default on a kept slot does not count, and then something else has to. -/
def Uncontested (kept : Bool) : List (Rule κ V) → Prop
  | [] => True
  | r :: rest =>
      match r.action with
      | .set _ => ∀ q ∈ rest, q.overrides = true → q.priority < r.priority
      | .clear =>
          ∃ before w after, r :: rest = before ++ w :: after ∧ Decisive before w after ∧
            w.action = .clear ∧ ∀ q ∈ after, q.overrides = true
      | .default _ =>
          if kept then (∃ q ∈ rest, q.overrides = true) ∧ Uncontested kept rest
          else ∀ q ∈ rest, q.overrides = false

/-- A default in front of an overriding rule has no say. -/
theorem declared_cons_default {p : κ} {v : V} {rest : List (Rule κ V)}
    (h : ∃ q ∈ rest, q.overrides = true) : declared (⟨p, .default v⟩ :: rest) = declared rest := by
  have hdec : decisive (⟨p, .default v⟩ :: rest) = decisive rest := by
    rw [decisive]
    cases hrest : decisive rest with
    | none =>
        obtain ⟨q, hq, hov⟩ := h
        rw [(decisive_eq_none_iff rest).mp hrest q hq] at hov
        exact Bool.noConfusion hov
    | some wa => simp [Rule.overrides]
  unfold declared
  rw [hdec]
  cases hrest : decisive rest with
  | none =>
      obtain ⟨q, hq, hov⟩ := h
      rw [(decisive_eq_none_iff rest).mp hrest q hq] at hov
      exact Bool.noConfusion hov
  | some wa => rfl

/-- **On an uncontested list both readings give the same value.** -/
theorem declared_eq_firstMatch {kept : Bool} :
    ∀ {l : List (Rule κ V)}, Uncontested kept l → declared l = firstMatch kept l := by
  intro l
  induction l with
  | nil => intro _; rfl
  | cons r rest ih =>
      intro h
      obtain ⟨p, a⟩ := r
      cases a with
      | set v =>
          have hdec : Decisive [] ⟨p, .set v⟩ rest := ⟨rfl, by simp, h⟩
          exact declared_of_decisive hdec
      | clear =>
          obtain ⟨before, w, after, hsplit, hdec, hclear, hafter⟩ := h
          rw [hsplit, declared_of_decisive hdec, ← hsplit, Rule.outcome, hclear]
          simp only [firstDefault_of_overrides hafter]
          rfl
      | default v =>
          cases hk : kept with
          | true =>
              have h' : (∃ q ∈ rest, q.overrides = true) ∧ Uncontested kept rest := by
                simpa [Uncontested, hk] using h
              rw [declared_cons_default h'.1, ih h'.2, hk]
              rfl
          | false =>
              have h' : ∀ q ∈ rest, q.overrides = false := by
                simpa [Uncontested, hk] using h
              rw [declared_of_no_override]
              · rfl
              · intro q hq
                rcases List.mem_cons.mp hq with rfl | hq'
                · rfl
                · exact h' q hq'

end Veridian.Rules
