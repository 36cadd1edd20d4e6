/-
Replacing every match of a pattern in a text, as a global regular expression does.

The text is walked from the left; where a match starts it is replaced and skipped.  Some
characters are *breaks*: no match holds one, and whether something matches before a break
does not depend on what comes after it.  So a replacement does its work between the breaks
(`replaceAll_append_break`), and it commutes with escaping them (`replaceAll_escape`).
A pattern whose replacements always weigh more than what they replace changes a text
exactly when it occurs there.
-/
import Mathlib.Data.List.TakeWhile

namespace Veridian.Substitute

variable {α : Type*} {breaks : α → Bool}

/-- `find` looks for a match at the start of a text, given what comes before it: the length
of the match, and what it is replaced by. -/
structure Pattern (breaks : α → Bool) where
  find : Option α → List α → Option (Nat × List α)
  bounds : ∀ {prev l n out}, find prev l = some (n, out) → 0 < n ∧ n ≤ l.length
  clean : ∀ {prev l n out}, find prev l = some (n, out) →
    (∀ c ∈ l.take n, breaks c = false) ∧ ∀ c ∈ out, breaks c = false
  find_append : ∀ {prev l b r}, breaks b = true → find prev (l ++ b :: r) = find prev l
  find_after : ∀ {b l}, breaks b = true → find (some b) l = find none l

variable (p : Pattern breaks)

/-- The rest of a text, the first `skip` characters of which belong to a match. -/
def replaceFrom (skip : Nat) (prev : Option α) : List α → List α
  | [] => []
  | c :: cs =>
      match skip with
      | skip + 1 => replaceFrom skip (some c) cs
      | 0 =>
          match p.find prev (c :: cs) with
          | some (n, out) => out ++ replaceFrom (n - 1) (some c) cs
          | none => c :: replaceFrom 0 (some c) cs

def replaceAll (l : List α) : List α := replaceFrom p 0 none l

/-- Some match starts in the text. -/
def occursFrom (prev : Option α) : List α → Bool
  | [] => false
  | c :: cs => (p.find prev (c :: cs)).isSome || occursFrom (some c) cs

def occurs (l : List α) : Bool := occursFrom p none l

variable {p}

theorem replaceFrom_of_none {prev : Option α} {c : α} {cs : List α}
    (h : p.find prev (c :: cs) = none) :
    replaceFrom p 0 prev (c :: cs) = c :: replaceFrom p 0 (some c) cs := by
  rw [replaceFrom, h]

theorem replaceFrom_of_some {prev : Option α} {c : α} {cs : List α} {n : Nat} {out : List α}
    (h : p.find prev (c :: cs) = some (n, out)) :
    replaceFrom p 0 prev (c :: cs) = out ++ replaceFrom p (n - 1) (some c) cs := by
  rw [replaceFrom, h]

/-! ### Between the breaks -/

theorem find_nil (prev : Option α) : p.find prev [] = none := by
  cases h : p.find prev [] with
  | none => rfl
  | some m =>
      obtain ⟨hpos, hle⟩ := p.bounds h
      exact absurd (Nat.lt_of_lt_of_le hpos hle) (Nat.lt_irrefl 0)

theorem find_break {b : α} (hb : breaks b = true) (prev : Option α) (r : List α) :
    p.find prev (b :: r) = none := by
  have h : p.find prev ([] ++ b :: r) = p.find prev [] := p.find_append hb
  rwa [List.nil_append, find_nil] at h

theorem replaceFrom_after {b : α} (hb : breaks b = true) (l : List α) :
    replaceFrom p 0 (some b) l = replaceAll p l := by
  cases l with
  | nil => rfl
  | cons c cs =>
      unfold replaceAll replaceFrom
      rw [p.find_after hb]

theorem replaceFrom_append_break {b : α} (hb : breaks b = true) (r : List α) :
    ∀ {l : List α} {skip : Nat} {prev : Option α}, skip ≤ l.length →
      replaceFrom p skip prev (l ++ b :: r) = replaceFrom p skip prev l ++ b :: replaceAll p r := by
  intro l
  induction l with
  | nil =>
      intro skip prev hskip
      obtain rfl := Nat.le_zero.mp hskip
      rw [List.nil_append, replaceFrom_of_none (find_break hb prev r), replaceFrom_after hb]
      rfl
  | cons c cs ih =>
      intro skip prev hskip
      cases skip with
      | succ skip => exact ih (Nat.le_of_succ_le_succ hskip)
      | zero =>
          have happend : p.find prev (c :: (cs ++ b :: r)) = p.find prev (c :: cs) :=
            p.find_append (l := c :: cs) hb
          cases h : p.find prev (c :: cs) with
          | none =>
              rw [List.cons_append, replaceFrom_of_none (happend.trans h), replaceFrom_of_none h,
                ih (Nat.zero_le _), List.cons_append]
          | some m =>
              obtain ⟨n, out⟩ := m
              have hn : n - 1 ≤ cs.length := by
                have hle := (p.bounds h).2
                rw [List.length_cons] at hle
                omega
              rw [List.cons_append, replaceFrom_of_some (happend.trans h), replaceFrom_of_some h,
                ih hn, List.append_assoc]

/-- **A replacement works between the breaks.** -/
theorem replaceAll_append_break {b : α} (hb : breaks b = true) (l r : List α) :
    replaceAll p (l ++ b :: r) = replaceAll p l ++ b :: replaceAll p r :=
  replaceFrom_append_break hb r (Nat.zero_le _)

theorem replaceFrom_clean :
    ∀ {l : List α} {skip : Nat} {prev : Option α}, (∀ c ∈ l, breaks c = false) →
      ∀ c ∈ replaceFrom p skip prev l, breaks c = false := by
  intro l
  induction l with
  | nil =>
      intro skip prev _ c hc
      exact absurd hc List.not_mem_nil
  | cons x xs ih =>
      intro skip prev hl
      have hxs : ∀ c ∈ xs, breaks c = false := fun c hc => hl c (List.mem_cons_of_mem x hc)
      cases skip with
      | succ skip => exact ih hxs
      | zero =>
          cases h : p.find prev (x :: xs) with
          | none =>
              rw [replaceFrom_of_none h]
              exact List.forall_mem_cons.mpr ⟨hl x List.mem_cons_self, ih hxs⟩
          | some m =>
              rw [replaceFrom_of_some h]
              exact List.forall_mem_append.mpr ⟨(p.clean h).2, ih hxs⟩

theorem replaceAll_clean {l : List α} (hl : ∀ c ∈ l, breaks c = false) :
    ∀ c ∈ replaceAll p l, breaks c = false :=
  replaceFrom_clean hl

/-! ### Escaping -/

/-- Every break is preceded by `esc`. -/
def escape (breaks : α → Bool) (esc : α) (l : List α) : List α :=
  l.flatMap fun c => if breaks c = true then [esc, c] else [c]

theorem escape_append (esc : α) (l r : List α) :
    escape breaks esc (l ++ r) = escape breaks esc l ++ escape breaks esc r :=
  List.flatMap_append

theorem escape_clean (esc : α) :
    ∀ {l : List α}, (∀ c ∈ l, breaks c = false) → escape breaks esc l = l := by
  intro l
  induction l with
  | nil => intro _; rfl
  | cons c cs ih =>
      intro h
      have hc : breaks c = false := h c List.mem_cons_self
      show (if breaks c = true then [esc, c] else [c]) ++ escape breaks esc cs = c :: cs
      rw [ih fun x hx => h x (List.mem_cons_of_mem c hx), hc]
      rfl

theorem escape_break {b : α} (hb : breaks b = true) (esc : α) (l r : List α) :
    escape breaks esc (l ++ b :: r) =
      escape breaks esc l ++ esc :: ([] ++ b :: escape breaks esc r) := by
  rw [escape_append]
  refine congrArg (escape breaks esc l ++ ·) ?_
  show (if breaks b = true then [esc, b] else [b]) ++ escape breaks esc r = _
  rw [if_pos hb]
  rfl

/-- A text has no break, or a first one. -/
theorem break_induction (breaks : α → Bool) {motive : List α → Prop}
    (clean : ∀ l, (∀ c ∈ l, breaks c = false) → motive l)
    (cut : ∀ l b r, (∀ c ∈ l, breaks c = false) → breaks b = true → motive r →
      motive (l ++ b :: r)) : ∀ l, motive l := by
  intro l
  induction h : l.length using Nat.strong_induction_on generalizing l with
  | _ n ih =>
      have hsplit := List.takeWhile_append_dropWhile (p := fun c => !breaks c) (l := l)
      have hclean : ∀ c ∈ l.takeWhile (fun c => !breaks c), breaks c = false := by
        intro c hc
        simpa using List.mem_takeWhile_imp hc
      cases hrest : l.dropWhile (fun c => !breaks c) with
      | nil =>
          rw [hrest, List.append_nil] at hsplit
          rw [← hsplit]
          exact clean _ hclean
      | cons b r =>
          rw [hrest] at hsplit
          have hb : breaks b = true := by
            have hhead := List.head?_dropWhile_not (fun c => !breaks c) l
            simpa [hrest] using hhead
          have hlt : r.length < n := by
            have hlen := congrArg List.length hsplit
            rw [List.length_append, List.length_cons] at hlen
            omega
          rw [← hsplit]
          exact cut _ b r hclean hb (ih r.length hlt r rfl)

/-- **Replacing in an escaped text is escaping the replaced one.** -/
theorem replaceAll_escape {esc : α} (hesc : breaks esc = true) (l : List α) :
    replaceAll p (escape breaks esc l) = escape breaks esc (replaceAll p l) := by
  refine break_induction breaks (motive := fun l =>
    replaceAll p (escape breaks esc l) = escape breaks esc (replaceAll p l)) ?_ ?_ l
  · intro l hl
    rw [escape_clean esc hl, escape_clean esc (replaceAll_clean hl)]
  · intro l b r hl hb ih
    rw [escape_break hb, replaceAll_append_break hesc, replaceAll_append_break hb,
      replaceAll_append_break hb, escape_break hb, ih, escape_clean esc hl,
      escape_clean esc (replaceAll_clean hl)]
    rfl

/-! ### Quoted values

A text whose breaks all belong to quoted, escaped values.
-/

inductive Quoted (breaks : α → Bool) (esc quote : α) : List α → List (List α) → Prop
  | plain {l : List α} (hl : ∀ c ∈ l, breaks c = false) : Quoted breaks esc quote l []
  | literal {l v rest : List α} {vs : List (List α)} (hl : ∀ c ∈ l, breaks c = false)
      (hrest : Quoted breaks esc quote rest vs) :
      Quoted breaks esc quote (l ++ quote :: (escape breaks esc v ++ quote :: rest)) (v :: vs)

theorem Quoted.append {esc quote : α} {l l' : List α} {vs vs' : List (List α)}
    (h : Quoted breaks esc quote l vs) (h' : Quoted breaks esc quote l' vs') :
    Quoted breaks esc quote (l ++ l') (vs ++ vs') := by
  induction h with
  | plain hl =>
      cases h' with
      | plain hl' => exact .plain (List.forall_mem_append.mpr ⟨hl, hl'⟩)
      | literal hl' hrest' =>
          rw [← List.append_assoc]
          exact .literal (List.forall_mem_append.mpr ⟨hl, hl'⟩) hrest'
  | literal hl _ ih =>
      rw [List.append_assoc, List.cons_append, List.append_assoc, List.cons_append]
      exact .literal hl ih

/-- **Each value is rewritten by itself.** -/
theorem Quoted.replaceAll {esc quote : α} (hesc : breaks esc = true) (hquote : breaks quote = true)
    {l : List α} {vs : List (List α)} (h : Quoted breaks esc quote l vs) :
    Quoted breaks esc quote (replaceAll p l) (vs.map (Substitute.replaceAll p)) := by
  induction h with
  | plain hl => exact .plain (replaceAll_clean hl)
  | literal hl _ ih =>
      rw [replaceAll_append_break hquote, replaceAll_append_break hquote, replaceAll_escape hesc]
      exact .literal (replaceAll_clean hl) ih

/-! ### When a text is changed -/

theorem replaceFrom_eq_self :
    ∀ {l : List α} {prev : Option α}, occursFrom p prev l = false →
      replaceFrom p 0 prev l = l := by
  intro l
  induction l with
  | nil => intro prev _; rfl
  | cons c cs ih =>
      intro prev h
      obtain ⟨hfind, hrest⟩ := Bool.or_eq_false_iff.mp h
      rw [replaceFrom, Option.isSome_eq_false_iff.mp hfind |> Option.isNone_iff_eq_none.mp]
      exact congrArg (c :: ·) (ih hrest)

theorem occursFrom_eq_false (starts : α → Prop)
    (hfind : ∀ prev c cs, ¬starts c → p.find prev (c :: cs) = none) :
    ∀ {l : List α} {prev : Option α}, (∀ c ∈ l, ¬starts c) → occursFrom p prev l = false := by
  intro l
  induction l with
  | nil => intro prev _; rfl
  | cons c cs ih =>
      intro prev h
      rw [occursFrom, hfind prev c cs (h c List.mem_cons_self)]
      exact ih fun x hx => h x (List.mem_cons_of_mem c hx)

/-- Replacements weigh more than what they replace. -/
def Pattern.Grows (p : Pattern breaks) (weighs : α → Bool) : Prop :=
  ∀ {prev l n out}, p.find prev l = some (n, out) →
    (l.take n).countP weighs < out.countP weighs

theorem countP_replaceFrom {weighs : α → Bool} (hgrows : p.Grows weighs) :
    ∀ {l : List α} {skip : Nat} {prev : Option α},
      (l.drop skip).countP weighs ≤ (replaceFrom p skip prev l).countP weighs ∧
        (skip = 0 → occursFrom p prev l = true →
          l.countP weighs < (replaceFrom p skip prev l).countP weighs) := by
  intro l
  induction l with
  | nil =>
      intro skip prev
      refine ⟨by simp [replaceFrom], fun _ h => ?_⟩
      exact absurd h (by simp [occursFrom])
  | cons c cs ih =>
      intro skip prev
      cases skip with
      | succ skip => exact ⟨ih.1, fun h => absurd h (Nat.succ_ne_zero skip)⟩
      | zero =>
          rw [List.drop_zero]
          cases h : p.find prev (c :: cs) with
          | none =>
              obtain ⟨hle, hlt⟩ := @ih 0 (some c)
              rw [replaceFrom_of_none h, List.countP_cons, List.countP_cons]
              refine ⟨Nat.add_le_add_right hle _, fun _ hocc => ?_⟩
              rw [occursFrom, h] at hocc
              exact Nat.add_lt_add_right (hlt rfl (by simpa using hocc)) _
          | some m =>
              obtain ⟨n, out⟩ := m
              have hpos := (p.bounds h).1
              have hdrop : (c :: cs).drop n = cs.drop (n - 1) := by
                obtain ⟨k, rfl⟩ := Nat.exists_eq_succ_of_ne_zero hpos.ne'
                rfl
              have hsplit : (c :: cs).countP weighs =
                  ((c :: cs).take n).countP weighs + (cs.drop (n - 1)).countP weighs := by
                rw [← hdrop, ← List.countP_append, List.take_append_drop]
              have hlt := hgrows h
              have hrest := (@ih (n - 1) (some c)).1
              rw [replaceFrom_of_some h, List.countP_append, hsplit]
              exact ⟨by omega, fun _ _ => by omega⟩

theorem countP_le_replaceAll {weighs : α → Bool} (hgrows : p.Grows weighs) (l : List α) :
    l.countP weighs ≤ (replaceAll p l).countP weighs :=
  (@countP_replaceFrom _ _ p _ hgrows l 0 none).1

/-- **A text is changed exactly where the pattern occurs.** -/
theorem replaceAll_eq_self_iff {weighs : α → Bool} (hgrows : p.Grows weighs) {l : List α} :
    replaceAll p l = l ↔ occurs p l = false := by
  constructor
  · intro h
    rw [← Bool.not_eq_true]
    intro hocc
    have hlt := (@countP_replaceFrom _ _ p _ hgrows l 0 none).2 rfl hocc
    exact absurd (congrArg (List.countP weighs) h) hlt.ne'
  · exact replaceFrom_eq_self

/-! ### One pattern after the other -/

def replaceEach (ps : List (Pattern breaks)) (l : List α) : List α :=
  ps.foldl (fun l p => replaceAll p l) l

theorem countP_le_replaceEach {weighs : α → Bool} :
    ∀ {ps : List (Pattern breaks)}, (∀ p ∈ ps, p.Grows weighs) → ∀ l : List α,
      l.countP weighs ≤ (replaceEach ps l).countP weighs := by
  intro ps
  induction ps with
  | nil => intro _ l; exact Nat.le_refl _
  | cons p ps ih =>
      intro h l
      have hfirst := countP_le_replaceAll (h p List.mem_cons_self) l
      have hrest := ih (fun q hq => h q (List.mem_cons_of_mem p hq)) (replaceAll p l)
      exact Nat.le_trans hfirst hrest

/-- **Together they leave a text alone exactly when none of them occurs in it.** -/
theorem replaceEach_eq_self_iff {weighs : α → Bool} :
    ∀ {ps : List (Pattern breaks)}, (∀ p ∈ ps, p.Grows weighs) → ∀ {l : List α},
      replaceEach ps l = l ↔ ∀ p ∈ ps, occurs p l = false := by
  intro ps
  induction ps with
  | nil => intro _ l; exact ⟨fun _ p hp => absurd hp List.not_mem_nil, fun _ => rfl⟩
  | cons p ps ih =>
      intro h l
      have hp : p.Grows weighs := h p List.mem_cons_self
      have hps : ∀ q ∈ ps, q.Grows weighs := fun q hq => h q (List.mem_cons_of_mem p hq)
      show replaceEach ps (replaceAll p l) = l ↔ _
      rw [List.forall_mem_cons, ← replaceAll_eq_self_iff hp]
      constructor
      · intro heq
        have hself : replaceAll p l = l := by
          rw [replaceAll_eq_self_iff hp, ← Bool.not_eq_true]
          intro hocc
          have hlt := (@countP_replaceFrom _ _ p _ hp l 0 none).2 rfl hocc
          have hle := countP_le_replaceEach hps (replaceAll p l)
          rw [heq] at hle
          exact absurd hlt (Nat.not_lt.mpr hle)
        rw [hself] at heq
        exact ⟨hself, (ih hps).mp heq⟩
      · rintro ⟨hself, hrest⟩
        rw [hself]
        exact (ih hps).mpr hrest

end Veridian.Substitute
