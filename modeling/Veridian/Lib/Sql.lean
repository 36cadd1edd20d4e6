/-
The fragment of SQL a rule compiler needs: conditions over one row, and CASE.

Columns are an arbitrary type `γ`, so a table is whatever enumeration its user
brings; `name` spells a column when the text of a statement matters.  Columns are
not nullable here, which makes conditions two-valued and `IS NULL` false.

Parentheses are part of the syntax.  A condition joined to others by AND is
rendered without adding any, so a term that renders to the text of a statement is
also the term that text parses to.
-/
import Veridian.Lib.Text

namespace Veridian.Sql

inductive Value where
  | text (s : String)
  | num (n : Int)
  deriving DecidableEq, Repr

inductive Term (γ : Type) where
  | column (c : γ)
  | text (s : String)
  | num (n : Nat)
  | position (haystack needle : Term γ)
  deriving DecidableEq, Repr

inductive Cond (γ : Type) where
  | eq (a b : Term γ)
  | ne (a b : Term γ)
  | gt (a b : Term γ)
  | isNull (a : Term γ)
  | isNotNull (a : Term γ)
  | regex (subject pattern : Term γ)
  | and (p q : Cond γ)
  | or (p q : Cond γ)
  | paren (p : Cond γ)
  deriving DecidableEq, Repr

/-- `CASE WHEN .. THEN .. ... ELSE .. END`. -/
structure Case (γ : Type) where
  branches : List (Cond γ × Term γ)
  otherwise : Term γ
  deriving DecidableEq, Repr

/-! ### What they evaluate to on a row -/

variable {γ : Type}

def Term.eval (row : γ → Value) : Term γ → Value
  | .column c => row c
  | .text s => .text s
  | .num n => .num n
  | .position h n =>
      match h.eval row, n.eval row with
      | .text hs, .text ns => .num (Text.position hs ns)
      | _, _ => .num 0

def Value.gt : Value → Value → Bool
  | .num a, .num b => decide (b < a)
  | _, _ => false

@[simp] theorem Value.text_beq (s t : String) : (Value.text s == Value.text t) = (s == t) := by
  rw [Bool.eq_iff_iff]
  simp

@[simp] theorem Value.text_bne (s t : String) : (Value.text s != Value.text t) = (s != t) := by
  rw [bne, Value.text_beq, bne]

/-- `match(subject, pattern)`, with the regular expression engine as a parameter. -/
def Value.regex (engine : String → String → Bool) : Value → Value → Bool
  | .text s, .text p => engine p s
  | _, _ => false

def Cond.eval (engine : String → String → Bool) (row : γ → Value) : Cond γ → Bool
  | .eq a b => a.eval row == b.eval row
  | .ne a b => a.eval row != b.eval row
  | .gt a b => (a.eval row).gt (b.eval row)
  | .isNull _ => false
  | .isNotNull _ => true
  | .regex s p => (s.eval row).regex engine (p.eval row)
  | .and p q => p.eval engine row && q.eval engine row
  | .or p q => p.eval engine row || q.eval engine row
  | .paren p => p.eval engine row

/-- The first branch whose condition holds decides. -/
def Case.eval (engine : String → String → Bool) (row : γ → Value) (e : Case γ) : Value :=
  match e.branches.find? (fun b => b.1.eval engine row) with
  | some b => b.2.eval row
  | none => e.otherwise.eval row

section
variable (engine : String → String → Bool) (row : γ → Value)

@[simp] theorem Term.eval_column (c : γ) : (Term.column c).eval row = row c := rfl
@[simp] theorem Term.eval_text (s : String) : (Term.text s : Term γ).eval row = .text s := rfl
@[simp] theorem Term.eval_num (n : Nat) : (Term.num n : Term γ).eval row = .num n := rfl
@[simp] theorem Cond.eval_paren (p : Cond γ) :
    (Cond.paren p).eval engine row = p.eval engine row := rfl
@[simp] theorem Cond.eval_and (p q : Cond γ) :
    (Cond.and p q).eval engine row = (p.eval engine row && q.eval engine row) := rfl
@[simp] theorem Cond.eval_or (p q : Cond γ) :
    (Cond.or p q).eval engine row = (p.eval engine row || q.eval engine row) := rfl

end

/-! ### A conjunction of a list of conditions

`join(' AND ')`: the empty list has no text of its own, so the caller says what
stands for it.
-/

def conj (empty : Cond γ) : List (Cond γ) → Cond γ
  | [] => empty
  | [p] => p
  | p :: q :: rest => .and p (conj empty (q :: rest))

theorem conj_eval (engine : String → String → Bool) (row : γ → Value) {empty : Cond γ}
    (hempty : empty.eval engine row = true) :
    ∀ l : List (Cond γ), (conj empty l).eval engine row = l.all (·.eval engine row) := by
  intro l
  induction l with
  | nil => simpa [conj] using hempty
  | cons p rest ih =>
      cases rest with
      | nil => simp [conj]
      | cons q rest => simp only [conj, Cond.eval_and, ih, List.all_cons]

/-! ### What a term is made of -/

/-- The columns, literals and numbers of a term, as they are read from left to right. -/
def Term.atoms : Term γ → List (Term γ)
  | .position h n => h.atoms ++ n.atoms
  | t => [t]

def Cond.atoms : Cond γ → List (Term γ)
  | .eq a b | .ne a b | .gt a b | .regex a b => a.atoms ++ b.atoms
  | .isNull a | .isNotNull a => a.atoms
  | .and p q | .or p q => p.atoms ++ q.atoms
  | .paren p => p.atoms

def Case.atoms (e : Case γ) : List (Term γ) :=
  (e.branches.flatMap fun b => b.1.atoms ++ b.2.atoms) ++ e.otherwise.atoms

section
variable (a b : Term γ) (p q : Cond γ)

@[simp] theorem Term.atoms_column (c : γ) : (Term.column c).atoms = [.column c] := rfl
@[simp] theorem Term.atoms_text (s : String) : (Term.text s : Term γ).atoms = [.text s] := rfl
@[simp] theorem Term.atoms_num (n : Nat) : (Term.num n : Term γ).atoms = [.num n] := rfl
@[simp] theorem Term.atoms_position : (Term.position a b).atoms = a.atoms ++ b.atoms := rfl

@[simp] theorem Cond.atoms_eq : (Cond.eq a b).atoms = a.atoms ++ b.atoms := rfl
@[simp] theorem Cond.atoms_ne : (Cond.ne a b).atoms = a.atoms ++ b.atoms := rfl
@[simp] theorem Cond.atoms_gt : (Cond.gt a b).atoms = a.atoms ++ b.atoms := rfl
@[simp] theorem Cond.atoms_regex : (Cond.regex a b).atoms = a.atoms ++ b.atoms := rfl
@[simp] theorem Cond.atoms_isNull : (Cond.isNull a).atoms = a.atoms := rfl
@[simp] theorem Cond.atoms_isNotNull : (Cond.isNotNull a).atoms = a.atoms := rfl
@[simp] theorem Cond.atoms_and : (Cond.and p q).atoms = p.atoms ++ q.atoms := rfl
@[simp] theorem Cond.atoms_or : (Cond.or p q).atoms = p.atoms ++ q.atoms := rfl
@[simp] theorem Cond.atoms_paren : (Cond.paren p).atoms = p.atoms := rfl

end

/-- The value of a quoted literal. -/
def Term.literal? : Term γ → Option String
  | .text s => some s
  | _ => none

theorem mem_filterMap_literal? {s : String} {atoms : List (Term γ)} :
    s ∈ atoms.filterMap Term.literal? ↔ Term.text s ∈ atoms := by
  rw [List.mem_filterMap]
  constructor
  · rintro ⟨t, ht, hs⟩
    cases t with
    | text s' =>
        obtain rfl := Option.some.inj hs
        exact ht
    | column c => exact absurd hs (by simp [Term.literal?])
    | num n => exact absurd hs (by simp [Term.literal?])
    | position h n => exact absurd hs (by simp [Term.literal?])
  · exact fun h => ⟨_, h, rfl⟩

theorem mem_atoms_conj {empty : Cond γ} {t : Term γ} :
    ∀ {l : List (Cond γ)}, t ∈ (conj empty l).atoms →
      t ∈ empty.atoms ∨ ∃ p ∈ l, t ∈ p.atoms := by
  intro l
  induction l with
  | nil => exact fun h => Or.inl h
  | cons p rest ih =>
      cases rest with
      | nil => exact fun h => Or.inr ⟨p, List.mem_cons_self, h⟩
      | cons q rest =>
          intro h
          rcases List.mem_append.mp h with hp | hrest
          · exact Or.inr ⟨p, List.mem_cons_self, hp⟩
          · rcases ih hrest with hempty | ⟨r, hr, ht⟩
            · exact Or.inl hempty
            · exact Or.inr ⟨r, List.mem_cons_of_mem p hr, ht⟩

theorem mem_atoms_conj_of_mem {empty : Cond γ} {t : Term γ} {p : Cond γ} :
    ∀ {l : List (Cond γ)}, p ∈ l → t ∈ p.atoms → t ∈ (conj empty l).atoms := by
  intro l hp ht
  induction l with
  | nil => simp at hp
  | cons q rest ih =>
      cases rest with
      | nil =>
          obtain rfl := List.mem_singleton.mp hp
          exact ht
      | cons r rest =>
          rcases List.mem_cons.mp hp with rfl | hrest
          · exact List.mem_append_left _ ht
          · exact List.mem_append_right _ (ih hrest)

/-- A term looks at its columns only. -/
theorem Term.eval_congr {row row' : γ → Value} :
    ∀ {t : Term γ}, (∀ c, Term.column c ∈ t.atoms → row c = row' c) → t.eval row = t.eval row' := by
  intro t
  induction t with
  | column c =>
      intro h
      exact h c (List.mem_singleton.mpr rfl)
  | text s => intro _; rfl
  | num n => intro _; rfl
  | position hs ns ihh ihn =>
      intro h
      rw [Term.eval, Term.eval, ihh fun c hc => h c (List.mem_append_left _ hc),
        ihn fun c hc => h c (List.mem_append_right _ hc)]

theorem Cond.eval_congr {engine : String → String → Bool} {row row' : γ → Value} :
    ∀ {p : Cond γ}, (∀ c, Term.column c ∈ p.atoms → row c = row' c) →
      p.eval engine row = p.eval engine row' := by
  intro p
  induction p with
  | eq a b | ne a b | gt a b | regex a b =>
      intro h
      have ha := Term.eval_congr fun c hc => h c (List.mem_append_left _ hc)
      have hb := Term.eval_congr fun c hc => h c (List.mem_append_right _ hc)
      simp only [Cond.eval, ha, hb]
  | isNull a | isNotNull a => intro _; rfl
  | and p q ihp ihq | or p q ihp ihq =>
      intro h
      have hp := ihp fun c hc => h c (List.mem_append_left _ hc)
      have hq := ihq fun c hc => h c (List.mem_append_right _ hc)
      simp only [Cond.eval, hp, hq]
  | paren p ih => exact fun h => ih h

/-! ### Quoted literals -/

def quote : Char := Char.ofNat 39

def backslash : Char := Char.ofNat 92

theorem backslash_ne_quote : backslash ≠ quote := by decide

/-- What stands between an opening quote and the next unescaped one, and what comes
after it.  Escape sequences other than those of the backslash and the quote are not
read. -/
def readLiteral : List Char → Option (List Char × List Char)
  | [] => none
  | c :: rest =>
      if c = quote then some ([], rest)
      else if c = backslash then
        match rest with
        | [] => none
        | e :: rest' =>
            if e = backslash ∨ e = quote then
              (readLiteral rest').map fun (value, tail) => (e :: value, tail)
            else none
      else (readLiteral rest).map fun (value, tail) => (c :: value, tail)

theorem readLiteral_quote (rest : List Char) : readLiteral (quote :: rest) = some ([], rest) := by
  unfold readLiteral
  exact if_pos rfl

theorem readLiteral_escaped {e : Char} (he : e = backslash ∨ e = quote) {l value tail : List Char}
    (h : readLiteral l = some (value, tail)) :
    readLiteral (backslash :: e :: l) = some (e :: value, tail) := by
  unfold readLiteral
  rw [if_neg backslash_ne_quote, if_pos rfl]
  simp only [if_pos he, h, Option.map_some]

theorem readLiteral_plain {c : Char} (hb : c ≠ backslash) (hq : c ≠ quote)
    {l value tail : List Char} (h : readLiteral l = some (value, tail)) :
    readLiteral (c :: l) = some (c :: value, tail) := by
  unfold readLiteral
  rw [if_neg hq, if_neg hb, h, Option.map_some]

theorem readLiteral_length : ∀ {l value tail : List Char},
    readLiteral l = some (value, tail) → tail.length < l.length := by
  intro l
  induction h : l.length using Nat.strong_induction_on generalizing l with
  | _ n ih =>
      intro value tail hread
      cases l with
      | nil => exact absurd hread (by simp [readLiteral])
      | cons c rest =>
          rw [List.length_cons] at h
          unfold readLiteral at hread
          split at hread
          · obtain ⟨-, rfl⟩ := Prod.mk.inj (Option.some.inj hread)
            omega
          · split at hread
            · cases rest with
              | nil => exact absurd hread (by simp)
              | cons e rest' =>
                  rw [List.length_cons] at h
                  simp only at hread
                  split at hread
                  · obtain ⟨⟨v, t⟩, hrest, heq⟩ := Option.map_eq_some_iff.mp hread
                    obtain rfl : t = tail := congrArg Prod.snd heq
                    have hlt := ih rest'.length (by omega) rfl hrest
                    omega
                  · exact absurd hread (by simp)
            · obtain ⟨⟨v, t⟩, hrest, heq⟩ := Option.map_eq_some_iff.mp hread
              obtain rfl : t = tail := congrArg Prod.snd heq
              have hlt := ih rest.length (by omega) rfl hrest
              omega

/-- The literals of a text, one after the other. -/
def readLiterals : List Char → Option (List (List Char))
  | [] => some []
  | c :: rest =>
      if c = quote then
        match _h : readLiteral rest with
        | none => none
        | some (value, tail) => (readLiterals tail).map (value :: ·)
      else readLiterals rest
termination_by l => l.length
decreasing_by
  · have hlt := readLiteral_length _h
    rw [List.length_cons]
    omega
  · rw [List.length_cons]
    omega

theorem readLiterals_plain {l : List Char} (h : ∀ c ∈ l, c ≠ quote) (r : List Char) :
    readLiterals (l ++ r) = readLiterals r := by
  induction l with
  | nil => rfl
  | cons c cs ih =>
      rw [List.cons_append, readLiterals, if_neg (h c List.mem_cons_self)]
      exact ih fun x hx => h x (List.mem_cons_of_mem c hx)

theorem readLiterals_quote {l value tail : List Char} (h : readLiteral l = some (value, tail)) :
    readLiterals (quote :: l) = (readLiterals tail).map (value :: ·) := by
  rw [readLiterals, if_pos rfl]
  split
  · rename_i hnone
    rw [h] at hnone
    exact absurd hnone (by simp)
  · rename_i value' tail' hsome
    rw [h] at hsome
    obtain ⟨rfl, rfl⟩ := Prod.mk.inj (Option.some.inj hsome)
    rfl

/-! ### Text -/

section
variable (name : γ → String) (escape : String → String)

def Term.render : Term γ → String
  | .column c => name c
  | .text s => "'" ++ escape s ++ "'"
  | .num n => toString n
  | .position h n => "position(" ++ h.render ++ ", " ++ n.render ++ ")"

def Cond.render : Cond γ → String
  | .eq a b => a.render name escape ++ " = " ++ b.render name escape
  | .ne a b => a.render name escape ++ " != " ++ b.render name escape
  | .gt a b => a.render name escape ++ " > " ++ b.render name escape
  | .isNull a => a.render name escape ++ " IS NULL"
  | .isNotNull a => a.render name escape ++ " IS NOT NULL"
  | .regex s p => "match(" ++ s.render name escape ++ ", " ++ p.render name escape ++ ")"
  | .and p q => p.render ++ " AND " ++ q.render
  | .or p q => p.render ++ " OR " ++ q.render
  | .paren p => "(" ++ p.render ++ ")"

def Case.render (e : Case γ) : String :=
  "CASE\n    " ++
    "\n    ".intercalate (e.branches.map fun b =>
      "WHEN " ++ b.1.render name escape ++ " THEN " ++ b.2.render name escape) ++
    "\n    ELSE " ++ e.otherwise.render name escape ++ "\n  END"

end

end Veridian.Sql
