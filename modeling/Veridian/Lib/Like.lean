/-
LIKE patterns.

`%` stands for any text, `_` for one character, and a backslash in front of one of these, or
of itself, takes its meaning away; in front of anything else it is a backslash.

A text between two `%` finds itself, everywhere and nothing else, exactly when it has no `%`,
no `_` and no backslash that takes something with it.  What shows this is the shortest text
that a pattern matches: it is shorter than the pattern was written, unless all of it was
literal.
-/
import Mathlib.Data.List.Infix

namespace Veridian.Like

inductive Token where
  | any
  | one
  | lit (c : Char)
  deriving DecidableEq

def special (c : Char) : Bool := c = '%' || c = '_' || c = '\\'

def parse : List Char → List Token
  | [] => []
  | c :: rest =>
      if c = '%' then .any :: parse rest
      else if c = '_' then .one :: parse rest
      else if c = '\\' then
        match rest with
        | [] => [.lit '\\']
        | d :: more => if special d then .lit d :: parse more else .lit '\\' :: parse (d :: more)
      else .lit c :: parse rest

def accepts : List Token → List Char → Bool
  | [], s => s = []
  | .any :: p, s => s.tails.any (accepts p)
  | .one :: _, [] => false
  | .one :: p, _ :: s => accepts p s
  | .lit _ :: _, [] => false
  | .lit c :: p, d :: s => c = d && accepts p s

/-- `text LIKE pattern` -/
def like (text pattern : String) : Bool := accepts (parse pattern.toList) text.toList

/-- Nothing of the text is special. -/
def literal : List Char → Bool
  | [] => true
  | c :: rest =>
      c ≠ '%' && c ≠ '_' && (c ≠ '\\' || rest.head?.any (!special ·)) && literal rest

/-! ### What a pattern accepts -/

theorem accepts_any_iff {p : List Token} {s : List Char} :
    accepts (.any :: p) s = true ↔ ∃ r, r <:+ s ∧ accepts p r = true := by
  show s.tails.any (accepts p) = true ↔ _
  simp only [List.any_eq_true, List.mem_tails]

theorem accepts_nil_iff {s : List Char} : accepts [] s = true ↔ s = [] := by
  cases s <;> simp [accepts]

/-- Literals and anything behind them. -/
theorem accepts_literals_iff {v s : List Char} :
    accepts (v.map .lit ++ [.any]) s = true ↔ v <+: s := by
  induction v generalizing s with
  | nil =>
      refine iff_of_true (accepts_any_iff.mpr ⟨[], List.nil_suffix, rfl⟩) List.nil_prefix
  | cons c v ih =>
      cases s with
      | nil => simp [accepts]
      | cons d s =>
          show (decide (c = d) && accepts (v.map .lit ++ [.any]) s) = true ↔ _
          rw [Bool.and_eq_true, decide_eq_true_iff, ih, List.cons_prefix_cons]

theorem accepts_contains_iff {v s : List Char} :
    accepts (.any :: (v.map .lit ++ [.any])) s = true ↔ v <:+: s := by
  rw [accepts_any_iff, List.infix_iff_prefix_suffix]
  simp only [accepts_literals_iff]
  exact exists_congr fun r => and_comm

/-! ### Literal texts -/

theorem literal_cons_iff {c : Char} {rest : List Char} :
    literal (c :: rest) = true ↔ c ≠ '%' ∧ c ≠ '_' ∧
      (c = '\\' → ∃ d more, rest = d :: more ∧ special d = false) ∧ literal rest = true := by
  have hhead : rest.head?.any (!special ·) = true ↔
      ∃ d more, rest = d :: more ∧ special d = false := by
    cases rest with
    | nil => simp
    | cons d more => simp
  show (decide _ && decide _ && (decide _ || _) && literal rest) = true ↔ _
  rw [Bool.and_eq_true, Bool.and_eq_true, Bool.and_eq_true, Bool.or_eq_true, hhead]
  simp only [decide_eq_true_eq, and_assoc, ← imp_iff_not_or, ne_eq]

theorem parse_of_literal {v : List Char} (h : literal v = true) :
    parse (v ++ ['%']) = v.map .lit ++ [.any] := by
  induction v with
  | nil => rfl
  | cons c rest ih =>
      obtain ⟨hpercent, hunderscore, hescape, hrest⟩ := literal_cons_iff.mp h
      have hih := ih hrest
      show parse (c :: (rest ++ ['%'])) = _
      unfold parse
      rw [if_neg hpercent, if_neg hunderscore]
      by_cases hc : c = '\\'
      · obtain ⟨d, more, rfl, hd⟩ := hescape hc
        rw [if_pos hc, hc]
        show (if special d then _ else .lit '\\' :: parse (d :: more ++ ['%'])) = _
        rw [hd, if_neg Bool.false_ne_true, hih]
        rfl
      · rw [if_neg hc, hih]
        rfl

/-- The shortest texts that a pattern matches, with one character for every `_`. -/
def shortest (x : Char) : List Token → List Char
  | [] => []
  | .any :: p => shortest x p
  | .one :: p => x :: shortest x p
  | .lit c :: p => c :: shortest x p

theorem accepts_shortest (x : Char) (p : List Token) : accepts p (shortest x p) = true := by
  induction p with
  | nil => rfl
  | cons t p ih =>
      cases t with
      | any => exact accepts_any_iff.mpr ⟨_, List.suffix_rfl, ih⟩
      | one => exact ih
      | lit c =>
          show (decide (c = c) && accepts p (shortest x p)) = true
          rw [decide_eq_true rfl, ih]
          rfl

/-- It has one character at most for every one of the pattern. -/
theorem length_shortest_le (x : Char) (v : List Char) :
    (shortest x (parse (v ++ ['%']))).length ≤ v.length := by
  induction h : v.length using Nat.strong_induction_on generalizing v with
  | _ n ih =>
      cases v with
      | nil =>
          subst h
          exact Nat.le_refl _
      | cons c rest =>
          have hrest := ih rest.length (by simp [← h]) rest rfl
          have hn : n = rest.length + 1 := h.symm
          show (shortest x (parse (c :: (rest ++ ['%'])))).length ≤ n
          unfold parse
          split
          · exact hrest.trans (by omega)
          · split
            · show (shortest x (parse (rest ++ ['%']))).length + 1 ≤ n
              omega
            · split
              · cases rest with
                | nil =>
                    subst h
                    exact Nat.le_refl _
                | cons d more =>
                    have hmore := ih more.length (by rw [← h, List.length_cons, List.length_cons]; omega) more rfl
                    have hlength : (d :: more).length = more.length + 1 := rfl
                    show (shortest x (if special d then .lit d :: parse (more ++ ['%'])
                      else .lit '\\' :: parse (d :: more ++ ['%']))).length ≤ n
                    split
                    · show (shortest x (parse (more ++ ['%']))).length + 1 ≤ n
                      omega
                    · show (shortest x (parse (d :: more ++ ['%']))).length + 1 ≤ n
                      omega
              · show (shortest x (parse (rest ++ ['%']))).length + 1 ≤ n
                omega

/-- A text that is the shortest of its own pattern is literal. -/
theorem literal_of_shortest {x : Char} (hx : x ≠ '_') {v : List Char}
    (h : shortest x (parse (v ++ ['%'])) = v) : literal v = true := by
  induction v with
  | nil => rfl
  | cons c rest ih =>
      have hle := length_shortest_le x rest
      change shortest x (parse (c :: (rest ++ ['%']))) = c :: rest at h
      unfold parse at h
      split at h
      · have hlength := congrArg List.length h
        simp only [shortest, List.length_cons] at hlength
        omega
      · rename_i hpercent
        split at h
        · rename_i hunderscore
          exact absurd ((List.cons.inj h).1.trans hunderscore) hx
        · rename_i hunderscore
          split at h
          · rename_i hc
            cases rest with
            | nil =>
                have heq : '%' = c := (List.cons.inj h).1
                exact absurd heq.symm hpercent
            | cons d more =>
                change shortest x (if special d then .lit d :: parse (more ++ ['%'])
                  else .lit '\\' :: parse (d :: more ++ ['%'])) = c :: d :: more at h
                split at h
                · have hmore := length_shortest_le x more
                  have hlength := congrArg List.length h
                  simp only [shortest, List.length_cons] at hlength
                  omega
                · rename_i hd
                  have hrest := ih (List.cons.inj h).2
                  exact literal_cons_iff.mpr ⟨hpercent, hunderscore,
                    fun _ => ⟨d, more, rfl, by simpa using hd⟩, hrest⟩
          · rename_i hc
            have hrest := ih (List.cons.inj h).2
            exact literal_cons_iff.mpr ⟨hpercent, hunderscore, fun heq => absurd heq hc, hrest⟩

/-! ### Texts between two `%` -/

theorem parse_around (v : List Char) : parse ('%' :: (v ++ ['%'])) = .any :: parse (v ++ ['%']) := by
  conv_lhs => unfold parse
  rw [if_pos rfl]

theorem accepts_around_of_literal {v s : List Char} (h : literal v = true) :
    accepts (parse ('%' :: (v ++ ['%']))) s = true ↔ v <:+: s := by
  rw [parse_around, parse_of_literal h, accepts_contains_iff]

/-- **Literal texts are those that find themselves.** -/
theorem accepts_around_iff {v : List Char} :
    (∀ s, accepts (parse ('%' :: (v ++ ['%']))) s = true ↔ v <:+: s) ↔ literal v = true := by
  constructor
  · intro h
    have haccepts : accepts (parse ('%' :: (v ++ ['%'])))
        (shortest 'x' (parse (v ++ ['%']))) = true := by
      rw [parse_around]
      exact accepts_any_iff.mpr ⟨_, List.suffix_rfl, accepts_shortest _ _⟩
    have hinfix := (h _).mp haccepts
    have hlength := length_shortest_le 'x' v
    have heq := hinfix.eq_of_length_le hlength
    exact literal_of_shortest (by decide) heq.symm
  · exact fun h s => accepts_around_of_literal h

end Veridian.Like
