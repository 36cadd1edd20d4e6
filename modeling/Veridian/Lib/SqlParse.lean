/-
Reading the text of a condition.

`parse` is the other way round from `Cond.render`: a lexer that cuts the text into tokens
and decodes its literals, and a parser by recursive descent, where OR binds weaker than
AND and both weaker than a comparison.  It reads one condition and leaves nothing over.

What `render` writes is read back as the same condition (`parse_render`) when every
parenthesis the syntax needs is in the condition itself (`Cond.isExplicit`).  How columns
are spelled and literals escaped is a parameter, with what the reading relies on.
-/
import Mathlib.Data.List.TakeWhile
import Veridian.Lib.Sql

namespace Veridian.Sql

/-! ### Tokens -/

inductive Token where
  | word (w : String)
  | literal (s : String)
  | leftParen | rightParen | comma | eq | ne | gt
  deriving DecidableEq, Repr

/-- A character of a column, a keyword or a numeral. -/
def isNameChar (c : Char) : Bool := c.isAlphanum || c == '_'

/-- What can stand behind a word or a literal without becoming part of it: a quote right
behind a literal would double its last one. -/
def Separated (l : List Char) : Prop := ∀ c ∈ l.head?, isNameChar c = false ∧ c ≠ quote

/-- A token that is neither a word nor a literal. -/
def readSymbol : List Char → Option (Token × List Char)
  | '(' :: rest => some (.leftParen, rest)
  | ')' :: rest => some (.rightParen, rest)
  | ',' :: rest => some (.comma, rest)
  | '=' :: rest => some (.eq, rest)
  | '>' :: rest => some (.gt, rest)
  | '!' :: '=' :: rest => some (.ne, rest)
  | _ => none

theorem readSymbol_length {l tail : List Char} {t : Token} (h : readSymbol l = some (t, tail)) :
    tail.length < l.length := by
  unfold readSymbol at h
  split at h <;> simp only [Option.some.injEq, Prod.mk.injEq, reduceCtorEq] at h <;>
    obtain ⟨-, rfl⟩ := h <;> simp only [List.length_cons] <;> omega

def tokens : List Char → Option (List Token)
  | [] => some []
  | c :: rest =>
      if c = ' ' then tokens rest
      else if isNameChar c then
        (tokens (rest.dropWhile isNameChar)).map
          (.word (String.ofList (c :: rest.takeWhile isNameChar)) :: ·)
      else if c = quote then
        match _h : readLiteral rest with
        | none => none
        | some (value, tail) =>
            if tail.head? = some quote then none
            else (tokens tail).map (.literal (String.ofList value) :: ·)
      else
        match _h : readSymbol (c :: rest) with
        | none => none
        | some (symbol, tail) => (tokens tail).map (symbol :: ·)
termination_by l => l.length
decreasing_by
  · simp
  · have hle := (List.dropWhile_sublist isNameChar (l := rest)).length_le
    rw [List.length_cons]
    omega
  · have hlt := readLiteral_length _h
    rw [List.length_cons]
    omega
  · exact readSymbol_length _h

theorem tokens_nil : tokens [] = some [] := by rw [tokens]

theorem tokens_space (r : List Char) : tokens (' ' :: r) = tokens r := by
  rw [tokens, if_pos rfl]

theorem tokens_word {w : List Char} (hne : w ≠ []) (hw : ∀ c ∈ w, isNameChar c = true)
    {r : List Char} (hr : Separated r) :
    tokens (w ++ r) = (tokens r).map (.word (String.ofList w) :: ·) := by
  cases w with
  | nil => exact absurd rfl hne
  | cons c cs =>
      have hc := hw c List.mem_cons_self
      have hspace : c ≠ ' ' := by
        rintro rfl
        exact absurd hc (by decide)
      have hcs : ∀ x ∈ cs, isNameChar x = true := fun x hx => hw x (List.mem_cons_of_mem c hx)
      have hstop : r.takeWhile isNameChar = [] ∧ r.dropWhile isNameChar = r := by
        cases r with
        | nil => exact ⟨rfl, rfl⟩
        | cons x xs =>
            have hx : isNameChar x = false := (hr x rfl).1
            simp [hx]
      rw [List.cons_append, tokens, if_neg hspace, if_pos hc,
        List.takeWhile_append_of_pos hcs, List.dropWhile_append_of_pos hcs, hstop.1, hstop.2,
        List.append_nil]

theorem tokens_literal {l value r : List Char} (h : readLiteral l = some (value, r))
    (hr : Separated r) :
    tokens (quote :: l) = (tokens r).map (.literal (String.ofList value) :: ·) := by
  have hspace : quote ≠ ' ' := by decide
  have hname : ¬isNameChar quote = true := by decide
  have hend : r.head? ≠ some quote := fun hc => (hr quote hc).2 rfl
  rw [tokens, if_neg hspace, if_neg hname, if_pos rfl]
  split
  · rename_i hnone
    rw [h] at hnone
    exact absurd hnone (by simp)
  · rename_i value' tail hsome
    rw [h] at hsome
    obtain ⟨rfl, rfl⟩ := Prod.mk.inj (Option.some.inj hsome)
    rw [if_neg hend]

theorem tokens_symbol {c : Char} {l r : List Char} {t : Token}
    (h : readSymbol (c :: l) = some (t, r)) (hc : c ≠ ' ' ∧ isNameChar c = false ∧ c ≠ quote) :
    tokens (c :: l) = (tokens r).map (t :: ·) := by
  have hname : ¬isNameChar c = true := by simp [hc.2.1]
  rw [tokens, if_neg hc.1, if_neg hname, if_neg hc.2.2]
  split
  · rename_i hnone
    rw [h] at hnone
    exact absurd hnone (by simp)
  · rename_i t' r' hsome
    rw [h] at hsome
    obtain ⟨rfl, rfl⟩ := Prod.mk.inj (Option.some.inj hsome)
    rfl

/-! ### Numerals -/

def numeral? (w : String) : Option Nat :=
  if w.toList.all Char.isDigit then some (Nat.ofDigitChars 10 w.toList 0) else none

theorem numeral?_toString (n : Nat) : numeral? (toString n) = some n := by
  have hall : (toString n).toList.all Char.isDigit = true :=
    List.all_eq_true.mpr fun c hc => Text.isDigit_of_mem_toString hc
  rw [numeral?, if_pos hall, Text.toList_toString, Nat.ofDigitChars_ten_toDigits]

/-! ### The parser -/

/-- The words of the syntax, which are no column. -/
def reserved : List String := ["AND", "OR", "IS", "NOT", "NULL", "position", "match"]

/-- How columns are spelled and literals are escaped, so that both are read back. -/
structure Spelling (γ : Type) where
  name : γ → String
  column? : String → Option γ
  escape : String → String
  name_ne_nil : ∀ c, (name c).toList ≠ []
  isNameChar_of_mem : ∀ c, ∀ x ∈ (name c).toList, isNameChar x = true
  name_not_reserved : ∀ c, name c ∉ reserved
  numeral?_name : ∀ c, numeral? (name c) = none
  column?_name : ∀ c, column? (name c) = some c
  readLiteral_escape : ∀ value rest,
    readLiteral ((escape value).toList ++ quote :: rest) = some (value.toList, rest)

def expect (t : Token) : List Token → Option (List Token)
  | [] => none
  | t' :: rest => if t' = t then some rest else none

@[simp] theorem expect_self (t : Token) (rest : List Token) : expect t (t :: rest) = some rest :=
  if_pos rfl

theorem expect_of_ne {t t' : Token} (h : t' ≠ t) (rest : List Token) :
    expect t (t' :: rest) = none :=
  if_neg h

section Parser
variable {γ : Type} (sp : Spelling γ)

/-- A numeral, else a column. -/
def parseWord (w : String) : Option (Term γ) :=
  match numeral? w with
  | some n => some (.num n)
  | none => (sp.column? w).map .column

def parseTerm : Nat → List Token → Option (Term γ × List Token)
  | 0, _ => none
  | fuel + 1, .word w :: rest =>
      if w = "position" then do
        let rest ← expect .leftParen rest
        let (haystack, rest) ← parseTerm fuel rest
        let rest ← expect .comma rest
        let (needle, rest) ← parseTerm fuel rest
        let rest ← expect .rightParen rest
        return (.position haystack needle, rest)
      else (parseWord sp w).map fun t => (t, rest)
  | _ + 1, .literal s :: rest => some (.text s, rest)
  | _ + 1, _ => none

/-- What stands behind the first term of a comparison. -/
def parseComparison (fuel : Nat) (a : Term γ) : List Token → Option (Cond γ × List Token)
  | .eq :: rest => (parseTerm sp fuel rest).map fun b => (.eq a b.1, b.2)
  | .ne :: rest => (parseTerm sp fuel rest).map fun b => (.ne a b.1, b.2)
  | .gt :: rest => (parseTerm sp fuel rest).map fun b => (.gt a b.1, b.2)
  | .word "IS" :: .word "NULL" :: rest => some (.isNull a, rest)
  | .word "IS" :: .word "NOT" :: .word "NULL" :: rest => some (.isNotNull a, rest)
  | _ => none

/-- What stands behind `match`. -/
def parseMatch (fuel : Nat) (ts : List Token) : Option (Cond γ × List Token) := do
  let rest ← expect .leftParen ts
  let (subject, rest) ← parseTerm sp fuel rest
  let rest ← expect .comma rest
  let (pattern, rest) ← parseTerm sp fuel rest
  let rest ← expect .rightParen rest
  return (.regex subject pattern, rest)

mutual

/-- Conditions joined by OR. -/
def parseOr : Nat → List Token → Option (Cond γ × List Token)
  | 0, _ => none
  | fuel + 1, ts =>
      match parseAnd fuel ts with
      | none => none
      | some (p, rest) =>
          match expect (.word "OR") rest with
          | none => some (p, rest)
          | some rest => (parseOr fuel rest).map fun q => (.or p q.1, q.2)

/-- Conditions joined by AND. -/
def parseAnd : Nat → List Token → Option (Cond γ × List Token)
  | 0, _ => none
  | fuel + 1, ts =>
      match parseFactor fuel ts with
      | none => none
      | some (p, rest) =>
          match expect (.word "AND") rest with
          | none => some (p, rest)
          | some rest => (parseAnd fuel rest).map fun q => (.and p q.1, q.2)

/-- A parenthesis, a `match` or a comparison. -/
def parseFactor : Nat → List Token → Option (Cond γ × List Token)
  | 0, _ => none
  | fuel + 1, .leftParen :: rest =>
      match parseOr fuel rest with
      | none => none
      | some (p, rest) => (expect .rightParen rest).map fun rest => (.paren p, rest)
  | fuel + 1, .word "match" :: rest => parseMatch sp fuel rest
  | fuel + 1, ts =>
      match parseTerm sp fuel ts with
      | none => none
      | some (a, rest) => parseComparison sp fuel a rest

end

/-- One condition, and nothing behind it. -/
def parse (text : String) : Option (Cond γ) :=
  match tokens text.toList with
  | none => none
  | some ts =>
      match parseOr sp (3 * ts.length) ts with
      | some (p, []) => some p
      | _ => none

end Parser

/-! ### The tokens of what is rendered -/

section Tokens
variable {γ : Type} (sp : Spelling γ)

def Term.tokens : Term γ → List Token
  | .column c => [.word (sp.name c)]
  | .text s => [.literal s]
  | .num n => [.word (toString n)]
  | .position h n =>
      .word "position" :: .leftParen :: (h.tokens ++ .comma :: (n.tokens ++ [.rightParen]))

def Cond.tokens : Cond γ → List Token
  | .eq a b => a.tokens sp ++ .eq :: b.tokens sp
  | .ne a b => a.tokens sp ++ .ne :: b.tokens sp
  | .gt a b => a.tokens sp ++ .gt :: b.tokens sp
  | .isNull a => a.tokens sp ++ [.word "IS", .word "NULL"]
  | .isNotNull a => a.tokens sp ++ [.word "IS", .word "NOT", .word "NULL"]
  | .regex s p =>
      .word "match" :: .leftParen :: (s.tokens sp ++ .comma :: (p.tokens sp ++ [.rightParen]))
  | .and p q => p.tokens ++ .word "AND" :: q.tokens
  | .or p q => p.tokens ++ .word "OR" :: q.tokens
  | .paren p => .leftParen :: (p.tokens ++ [.rightParen])

end Tokens

/-- `s` is cut into `ts` when what stands behind it keeps its distance. -/
def Lexes (s : String) (ts : List Token) : Prop :=
  ∀ r, Separated r → tokens (s.toList ++ r) = (tokens r).map (ts ++ ·)

/-- The same, whatever stands behind it. -/
def LexesAlways (s : String) (ts : List Token) : Prop :=
  ∀ r, tokens (s.toList ++ r) = (tokens r).map (ts ++ ·)

/-- `s` keeps its distance to what stands before it. -/
def KeepsApart (s : String) : Prop := ∀ r, Separated (s.toList ++ r)

theorem LexesAlways.append {s t : String} {ts us : List Token} (hs : LexesAlways s ts)
    (ht : Lexes t us) : Lexes (s ++ t) (ts ++ us) := by
  intro r hr
  rw [String.toList_append, List.append_assoc, hs, ht r hr, Option.map_map]
  exact congrArg (fun f => (tokens r).map f) (funext fun l => (List.append_assoc ts us l).symm)

theorem Lexes.append {s t : String} {ts us : List Token} (hs : Lexes s ts) (ht : Lexes t us)
    (hapart : KeepsApart t) : Lexes (s ++ t) (ts ++ us) := by
  intro r hr
  rw [String.toList_append, List.append_assoc, hs _ (hapart r), ht r hr, Option.map_map]
  exact congrArg (fun f => (tokens r).map f) (funext fun l => (List.append_assoc ts us l).symm)

theorem LexesAlways.lexes {s : String} {ts : List Token} (h : LexesAlways s ts) : Lexes s ts :=
  fun r _ => h r

theorem KeepsApart.append {s : String} (h : KeepsApart s) (t : String) :
    KeepsApart (s ++ t) := by
  intro r
  rw [String.toList_append, List.append_assoc]
  exact h _

/-- Two texts with a separator between them. -/
theorem Lexes.between {s t sep : String} {ts us : List Token} {token : Token} (hs : Lexes s ts)
    (hsep : LexesAlways sep [token]) (hapart : KeepsApart sep) (ht : Lexes t us) :
    Lexes (s ++ sep ++ t) (ts ++ token :: us) := by
  have hall := hs.append (hsep.append ht) (hapart.append t)
  rwa [← String.append_assoc] at hall

/-! ### The separators of the syntax -/

theorem separated_cons {c : Char} (h : isNameChar c = false ∧ c ≠ quote) (r : List Char) :
    Separated (c :: r) := by
  intro x hx
  obtain rfl : c = x := by simpa using hx
  exact h

theorem keepsApart_of_head {s : String} {c : Char} {l : List Char} (hs : s.toList = c :: l)
    (h : isNameChar c = false ∧ c ≠ quote) : KeepsApart s := by
  intro r
  rw [hs]
  exact separated_cons h (l ++ r)

/-- A symbol between two spaces. -/
theorem lexesAlways_spaced {s : String} {c : Char} {l : List Char} {t : Token}
    (hs : s.toList = ' ' :: c :: (l ++ [' ']))
    (hc : c ≠ ' ' ∧ isNameChar c = false ∧ c ≠ quote)
    (hread : ∀ r, readSymbol (c :: (l ++ r)) = some (t, r)) : LexesAlways s [t] := by
  intro r
  have hlist : s.toList ++ r = ' ' :: c :: (l ++ ' ' :: r) := by simp [hs]
  rw [hlist, tokens_space, tokens_symbol (hread (' ' :: r)) hc, tokens_space]
  rfl

/-- A word between two spaces. -/
theorem lexesAlways_keyword {s w : String} (hs : s.toList = ' ' :: (w.toList ++ [' ']))
    (hne : w.toList ≠ []) (hw : w.toList.all isNameChar = true) : LexesAlways s [.word w] := by
  intro r
  have hlist : s.toList ++ r = ' ' :: (w.toList ++ ' ' :: r) := by simp [hs]
  have hspace : Separated (' ' :: r) := separated_cons (by decide) r
  rw [hlist, tokens_space, tokens_word hne (List.all_eq_true.mp hw) hspace, tokens_space,
    String.ofList_toList]
  rfl

/-- A word behind a space. -/
theorem lexes_word {s w : String} (hs : s.toList = ' ' :: w.toList) (hne : w.toList ≠ [])
    (hw : w.toList.all isNameChar = true) : Lexes s [.word w] := by
  intro r hr
  rw [hs, List.cons_append, tokens_space, tokens_word hne (List.all_eq_true.mp hw) hr,
    String.ofList_toList]
  rfl

/-- The name of a function and the parenthesis of its arguments. -/
theorem lexesAlways_call {s w : String} (hs : s.toList = w.toList ++ ['(']) (hne : w.toList ≠ [])
    (hw : w.toList.all isNameChar = true) : LexesAlways s [.word w, .leftParen] := by
  intro r
  have hlist : s.toList ++ r = w.toList ++ '(' :: r := by simp [hs]
  have hparen : Separated ('(' :: r) := separated_cons (by decide) r
  have hread : readSymbol ('(' :: r) = some (.leftParen, r) := rfl
  rw [hlist, tokens_word hne (List.all_eq_true.mp hw) hparen, tokens_symbol hread (by decide),
    Option.map_map, String.ofList_toList]
  rfl

theorem lexesAlways_leftParen : LexesAlways "(" [.leftParen] :=
  fun _ => tokens_symbol rfl (by decide)

theorem lexesAlways_rightParen : LexesAlways ")" [.rightParen] :=
  fun _ => tokens_symbol rfl (by decide)

theorem lexesAlways_comma : LexesAlways ", " [.comma] := by
  intro r
  have hread : readSymbol (',' :: ' ' :: r) = some (.comma, ' ' :: r) := rfl
  have hcomma := tokens_symbol hread (by decide)
  rw [tokens_space] at hcomma
  exact hcomma

/-- Two texts as the arguments of a function. -/
theorem LexesAlways.call {f s t : String} {ts us : List Token} {w : String}
    (hf : LexesAlways f [.word w, .leftParen]) (hs : Lexes s ts) (ht : Lexes t us) :
    Lexes (f ++ s ++ ", " ++ t ++ ")")
      (.word w :: .leftParen :: (ts ++ .comma :: (us ++ [.rightParen]))) := by
  have hcomma : KeepsApart ", " := keepsApart_of_head rfl (by decide)
  have hparen : KeepsApart ")" := keepsApart_of_head rfl (by decide)
  have hlast := ht.append lexesAlways_rightParen.lexes hparen
  have hargs := hf.append (hs.between lexesAlways_comma hcomma hlast)
  simpa [String.append_assoc] using hargs

/-! ### What is rendered is cut into its tokens -/

section
variable {γ : Type} (sp : Spelling γ)

theorem Term.lexes (t : Term γ) : Lexes (t.render sp.name sp.escape) (t.tokens sp) := by
  induction t with
  | column c =>
      intro r hr
      have hword := tokens_word (sp.name_ne_nil c) (sp.isNameChar_of_mem c) hr
      rw [String.ofList_toList] at hword
      exact hword
  | text s =>
      intro r hr
      have hliteral := tokens_literal (sp.readLiteral_escape s r) hr
      rw [String.ofList_toList] at hliteral
      refine Eq.trans (congrArg Sql.tokens ?_) hliteral
      rw [Term.render, String.toList_append, String.toList_append, List.append_assoc,
        List.append_assoc]
      rfl
  | num n =>
      intro r hr
      have hne : (toString n).toList ≠ [] := by
        rw [Text.toList_toString]
        exact Nat.toDigits_ne_nil
      have hname : ∀ c ∈ (toString n).toList, isNameChar c = true := by
        intro c hc
        have hdigit := Text.isDigit_of_mem_toString hc
        simp [isNameChar, Char.isAlphanum, hdigit]
      have hword := tokens_word hne hname hr
      rw [String.ofList_toList] at hword
      exact hword
  | position h n ihh ihn =>
      have hopen : LexesAlways "position(" [.word "position", .leftParen] :=
        lexesAlways_call rfl (by decide) (by decide)
      exact hopen.call ihh ihn

theorem Cond.lexes (p : Cond γ) : Lexes (p.render sp.name sp.escape) (p.tokens sp) := by
  have hspace : isNameChar ' ' = false ∧ ' ' ≠ quote := by decide
  induction p with
  | eq a b =>
      have heq : LexesAlways " = " [.eq] :=
        lexesAlways_spaced (l := []) rfl (by decide) fun _ => rfl
      exact (a.lexes sp).between heq (keepsApart_of_head rfl hspace) (b.lexes sp)
  | ne a b =>
      have hne : LexesAlways " != " [.ne] :=
        lexesAlways_spaced (l := ['=']) rfl (by decide) fun _ => rfl
      exact (a.lexes sp).between hne (keepsApart_of_head rfl hspace) (b.lexes sp)
  | gt a b =>
      have hgt : LexesAlways " > " [.gt] :=
        lexesAlways_spaced (l := []) rfl (by decide) fun _ => rfl
      exact (a.lexes sp).between hgt (keepsApart_of_head rfl hspace) (b.lexes sp)
  | isNull a =>
      have his : Lexes " IS" [.word "IS"] := lexes_word rfl (by decide) (by decide)
      have hnull : Lexes " NULL" [.word "NULL"] := lexes_word rfl (by decide) (by decide)
      have hboth : Lexes " IS NULL" [.word "IS", .word "NULL"] :=
        his.append hnull (keepsApart_of_head rfl hspace)
      exact (a.lexes sp).append hboth (keepsApart_of_head rfl hspace)
  | isNotNull a =>
      have his : Lexes " IS" [.word "IS"] := lexes_word rfl (by decide) (by decide)
      have hnot : Lexes " NOT" [.word "NOT"] := lexes_word rfl (by decide) (by decide)
      have hnull : Lexes " NULL" [.word "NULL"] := lexes_word rfl (by decide) (by decide)
      have hall : Lexes " IS NOT NULL" [.word "IS", .word "NOT", .word "NULL"] :=
        (his.append hnot (keepsApart_of_head rfl hspace)).append hnull
          (keepsApart_of_head rfl hspace)
      exact (a.lexes sp).append hall (keepsApart_of_head rfl hspace)
  | regex s p =>
      have hopen : LexesAlways "match(" [.word "match", .leftParen] :=
        lexesAlways_call rfl (by decide) (by decide)
      exact hopen.call (s.lexes sp) (p.lexes sp)
  | and p q ihp ihq =>
      have hand : LexesAlways " AND " [.word "AND"] :=
        lexesAlways_keyword rfl (by decide) (by decide)
      exact ihp.between hand (keepsApart_of_head rfl hspace) ihq
  | or p q ihp ihq =>
      have hor : LexesAlways " OR " [.word "OR"] :=
        lexesAlways_keyword rfl (by decide) (by decide)
      exact ihp.between hor (keepsApart_of_head rfl hspace) ihq
  | paren p ih =>
      have hclose : KeepsApart ")" := keepsApart_of_head rfl (by decide)
      have hlast := ih.append lexesAlways_rightParen.lexes hclose
      have hall := lexesAlways_leftParen.append hlast
      rwa [← String.append_assoc] at hall

theorem tokens_render (p : Cond γ) :
    tokens (p.render sp.name sp.escape).toList = some (p.tokens sp) := by
  have hnil : Separated [] := fun c hc => absurd hc (by simp)
  have hall := p.lexes sp [] hnil
  rwa [List.append_nil, tokens_nil, Option.map_some, List.append_nil] at hall

/-! ### Reading them back -/

theorem parseWord_name (c : γ) : parseWord sp (sp.name c) = some (.column c) := by
  rw [parseWord, sp.numeral?_name, sp.column?_name, Option.map_some]

theorem parseWord_numeral (n : Nat) : parseWord sp (toString n) = some (.num n) := by
  rw [parseWord, numeral?_toString]

theorem name_ne {c : γ} {w : String} (h : w ∈ reserved) : sp.name c ≠ w := by
  rintro rfl
  exact sp.name_not_reserved c h

theorem numeral_ne {n : Nat} {w : String} (h : w.toList.all Char.isDigit = false) :
    toString n ≠ w := by
  rintro rfl
  have hall : (toString n).toList.all Char.isDigit = true :=
    List.all_eq_true.mpr fun c hc => Text.isDigit_of_mem_toString hc
  rw [hall] at h
  exact Bool.noConfusion h

theorem parseTerm_word {w : String} {t : Term γ} (hw : w ≠ "position")
    (h : parseWord sp w = some t) (fuel : Nat) (rest : List Token) :
    parseTerm sp (fuel + 1) (.word w :: rest) = some (t, rest) := by
  rw [parseTerm, if_neg hw, h, Option.map_some]

theorem parseTerm_tokens (t : Term γ) :
    ∀ (fuel : Nat) (rest : List Token), (t.tokens sp).length ≤ fuel →
      parseTerm sp fuel (t.tokens sp ++ rest) = some (t, rest) := by
  induction t with
  | column c =>
      intro fuel rest hfuel
      obtain ⟨fuel, rfl⟩ := Nat.exists_eq_succ_of_ne_zero (Nat.one_le_iff_ne_zero.mp hfuel)
      exact parseTerm_word sp (name_ne sp (by decide)) (parseWord_name sp c) fuel rest
  | text s =>
      intro fuel rest hfuel
      obtain ⟨fuel, rfl⟩ := Nat.exists_eq_succ_of_ne_zero (Nat.one_le_iff_ne_zero.mp hfuel)
      rfl
  | num n =>
      intro fuel rest hfuel
      obtain ⟨fuel, rfl⟩ := Nat.exists_eq_succ_of_ne_zero (Nat.one_le_iff_ne_zero.mp hfuel)
      exact parseTerm_word sp (numeral_ne (by decide)) (parseWord_numeral sp n) fuel rest
  | position h n ihh ihn =>
      intro fuel rest hfuel
      have hlength : (h.tokens sp).length + (n.tokens sp).length + 4 ≤ fuel := by
        simp only [Term.tokens, List.length_cons, List.length_append, List.length_nil] at hfuel
        omega
      obtain ⟨fuel, rfl⟩ := Nat.exists_eq_succ_of_ne_zero (n := fuel) (by omega)
      have hh := ihh fuel (.comma :: (n.tokens sp ++ .rightParen :: rest)) (by omega)
      have hn := ihn fuel (.rightParen :: rest) (by omega)
      simp [Term.tokens, parseTerm, hh, hn]

/-- A parenthesis for everything the binding strength of AND and OR does not give: a
comparison counts 0, AND 1 and OR 2, and the chains of AND and OR hang to the right. -/
def Cond.strength : Cond γ → Nat
  | .and _ _ => 1
  | .or _ _ => 2
  | _ => 0

def Cond.isExplicit : Cond γ → Bool
  | .and p q => p.strength == 0 && decide (q.strength ≤ 1) && p.isExplicit && q.isExplicit
  | .or p q => decide (p.strength ≤ 1) && p.isExplicit && q.isExplicit
  | .paren p => p.isExplicit
  | _ => true

/-- The condition is read back on each level that is not stronger than its own. -/
structure Cond.ReadBack (p : Cond γ) : Prop where
  factor : p.strength = 0 → ∀ (fuel : Nat) (rest : List Token),
    3 * (p.tokens sp).length ≤ fuel + 2 → parseFactor sp fuel (p.tokens sp ++ rest) = some (p, rest)
  conjunction : p.strength ≤ 1 → ∀ (fuel : Nat) (rest : List Token),
    expect (.word "AND") rest = none → 3 * (p.tokens sp).length ≤ fuel + 1 →
      parseAnd sp fuel (p.tokens sp ++ rest) = some (p, rest)
  disjunction : ∀ (fuel : Nat) (rest : List Token), expect (.word "AND") rest = none →
    expect (.word "OR") rest = none → 3 * (p.tokens sp).length ≤ fuel →
      parseOr sp fuel (p.tokens sp ++ rest) = some (p, rest)

theorem Term.length_tokens_pos (t : Term γ) : 0 < (t.tokens sp).length := by
  cases t <;> simp [Term.tokens]

theorem Cond.length_tokens_pos (p : Cond γ) : 0 < (p.tokens sp).length := by
  cases p <;> simp only [Cond.tokens, List.length_append, List.length_cons] <;> omega

theorem parseAnd_of_parseFactor {fuel : Nat} {ts rest : List Token} {p : Cond γ}
    (h : parseFactor sp fuel ts = some (p, rest)) (hnot : expect (.word "AND") rest = none) :
    parseAnd sp (fuel + 1) ts = some (p, rest) := by
  simp only [parseAnd, h, hnot]

theorem parseOr_of_parseAnd {fuel : Nat} {ts rest : List Token} {p : Cond γ}
    (h : parseAnd sp fuel ts = some (p, rest)) (hnot : expect (.word "OR") rest = none) :
    parseOr sp (fuel + 1) ts = some (p, rest) := by
  simp only [parseOr, h, hnot]

theorem Cond.ReadBack.of_conjunction {p : Cond γ} (hstrength : p.strength ≠ 0)
    (hand : ∀ (fuel : Nat) (rest : List Token), expect (.word "AND") rest = none →
      3 * (p.tokens sp).length ≤ fuel + 1 → parseAnd sp fuel (p.tokens sp ++ rest) = some (p, rest)) :
    p.ReadBack sp where
  factor h := absurd h hstrength
  conjunction _ := hand
  disjunction fuel rest hnotAnd hnotOr hfuel := by
    have hpos := p.length_tokens_pos sp
    obtain ⟨fuel, rfl⟩ := Nat.exists_eq_succ_of_ne_zero (n := fuel) (by omega)
    exact parseOr_of_parseAnd sp (hand fuel rest hnotAnd (by omega)) hnotOr

theorem Cond.ReadBack.of_factor {p : Cond γ}
    (hfactor : ∀ (fuel : Nat) (rest : List Token), 3 * (p.tokens sp).length ≤ fuel + 2 →
      parseFactor sp fuel (p.tokens sp ++ rest) = some (p, rest)) : p.ReadBack sp := by
  have hpos := p.length_tokens_pos sp
  have hand : ∀ (fuel : Nat) (rest : List Token), expect (.word "AND") rest = none →
      3 * (p.tokens sp).length ≤ fuel + 1 →
      parseAnd sp fuel (p.tokens sp ++ rest) = some (p, rest) := by
    intro fuel rest hnotAnd hfuel
    obtain ⟨fuel, rfl⟩ := Nat.exists_eq_succ_of_ne_zero (n := fuel) (by omega)
    exact parseAnd_of_parseFactor sp (hfactor fuel rest (by omega)) hnotAnd
  refine ⟨fun _ => hfactor, fun _ => hand, ?_⟩
  intro fuel rest hnotAnd hnotOr hfuel
  obtain ⟨fuel, rfl⟩ := Nat.exists_eq_succ_of_ne_zero (n := fuel) (by omega)
  exact parseOr_of_parseAnd sp (hand fuel rest hnotAnd (by omega)) hnotOr

theorem parseFactor_of_parseTerm {t : Token} (hparen : t ≠ .leftParen) (hmatch : t ≠ .word "match")
    {fuel : Nat} {ts rest : List Token} {a : Term γ}
    (h : parseTerm sp fuel (t :: ts) = some (a, rest)) :
    parseFactor sp (fuel + 1) (t :: ts) = parseComparison sp fuel a rest := by
  rw [parseFactor]
  · rw [h]
  · intro r hc
    exact hparen (List.cons.inj hc).1
  · intro r hc
    exact hmatch (List.cons.inj hc).1

/-- A text that starts as a term is a comparison. -/
theorem parseFactor_term (a : Term γ) {fuel : Nat} (rest : List Token)
    (hfuel : (a.tokens sp).length ≤ fuel) :
    parseFactor sp (fuel + 1) (a.tokens sp ++ rest) = parseComparison sp fuel a rest := by
  have hterm := parseTerm_tokens sp a fuel rest hfuel
  have hword : ∀ {w : String}, w ≠ "match" → Token.word w ≠ .word "match" :=
    fun hw hc => hw (Token.word.inj hc)
  cases a with
  | column c =>
      exact parseFactor_of_parseTerm sp (by simp) (hword (name_ne sp (by decide))) hterm
  | text s => exact parseFactor_of_parseTerm sp (by simp) (by simp) hterm
  | num n => exact parseFactor_of_parseTerm sp (by simp) (hword (numeral_ne (by decide))) hterm
  | position h n => exact parseFactor_of_parseTerm sp (by simp) (by simp) hterm

theorem readBack_comparison {p : Cond γ} {a : Term γ} {ts : List Token}
    (hp : p.tokens sp = a.tokens sp ++ ts) (hts : ts ≠ [])
    (h : ∀ (fuel : Nat) (rest : List Token), ts.length ≤ fuel →
      parseComparison sp fuel a (ts ++ rest) = some (p, rest)) : p.ReadBack sp := by
  refine .of_factor sp ?_
  intro fuel rest hfuel
  have hpos := a.length_tokens_pos sp
  have hts' := List.length_pos_iff.mpr hts
  rw [hp, List.length_append] at hfuel
  obtain ⟨fuel, rfl⟩ := Nat.exists_eq_succ_of_ne_zero (n := fuel) (by omega)
  rw [hp, List.append_assoc, parseFactor_term sp a _ (by omega)]
  exact h fuel rest (by omega)

theorem Cond.readBack {p : Cond γ} (h : p.isExplicit = true) : p.ReadBack sp := by
  induction p with
  | eq a b | ne a b | gt a b =>
      refine readBack_comparison sp rfl (List.cons_ne_nil _ _) ?_
      intro fuel rest hfuel
      rw [List.length_cons] at hfuel
      have hb := parseTerm_tokens sp b fuel rest (Nat.le_of_succ_le hfuel)
      simp [parseComparison, hb]
  | isNull a | isNotNull a =>
      exact readBack_comparison sp rfl (List.cons_ne_nil _ _) fun _ _ _ => rfl
  | regex s p =>
      refine .of_factor sp ?_
      intro fuel rest hfuel
      simp only [Cond.tokens, List.length_cons, List.length_append, List.length_nil] at hfuel
      obtain ⟨fuel, rfl⟩ := Nat.exists_eq_succ_of_ne_zero (n := fuel) (by omega)
      have hs := parseTerm_tokens sp s fuel
        (.comma :: (p.tokens sp ++ .rightParen :: rest)) (by omega)
      have hp := parseTerm_tokens sp p fuel (.rightParen :: rest) (by omega)
      simp [Cond.tokens, parseFactor, parseMatch, hs, hp]
  | and p q ihp ihq =>
      simp only [Cond.isExplicit, Bool.and_eq_true, beq_iff_eq, decide_eq_true_eq] at h
      obtain ⟨⟨⟨hp0, hq1⟩, hp⟩, hq⟩ := h
      refine .of_conjunction sp (by simp [Cond.strength]) ?_
      intro fuel rest hnot hfuel
      simp only [Cond.tokens, List.length_cons, List.length_append] at hfuel
      obtain ⟨fuel, rfl⟩ := Nat.exists_eq_succ_of_ne_zero (n := fuel) (by omega)
      have hleft := (ihp hp).factor hp0 fuel (.word "AND" :: (q.tokens sp ++ rest))
        (by omega)
      have hright := (ihq hq).conjunction hq1 fuel rest hnot (by omega)
      simp [Cond.tokens, parseAnd, hleft, hright]
  | or p q ihp ihq =>
      simp only [Cond.isExplicit, Bool.and_eq_true, decide_eq_true_eq] at h
      obtain ⟨⟨hp1, hp⟩, hq⟩ := h
      have hor : ∀ (fuel : Nat) (rest : List Token), expect (.word "AND") rest = none →
          expect (.word "OR") rest = none → 3 * ((Cond.or p q).tokens sp).length ≤ fuel →
          parseOr sp fuel ((Cond.or p q).tokens sp ++ rest) = some (.or p q, rest) := by
        intro fuel rest hnotAnd hnotOr hfuel
        simp only [Cond.tokens, List.length_cons, List.length_append] at hfuel
        obtain ⟨fuel, rfl⟩ := Nat.exists_eq_succ_of_ne_zero (n := fuel) (by omega)
        have hleft := (ihp hp).conjunction hp1 fuel
          (.word "OR" :: (q.tokens sp ++ rest)) (expect_of_ne (by decide) _) (by omega)
        have hright := (ihq hq).disjunction fuel rest hnotAnd hnotOr (by omega)
        simp [Cond.tokens, parseOr, hleft, hright]
      exact ⟨fun hc => absurd hc (by simp [Cond.strength]),
        fun hc => absurd hc (by simp [Cond.strength]), hor⟩
  | paren p ih =>
      refine .of_factor sp ?_
      intro fuel rest hfuel
      simp only [Cond.tokens, List.length_cons, List.length_append, List.length_nil] at hfuel
      obtain ⟨fuel, rfl⟩ := Nat.exists_eq_succ_of_ne_zero (n := fuel) (by omega)
      have hinner := (ih h).disjunction fuel (.rightParen :: rest)
        (expect_of_ne (by decide) _) (expect_of_ne (by decide) _) (by omega)
      simp [Cond.tokens, parseFactor, hinner]

/-- **What is rendered is read back.** -/
theorem parse_render {p : Cond γ} (h : p.isExplicit = true) :
    parse sp (p.render sp.name sp.escape) = some p := by
  have hor := (p.readBack sp h).disjunction (3 * (p.tokens sp).length) [] rfl rfl le_rfl
  rw [List.append_nil] at hor
  simp only [parse, tokens_render, hor]

/-- Explicit conditions joined by AND need no parenthesis. -/
theorem conj_isExplicit {empty : Cond γ} (hempty : empty.isExplicit = true ∧ empty.strength = 0) :
    ∀ {l : List (Cond γ)}, (∀ p ∈ l, p.isExplicit = true ∧ p.strength = 0) →
      (conj empty l).isExplicit = true ∧ (conj empty l).strength ≤ 1 := by
  intro l
  induction l with
  | nil => exact fun _ => ⟨hempty.1, hempty.2.le.trans (Nat.zero_le 1)⟩
  | cons p rest ih =>
      intro h
      have hp := h p List.mem_cons_self
      cases rest with
      | nil => exact ⟨hp.1, hp.2.le.trans (Nat.zero_le 1)⟩
      | cons q rest =>
          have hrest := ih fun r hr => h r (List.mem_cons_of_mem p hr)
          exact ⟨by simp [conj, Cond.isExplicit, hp, hrest], le_rfl⟩

/-! ### Literals -/

/-- The value of a literal. -/
def Token.literal? : Token → Option String
  | .literal s => some s
  | _ => none

theorem Term.literals_tokens (t : Term γ) :
    (t.tokens sp).filterMap Token.literal? = t.atoms.filterMap Term.literal? := by
  induction t with
  | column c | text s | num n => rfl
  | position h n ihh ihn =>
      simp [Term.tokens, Token.literal?, List.filterMap_cons, ihh, ihn]

theorem Cond.literals_tokens (p : Cond γ) :
    (p.tokens sp).filterMap Token.literal? = p.atoms.filterMap Term.literal? := by
  induction p with
  | eq a b | ne a b | gt a b | regex a b =>
      simp [Cond.tokens, Token.literal?, List.filterMap_cons, Term.literals_tokens]
  | isNull a | isNotNull a =>
      simp [Cond.tokens, Token.literal?, List.filterMap_cons, Term.literals_tokens]
  | and p q ihp ihq | or p q ihp ihq =>
      simp [Cond.tokens, Token.literal?, List.filterMap_cons, ihp, ihq]
  | paren p ih => simp [Cond.tokens, Token.literal?, List.filterMap_cons, ih]

/-- The values of the literals of a text, in their order. -/
def literalsOf (text : String) : Option (List String) :=
  (tokens text.toList).map fun ts => ts.filterMap Token.literal?

theorem literalsOf_render (p : Cond γ) :
    literalsOf (p.render sp.name sp.escape) = some (p.atoms.filterMap Term.literal?) := by
  rw [literalsOf, tokens_render, Option.map_some, p.literals_tokens]

theorem conj_render (name : γ → String) (escape : String → String) (empty : Cond γ) :
    ∀ {l : List (Cond γ)}, l ≠ [] →
      (conj empty l).render name escape = " AND ".intercalate (l.map (·.render name escape)) := by
  intro l
  induction l with
  | nil => exact fun h => absurd rfl h
  | cons p rest ih =>
      intro _
      cases rest with
      | nil => simp [conj]
      | cons q rest =>
          rw [List.map_cons, List.map_cons, String.intercalate_cons_cons]
          exact congrArg (p.render name escape ++ " AND " ++ ·) (ih (List.cons_ne_nil q rest))

theorem conj_atoms {empty : Cond γ} (hempty : empty.atoms.filterMap Term.literal? = []) :
    ∀ l : List (Cond γ), (conj empty l).atoms.filterMap Term.literal? =
      l.flatMap fun p => p.atoms.filterMap Term.literal? := by
  intro l
  induction l with
  | nil => exact hempty
  | cons p rest ih =>
      cases rest with
      | nil => simp [conj]
      | cons q rest =>
          rw [conj, Cond.atoms_and, List.filterMap_append, ih]
          simp only [List.flatMap_cons]

end

end Veridian.Sql
