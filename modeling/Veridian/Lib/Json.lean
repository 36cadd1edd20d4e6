/-
JSON values and their texts.

`text` is what `JSON.stringify` makes of a value without spacing, over any type of numbers
whose numerals are told apart.  The keys of an object come in the order it has them.

A text says what it is by its first character and where it ends by itself, numbers excepted:
those end where no character of a numeral follows.  So a text that is followed by anything
else can be read in one way only (`text_append_inj`), and a value is what its text says
(`stringify_injective`).
-/
import Mathlib.Data.List.Basic
import Mathlib.Logic.Function.Basic

namespace Veridian

inductive Json (N : Type) where
  | null
  | bool (b : Bool)
  | num (n : N)
  | str (s : String)
  | arr (elements : List (Json N))
  | obj (members : List (String × Json N))

namespace Json

/-! ### Strings -/

/-- The characters with an escape of their own, each with its letter. -/
def shortEscapes : List (Char × Char) :=
  [('"', '"'), ('\\', '\\'), ('\x08', 'b'), ('\x0c', 'f'), ('\n', 'n'), ('\r', 'r'), ('\t', 't')]

def escape (c : Char) : List Char :=
  match shortEscapes.lookup c with
  | some letter => ['\\', letter]
  | none =>
      if c.toNat < 32 then
        ['\\', 'u', '0', '0', Nat.digitChar (c.toNat / 16), Nat.digitChar (c.toNat % 16)]
      else [c]

def quote (s : String) : List Char := '"' :: (s.toList.flatMap escape ++ ['"'])

def hexValue (c : Char) : Nat := if c.isDigit then c.toNat - 48 else c.toNat - 87

/-- What a backslash and `l` stand for, and what follows them. -/
def unescapeLetter : List Char → Option (Char × List Char)
  | [] => none
  | letter :: rest =>
      if letter = 'u' then
        match rest with
        | _ :: _ :: high :: low :: rest' =>
            some (Char.ofNat (16 * hexValue high + hexValue low), rest')
        | _ => none
      else (shortEscapes.find? (·.2 = letter)).map fun entry => (entry.1, rest)

/-- The first character of a string, of which `l` is what is left before the closing quote. -/
def unescape : List Char → Option (Char × List Char)
  | [] => none
  | c :: rest =>
      if c = '"' then none
      else if c = '\\' then unescapeLetter rest
      else some (c, rest)

theorem unescapeLetter_of_mem : ∀ entry ∈ shortEscapes,
    entry.2 ≠ 'u' ∧ shortEscapes.find? (·.2 = entry.2) = some entry := by decide

theorem hexValue_digitChar : ∀ d < 16, hexValue (Nat.digitChar d) = d := by decide

theorem mem_shortEscapes {c letter : Char} (h : shortEscapes.lookup c = some letter) :
    (c, letter) ∈ shortEscapes := by
  obtain ⟨before, after, hsplit, -⟩ := List.lookup_eq_some_iff.mp h
  rw [hsplit]
  exact List.mem_append_right _ List.mem_cons_self

/-- Quotes and backslashes are never written as they are. -/
theorem ne_of_lookup_eq_none {c : Char} (h : shortEscapes.lookup c = none) :
    c ≠ '"' ∧ c ≠ '\\' := by
  refine ⟨?_, ?_⟩
  · intro hc
    rw [hc] at h
    exact absurd h (by decide)
  · intro hc
    rw [hc] at h
    exact absurd h (by decide)

/-- An escape is undone, whatever follows it. -/
theorem unescape_escape (c : Char) (rest : List Char) :
    unescape (escape c ++ rest) = some (c, rest) := by
  unfold escape
  cases hshort : shortEscapes.lookup c with
  | some letter =>
      obtain ⟨hu, hfind⟩ := unescapeLetter_of_mem _ (mem_shortEscapes hshort)
      show unescapeLetter (letter :: rest) = some (c, rest)
      simp only [unescapeLetter, if_neg hu, hfind, Option.map_some]
  | none =>
      obtain ⟨hquote, hslash⟩ := ne_of_lookup_eq_none hshort
      by_cases hcontrol : c.toNat < 32
      · simp only [if_pos hcontrol]
        show some (Char.ofNat (16 * hexValue (Nat.digitChar (c.toNat / 16)) +
          hexValue (Nat.digitChar (c.toNat % 16))), rest) = some (c, rest)
        rw [hexValue_digitChar _ (by omega), hexValue_digitChar _ (by omega), Nat.div_add_mod,
          Char.ofNat_toNat]
      · simp only [if_neg hcontrol]
        show unescape (c :: rest) = some (c, rest)
        simp only [unescape, if_neg hquote, if_neg hslash]

theorem escapes_append_inj {r s : List Char} :
    ∀ {l m : List Char}, l.flatMap escape ++ '"' :: r = m.flatMap escape ++ '"' :: s →
      l = m ∧ r = s := by
  intro l
  induction l with
  | nil =>
      intro m h
      cases m with
      | nil => exact ⟨rfl, (List.cons.inj h).2⟩
      | cons d m =>
          have hd := congrArg unescape h
          rw [List.flatMap_cons, List.append_assoc, unescape_escape] at hd
          exact absurd hd (by simp [unescape])
  | cons c l ih =>
      intro m h
      have hc := congrArg unescape h
      rw [List.flatMap_cons, List.append_assoc, unescape_escape] at hc
      cases m with
      | nil => exact absurd hc (by simp [unescape])
      | cons d m =>
          rw [List.flatMap_cons, List.append_assoc, unescape_escape] at hc
          obtain ⟨rfl, hrest⟩ := Prod.mk.inj (Option.some.inj hc)
          obtain ⟨rfl, hend⟩ := ih hrest
          exact ⟨rfl, hend⟩

theorem quote_append_inj {a b : String} {r s : List Char} (h : quote a ++ r = quote b ++ s) :
    a = b ∧ r = s := by
  unfold quote at h
  simp only [List.cons_append, List.append_assoc, List.nil_append] at h
  obtain ⟨hab, hrs⟩ := escapes_append_inj (List.cons.inj h).2
  exact ⟨String.toList_inj.mp hab, hrs⟩

/-! ### Numbers -/

def isNumeral (c : Char) : Bool :=
  c.isDigit || c = '-' || c = '+' || c = '.' || c = 'e'

/-- How numbers are written: no two alike, with the characters of numerals. -/
structure Numerals (N : Type) where
  numeral : N → List Char
  injective : Function.Injective numeral
  nonempty : ∀ n, numeral n ≠ []
  plain : ∀ n, ∀ c ∈ numeral n, isNumeral c = true

/-- No numeral goes on at the start of `r`. -/
def Ends (r : List Char) : Prop := r.takeWhile isNumeral = []

theorem ends_nil : Ends [] := rfl

theorem ends_cons {c : Char} (h : isNumeral c = false) (r : List Char) : Ends (c :: r) := by
  unfold Ends
  rw [List.takeWhile_cons, h]
  rfl

variable {N : Type} (ns : Numerals N)

theorem numeral_append_inj {m n : N} {r s : List Char} (hr : Ends r) (hs : Ends s)
    (h : ns.numeral m ++ r = ns.numeral n ++ s) : m = n ∧ r = s := by
  have hnumerals : ns.numeral m = ns.numeral n := by
    have htake := congrArg (List.takeWhile isNumeral) h
    rw [List.takeWhile_append_of_pos (ns.plain m), List.takeWhile_append_of_pos (ns.plain n),
      hr, hs, List.append_nil, List.append_nil] at htake
    exact htake
  refine ⟨ns.injective hnumerals, ?_⟩
  rw [hnumerals] at h
  exact List.append_cancel_left h

/-! ### Values -/

mutual

/-- The characters of `JSON.stringify`. -/
def text : Json N → List Char
  | .null => ['n', 'u', 'l', 'l']
  | .bool true => ['t', 'r', 'u', 'e']
  | .bool false => ['f', 'a', 'l', 's', 'e']
  | .num n => ns.numeral n
  | .str s => quote s
  | .arr [] => ['[', ']']
  | .arr (v :: vs) => '[' :: (text v ++ elementsText vs)
  | .obj [] => ['\x7b', '\x7d']
  | .obj ((k, v) :: ms) => '\x7b' :: (quote k ++ ':' :: (text v ++ membersText ms))

/-- The elements behind the first, with the closing bracket. -/
def elementsText : List (Json N) → List Char
  | [] => [']']
  | v :: vs => ',' :: (text v ++ elementsText vs)

/-- The members behind the first, with the closing brace. -/
def membersText : List (String × Json N) → List Char
  | [] => ['\x7d']
  | (k, v) :: ms => ',' :: (quote k ++ ':' :: (text v ++ membersText ms))

end

inductive Kind where
  | null | bool | num | str | arr | obj
  deriving DecidableEq

def kind : Json N → Kind
  | .null => .null
  | .bool _ => .bool
  | .num _ => .num
  | .str _ => .str
  | .arr _ => .arr
  | .obj _ => .obj

/-- What a text is that starts with `c`. -/
def kindAt (c : Char) : Option Kind :=
  if isNumeral c then some .num
  else if c = 'n' then some .null
  else if c = 't' ∨ c = 'f' then some .bool
  else if c = '"' then some .str
  else if c = '[' then some .arr
  else if c = '\x7b' then some .obj
  else none

theorem text_eq_cons (v : Json N) : ∃ c rest, text ns v = c :: rest ∧ kindAt c = some v.kind := by
  cases v with
  | null => exact ⟨'n', _, by rw [text], rfl⟩
  | bool b =>
      cases b with
      | true => exact ⟨'t', _, by rw [text], rfl⟩
      | false => exact ⟨'f', _, by rw [text], rfl⟩
  | num n =>
      obtain ⟨c, rest, hc⟩ := List.exists_cons_of_ne_nil (ns.nonempty n)
      refine ⟨c, rest, by rw [text, hc], ?_⟩
      have hplain : isNumeral c = true := ns.plain n c (by rw [hc]; exact List.mem_cons_self)
      unfold kindAt
      rw [if_pos hplain]
      rfl
  | str s => exact ⟨'"', _, by rw [text]; rfl, rfl⟩
  | arr l =>
      cases l with
      | nil => exact ⟨'[', _, by rw [text], rfl⟩
      | cons v vs => exact ⟨'[', _, by rw [text], rfl⟩
  | obj l =>
      cases l with
      | nil => exact ⟨'\x7b', _, by rw [text], rfl⟩
      | cons m ms => exact ⟨'\x7b', _, by rw [text], rfl⟩

theorem kind_eq_of_text {v w : Json N} {r s : List Char}
    (h : text ns v ++ r = text ns w ++ s) : v.kind = w.kind := by
  obtain ⟨c, vrest, hv, hc⟩ := text_eq_cons ns v
  obtain ⟨d, wrest, hw, hd⟩ := text_eq_cons ns w
  rw [hv, hw] at h
  obtain rfl : c = d := (List.cons.inj h).1
  exact Option.some.inj (hc.symm.trans hd)

/-- What closes a list is not read as one more element. -/
theorem text_append_ne_cons {c : Char} (hc : kindAt c = none) (v : Json N) (r s : List Char) :
    text ns v ++ r ≠ c :: s := by
  intro h
  obtain ⟨d, rest, hv, hd⟩ := text_eq_cons ns v
  rw [hv] at h
  obtain rfl : d = c := (List.cons.inj h).1
  exact absurd (hd.symm.trans hc) (by simp)

theorem ends_elementsText (vs : List (Json N)) (r : List Char) :
    Ends (elementsText ns vs ++ r) := by
  cases vs with
  | nil => rw [elementsText]; exact ends_cons (by decide) r
  | cons v vs => rw [elementsText]; exact ends_cons (by decide) _

theorem ends_membersText (ms : List (String × Json N)) (r : List Char) :
    Ends (membersText ns ms ++ r) := by
  cases ms with
  | nil => rw [membersText]; exact ends_cons (by decide) r
  | cons m ms => rw [membersText]; exact ends_cons (by decide) _

/-! ### A text is read in one way -/

theorem eq_null_of_kind {v : Json N} (h : Kind.null = v.kind) : v = .null := by
  cases v with
  | null => rfl
  | _ => simp [kind] at h

theorem exists_bool_of_kind {v : Json N} (h : Kind.bool = v.kind) : ∃ b, v = .bool b := by
  cases v with
  | bool b => exact ⟨b, rfl⟩
  | _ => simp [kind] at h

theorem exists_num_of_kind {v : Json N} (h : Kind.num = v.kind) : ∃ n, v = .num n := by
  cases v with
  | num n => exact ⟨n, rfl⟩
  | _ => simp [kind] at h

theorem exists_str_of_kind {v : Json N} (h : Kind.str = v.kind) : ∃ s, v = .str s := by
  cases v with
  | str s => exact ⟨s, rfl⟩
  | _ => simp [kind] at h

theorem exists_arr_of_kind {v : Json N} (h : Kind.arr = v.kind) : ∃ l, v = .arr l := by
  cases v with
  | arr l => exact ⟨l, rfl⟩
  | _ => simp [kind] at h

theorem exists_obj_of_kind {v : Json N} (h : Kind.obj = v.kind) : ∃ l, v = .obj l := by
  cases v with
  | obj l => exact ⟨l, rfl⟩
  | _ => simp [kind] at h

theorem bool_append_inj {a b : Bool} {r s : List Char}
    (h : text ns (.bool a) ++ r = text ns (.bool b) ++ s) : a = b ∧ r = s := by
  cases a with
  | true =>
      cases b with
      | true => simpa [text] using h
      | false => simp [text] at h
  | false =>
      cases b with
      | true => simp [text] at h
      | false => simpa [text] using h

mutual

/-- **A text followed by no more of a numeral is read in one way only.** -/
theorem text_append_inj : ∀ (v w : Json N) {r s : List Char}, Ends r → Ends s →
    text ns v ++ r = text ns w ++ s → v = w ∧ r = s
  | .null, w, r, s, _, _, h => by
      obtain rfl := eq_null_of_kind (kind_eq_of_text ns h)
      exact ⟨rfl, List.append_cancel_left h⟩
  | .bool a, w, r, s, _, _, h => by
      obtain ⟨b, rfl⟩ := exists_bool_of_kind (kind_eq_of_text ns h)
      obtain ⟨rfl, hrs⟩ := bool_append_inj ns h
      exact ⟨rfl, hrs⟩
  | .num m, w, r, s, hr, hs, h => by
      obtain ⟨n, rfl⟩ := exists_num_of_kind (kind_eq_of_text ns h)
      simp only [text] at h
      obtain ⟨rfl, hrs⟩ := numeral_append_inj ns hr hs h
      exact ⟨rfl, hrs⟩
  | .str a, w, r, s, _, _, h => by
      obtain ⟨b, rfl⟩ := exists_str_of_kind (kind_eq_of_text ns h)
      simp only [text] at h
      obtain ⟨rfl, hrs⟩ := quote_append_inj h
      exact ⟨rfl, hrs⟩
  | .arr [], w, r, s, _, _, h => by
      obtain ⟨m, rfl⟩ := exists_arr_of_kind (kind_eq_of_text ns h)
      cases m with
      | nil => exact ⟨rfl, List.append_cancel_left h⟩
      | cons w ws =>
          simp only [text, List.cons_append, List.append_assoc, List.nil_append,
            List.cons.injEq, true_and] at h
          exact absurd h.symm (text_append_ne_cons ns rfl w _ r)
  | .arr (v :: vs), w, r, s, _, _, h => by
      obtain ⟨m, rfl⟩ := exists_arr_of_kind (kind_eq_of_text ns h)
      cases m with
      | nil =>
          simp only [text, List.cons_append, List.append_assoc, List.nil_append,
            List.cons.injEq, true_and] at h
          exact absurd h (text_append_ne_cons ns rfl v _ s)
      | cons w ws =>
          simp only [text, List.cons_append, List.append_assoc, List.cons.injEq, true_and] at h
          obtain ⟨rfl, hrest⟩ := text_append_inj v w (ends_elementsText ns vs r)
            (ends_elementsText ns ws s) h
          obtain ⟨rfl, hrs⟩ := elementsText_append_inj vs ws hrest
          exact ⟨rfl, hrs⟩
  | .obj [], w, r, s, _, _, h => by
      obtain ⟨m, rfl⟩ := exists_obj_of_kind (kind_eq_of_text ns h)
      cases m with
      | nil => exact ⟨rfl, List.append_cancel_left h⟩
      | cons member ms => simp [text, quote] at h
  | .obj ((k, v) :: ms), w, r, s, _, _, h => by
      obtain ⟨m, rfl⟩ := exists_obj_of_kind (kind_eq_of_text ns h)
      cases m with
      | nil => simp [text, quote] at h
      | cons member ms' =>
          obtain ⟨k', v'⟩ := member
          simp only [text, List.cons_append, List.append_assoc, List.cons.injEq, true_and] at h
          obtain ⟨rfl, hvalue⟩ := quote_append_inj h
          obtain ⟨rfl, hrest⟩ := text_append_inj v v' (ends_membersText ns ms r)
            (ends_membersText ns ms' s) (List.cons.inj hvalue).2
          obtain ⟨rfl, hrs⟩ := membersText_append_inj ms ms' hrest
          exact ⟨rfl, hrs⟩

theorem elementsText_append_inj : ∀ (vs ws : List (Json N)) {r s : List Char},
    elementsText ns vs ++ r = elementsText ns ws ++ s → vs = ws ∧ r = s
  | [], ws, r, s, h => by
      cases ws with
      | nil => exact ⟨rfl, List.append_cancel_left h⟩
      | cons w ws => simp [elementsText] at h
  | v :: vs, ws, r, s, h => by
      cases ws with
      | nil => simp [elementsText] at h
      | cons w ws =>
          simp only [elementsText, List.cons_append, List.append_assoc, List.cons.injEq,
            true_and] at h
          obtain ⟨rfl, hrest⟩ := text_append_inj v w (ends_elementsText ns vs r)
            (ends_elementsText ns ws s) h
          obtain ⟨rfl, hrs⟩ := elementsText_append_inj vs ws hrest
          exact ⟨rfl, hrs⟩

theorem membersText_append_inj : ∀ (ms ms' : List (String × Json N)) {r s : List Char},
    membersText ns ms ++ r = membersText ns ms' ++ s → ms = ms' ∧ r = s
  | [], ms', r, s, h => by
      cases ms' with
      | nil => exact ⟨rfl, List.append_cancel_left h⟩
      | cons member ms' => simp [membersText] at h
  | (k, v) :: ms, ms', r, s, h => by
      cases ms' with
      | nil => simp [membersText] at h
      | cons member ms' =>
          obtain ⟨k', v'⟩ := member
          simp only [membersText, List.cons_append, List.append_assoc, List.cons.injEq,
            true_and] at h
          obtain ⟨rfl, hvalue⟩ := quote_append_inj h
          obtain ⟨rfl, hrest⟩ := text_append_inj v v' (ends_membersText ns ms r)
            (ends_membersText ns ms' s) (List.cons.inj hvalue).2
          obtain ⟨rfl, hrs⟩ := membersText_append_inj ms ms' hrest
          exact ⟨rfl, hrs⟩

end

/-- `JSON.stringify` -/
def stringify (v : Json N) : String := String.ofList (text ns v)

/-- **Values with one text are one value.** -/
theorem stringify_injective : Function.Injective (stringify ns) := by
  intro v w h
  have htext : text ns v = text ns w := String.ofList_injective h
  exact (text_append_inj ns v w ends_nil ends_nil (by rw [htext])).1

end Json

end Veridian
