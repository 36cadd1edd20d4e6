/-
Reading a JSON text.

`parse` is `JSON.parse` over any way of reading numerals.  It goes down the text with a
bound on the depth; the length of what is left is bound enough, and more never changes what
is read (`parse_eq_some_iff`).  A text that `stringify` made is read back
(`parse_stringify`), and a text that starts as an object ends as one
(`object_text_ends`).

A character above the first plane has an escape of two halves.  Half an escape stands for
U+FFFD here, as it does in every text that was ever written as UTF-8.
-/
import Mathlib.Data.List.TakeWhile
import Veridian.Lib.Assoc
import Veridian.Lib.JsonNumbers

namespace Veridian.Json

variable {N : Type}

/-! ### Space and strings -/

def isBlank (c : Char) : Bool := c = ' ' || c = '\t' || c = '\n' || c = '\r'

def skipBlank (l : List Char) : List Char := l.dropWhile isBlank

def hexDigit (c : Char) : Option Nat :=
  if c.isDigit then some (c.toNat - 48)
  else if 'a' ≤ c ∧ c ≤ 'f' then some (c.toNat - 87)
  else if 'A' ≤ c ∧ c ≤ 'F' then some (c.toNat - 55)
  else none

def readHex : List Char → Option (Nat × List Char)
  | a :: b :: c :: d :: rest =>
      match hexDigit a, hexDigit b, hexDigit c, hexDigit d with
      | some a, some b, some c, some d => some (((a * 16 + b) * 16 + c) * 16 + d, rest)
      | _, _, _, _ => none
  | _ => none

def half : Char := '\uFFFD'

/-- The low half of an escape whose high half was read. -/
def readLow (l : List Char) : Option (Nat × List Char) :=
  match l with
  | '\\' :: 'u' :: rest => (readHex rest).filter fun low => 0xDC00 ≤ low.1 && low.1 < 0xE000
  | _ => none

/-- What stands behind `\u`. -/
def readUnicode (l : List Char) : Option (Char × List Char) :=
  match readHex l with
  | none => none
  | some (unit, rest) =>
      if 0xD800 ≤ unit ∧ unit < 0xDC00 then
        match readLow rest with
        | some (low, rest') =>
            some (Char.ofNat (0x10000 + (unit - 0xD800) * 0x400 + (low - 0xDC00)), rest')
        | none => some (half, rest)
      else if 0xDC00 ≤ unit ∧ unit < 0xE000 then some (half, rest)
      else some (Char.ofNat unit, rest)

/-- What stands behind a backslash. -/
def readEscape : List Char → Option (Char × List Char)
  | [] => none
  | c :: rest =>
      if c = 'u' then readUnicode rest
      else if c = '/' then some ('/', rest)
      else (shortEscapes.find? (·.2 = c)).map fun entry => (entry.1, rest)

/-- What stands behind an opening quote. -/
def readString : Nat → List Char → Option (List Char × List Char)
  | 0, _ => none
  | _ + 1, [] => none
  | n + 1, c :: rest =>
      if c = '"' then some ([], rest)
      else if c = '\\' then
        match readEscape rest with
        | none => none
        | some (d, rest') => (readString n rest').map fun result => (d :: result.1, result.2)
      else if c.toNat < 32 then none
      else (readString n rest).map fun result => (c :: result.1, result.2)

/-! ### Values -/

def readLiteral (literal : List Char) (v : Json N) (l : List Char) : Option (Json N × List Char) :=
  if literal <+: l then some (v, l.drop literal.length) else none

def isNumeralPart (c : Char) : Bool := isNumeral c || c = 'E'

def readNumber (read : List Char → Option N) (l : List Char) : Option (Json N × List Char) :=
  (read (l.takeWhile isNumeralPart)).map fun n => (.num n, l.dropWhile isNumeralPart)

/-- The member a key came with last, at the place it came first. -/
def object (members : List (String × Json N)) : Json N :=
  .obj (members.foldl (fun acc member => Assoc.set acc member.1 member.2) [])

/-- What `g` reads behind what `f` reads. -/
def andThen {α β γ : Type} (f : List Char → Option (α × List Char))
    (g : List Char → Option (β × List Char)) (combine : α → β → γ) (l : List Char) :
    Option (γ × List Char) :=
  match f l with
  | none => none
  | some (a, rest) => (g rest).map fun result => (combine a result.1, result.2)

/-- A key with its colon. -/
def readKey (l : List Char) : Option (String × List Char) :=
  match skipBlank l with
  | '"' :: rest =>
      match readString rest.length rest with
      | none => none
      | some (k, rest') =>
          match skipBlank rest' with
          | ':' :: rest'' => some (String.ofList k, rest'')
          | _ => none
  | _ => none

mutual

def readValue (read : List Char → Option N) : Nat → List Char → Option (Json N × List Char)
  | 0, _ => none
  | n + 1, l =>
      match skipBlank l with
      | [] => none
      | '"' :: rest =>
          (readString rest.length rest).map fun result => (.str (String.ofList result.1), result.2)
      | '[' :: rest =>
          match skipBlank rest with
          | ']' :: rest' => some (.arr [], rest')
          | _ => andThen (readValue read n) (readElements read n) (fun v vs => .arr (v :: vs)) rest
      | '\x7b' :: rest =>
          match skipBlank rest with
          | '\x7d' :: rest' => some (object [], rest')
          | _ =>
              andThen (andThen readKey (readValue read n) Prod.mk) (readMembers read n)
                (fun m ms => object (m :: ms)) rest
      | 'n' :: rest => readLiteral ['u', 'l', 'l'] .null rest
      | 't' :: rest => readLiteral ['r', 'u', 'e'] (.bool true) rest
      | 'f' :: rest => readLiteral ['a', 'l', 's', 'e'] (.bool false) rest
      | c :: rest => readNumber read (c :: rest)

/-- The elements behind the first. -/
def readElements (read : List Char → Option N) :
    Nat → List Char → Option (List (Json N) × List Char)
  | 0, _ => none
  | n + 1, l =>
      match skipBlank l with
      | ']' :: rest => some ([], rest)
      | ',' :: rest => andThen (readValue read n) (readElements read n) List.cons rest
      | _ => none

/-- The members behind the first. -/
def readMembers (read : List Char → Option N) :
    Nat → List Char → Option (List (String × Json N) × List Char)
  | 0, _ => none
  | n + 1, l =>
      match skipBlank l with
      | '\x7d' :: rest => some ([], rest)
      | ',' :: rest =>
          andThen (andThen readKey (readValue read n) Prod.mk) (readMembers read n) List.cons rest
      | _ => none

end

/-- `JSON.parse`: `none` when it throws. -/
def parse (read : List Char → Option N) (s : String) : Option (Json N) :=
  match readValue read s.toList.length s.toList with
  | some (v, rest) => if skipBlank rest = [] then some v else none
  | none => none

/-! ### Reading what was written -/

theorem shortEscapes_ne_slash : ∀ entry ∈ shortEscapes, entry.2 ≠ '/' := by decide

theorem hexDigit_digitChar : ∀ d < 16, hexDigit (Nat.digitChar d) = some d := by decide

theorem readHex_control {c : Char} (h : c.toNat < 32) (rest : List Char) :
    readHex ('0' :: '0' :: Nat.digitChar (c.toNat / 16) :: Nat.digitChar (c.toNat % 16) :: rest) =
      some (c.toNat, rest) := by
  have hzero : hexDigit '0' = some 0 := rfl
  simp only [readHex, hzero, hexDigit_digitChar _ (show c.toNat / 16 < 16 by omega),
    hexDigit_digitChar _ (show c.toNat % 16 < 16 by omega)]
  exact congrArg some (Prod.ext (by show _ = c.toNat; omega) rfl)

/-- An escaped character is read back. -/
theorem readString_escape (c : Char) (n : Nat) (rest : List Char) :
    readString (n + 1) (escape c ++ rest) =
      (readString n rest).map fun result => (c :: result.1, result.2) := by
  unfold escape
  cases hshort : shortEscapes.lookup c with
  | some letter =>
      have hmem := mem_shortEscapes hshort
      obtain ⟨hu, hfind⟩ := unescapeLetter_of_mem _ hmem
      have hescape : readEscape (letter :: rest) = some (c, rest) := by
        simp only [readEscape, if_neg hu, if_neg (shortEscapes_ne_slash _ hmem), hfind,
          Option.map_some]
      show readString (n + 1) ('\\' :: letter :: rest) = _
      simp [readString, hescape]
  | none =>
      obtain ⟨hquote, hslash⟩ := ne_of_lookup_eq_none hshort
      by_cases hcontrol : c.toNat < 32
      · have hescape : readEscape ('u' :: '0' :: '0' :: Nat.digitChar (c.toNat / 16) ::
            Nat.digitChar (c.toNat % 16) :: rest) = some (c, rest) := by
          simp only [readEscape, if_true, readUnicode, readHex_control hcontrol]
          rw [if_neg (by omega), if_neg (by omega), Char.ofNat_toNat]
        simp only [if_pos hcontrol]
        show readString (n + 1) ('\\' :: 'u' :: '0' :: '0' :: Nat.digitChar (c.toNat / 16) ::
          Nat.digitChar (c.toNat % 16) :: rest) = _
        simp [readString, hescape]
      · simp only [if_neg hcontrol]
        show readString (n + 1) (c :: rest) = _
        simp [readString, hquote, hslash, hcontrol]

theorem readString_escapes (r : List Char) :
    ∀ (cs : List Char) {n : Nat}, cs.length < n →
      readString n (cs.flatMap escape ++ '"' :: r) = some (cs, r) := by
  intro cs
  induction cs with
  | nil =>
      intro n hn
      obtain ⟨n, rfl⟩ := Nat.exists_eq_add_of_lt hn
      simp [readString]
  | cons c cs ih =>
      intro n hn
      cases n with
      | zero => exact absurd hn (Nat.not_lt_zero _)
      | succ n =>
          rw [List.flatMap_cons, List.append_assoc, readString_escape,
            ih (Nat.lt_of_succ_lt_succ hn)]
          rfl

theorem escape_ne_nil (c : Char) : escape c ≠ [] := by
  unfold escape
  cases shortEscapes.lookup c with
  | some letter => exact List.cons_ne_nil _ _
  | none =>
      show (if c.toNat < 32 then _ else [c]) ≠ []
      split <;> exact List.cons_ne_nil _ _

theorem length_le_escapes (cs : List Char) : cs.length ≤ (cs.flatMap escape).length := by
  induction cs with
  | nil => exact Nat.le_refl _
  | cons c cs ih =>
      have hpos := List.length_pos_of_ne_nil (escape_ne_nil c)
      rw [List.flatMap_cons, List.length_append, List.length_cons]
      omega

/-- A string is read back from behind its opening quote. -/
theorem readString_quote (s : String) (r : List Char) :
    readString (s.toList.flatMap escape ++ '"' :: r).length
      (s.toList.flatMap escape ++ '"' :: r) = some (s.toList, r) := by
  refine readString_escapes r _ ?_
  have hle := length_le_escapes s.toList
  rw [List.length_append, List.length_cons]
  omega

/-- No numeral goes on at the start of `r`. -/
def Stops (r : List Char) : Prop := r.takeWhile isNumeralPart = []

theorem stops_nil : Stops [] := rfl

theorem stops_cons {c : Char} (h : isNumeralPart c = false) (r : List Char) : Stops (c :: r) := by
  unfold Stops
  rw [List.takeWhile_cons, h]
  rfl

theorem Stops.dropWhile {r : List Char} (h : Stops r) : r.dropWhile isNumeralPart = r := by
  have happend := List.takeWhile_append_dropWhile (p := isNumeralPart) (l := r)
  rwa [h, List.nil_append] at happend

variable {M : Type} (ns : Numerals M)

theorem stops_elementsText (vs : List (Json M)) (r : List Char) :
    Stops (elementsText ns vs ++ r) := by
  cases vs with
  | nil => exact stops_cons rfl _
  | cons v vs => exact stops_cons rfl _

theorem stops_membersText (ms : List (String × Json M)) (r : List Char) :
    Stops (membersText ns ms ++ r) := by
  cases ms with
  | nil => exact stops_cons rfl _
  | cons m ms => exact stops_cons rfl _

theorem isNumeralPart_of_mem {m : M} {c : Char} (h : c ∈ ns.numeral m) :
    isNumeralPart c = true := by
  unfold isNumeralPart
  rw [ns.plain m c h]
  rfl

theorem readNumber_numeral {read : List Char → Option N} {m : M} {n : N}
    (hread : read (ns.numeral m) = some n) {r : List Char} (hr : Stops r) :
    readNumber read (ns.numeral m ++ r) = some (.num n, r) := by
  have hall : ∀ c ∈ ns.numeral m, isNumeralPart c = true := fun c => isNumeralPart_of_mem ns
  unfold readNumber
  rw [List.takeWhile_append_of_pos hall, List.dropWhile_append_of_pos hall, hr, hr.dropWhile,
    List.append_nil, hread]
  rfl

/-! ### A value is read back -/

theorem foldl_set_of_nodup {β : Type} (members : List (String × β)) :
    ∀ acc : List (String × β), ((acc ++ members).map Prod.fst).Nodup →
      members.foldl (fun acc member => Assoc.set acc member.1 member.2) acc = acc ++ members := by
  induction members with
  | nil => exact fun acc _ => (List.append_nil acc).symm
  | cons member members ih =>
      intro acc hnodup
      rw [List.foldl_cons, Assoc.set_of_not_mem, ih, List.append_assoc]
      · rfl
      · rwa [List.append_assoc]
      · rw [List.map_append, List.map_cons] at hnodup
        have hdisjoint := (List.nodup_append.mp hnodup).2.2
        exact fun hmem => hdisjoint _ hmem _ List.mem_cons_self rfl

/-- An object with distinct keys is read as it stands. -/
theorem object_of_nodup {members : List (String × Json N)}
    (h : (members.map Prod.fst).Nodup) : object members = .obj members := by
  unfold object
  rw [foldl_set_of_nodup members [] (by rwa [List.nil_append])]
  rfl

theorem skipBlank_cons {c : Char} (h : isBlank c = false) (r : List Char) :
    skipBlank (c :: r) = c :: r := by
  unfold skipBlank
  rw [List.dropWhile_cons, h]
  rfl

theorem isBlank_of_kindAt {c : Char} {k : Kind} (h : kindAt c = some k) : isBlank c = false := by
  unfold isBlank
  by_contra hblank
  simp only [Bool.not_eq_false, Bool.or_eq_true, decide_eq_true_eq] at hblank
  rcases hblank with ((rfl | rfl) | rfl) | rfl <;>
    exact (Option.some_ne_none k).symm (h : none = some k)

theorem skipBlank_text (v : Json M) (r : List Char) :
    skipBlank (text ns v ++ r) = text ns v ++ r := by
  obtain ⟨c, rest, htext, hkind⟩ := text_eq_cons ns v
  rw [htext]
  exact skipBlank_cons (isBlank_of_kindAt hkind) _

section

variable {read : List Char → Option N}

/-- What is no space and opens nothing is read as a number. -/
theorem readValue_numeral {c : Char} {rest : List Char} (hc : isNumeral c = true) (n : Nat) :
    readValue read (n + 1) (c :: rest) = readNumber read (c :: rest) := by
  have hkind : kindAt c = some .num := if_pos hc
  have hne : ∀ d : Char, isNumeral d = false → c ≠ d := by
    rintro d hd rfl
    rw [hc] at hd
    exact Bool.noConfusion hd
  rw [readValue, skipBlank_cons (isBlank_of_kindAt hkind)]
  split
  · rename_i h
    exact absurd h (List.cons_ne_nil _ _)
  all_goals
    rename_i h
    obtain ⟨rfl, rfl⟩ := List.cons.inj h
  iterate 6 exact absurd rfl (hne _ rfl)
  rfl

theorem readValue_elements {n : Nat} {rest : List Char}
    (h : ∀ r, skipBlank rest ≠ ']' :: r) :
    readValue read (n + 1) ('[' :: rest) =
      andThen (readValue read n) (readElements read n) (fun v vs => .arr (v :: vs)) rest := by
  have hblank : skipBlank ('[' :: rest) = '[' :: rest := skipBlank_cons rfl rest
  simp only [readValue, hblank]

theorem readValue_members {n : Nat} {rest : List Char}
    (h : ∀ r, skipBlank rest ≠ '\x7d' :: r) :
    readValue read (n + 1) ('\x7b' :: rest) =
      andThen (andThen readKey (readValue read n) Prod.mk) (readMembers read n)
        (fun m ms => object (m :: ms)) rest := by
  have hblank : skipBlank ('\x7b' :: rest) = '\x7b' :: rest := skipBlank_cons rfl rest
  simp only [readValue, hblank]

theorem skipBlank_quote_ne (k : String) (r s : List Char) :
    skipBlank (quote k ++ r) ≠ '\x7d' :: s := by
  intro h
  have hblank : skipBlank (quote k ++ r) = quote k ++ r := skipBlank_cons rfl _
  rw [hblank] at h
  exact absurd (List.cons.inj h).1 (by decide)

/-- A key is read back with its colon. -/
theorem readKey_quote (k : String) (r : List Char) :
    readKey (quote k ++ ':' :: r) = some (k, r) := by
  have hquote : quote k ++ ':' :: r = '"' :: (k.toList.flatMap escape ++ '"' :: ':' :: r) := by
    simp [quote]
  rw [hquote]
  simp only [readKey, skipBlank_cons (show isBlank '"' = false from rfl), readString_quote,
    skipBlank_cons (show isBlank ':' = false from rfl), String.ofList_toList]

theorem andThen_of_eq_some {α β γ : Type} {f : List Char → Option (α × List Char)}
    {g : List Char → Option (β × List Char)} {l mid r : List Char} {a : α} {b : β}
    (hf : f l = some (a, mid)) (hg : g mid = some (b, r)) (combine : α → β → γ) :
    andThen f g combine l = some (combine a b, r) := by
  simp only [andThen, hf, hg, Option.map_some]

theorem text_append_length_pos (v : Json M) (r : List Char) : ¬(text ns v ++ r).length ≤ 0 := by
  obtain ⟨c, rest, htext, -⟩ := text_eq_cons ns v
  rw [htext]
  exact Nat.not_succ_le_zero _

theorem readLiteral_append (literal : List Char) (v : Json N) (r : List Char) :
    readLiteral literal v (literal ++ r) = some (v, r) := by
  unfold readLiteral
  rw [if_pos (List.prefix_append literal r), List.drop_left]

/-- Numerals are read back. -/
def Reads (read : List Char → Option N) (value : M → N) : Prop :=
  ∀ m, read (ns.numeral m) = some (value m)

variable {value : M → N}

mutual

/-- **A text is read back**, whatever stands behind it. -/
theorem readValue_text (hread : Reads ns read value) : ∀ (v : Json M), DistinctKeys v →
    ∀ {n : Nat} {r : List Char}, Stops r → (text ns v ++ r).length ≤ n →
      readValue read n (text ns v ++ r) = some (substNumbers (fun m => .num (value m)) v, r)
  | _, _, 0, r, _, hn => absurd hn (text_append_length_pos ns _ r)
  | .null, _, n + 1, r, _, _ => readLiteral_append ['u', 'l', 'l'] .null r
  | .bool true, _, n + 1, r, _, _ => readLiteral_append ['r', 'u', 'e'] (.bool true) r
  | .bool false, _, n + 1, r, _, _ => readLiteral_append ['a', 'l', 's', 'e'] (.bool false) r
  | .num m, _, n + 1, r, hr, _ => by
      obtain ⟨c, rest, hc⟩ := List.exists_cons_of_ne_nil (ns.nonempty m)
      have hplain : isNumeral c = true := ns.plain m c (by rw [hc]; exact List.mem_cons_self)
      have hnumber := readNumber_numeral ns (hread m) hr
      rw [text]
      rw [hc, List.cons_append] at hnumber ⊢
      rw [readValue_numeral hplain, hnumber]
      rfl
  | .str s, _, n + 1, r, _, _ => by
      have hquote : text ns (.str s) ++ r = '"' :: (s.toList.flatMap escape ++ '"' :: r) := by
        simp [text, quote]
      rw [hquote]
      show (readString _ _).map _ = _
      rw [readString_quote]
      simp [substNumbers]
  | .arr [], _, n + 1, r, _, _ => rfl
  | .arr (v :: vs), h, n + 1, r, _, hn => by
      have htext : text ns (.arr (v :: vs)) ++ r =
          '[' :: (text ns v ++ (elementsText ns vs ++ r)) := by
        simp [text]
      rw [htext, List.length_cons] at hn
      have hvalue := readValue_text hread v h.1 (stops_elementsText ns vs r)
        (Nat.le_of_succ_le_succ hn)
      have hlength : (elementsText ns vs ++ r).length ≤ n := by
        rw [List.length_append] at hn
        omega
      rw [htext, readValue_elements fun s hs => text_append_ne_cons ns rfl v _ s
        ((skipBlank_text ns v _).symm.trans hs)]
      exact andThen_of_eq_some hvalue (readElements_text hread vs h.2 hlength) _
  | .obj [], _, n + 1, r, _, _ => rfl
  | .obj ((k, v) :: ms), h, n + 1, r, _, hn => by
      have htext : text ns (.obj ((k, v) :: ms)) ++ r =
          '\x7b' :: (quote k ++ ':' :: (text ns v ++ (membersText ns ms ++ r))) := by
        simp [text]
      rw [htext] at hn
      simp only [List.length_append, List.length_cons] at hn
      have hvalue := readValue_text hread v h.2.1 (n := n) (stops_membersText ns ms r) (by
        rw [List.length_append, List.length_append]
        omega)
      have hrest := readMembers_text hread ms h.2.2 (n := n) (r := r) (by
        rw [List.length_append]
        omega)
      rw [htext, readValue_members (skipBlank_quote_ne k _)]
      rw [andThen_of_eq_some (andThen_of_eq_some (readKey_quote k _) hvalue _) hrest]
      rw [object_of_nodup (by
        rw [List.map_cons, substMembers_keys]
        exact h.1)]
      rfl

theorem readElements_text (hread : Reads ns read value) : ∀ (vs : List (Json M)),
    DistinctElements vs → ∀ {n : Nat} {r : List Char}, (elementsText ns vs ++ r).length ≤ n →
      readElements read n (elementsText ns vs ++ r) =
        some (substElements (fun m => .num (value m)) vs, r)
  | [], _, 0, r, hn => absurd hn (Nat.not_succ_le_zero _)
  | [], _, n + 1, r, _ => rfl
  | v :: vs, _, 0, r, hn => absurd hn (Nat.not_succ_le_zero _)
  | v :: vs, h, n + 1, r, hn => by
      have htext : elementsText ns (v :: vs) ++ r =
          ',' :: (text ns v ++ (elementsText ns vs ++ r)) := by
        simp [elementsText]
      rw [htext, List.length_cons] at hn
      have hvalue := readValue_text hread v h.1 (stops_elementsText ns vs r)
        (Nat.le_of_succ_le_succ hn)
      have hlength : (elementsText ns vs ++ r).length ≤ n := by
        rw [List.length_append] at hn
        omega
      rw [htext]
      simp only [readElements, skipBlank_cons (show isBlank ',' = false from rfl)]
      exact andThen_of_eq_some hvalue (readElements_text hread vs h.2 hlength) _

theorem readMembers_text (hread : Reads ns read value) : ∀ (ms : List (String × Json M)),
    DistinctMembers ms → ∀ {n : Nat} {r : List Char}, (membersText ns ms ++ r).length ≤ n →
      readMembers read n (membersText ns ms ++ r) =
        some (substMembers (fun m => .num (value m)) ms, r)
  | [], _, 0, r, hn => absurd hn (Nat.not_succ_le_zero _)
  | [], _, n + 1, r, _ => rfl
  | (k, v) :: ms, _, 0, r, hn => absurd hn (Nat.not_succ_le_zero _)
  | (k, v) :: ms, h, n + 1, r, hn => by
      have htext : membersText ns ((k, v) :: ms) ++ r =
          ',' :: (quote k ++ ':' :: (text ns v ++ (membersText ns ms ++ r))) := by
        simp [membersText]
      rw [htext] at hn
      simp only [List.length_append, List.length_cons] at hn
      have hvalue := readValue_text hread v h.1 (n := n) (stops_membersText ns ms r) (by
        rw [List.length_append, List.length_append]
        omega)
      have hrest := readMembers_text hread ms h.2 (n := n) (r := r) (by
        rw [List.length_append]
        omega)
      rw [htext]
      simp only [readMembers, skipBlank_cons (show isBlank ',' = false from rfl)]
      exact andThen_of_eq_some (andThen_of_eq_some (readKey_quote k _) hvalue _) hrest _

end

/-- **`JSON.parse` undoes `JSON.stringify`.** -/
theorem parse_stringify (hread : Reads ns read value) {v : Json M} (hdistinct : DistinctKeys v) :
    parse read (stringify ns v) = some (substNumbers (fun m => .num (value m)) v) := by
  have hvalue := readValue_text ns hread v hdistinct stops_nil (Nat.le_refl _)
  rw [List.append_nil] at hvalue
  unfold parse stringify
  rw [String.toList_ofList, hvalue]
  rfl

/-! ### Where reading ends -/

/-- What is read comes off the front, and with the length as bound it is read too. -/
def Settled {α : Type} (f : Nat → List Char → Option (α × List Char)) (n : Nat) : Prop :=
  ∀ ⦃l r : List Char⦄ ⦃a : α⦄, f n l = some (a, r) →
    r <:+ l ∧ ∀ m, l.length ≤ m → f m l = some (a, r)

theorem andThen_eq_some {α β γ : Type} {f : List Char → Option (α × List Char)}
    {g : List Char → Option (β × List Char)} {combine : α → β → γ} {l r : List Char} {c : γ}
    (h : andThen f g combine l = some (c, r)) :
    ∃ a mid b, f l = some (a, mid) ∧ g mid = some (b, r) ∧ combine a b = c := by
  unfold andThen at h
  split at h
  · exact absurd h (Option.some_ne_none _).symm
  · rename_i a mid hf
    obtain ⟨⟨b, r'⟩, hg, hresult⟩ := Option.map_eq_some_iff.mp h
    obtain ⟨hcombine, rfl⟩ := Prod.mk.inj hresult
    exact ⟨a, mid, b, hf, hg, hcombine⟩

theorem Settled.andThen {α β γ : Type} {f : Nat → List Char → Option (α × List Char)}
    {g : Nat → List Char → Option (β × List Char)} {n : Nat} (hf : Settled f n)
    (hg : Settled g n) (combine : α → β → γ) :
    Settled (fun n => Json.andThen (f n) (g n) combine) n := by
  intro l r c h
  obtain ⟨a, mid, b, hread, hrest, rfl⟩ := andThen_eq_some h
  obtain ⟨hmid, hfuel⟩ := hf hread
  obtain ⟨hr, hfuel'⟩ := hg hrest
  exact ⟨hr.trans hmid, fun m hm => andThen_of_eq_some (hfuel m hm)
    (hfuel' m (Nat.le_trans hmid.length_le hm)) combine⟩

theorem skipBlank_suffix (l : List Char) : skipBlank l <:+ l := List.dropWhile_suffix _

theorem readHex_suffix {l r : List Char} {u : Nat} (h : readHex l = some (u, r)) : r <:+ l := by
  unfold readHex at h
  split at h
  · rename_i a b c d rest
    split at h
    · obtain ⟨-, rfl⟩ := Prod.mk.inj (Option.some.inj h)
      exact List.suffix_append [a, b, c, d] _
    · exact absurd h (Option.some_ne_none _).symm
  · exact absurd h (Option.some_ne_none _).symm

theorem readLow_suffix {l r : List Char} {u : Nat} (h : readLow l = some (u, r)) : r <:+ l := by
  unfold readLow at h
  split at h
  · rename_i rest
    exact (readHex_suffix (Option.filter_eq_some_iff.mp h).1).trans
      (List.suffix_append ['\\', 'u'] rest)
  · exact absurd h (Option.some_ne_none _).symm

theorem readUnicode_suffix {l r : List Char} {c : Char} (h : readUnicode l = some (c, r)) :
    r <:+ l := by
  unfold readUnicode at h
  split at h
  · exact absurd h (Option.some_ne_none _).symm
  · rename_i unit rest hhex
    have hrest := readHex_suffix hhex
    split at h
    · split at h
      · rename_i low rest' hlow
        obtain ⟨-, rfl⟩ := Prod.mk.inj (Option.some.inj h)
        exact (readLow_suffix hlow).trans hrest
      · obtain ⟨-, rfl⟩ := Prod.mk.inj (Option.some.inj h)
        exact hrest
    · split at h
      · obtain ⟨-, rfl⟩ := Prod.mk.inj (Option.some.inj h)
        exact hrest
      · obtain ⟨-, rfl⟩ := Prod.mk.inj (Option.some.inj h)
        exact hrest

theorem readEscape_suffix {l r : List Char} {c : Char} (h : readEscape l = some (c, r)) :
    r <:+ l := by
  cases l with
  | nil => exact absurd h (Option.some_ne_none _).symm
  | cons d rest =>
      rw [readEscape] at h
      split at h
      · exact (readUnicode_suffix h).trans (List.suffix_cons d rest)
      · split at h
        · obtain ⟨-, rfl⟩ := Prod.mk.inj (Option.some.inj h)
          exact List.suffix_cons d _
        · obtain ⟨entry, -, hentry⟩ := Option.map_eq_some_iff.mp h
          obtain ⟨-, rfl⟩ := Prod.mk.inj hentry
          exact List.suffix_cons d _

theorem readString_suffix : ∀ {n : Nat} {l r cs : List Char},
    readString n l = some (cs, r) → r <:+ l := by
  intro n
  induction n with
  | zero => exact fun h => absurd h (Option.some_ne_none _).symm
  | succ n ih =>
      intro l r cs h
      cases l with
      | nil => exact absurd h (Option.some_ne_none _).symm
      | cons c rest =>
          unfold readString at h
          split at h
          · obtain ⟨-, rfl⟩ := Prod.mk.inj (Option.some.inj h)
            exact List.suffix_cons c _
          · split at h
            · split at h
              · exact absurd h (Option.some_ne_none _).symm
              · rename_i d rest' hescape
                obtain ⟨⟨ds, r'⟩, hstring, hresult⟩ := Option.map_eq_some_iff.mp h
                obtain ⟨-, rfl⟩ := Prod.mk.inj hresult
                exact ((ih hstring).trans (readEscape_suffix hescape)).trans
                  (List.suffix_cons c rest)
            · split at h
              · exact absurd h (Option.some_ne_none _).symm
              · obtain ⟨⟨ds, r'⟩, hstring, hresult⟩ := Option.map_eq_some_iff.mp h
                obtain ⟨-, rfl⟩ := Prod.mk.inj hresult
                exact (ih hstring).trans (List.suffix_cons c rest)

theorem readKey_suffix {l r : List Char} {k : String} (h : readKey l = some (k, r)) :
    r <:+ l := by
  unfold readKey at h
  split at h
  · rename_i rest hquote
    split at h
    · exact absurd h (Option.some_ne_none _).symm
    · rename_i cs rest' hstring
      split at h
      · rename_i rest'' hcolon
        obtain ⟨-, rfl⟩ := Prod.mk.inj (Option.some.inj h)
        have hl : '"' :: rest <:+ l := hquote ▸ skipBlank_suffix l
        have hrest' : ':' :: rest'' <:+ rest' := hcolon ▸ skipBlank_suffix rest'
        exact (((List.suffix_cons ':' _).trans hrest').trans (readString_suffix hstring)).trans
          ((List.suffix_cons '"' rest).trans hl)
      · exact absurd h (Option.some_ne_none _).symm
  · exact absurd h (Option.some_ne_none _).symm

theorem settled_readKey (n : Nat) : Settled (fun _ => readKey) n :=
  fun _ _ _ h => ⟨readKey_suffix h, fun _ _ => h⟩

theorem readNumber_suffix {l r : List Char} {v : Json N} (h : readNumber read l = some (v, r)) :
    r <:+ l := by
  obtain ⟨n, -, hresult⟩ := Option.map_eq_some_iff.mp h
  obtain ⟨-, rfl⟩ := Prod.mk.inj hresult
  exact List.dropWhile_suffix _

theorem readLiteral_suffix {literal l r : List Char} {v w : Json N}
    (h : readLiteral literal v l = some (w, r)) : r <:+ l := by
  unfold readLiteral at h
  split at h
  · obtain ⟨-, rfl⟩ := Prod.mk.inj (Option.some.inj h)
    exact List.drop_suffix _ _
  · exact absurd h (Option.some_ne_none _).symm

/-- A bound for what starts with a character is a bound above one for what follows. -/
theorem exists_bound {c : Char} {rest l : List Char} (h : c :: rest <:+ l) {m : Nat}
    (hm : l.length ≤ m) : ∃ m', m = m' + 1 ∧ rest.length ≤ m' := by
  have hlength := Nat.le_trans h.length_le hm
  rw [List.length_cons] at hlength
  exact ⟨m - 1, by omega, by omega⟩

theorem settled_readElements_succ {n : Nat} (hvalue : Settled (readValue read) n)
    (helements : Settled (readElements read) n) : Settled (readElements read) (n + 1) := by
  intro l r vs h
  rw [readElements] at h
  split at h
  · rename_i rest hs
    obtain ⟨rfl, rfl⟩ := Prod.mk.inj (Option.some.inj h)
    have hl : ']' :: rest <:+ l := hs ▸ skipBlank_suffix l
    refine ⟨(List.suffix_cons _ _).trans hl, fun m hm => ?_⟩
    obtain ⟨m, rfl, -⟩ := exists_bound hl hm
    simp only [readElements, hs]
  · rename_i rest hs
    have hl : ',' :: rest <:+ l := hs ▸ skipBlank_suffix l
    obtain ⟨hr, hfuel⟩ := hvalue.andThen helements List.cons h
    refine ⟨hr.trans ((List.suffix_cons _ _).trans hl), fun m hm => ?_⟩
    obtain ⟨m, rfl, hrest⟩ := exists_bound hl hm
    simp only [readElements, hs]
    exact hfuel m hrest
  · exact absurd h (Option.some_ne_none _).symm

theorem settled_readMembers_succ {n : Nat} (hvalue : Settled (readValue read) n)
    (hmembers : Settled (readMembers read) n) : Settled (readMembers read) (n + 1) := by
  intro l r ms h
  rw [readMembers] at h
  split at h
  · rename_i rest hs
    obtain ⟨rfl, rfl⟩ := Prod.mk.inj (Option.some.inj h)
    have hl : '\x7d' :: rest <:+ l := hs ▸ skipBlank_suffix l
    refine ⟨(List.suffix_cons _ _).trans hl, fun m hm => ?_⟩
    obtain ⟨m, rfl, -⟩ := exists_bound hl hm
    simp only [readMembers, hs]
  · rename_i rest hs
    have hl : ',' :: rest <:+ l := hs ▸ skipBlank_suffix l
    obtain ⟨hr, hfuel⟩ :=
      ((settled_readKey n).andThen hvalue Prod.mk).andThen hmembers List.cons h
    refine ⟨hr.trans ((List.suffix_cons _ _).trans hl), fun m hm => ?_⟩
    obtain ⟨m, rfl, hrest⟩ := exists_bound hl hm
    simp only [readMembers, hs]
    exact hfuel m hrest
  · exact absurd h (Option.some_ne_none _).symm

theorem settled_readValue_succ {n : Nat} (hvalue : Settled (readValue read) n)
    (helements : Settled (readElements read) n) (hmembers : Settled (readMembers read) n) :
    Settled (readValue read) (n + 1) := by
  intro l r v h
  have hl := skipBlank_suffix l
  rw [readValue] at h
  split at h
  all_goals
    rename_i hs
    rw [hs] at hl
  · exact absurd h (Option.some_ne_none _).symm
  · rename_i rest
    refine ⟨?_, fun m hm => ?_⟩
    · obtain ⟨⟨cs, r'⟩, hstring, hresult⟩ := Option.map_eq_some_iff.mp h
      obtain ⟨-, rfl⟩ := Prod.mk.inj hresult
      exact (readString_suffix hstring).trans ((List.suffix_cons _ _).trans hl)
    · obtain ⟨m, rfl, -⟩ := exists_bound hl hm
      simp only [readValue, hs]
      exact h
  · rename_i rest
    split at h
    · rename_i rest' hs'
      obtain ⟨rfl, rfl⟩ := Prod.mk.inj (Option.some.inj h)
      have hrest : ']' :: rest' <:+ rest := hs' ▸ skipBlank_suffix rest
      refine ⟨((List.suffix_cons _ _).trans hrest).trans ((List.suffix_cons _ _).trans hl),
        fun m hm => ?_⟩
      obtain ⟨m, rfl, -⟩ := exists_bound hl hm
      simp only [readValue, hs, hs']
    · rename_i hne
      obtain ⟨hr, hfuel⟩ := hvalue.andThen helements (fun v vs => arr (v :: vs)) h
      refine ⟨hr.trans ((List.suffix_cons _ _).trans hl), fun m hm => ?_⟩
      obtain ⟨m, rfl, hrest⟩ := exists_bound hl hm
      simp only [readValue, hs]
      exact hfuel m hrest
  · rename_i rest
    split at h
    · rename_i rest' hs'
      obtain ⟨rfl, rfl⟩ := Prod.mk.inj (Option.some.inj h)
      have hrest : '\x7d' :: rest' <:+ rest := hs' ▸ skipBlank_suffix rest
      refine ⟨((List.suffix_cons _ _).trans hrest).trans ((List.suffix_cons _ _).trans hl),
        fun m hm => ?_⟩
      obtain ⟨m, rfl, -⟩ := exists_bound hl hm
      simp only [readValue, hs, hs']
    · rename_i hne
      obtain ⟨hr, hfuel⟩ := ((settled_readKey n).andThen hvalue Prod.mk).andThen hmembers
        (fun m ms => object (m :: ms)) h
      refine ⟨hr.trans ((List.suffix_cons _ _).trans hl), fun m hm => ?_⟩
      obtain ⟨m, rfl, hrest⟩ := exists_bound hl hm
      simp only [readValue, hs]
      exact hfuel m hrest
  · refine ⟨(readLiteral_suffix h).trans ((List.suffix_cons _ _).trans hl), fun m hm => ?_⟩
    obtain ⟨m, rfl, -⟩ := exists_bound hl hm
    simp only [readValue, hs]
    exact h
  · refine ⟨(readLiteral_suffix h).trans ((List.suffix_cons _ _).trans hl), fun m hm => ?_⟩
    obtain ⟨m, rfl, -⟩ := exists_bound hl hm
    simp only [readValue, hs]
    exact h
  · refine ⟨(readLiteral_suffix h).trans ((List.suffix_cons _ _).trans hl), fun m hm => ?_⟩
    obtain ⟨m, rfl, -⟩ := exists_bound hl hm
    simp only [readValue, hs]
    exact h
  · refine ⟨(readNumber_suffix h).trans hl, fun m hm => ?_⟩
    obtain ⟨m, rfl, -⟩ := exists_bound hl hm
    simp only [readValue, hs]
    exact h

theorem settled_zero {α : Type} {f : Nat → List Char → Option (α × List Char)}
    (h : ∀ l, f 0 l = none) : Settled f 0 := by
  intro l r a hread
  rw [h l] at hread
  exact absurd hread (Option.some_ne_none _).symm

theorem settled_readers (n : Nat) : Settled (readValue read) n ∧ Settled (readElements read) n ∧
    Settled (readMembers read) n := by
  induction n with
  | zero =>
      exact ⟨settled_zero fun _ => rfl, settled_zero fun _ => rfl, settled_zero fun _ => rfl⟩
  | succ n ih =>
      obtain ⟨hvalue, helements, hmembers⟩ := ih
      exact ⟨settled_readValue_succ hvalue helements hmembers,
        settled_readElements_succ hvalue helements, settled_readMembers_succ hvalue hmembers⟩

/-- **The length of a text is bound enough.** -/
theorem parse_eq_some_iff {s : String} {v : Json N} :
    parse read s = some v ↔
      ∃ n rest, readValue read n s.toList = some (v, rest) ∧ skipBlank rest = [] := by
  unfold parse
  constructor
  · intro h
    split at h
    · rename_i w rest hread
      split at h
      · rename_i hblank
        obtain rfl := Option.some.inj h
        exact ⟨_, rest, hread, hblank⟩
      · exact absurd h (Option.some_ne_none _).symm
    · exact absurd h (Option.some_ne_none _).symm
  · rintro ⟨n, rest, hread, hblank⟩
    rw [((settled_readers n).1 hread).2 _ (Nat.le_refl _)]
    exact if_pos hblank

/-- Reading members ends at the brace that closes the object. -/
theorem readMembers_brace : ∀ {n : Nat} {l r : List Char} {ms : List (String × Json N)},
    readMembers read n l = some (ms, r) → '\x7d' :: r <:+ l := by
  intro n
  induction n with
  | zero => exact fun h => absurd h (Option.some_ne_none _).symm
  | succ n ih =>
      intro l r ms h
      rw [readMembers] at h
      split at h
      · rename_i rest hs
        obtain ⟨-, rfl⟩ := Prod.mk.inj (Option.some.inj h)
        exact hs ▸ skipBlank_suffix l
      · rename_i rest hs
        have hl : ',' :: rest <:+ l := hs ▸ skipBlank_suffix l
        obtain ⟨member, mid, ms', hmember, hmembers, -⟩ := andThen_eq_some h
        have hmid := (((settled_readKey n).andThen (settled_readers n).1 Prod.mk) hmember).1
        exact ((ih hmembers).trans hmid).trans ((List.suffix_cons _ _).trans hl)
      · exact absurd h (Option.some_ne_none _).symm

theorem readValue_brace {n : Nat} {body r : List Char} {v : Json N}
    (h : readValue read n ('\x7b' :: body) = some (v, r)) : '\x7d' :: r <:+ body := by
  cases n with
  | zero => exact absurd h (Option.some_ne_none _).symm
  | succ n =>
      by_cases hclose : ∃ rest, skipBlank body = '\x7d' :: rest
      · obtain ⟨rest, hs⟩ := hclose
        have hread : readValue read (n + 1) ('\x7b' :: body) = some (object [], rest) := by
          have hblank : skipBlank ('\x7b' :: body) = '\x7b' :: body := skipBlank_cons rfl body
          simp only [readValue, hblank, hs]
        obtain ⟨-, rfl⟩ := Prod.mk.inj (Option.some.inj (hread.symm.trans h))
        exact hs ▸ skipBlank_suffix body
      · rw [readValue_members fun rest hs => hclose ⟨rest, hs⟩] at h
        obtain ⟨member, mid, ms, hmember, hmembers, -⟩ := andThen_eq_some h
        have hmid := (((settled_readKey n).andThen (settled_readers n).1 Prod.mk) hmember).1
        exact (readMembers_brace hmembers).trans hmid

/-- **A text that starts as an object ends as one**: with a brace, or with space behind it. -/
theorem object_text_ends {s : String} {body : List Char} {c : Char} {v : Json N}
    (hs : s.toList = '\x7b' :: (body ++ [c])) (h : parse read s = some v) :
    c = '\x7d' ∨ isBlank c = true := by
  obtain ⟨n, rest, hread, hblank⟩ := parse_eq_some_iff.mp h
  rw [hs] at hread
  obtain ⟨front, hfront⟩ := readValue_brace hread
  rcases List.eq_nil_or_concat rest with rfl | ⟨init, d, rfl⟩
  · exact Or.inl (List.cons.inj (List.append_inj' hfront rfl).2).1.symm
  · refine Or.inr ?_
    have hlast : (front ++ '\x7d' :: init) ++ [d] = body ++ [c] := by
      rw [← hfront]
      simp
    obtain rfl : d = c := (List.cons.inj (List.append_inj' hlast rfl).2).1
    exact List.dropWhile_eq_nil_iff.mp hblank d (by simp)

end

end Veridian.Json
