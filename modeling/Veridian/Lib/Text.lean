/-
Substring search, trimming and letter case on character lists.

Strings are read through `toList`, so everything here evaluates and the proofs are
list proofs.  `includes` and `position` are the same question asked twice, once as
a JavaScript method and once as an SQL function that answers with an offset;
`position_pos_iff` is what lets a proof move between them.
-/
import Mathlib.Data.List.Infix
import Mathlib.Data.String.Basic

namespace Veridian.Text

/-! ### Substrings -/

/-- `haystack.includes(needle)`. -/
def includes (haystack needle : String) : Bool :=
  decide (needle.toList <:+: haystack.toList)

/-- `haystack.startsWith(prefix)`. -/
def startsWith (haystack needle : String) : Bool :=
  decide (needle.toList <+: haystack.toList)

theorem startsWith_append {s needle : String} (h : startsWith s needle = true) (t : String) :
    startsWith (s ++ t) needle = true := by
  unfold startsWith at h ⊢
  rw [String.toList_append]
  exact decide_eq_true ((of_decide_eq_true h).trans (List.prefix_append _ _))

/-- `haystack.endsWith(suffix)`. -/
def endsWith (haystack needle : String) : Bool :=
  decide (needle.toList <:+ haystack.toList)

/-- `s.slice(0, -1)`. -/
def dropLast (s : String) : String :=
  String.ofList s.toList.dropLast

/-- The offset, from one, of the first place `needle` starts at; zero if none. -/
def positionList {α : Type*} [DecidableEq α] (needle : List α) : List α → Nat
  | [] => if needle = [] then 1 else 0
  | a :: rest =>
      if needle <+: a :: rest then 1
      else match positionList needle rest with
        | 0 => 0
        | n + 1 => n + 2

/-- `position(haystack, needle)`. -/
def position (haystack needle : String) : Nat :=
  positionList needle.toList haystack.toList

theorem positionList_pos_iff {α : Type*} [DecidableEq α] (needle : List α) :
    ∀ l : List α, 0 < positionList needle l ↔ needle <:+: l := by
  intro l
  induction l with
  | nil =>
      unfold positionList
      by_cases h : needle = [] <;> simp [h]
  | cons a rest ih =>
      unfold positionList
      rw [List.infix_cons_iff, ← ih]
      by_cases hpre : needle <+: a :: rest
      · simp [hpre]
      · rw [if_neg hpre]
        cases hrest : positionList needle rest with
        | zero => simp [hpre]
        | succ n => simp

theorem position_pos_iff (haystack needle : String) :
    0 < position haystack needle ↔ includes haystack needle = true := by
  unfold position includes
  rw [positionList_pos_iff, decide_eq_true_iff]

theorem position_eq_zero_iff (haystack needle : String) :
    position haystack needle = 0 ↔ includes haystack needle = false := by
  rw [← Bool.not_eq_true, ← position_pos_iff]
  omega

/-! ### Parts -/

/-- A list is taken apart at the first place a separator stands. -/
theorem cons_append_inj {α : Type*} {c : α} :
    ∀ {as bs us vs : List α}, c ∉ as → c ∉ bs →
      as ++ c :: us = bs ++ c :: vs → as = bs ∧ us = vs := by
  intro as
  induction as with
  | nil =>
      intro bs us vs _ hb hnil
      cases bs with
      | nil => exact ⟨rfl, (List.cons.inj hnil).2⟩
      | cons b rest => exact absurd ((List.cons.inj hnil).1 ▸ List.mem_cons_self) hb
  | cons a rest ih =>
      intro bs us vs ha hb hcons
      cases bs with
      | nil => exact absurd ((List.cons.inj hcons).1 ▸ List.mem_cons_self) ha
      | cons b rest' =>
          obtain ⟨rfl, hrest⟩ := List.cons.inj hcons
          obtain ⟨rfl, htail⟩ := ih (fun hc => ha (List.mem_cons_of_mem _ hc))
            (fun hc => hb (List.mem_cons_of_mem _ hc)) hrest
          exact ⟨rfl, htail⟩

/-- A list is taken apart at the last place a separator stands. -/
theorem append_cons_inj {α : Type*} {c : α} {xs ys ds es : List α} (hd : c ∉ ds) (he : c ∉ es)
    (h : xs ++ c :: ds = ys ++ c :: es) : xs = ys ∧ ds = es := by
  have hrev : ds.reverse ++ c :: xs.reverse = es.reverse ++ c :: ys.reverse := by
    have hreverse := congrArg List.reverse h
    simpa using hreverse
  obtain ⟨hds, hxs⟩ := cons_append_inj (by simpa using hd) (by simpa using he) hrev
  exact ⟨List.reverse_injective hxs, List.reverse_injective hds⟩

/-- `parts.join(c)` -/
def join {α : Type*} (c : α) : List (List α) → List α
  | [] => []
  | [part] => part
  | part :: rest => part ++ c :: join c rest

theorem join_cons {α : Type*} (c : α) (part next : List α) (rest : List (List α)) :
    join c (part :: next :: rest) = part ++ c :: join c (next :: rest) := rfl

theorem mem_of_mem_join {α : Type*} {c a : α} (ha : a ≠ c) :
    ∀ {parts : List (List α)}, a ∈ join c parts → ∃ part ∈ parts, a ∈ part := by
  intro parts
  induction parts with
  | nil => exact fun h => absurd h List.not_mem_nil
  | cons part rest ih =>
      cases rest with
      | nil => exact fun h => ⟨part, List.mem_cons_self, h⟩
      | cons next rest =>
          intro h
          rw [join_cons, List.mem_append, List.mem_cons] at h
          rcases h with h | h | h
          · exact ⟨part, List.mem_cons_self, h⟩
          · exact absurd h ha
          · obtain ⟨p, hp, hmem⟩ := ih h
            exact ⟨p, List.mem_cons_of_mem _ hp, hmem⟩

/-- Between two parts stands a separator. -/
theorem separator_mem_join {α : Type*} (c : α) (part next : List α) (rest : List (List α)) :
    c ∈ join c (part :: next :: rest) := by
  rw [join_cons]
  exact List.mem_append_right _ List.mem_cons_self

theorem join_ne_nil {α : Type*} {c : α} {part : List α} (hpart : part ≠ [])
    (rest : List (List α)) : join c (part :: rest) ≠ [] := by
  cases rest with
  | nil => exact hpart
  | cons next rest => exact List.ne_nil_of_mem (separator_mem_join c part next rest)

/-- **Parts that are not empty and have no separator are told apart by their join.** -/
theorem join_inj {α : Type*} {c : α} :
    ∀ {l m : List (List α)}, (∀ p ∈ l, p ≠ [] ∧ c ∉ p) → (∀ p ∈ m, p ≠ [] ∧ c ∉ p) →
      join c l = join c m → l = m := by
  intro l
  induction l with
  | nil =>
      intro m _ hm h
      cases m with
      | nil => rfl
      | cons q m => exact absurd h.symm (join_ne_nil (hm q List.mem_cons_self).1 m)
  | cons p l ih =>
      intro m hl hm h
      obtain ⟨hp, hsep⟩ := hl p List.mem_cons_self
      cases m with
      | nil => exact absurd h (join_ne_nil hp l)
      | cons q m =>
          have hq := (hm q List.mem_cons_self).2
          cases l with
          | nil =>
              cases m with
              | nil => exact congrArg (· :: []) h
              | cons q' m =>
                  have hmem := separator_mem_join c q q' m
                  rw [← h] at hmem
                  exact absurd hmem hsep
          | cons p' l =>
              cases m with
              | nil =>
                  have hmem := separator_mem_join c p p' l
                  rw [h] at hmem
                  exact absurd hmem hq
              | cons q' m =>
                  rw [join_cons, join_cons] at h
                  obtain ⟨rfl, hrest⟩ := cons_append_inj hsep hq h
                  rw [ih (fun x hx => hl x (List.mem_cons_of_mem _ hx))
                    (fun x hx => hm x (List.mem_cons_of_mem _ hx)) hrest]

/-- What is joined with a separator is made of it and of the parts. -/
theorem mem_intercalate {α : Type*} {a sep : α} {parts : List (List α)}
    (h : a ∈ [sep].intercalate parts) : a = sep ∨ ∃ part ∈ parts, a ∈ part := by
  induction parts with
  | nil => exact absurd h List.not_mem_nil
  | cons part rest ih =>
      cases rest with
      | nil => exact Or.inr ⟨part, List.mem_cons_self, by simpa using h⟩
      | cons next rest =>
          rw [List.intercalate_cons_cons, List.append_assoc, List.mem_append,
            List.mem_append, List.mem_singleton] at h
          rcases h with h | h | h
          · exact Or.inr ⟨part, List.mem_cons_self, h⟩
          · exact Or.inl h
          · refine (ih h).imp_right ?_
            rintro ⟨p, hp, hmem⟩
            exact ⟨p, List.mem_cons_of_mem _ hp, hmem⟩

/-- A number is read back from its digits. -/
theorem toDigits_inj {m n : Nat} (h : Nat.toDigits 10 m = Nat.toDigits 10 n) : m = n := by
  have hread := congrArg (Nat.ofDigitChars 10 · 0) h
  simpa only [Nat.ofDigitChars_ten_toDigits] using hread

theorem toList_toString (n : Nat) : (toString n).toList = Nat.toDigits 10 n := by
  rw [show toString n = n.repr from rfl, Nat.toList_repr]

theorem isDigit_of_mem_toString {n : Nat} {c : Char} (h : c ∈ (toString n).toList) :
    c.isDigit = true := by
  rw [toList_toString] at h
  exact Nat.isDigit_of_mem_toDigits (by decide) (by decide) h

/-! ### Trimming -/

/-- The characters `String.prototype.trim` removes: WhiteSpace and LineTerminator. -/
def isSpace (c : Char) : Bool :=
  let n := c.toNat
  (9 ≤ n && n ≤ 13) || n = 0x20 || n = 0xA0 || n = 0x1680 || (0x2000 ≤ n && n ≤ 0x200A) ||
    n = 0x2028 || n = 0x2029 || n = 0x202F || n = 0x205F || n = 0x3000 || n = 0xFEFF

/-- `s.trim()`. -/
def trim (s : String) : String :=
  String.ofList (((s.toList.dropWhile isSpace).reverse.dropWhile isSpace).reverse)

@[simp] theorem trim_empty : trim "" = "" := by decide

/-! ### Lengths -/

/-- `s.length`, in units of UTF-16. -/
def utf16Length (s : String) : Nat :=
  s.toList.foldr (fun c n => n + if c.toNat < 0x10000 then 1 else 2) 0

/-- A character has a unit at least. -/
theorem length_le_utf16Length (s : String) : s.toList.length ≤ utf16Length s := by
  unfold utf16Length
  induction s.toList with
  | nil => exact Nat.le_refl _
  | cons c rest ih =>
      rw [List.foldr_cons, List.length_cons]
      split <;> omega

theorem utf16Length_append (s t : String) :
    utf16Length (s ++ t) = utf16Length s + utf16Length t := by
  unfold utf16Length
  rw [String.toList_append, List.foldr_append]
  induction s.toList with
  | nil => exact (Nat.zero_add _).symm
  | cons c rest ih =>
      rw [List.foldr_cons, List.foldr_cons, ih]
      exact Nat.add_right_comm _ _ _

theorem utf16Length_pos {s : String} (h : s ≠ "") : 0 < utf16Length s := by
  refine Nat.lt_of_lt_of_le (List.length_pos_iff.mpr fun hnil => h ?_) (length_le_utf16Length s)
  exact String.toList_injective hnil

/-- The units of UTF-16, by which `sort` compares strings. -/
def codeUnits (s : String) : List Nat :=
  s.toList.flatMap fun c =>
    if c.toNat < 0x10000 then [c.toNat]
    else [0xD800 + (c.toNat - 0x10000) / 0x400, 0xDC00 + (c.toNat - 0x10000) % 0x400]

/-- `text.slice(0, n)` on the characters; half a character is written as U+FFFD. -/
def sliceUnits : Nat → List Char → List Char
  | _, [] => []
  | 0, _ => []
  | n + 1, c :: cs =>
      if c.toNat < 0x10000 then c :: sliceUnits n cs
      else match n with
        | 0 => ['\uFFFD']
        | n + 1 => c :: sliceUnits n cs

/-! ### Letter case -/

def isAscii (s : String) : Bool := s.toList.all fun c => decide (c.toNat < 128)

/-- Lower case of the letters A to Z, everything else unchanged. -/
def asciiLower (s : String) : String :=
  String.ofList (s.toList.map Char.toLower)

/-! ### Splitting -/

section

open String

/-- The state of the split at a separator of one character: `l` has been split off, `m` is the
part that is being read. -/
theorem splitOnAux_singleton (c : Char) (l m r : List Char) (acc : List String) :
    splitOnAux (ofList (l ++ m ++ r)) (ofList [c]) ⟨utf8Len l⟩ ⟨utf8Len l + utf8Len m⟩ 0 acc =
      acc.reverse ++ (List.splitOnPPrepend (· == c) r m.reverse).map ofList := by
  induction r generalizing l m acc with
  | nil =>
      have hend : Pos.Raw.atEnd (ofList (l ++ m ++ [])) ⟨utf8Len l + utf8Len m⟩ = true := by
        have hvalid := (atEnd_of_valid (l ++ m) []).mpr rfl
        rwa [utf8Len_append] at hvalid
      have hextract := extract_of_valid l m []
      unfold splitOnAux
      rw [if_pos hend]
      simp only [hextract]
      simp
  | cons d r ih =>
      have hend : ¬ Pos.Raw.atEnd (ofList (l ++ m ++ d :: r)) ⟨utf8Len l + utf8Len m⟩ = true := by
        intro h
        have hvalid := (atEnd_of_valid (l ++ m) (d :: r)).mp (by rwa [utf8Len_append])
        exact nomatch hvalid
      have hget := get_of_valid (l ++ m) (d :: r)
      have hnext := next_of_valid (l ++ m) d r
      have hextract := extract_of_valid l m (d :: r)
      rw [utf8Len_append] at hget hnext
      have hsep : Pos.Raw.get (ofList [c]) 0 = c := get_of_valid [] [c]
      have hsepNext : Pos.Raw.next (ofList [c]) 0 = ⟨c.utf8Size⟩ := by
        have h := next_of_valid [] c []
        simpa using h
      have hsepEnd : Pos.Raw.atEnd (ofList [c]) ⟨c.utf8Size⟩ = true := by
        have h := (atEnd_of_valid [c] []).mpr rfl
        simpa using h
      unfold splitOnAux
      rw [if_neg hend, hget, hsep]
      dsimp only [List.headD_cons]
      by_cases hd : d = c
      · subst hd
        have hback : (⟨utf8Len l + utf8Len m + d.utf8Size⟩ : Pos.Raw).unoffsetBy
            ⟨d.utf8Size⟩ = ⟨utf8Len l + utf8Len m⟩ := by
          simp [Pos.Raw.unoffsetBy]
        have hrest := ih (l ++ m ++ [d]) [] (ofList m :: acc)
        simp only [beq_self_eq_true, if_true]
        rw [hnext, hsepNext, if_pos hsepEnd, hback, hextract]
        simpa [List.splitOnPPrepend_cons_eq_if, Nat.add_assoc] using hrest
      · have hback : (⟨utf8Len l + utf8Len m⟩ : Pos.Raw).unoffsetBy 0 =
            ⟨utf8Len l + utf8Len m⟩ := by
          simp [Pos.Raw.unoffsetBy]
        have hrest := ih l (m ++ [d]) acc
        simp only [beq_eq_false_iff_ne.mpr hd, Bool.false_eq_true, if_false]
        rw [hback, hnext]
        simpa [List.splitOnPPrepend_cons_eq_if, hd, Nat.add_assoc] using hrest

/-- `s.split(c)`, with its parts as lists. -/
theorem splitOn_singleton (c : Char) (s : String) :
    s.splitOn (ofList [c]) = (s.toList.splitOn c).map ofList := by
  have hne : (ofList [c] == "") = false := beq_eq_false_iff_ne.mpr (by simp)
  have haux := splitOnAux_singleton c [] [] s.toList []
  have h0 : (⟨0⟩ : Pos.Raw) = 0 := rfl
  unfold splitOn
  rw [hne, List.splitOn_eq_splitOnP]
  simpa [h0, List.splitOnPPrepend_nil_right] using haux

/-- What a list is split at is in no part. -/
theorem notMem_of_mem_splitOn {α : Type*} [BEq α] [LawfulBEq α] {c : α} :
    ∀ (l : List α) {part : List α}, part ∈ l.splitOn c → c ∉ part := by
  intro l
  induction l with
  | nil =>
      intro part hpart
      rw [List.splitOn_nil, List.mem_singleton] at hpart
      rw [hpart]
      exact List.not_mem_nil
  | cons a rest ih =>
      intro part hpart
      rw [List.splitOn_cons_eq_if_modifyHead] at hpart
      split at hpart
      · rcases List.mem_cons.mp hpart with rfl | hrest
        · exact List.not_mem_nil
        · exact ih hrest
      · rename_i hne
        obtain ⟨head, tail, hsplit⟩ := List.exists_cons_of_ne_nil (List.splitOn_ne_nil c rest)
        rw [hsplit, List.modifyHead_cons] at hpart
        rcases List.mem_cons.mp hpart with rfl | htail
        · intro hmem
          rcases List.mem_cons.mp hmem with rfl | hmem
          · exact hne (by simp)
          · exact ih (hsplit ▸ List.mem_cons_self) hmem
        · exact ih (hsplit ▸ List.mem_cons_of_mem _ htail)

end

end Veridian.Text
