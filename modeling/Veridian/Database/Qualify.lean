/-
Qualifying the tables of a statement.

Before a statement is sent, `{database}` is replaced by the name of the workspace database,
and a word after FROM, INTO, ALTER TABLE, or UPDATE at the start, gets that name in front.
The replacements are global regular expressions over the whole text, so they do to the
inside of a literal what they do to the rest of the statement.
-/
import Veridian.Lib.Sql
import Veridian.Lib.Substitute

namespace Veridian

/-! ### Character classes -/

/-- `\w` -/
def isWord (c : Char) : Bool := c.isAlphanum || c == '_'

/-- `\s` -/
def isSpace (c : Char) : Bool :=
  [0x9, 0xA, 0xB, 0xC, 0xD, 0x20, 0xA0, 0x1680, 0x2028, 0x2029, 0x202F, 0x205F, 0x3000,
    0xFEFF].contains c.toNat || (0x2000 ≤ c.toNat && c.toNat ≤ 0x200A)

/-- What ends a literal or escapes a character of it. -/
def isBreak (c : Char) : Bool := c == Sql.quote || c == Sql.backslash

theorem clean_of_all {l : List Char} (h : l.all (fun c => !isBreak c) = true) :
    ∀ c ∈ l, isBreak c = false :=
  fun c hc => by simpa using List.all_eq_true.mp h c hc

theorem isBreak_iff {c : Char} : isBreak c = true ↔ c = Sql.quote ∨ c = Sql.backslash := by
  simp [isBreak]

theorem isWord_of_isBreak {c : Char} (h : isBreak c = true) : isWord c = false := by
  rcases isBreak_iff.mp h with rfl | rfl <;> decide

theorem isSpace_of_isBreak {c : Char} (h : isBreak c = true) : isSpace c = false := by
  rcases isBreak_iff.mp h with rfl | rfl <;> decide

theorem isBreak_of_isWord {c : Char} (h : isWord c = true) : isBreak c = false := by
  cases hb : isBreak c with
  | false => rfl
  | true => exact absurd h (by simp [isWord_of_isBreak hb])

theorem isBreak_of_isSpace {c : Char} (h : isSpace c = true) : isBreak c = false := by
  cases hb : isBreak c with
  | false => rfl
  | true => exact absurd h (by simp [isSpace_of_isBreak hb])

theorem toUpper_of_isBreak {c : Char} (h : isBreak c = true) : c.toUpper = c := by
  rcases isBreak_iff.mp h with rfl | rfl <;> decide

theorem isUpper_iff {c : Char} : c.isUpper = true ↔ 65 ≤ c.toNat ∧ c.toNat ≤ 90 :=
  decide_eq_true_iff

theorem isLower_iff {c : Char} : c.isLower = true ↔ 97 ≤ c.toNat ∧ c.toNat ≤ 122 :=
  Bool.and_eq_true_iff.trans (and_congr decide_eq_true_iff decide_eq_true_iff)

theorem isDigit_iff {c : Char} : c.isDigit = true ↔ 48 ≤ c.toNat ∧ c.toNat ≤ 57 :=
  Bool.and_eq_true_iff.trans (and_congr decide_eq_true_iff decide_eq_true_iff)

theorem isWord_iff {c : Char} : isWord c = true ↔
    ((c.isUpper = true ∨ c.isLower = true) ∨ c.isDigit = true) ∨ c = '_' := by
  show (((c.isUpper || c.isLower) || c.isDigit) || c == '_') = true ↔ _
  rw [Bool.or_eq_true_iff, Bool.or_eq_true_iff, Bool.or_eq_true_iff, beq_iff_eq]

theorem isBreak_of_isUpper {c : Char} (h : c.isUpper = true) : isBreak c = false :=
  isBreak_of_isWord (isWord_iff.mpr (Or.inl (Or.inl (Or.inl h))))

/-- The characters of a text that are not white space. -/
def isInk (c : Char) : Bool := !isSpace c

theorem isInk_of_isWord {c : Char} (h : isWord c = true) : isInk c = true := by
  have hspace : isSpace c = false := by
    unfold isSpace
    simp only [Bool.or_eq_false_iff, List.contains_eq_mem, decide_eq_false_iff_not, List.mem_cons,
      List.not_mem_nil, Bool.and_eq_false_iff, not_le, or_false, not_or]
    rw [isWord_iff, isUpper_iff, isLower_iff, isDigit_iff] at h
    rcases h with ((h | h) | h) | rfl
    · omega
    · omega
    · omega
    · decide
  rw [isInk, hspace]
  rfl

/-- Only letters are brought to upper case. -/
theorem isUpper_or_isLower_of_toUpper {c : Char} (h : c.toUpper.isUpper = true) :
    c.isUpper = true ∨ c.isLower = true := by
  by_cases hlower : c.isLower = true
  · exact Or.inr hlower
  · rw [isLower_iff] at hlower
    have hsame : c.toUpper = c := dif_neg hlower
    rw [hsame] at h
    exact Or.inl h

theorem isWord_of_toUpper {c : Char} (h : c.toUpper.isUpper = true) : isWord c = true :=
  isWord_iff.mpr (Or.inl (Or.inl (isUpper_or_isLower_of_toUpper h)))

/-! ### The database of a workspace -/

/-- A character outside the basic plane is two units, each of them replaced. -/
def getWorkspaceDatabaseName (workspaceId : String) : List Char :=
  "staminads_ws_".toList ++ workspaceId.toList.flatMap fun c =>
    if isWord c then [c] else if c.toNat < 0x10000 then ['_'] else ['_', '_']

theorem databaseName_isWord (workspaceId : String) :
    ∀ c ∈ getWorkspaceDatabaseName workspaceId, isWord c = true := by
  refine List.forall_mem_append.mpr ⟨List.all_eq_true.mp (by decide), fun c hc => ?_⟩
  obtain ⟨x, -, hx⟩ := List.mem_flatMap.mp hc
  split at hx
  · rename_i hword
    rw [List.mem_singleton.mp hx]
    exact hword
  · have hc' : c = '_' := by
      split at hx <;> simpa using hx
    rw [hc']
    decide

theorem databaseName_length (workspaceId : String) :
    13 ≤ (getWorkspaceDatabaseName workspaceId).length := by
  unfold getWorkspaceDatabaseName
  rw [List.length_append]
  exact Nat.le_add_right 13 _

/-! ### The placeholder -/

def placeholder : List Char := "\x7bdatabase\x7d".toList

def findPlaceholder (workspaceId : String) (_prev : Option Char) (l : List Char) :
    Option (Nat × List Char) :=
  if l.take placeholder.length = placeholder then
    some (placeholder.length, getWorkspaceDatabaseName workspaceId)
  else none

/-! ### Table references -/

inductive TableKeyword where
  | FROM | INTO | ALTER_TABLE
  deriving DecidableEq, Repr

def TableKeyword.words : TableKeyword → List (List Char)
  | .FROM => ["FROM".toList]
  | .INTO => ["INTO".toList]
  | .ALTER_TABLE => ["ALTER".toList, "TABLE".toList]

/-- `keyword\s+`, in any case: what comes after it. -/
def afterKeyword (keyword l : List Char) : Option (List Char) :=
  if (l.take keyword.length).map Char.toUpper = keyword then
    match l.drop keyword.length with
    | [] => none
    | c :: cs => if isSpace c then some (cs.dropWhile isSpace) else none
  else none

def afterKeywords : List (List Char) → List Char → Option (List Char)
  | [], l => some l
  | keyword :: keywords, l => (afterKeyword keyword l).bind (afterKeywords keywords)

/-- `(\w+)\b`: the table and what comes after it. -/
def tableName (l : List Char) : Option (List Char × List Char) :=
  if l.takeWhile isWord = [] then none else some (l.takeWhile isWord, l.dropWhile isWord)

/-- `\bkeyword\s+(\w+)\b` -/
def tableReference (keyword : TableKeyword) (prev : Option Char) (l : List Char) :
    Option (List Char × List Char) :=
  if prev.any isWord then none else (afterKeywords keyword.words l).bind tableName

/-- `KEYWORD database.table` -/
def qualified (keyword : TableKeyword) (workspaceId : String) (table : List Char) : List Char :=
  keyword.words.flatMap (· ++ [' ']) ++ getWorkspaceDatabaseName workspaceId ++ '.' :: table

def findReference (keyword : TableKeyword) (workspaceId : String) (prev : Option Char)
    (l : List Char) : Option (Nat × List Char) :=
  (tableReference keyword prev l).map fun (table, rest) =>
    (l.length - rest.length, qualified keyword workspaceId table)

/-- `/^(\s*)UPDATE\s+(\w+)\b/` -/
def qualifyUpdate (workspaceId : String) (l : List Char) : List Char :=
  match (afterKeyword "UPDATE".toList (l.dropWhile isSpace)).bind tableName with
  | none => l
  | some (table, rest) =>
      l.takeWhile isSpace ++ "UPDATE ".toList ++ getWorkspaceDatabaseName workspaceId ++
        '.' :: table ++ rest

/-! ### What a match is made of -/

theorem dropWhile_append_break {q : Char → Bool} {b : Char} (hb : q b = false)
    (l r : List Char) : (l ++ b :: r).dropWhile q = l.dropWhile q ++ b :: r := by
  rw [List.dropWhile_append]
  split
  · rename_i hnil
    rw [List.isEmpty_iff.mp hnil, List.dropWhile_cons, hb]
    rfl
  · rfl

theorem takeWhile_append_break {q : Char → Bool} {b : Char} (hb : q b = false)
    (l r : List Char) : (l ++ b :: r).takeWhile q = l.takeWhile q := by
  rw [List.takeWhile_append]
  split
  · rename_i hlen
    rw [List.takeWhile_cons, hb]
    simpa using ((List.takeWhile_sublist q).eq_of_length hlen).symm
  · rfl

/-- A prefix without breaks is found before a break or not at all. -/
theorem take_append_break {f : Char → Char} {b : Char} {word l r : List Char}
    (hb : f b ∉ word) :
    ((l ++ b :: r).take word.length).map f = word ↔ (l.take word.length).map f = word := by
  rcases Nat.lt_or_ge l.length word.length with hlt | hge
  · constructor
    · intro h
      refine absurd ?_ hb
      rw [← h]
      refine List.mem_map.mpr ⟨b, ?_, rfl⟩
      rw [List.mem_take_iff_getElem]
      exact ⟨l.length, by simp; omega, by simp⟩
    · intro h
      have hlen := congrArg List.length h
      rw [List.length_map, List.length_take] at hlen
      omega
  · rw [List.take_append_of_le_length hge]

theorem TableKeyword.words_isUpper (keyword : TableKeyword) :
    ∀ word ∈ keyword.words, ∀ c ∈ word, c.isUpper = true := by
  have hall : keyword.words.all (fun word => word.all Char.isUpper) = true := by
    cases keyword <;> decide
  exact fun word hword => List.all_eq_true.mp (List.all_eq_true.mp hall word hword)

theorem afterKeyword_append {word : List Char} (hword : ∀ c ∈ word, c.isUpper = true) {b : Char}
    (hb : isBreak b = true) (l r : List Char) :
    afterKeyword word (l ++ b :: r) = (afterKeyword word l).map (· ++ b :: r) := by
  have hnot : b.toUpper ∉ word := by
    intro hmem
    rw [toUpper_of_isBreak hb] at hmem
    exact absurd hb (by simp [isBreak_of_isUpper (hword b hmem)])
  unfold afterKeyword
  by_cases h : (l.take word.length).map Char.toUpper = word
  · rw [if_pos h, if_pos ((take_append_break hnot).mpr h)]
    have hle : word.length ≤ l.length := by
      have hlen := congrArg List.length h
      rw [List.length_map, List.length_take] at hlen
      omega
    rw [List.drop_append_of_le_length hle]
    cases l.drop word.length with
    | nil => simp [isSpace_of_isBreak hb]
    | cons c cs =>
        simp only [List.cons_append]
        split
        · rw [dropWhile_append_break (isSpace_of_isBreak hb)]
          rfl
        · rfl
  · rw [if_neg h, if_neg fun h' => h ((take_append_break hnot).mp h')]
    rfl

theorem afterKeywords_append {b : Char} (hb : isBreak b = true) (r : List Char) :
    ∀ {words : List (List Char)}, (∀ word ∈ words, ∀ c ∈ word, c.isUpper = true) →
      ∀ l, afterKeywords words (l ++ b :: r) = (afterKeywords words l).map (· ++ b :: r) := by
  intro words
  induction words with
  | nil => intro _ l; rfl
  | cons word words ih =>
      intro hwords l
      have hrest := ih fun w hw => hwords w (List.mem_cons_of_mem word hw)
      rw [afterKeywords, afterKeywords,
        afterKeyword_append (hwords word List.mem_cons_self) hb]
      cases afterKeyword word l with
      | none => rfl
      | some rest => exact hrest rest

theorem tableName_append {b : Char} (hb : isBreak b = true) (l r : List Char) :
    tableName (l ++ b :: r) = (tableName l).map fun (table, rest) => (table, rest ++ b :: r) := by
  unfold tableName
  rw [takeWhile_append_break (isWord_of_isBreak hb), dropWhile_append_break (isWord_of_isBreak hb)]
  split <;> rfl

theorem tableReference_append (keyword : TableKeyword) (prev : Option Char) {b : Char}
    (hb : isBreak b = true) (l r : List Char) :
    tableReference keyword prev (l ++ b :: r) =
      (tableReference keyword prev l).map fun (table, rest) => (table, rest ++ b :: r) := by
  unfold tableReference
  split
  · rfl
  · rw [afterKeywords_append hb r keyword.words_isUpper]
    cases afterKeywords keyword.words l with
    | none => rfl
    | some rest => exact tableName_append hb rest r

/-- The keywords of a match are as many letters as the keyword has, and white space. -/
theorem afterKeyword_split {word l rest : List Char} (hword : ∀ c ∈ word, c.isUpper = true)
    (h : afterKeyword word l = some rest) :
    ∃ matched, l = matched ++ rest ∧ (∀ c ∈ matched, isBreak c = false) ∧
      matched.countP isInk = word.length := by
  unfold afterKeyword at h
  split at h
  · rename_i htake
    have hword' : ∀ c ∈ l.take word.length, isWord c = true := by
      intro c hc
      refine isWord_of_toUpper (hword _ ?_)
      rw [← htake]
      exact List.mem_map_of_mem hc
    have hcount : (l.take word.length).countP isInk = word.length := by
      have hlen := congrArg List.length htake
      rw [List.length_map] at hlen
      rw [List.countP_eq_length.mpr fun c hc => isInk_of_isWord (hword' c hc), hlen]
    cases hdrop : l.drop word.length with
    | nil => rw [hdrop] at h; exact absurd h (by simp)
    | cons c cs =>
        rw [hdrop] at h
        simp only at h
        split at h
        · rename_i hc
          obtain rfl := Option.some.inj h
          have hspaces : ∀ x ∈ c :: cs.takeWhile isSpace, isSpace x = true :=
            List.forall_mem_cons.mpr ⟨hc, fun x hx => List.mem_takeWhile_imp hx⟩
          refine ⟨l.take word.length ++ c :: cs.takeWhile isSpace, ?_, ?_, ?_⟩
          · rw [List.append_assoc, List.cons_append, List.takeWhile_append_dropWhile, ← hdrop,
              List.take_append_drop]
          · exact List.forall_mem_append.mpr ⟨fun x hx => isBreak_of_isWord (hword' x hx),
              fun x hx => isBreak_of_isSpace (hspaces x hx)⟩
          · rw [List.countP_append, hcount, List.countP_eq_zero.mpr, Nat.add_zero]
            intro x hx
            simp [isInk, hspaces x hx]
        · exact absurd h (by simp)
  · exact absurd h (by simp)

theorem afterKeywords_split :
    ∀ {words : List (List Char)} {l rest : List Char},
      (∀ word ∈ words, ∀ c ∈ word, c.isUpper = true) → afterKeywords words l = some rest →
      ∃ matched, l = matched ++ rest ∧ (∀ c ∈ matched, isBreak c = false) ∧
        matched.countP isInk = words.flatten.length := by
  intro words
  induction words with
  | nil =>
      intro l rest _ h
      obtain rfl := Option.some.inj h
      exact ⟨[], rfl, by simp, rfl⟩
  | cons word words ih =>
      intro l rest hwords h
      obtain ⟨middle, hmiddle, hrest⟩ := Option.bind_eq_some_iff.mp h
      obtain ⟨matched, rfl, hclean, hcount⟩ :=
        afterKeyword_split (hwords word List.mem_cons_self) hmiddle
      obtain ⟨matched', rfl, hclean', hcount'⟩ :=
        ih (fun w hw => hwords w (List.mem_cons_of_mem word hw)) hrest
      refine ⟨matched ++ matched', (List.append_assoc _ _ _).symm, ?_, ?_⟩
      · exact List.forall_mem_append.mpr ⟨hclean, hclean'⟩
      · rw [List.countP_append, hcount, hcount', List.flatten_cons, List.length_append]

/-- A match: keywords, and the word behind them. -/
theorem tableReference_split {keyword : TableKeyword} {prev : Option Char}
    {l table rest : List Char} (h : tableReference keyword prev l = some (table, rest)) :
    table ≠ [] ∧ (∀ c ∈ table, isWord c = true) ∧
      ∃ matched, l = matched ++ table ++ rest ∧ (∀ c ∈ matched, isBreak c = false) ∧
        matched.countP isInk = keyword.words.flatten.length := by
  unfold tableReference at h
  split at h
  · exact absurd h (by simp)
  · obtain ⟨after, hafter, htable⟩ := Option.bind_eq_some_iff.mp h
    obtain ⟨matched, rfl, hclean, hcount⟩ := afterKeywords_split keyword.words_isUpper hafter
    unfold tableName at htable
    split at htable
    · exact absurd htable (by simp)
    · rename_i hne
      obtain ⟨rfl, rfl⟩ := Prod.mk.inj (Option.some.inj htable)
      refine ⟨hne, fun c hc => List.mem_takeWhile_imp hc, matched, ?_, hclean, hcount⟩
      rw [List.append_assoc, List.takeWhile_append_dropWhile]

/-! ### The patterns -/

def placeholderPattern (workspaceId : String) : Substitute.Pattern isBreak where
  find := findPlaceholder workspaceId
  bounds := by
    intro prev l n out h
    unfold findPlaceholder at h
    split at h
    · rename_i htake
      obtain ⟨rfl, -⟩ := Prod.mk.inj (Option.some.inj h)
      have hlen := congrArg List.length htake
      rw [List.length_take] at hlen
      exact ⟨by decide, by omega⟩
    · exact absurd h (by simp)
  clean := by
    intro prev l n out h
    unfold findPlaceholder at h
    split at h
    · rename_i htake
      obtain ⟨rfl, rfl⟩ := Prod.mk.inj (Option.some.inj h)
      rw [htake]
      exact ⟨clean_of_all (by decide),
        fun c hc => isBreak_of_isWord (databaseName_isWord workspaceId c hc)⟩
    · exact absurd h (by simp)
  find_append := by
    intro prev l b r hb
    have hnot : id b ∉ placeholder := by
      rcases isBreak_iff.mp hb with rfl | rfl <;> decide
    have htake := take_append_break (l := l) (r := r) hnot
    rw [List.map_id, List.map_id] at htake
    unfold findPlaceholder
    simp only [htake]
  find_after := fun _ => rfl

def referencePattern (keyword : TableKeyword) (workspaceId : String) :
    Substitute.Pattern isBreak where
  find := findReference keyword workspaceId
  bounds := by
    intro prev l n out h
    obtain ⟨⟨table, rest⟩, hreference, heq⟩ := Option.map_eq_some_iff.mp h
    obtain ⟨hne, -, matched, rfl, -, -⟩ := tableReference_split hreference
    obtain ⟨rfl, -⟩ := Prod.mk.inj heq
    have hpos := List.length_pos_iff.mpr hne
    simp only [List.length_append]
    omega
  clean := by
    intro prev l n out h
    obtain ⟨⟨table, rest⟩, hreference, heq⟩ := Option.map_eq_some_iff.mp h
    obtain ⟨-, hword, matched, rfl, hclean, -⟩ := tableReference_split hreference
    obtain ⟨rfl, rfl⟩ := Prod.mk.inj heq
    have htable : ∀ c ∈ table, isBreak c = false := fun c hc => isBreak_of_isWord (hword c hc)
    constructor
    · rw [List.length_append, Nat.add_sub_cancel, List.take_left]
      exact List.forall_mem_append.mpr ⟨hclean, htable⟩
    · unfold qualified
      refine List.forall_mem_append.mpr ⟨List.forall_mem_append.mpr ⟨?_, ?_⟩, ?_⟩
      · cases keyword <;> exact clean_of_all (by decide)
      · exact fun c hc => isBreak_of_isWord (databaseName_isWord workspaceId c hc)
      · exact List.forall_mem_cons.mpr ⟨by decide, htable⟩
  find_append := by
    intro prev l b r hb
    unfold findReference
    rw [tableReference_append keyword prev hb, Option.map_map]
    cases tableReference keyword prev l with
    | none => rfl
    | some m =>
        obtain ⟨table, rest⟩ := m
        have hlen : (l ++ b :: r).length - (rest ++ b :: r).length = l.length - rest.length := by
          rw [List.length_append, List.length_append, Nat.add_sub_add_right]
        exact congrArg (fun n => some (n, qualified keyword workspaceId table)) hlen
  find_after := by
    intro b l hb
    unfold findReference tableReference
    simp [isWord_of_isBreak hb]

/-! ### What a match weighs -/

theorem placeholderPattern_grows (workspaceId : String) :
    (placeholderPattern workspaceId).Grows isInk := by
  intro prev l n out h
  show (l.take n).countP isInk < _
  have h' : findPlaceholder workspaceId prev l = some (n, out) := h
  unfold findPlaceholder at h'
  split at h'
  · rename_i htake
    obtain ⟨rfl, rfl⟩ := Prod.mk.inj (Option.some.inj h')
    have hname : (getWorkspaceDatabaseName workspaceId).countP isInk =
        (getWorkspaceDatabaseName workspaceId).length :=
      List.countP_eq_length.mpr fun c hc => isInk_of_isWord (databaseName_isWord workspaceId c hc)
    have hlen := databaseName_length workspaceId
    have hten : placeholder.countP isInk = 10 := by decide
    rw [htake, hname, hten]
    omega
  · exact absurd h' (by simp)

theorem referencePattern_grows (keyword : TableKeyword) (workspaceId : String) :
    (referencePattern keyword workspaceId).Grows isInk := by
  intro prev l n out h
  obtain ⟨⟨table, rest⟩, hreference, heq⟩ := Option.map_eq_some_iff.mp h
  obtain ⟨-, -, matched, rfl, -, hcount⟩ := tableReference_split hreference
  obtain ⟨rfl, rfl⟩ := Prod.mk.inj heq
  have hkeyword : (keyword.words.flatMap (· ++ [' '])).countP isInk =
      keyword.words.flatten.length := by
    cases keyword <;> decide
  have hdot : isInk '.' = true := by decide
  rw [List.length_append, Nat.add_sub_cancel, List.take_left, List.countP_append, hcount]
  unfold qualified
  rw [List.countP_append, List.countP_append, hkeyword, List.countP_cons, if_pos hdot]
  omega

/-! ### The statement that is sent -/

def qualifyTableNames (workspaceId : String) (sql : List Char) : List Char :=
  Substitute.replaceAll (referencePattern .ALTER_TABLE workspaceId)
    (qualifyUpdate workspaceId
      (Substitute.replaceAll (referencePattern .INTO workspaceId)
        (Substitute.replaceAll (referencePattern .FROM workspaceId) sql)))

/-- The text of the query; the parameters are sent beside it. -/
def commandWorkspaceWithParams (workspaceId sql : String) : List Char :=
  qualifyTableNames workspaceId
    (Substitute.replaceAll (placeholderPattern workspaceId) sql.toList)

/-! ### What is done to a quoted value -/

def patterns (workspaceId : String) : List (Substitute.Pattern isBreak) :=
  [placeholderPattern workspaceId, referencePattern .FROM workspaceId,
    referencePattern .INTO workspaceId, referencePattern .ALTER_TABLE workspaceId]

theorem mem_patterns {workspaceId : String} {p : Substitute.Pattern isBreak}
    (h : p ∈ patterns workspaceId) : p = placeholderPattern workspaceId ∨
      ∃ keyword, p = referencePattern keyword workspaceId := by
  simp only [patterns, List.mem_cons, List.not_mem_nil, or_false] at h
  rcases h with rfl | rfl | rfl | rfl
  · exact Or.inl rfl
  · exact Or.inr ⟨_, rfl⟩
  · exact Or.inr ⟨_, rfl⟩
  · exact Or.inr ⟨_, rfl⟩

theorem patterns_grow (workspaceId : String) : ∀ p ∈ patterns workspaceId, p.Grows isInk := by
  intro p hp
  rcases mem_patterns hp with rfl | ⟨keyword, rfl⟩
  · exact @placeholderPattern_grows workspaceId
  · exact @referencePattern_grows keyword workspaceId

/-- Something in the value is taken for the placeholder or a table reference. -/
def LooksLikeSql (workspaceId : String) (v : String) : Prop :=
  ∃ p ∈ patterns workspaceId, Substitute.occurs p v.toList = true

instance (workspaceId v : String) : Decidable (LooksLikeSql workspaceId v) :=
  inferInstanceAs (Decidable (∃ p ∈ patterns workspaceId, Substitute.occurs p v.toList = true))

/-- **A value is changed exactly if it looks like SQL.** -/
theorem replaceEach_value_iff (workspaceId v : String) :
    Substitute.replaceEach (patterns workspaceId) v.toList = v.toList ↔
      ¬LooksLikeSql workspaceId v := by
  rw [Substitute.replaceEach_eq_self_iff (patterns_grow workspaceId)]
  simp [LooksLikeSql]

/-- A statement that starts with another word is not an `UPDATE`. -/
theorem qualifyUpdate_of_ne {c : Char} (hspace : isSpace c = false) (hc : c.toUpper ≠ 'U')
    (workspaceId : String) (l : List Char) : qualifyUpdate workspaceId (c :: l) = c :: l := by
  have hnone : afterKeyword "UPDATE".toList ((c :: l).dropWhile isSpace) = none := by
    rw [List.dropWhile_cons, hspace]
    refine if_neg fun h => hc ?_
    have hhead := congrArg List.head? h
    simpa using hhead
  unfold qualifyUpdate
  rw [hnone]
  rfl

theorem placeholder_not_at {c : Char} (hc : c ≠ '\x7b') (workspaceId : String)
    (prev : Option Char) (cs : List Char) :
    (placeholderPattern workspaceId).find prev (c :: cs) = none := by
  refine if_neg fun htake => hc ?_
  exact Option.some.inj (congrArg List.head? htake)

/-- The letter a keyword starts with. -/
def TableKeyword.initial : TableKeyword → Char
  | .FROM => 'F'
  | .INTO => 'I'
  | .ALTER_TABLE => 'A'

theorem reference_not_at {keyword : TableKeyword} {c : Char} (hc : c.toUpper ≠ keyword.initial)
    (workspaceId : String) (prev : Option Char) (cs : List Char) :
    (referencePattern keyword workspaceId).find prev (c :: cs) = none := by
  have hafter : afterKeywords keyword.words (c :: cs) = none := by
    obtain ⟨rest, more, hwords⟩ : ∃ rest more,
        keyword.words = (keyword.initial :: rest) :: more := by
      cases keyword <;> exact ⟨_, _, rfl⟩
    have hnone : afterKeyword (keyword.initial :: rest) (c :: cs) = none := by
      refine if_neg fun htake => hc ?_
      exact Option.some.inj (congrArg List.head? htake)
    rw [hwords, afterKeywords, hnone]
    rfl
  show (tableReference keyword prev (c :: cs)).map _ = none
  unfold tableReference
  rw [hafter]
  split <;> rfl

/-- A text looks like SQL only where it has a letter or an opening brace. -/
theorem not_looksLikeSql {v : String}
    (h : ∀ c ∈ v.toList, ¬(c = '\x7b' ∨ c.toUpper.isUpper = true)) (workspaceId : String) :
    ¬LooksLikeSql workspaceId v := by
  rintro ⟨p, hp, hocc⟩
  have hnone : Substitute.occurs p v.toList = false := by
    refine Substitute.occursFrom_eq_false (fun c => c = '\x7b' ∨ c.toUpper.isUpper = true) ?_ h
    intro prev c cs hc
    obtain ⟨hbrace, hletter⟩ := not_or.mp hc
    rcases mem_patterns hp with rfl | ⟨keyword, rfl⟩
    · exact placeholder_not_at hbrace workspaceId prev cs
    · refine reference_not_at (fun hinitial => hletter ?_) workspaceId prev cs
      rw [hinitial]
      cases keyword <;> decide
  exact Bool.false_ne_true (hnone.symm.trans hocc)

/-! ### A statement with quoted values -/

/-- The values of a statement that starts with ALTER are rewritten one by one. -/
theorem commandWorkspaceWithParams_quoted (workspaceId : String) {sql : String} {rest : List Char}
    (hsql : sql.toList = 'A' :: rest) {vs : List (List Char)}
    (h : Substitute.Quoted isBreak Sql.backslash Sql.quote sql.toList vs) :
    Substitute.Quoted isBreak Sql.backslash Sql.quote (commandWorkspaceWithParams workspaceId sql)
      (vs.map (Substitute.replaceEach (patterns workspaceId))) := by
  have hesc : isBreak Sql.backslash = true := by decide
  have hquote : isBreak Sql.quote = true := by decide
  have hplaceholder := h.replaceAll (p := placeholderPattern workspaceId) hesc hquote
  have hfrom := hplaceholder.replaceAll (p := referencePattern .FROM workspaceId) hesc hquote
  have hinto := hfrom.replaceAll (p := referencePattern .INTO workspaceId) hesc hquote
  -- the statement still starts with ALTER
  have hstart : Substitute.replaceAll (referencePattern .INTO workspaceId)
      (Substitute.replaceAll (referencePattern .FROM workspaceId)
        (Substitute.replaceAll (placeholderPattern workspaceId) sql.toList)) =
      qualifyUpdate workspaceId (Substitute.replaceAll (referencePattern .INTO workspaceId)
        (Substitute.replaceAll (referencePattern .FROM workspaceId)
          (Substitute.replaceAll (placeholderPattern workspaceId) sql.toList))) := by
    rw [hsql]
    unfold Substitute.replaceAll
    rw [Substitute.replaceFrom_of_none (placeholder_not_at (by decide) workspaceId none rest),
      Substitute.replaceFrom_of_none (reference_not_at (by decide) workspaceId none _),
      Substitute.replaceFrom_of_none (reference_not_at (by decide) workspaceId none _)]
    exact (qualifyUpdate_of_ne (by decide) (by decide) workspaceId _).symm
  rw [hstart] at hinto
  have halter := hinto.replaceAll (p := referencePattern .ALTER_TABLE workspaceId) hesc hquote
  rw [List.map_map, List.map_map, List.map_map] at halter
  exact halter

end Veridian
