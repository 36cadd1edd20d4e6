/-
Which activities have ids of their own.

The id of an activity is a digest of one text: the Person, the event and the name, with
colons between them.  A Person id has no colon, but a token may have one, in the session id
or in the name of the goal, and so may a name.  Two texts are the same exactly when the
longer token goes on with a colon and the rest of it stands, with a colon, in front of the
other name.  What a token can end in behind such a colon is `TokenRest`.
-/
import Mathlib.Data.List.GetD
import Veridian.Events.Handler
import Veridian.Webhooks.TwentyTimeline

namespace Veridian.TwentyConnector

open TwentyEventMapper

/-! ### The parts of the text -/

/-- How the runtime writes a number in a text. -/
structure NumberText where
  text : ℚ → String
  nonempty : ∀ x, text x ≠ ""
  chars : ∀ x, ∀ c ∈ (text x).toList, c.isDigit = true ∨ c ∈ ['-', '+', '.', 'e']
  /-- A whole number that is not too large is written with its digits. -/
  whole : ∀ n : ℤ, n.natAbs < 10 ^ 21 → text n = toString n

def MAX_GOAL_NAME_LENGTH : Nat := 100

/-- `@IsNotEmpty() @MaxLength(MAX_GOAL_NAME_LENGTH)` -/
def GoalName (name : String) : Prop :=
  name ≠ "" ∧ Text.utf16Length name ≤ MAX_GOAL_NAME_LENGTH

/-- The tokens of the actions that the endpoint takes. -/
inductive DedupToken (numbers : NumberText) : String → Prop
  | pageview {sessionId : String} {pageNumber : ℚ} (hsession : sessionId ≠ "")
      (hpage : 1 ≤ pageNumber) :
      DedupToken numbers (sessionId ++ "_pv_" ++ numbers.text pageNumber)
  | goal {sessionId name : String} {timestamp : ℚ} (hsession : sessionId ≠ "")
      (hname : GoalName name) :
      DedupToken numbers (sessionId ++ "_goal_" ++ name ++ "_" ++ numbers.text timestamp)

/-- The fields of an action that its token is made of pass their checks. -/
def Checked : Action → Prop
  | .pageview a => 1 ≤ a.pageNumber
  | .goal a => GoalName a.name

def tokenNumber : Action → ℤ
  | .pageview a => a.pageNumber
  | .goal a => a.timestamp

/-- An action of the handler has one of these tokens. -/
theorem dedupToken_of_action (numbers : NumberText) {sessionId : String}
    (hsession : sessionId ≠ "") {action : Action} (haction : Checked action)
    (hnumber : (tokenNumber action).natAbs < 10 ^ 21) :
    DedupToken numbers (action.dedupToken sessionId) := by
  have hwritten := numbers.whole (tokenNumber action) hnumber
  cases action with
  | pageview a =>
      have htoken : (Action.pageview a).dedupToken sessionId =
          sessionId ++ "_pv_" ++ numbers.text (a.pageNumber : ℤ) :=
        congrArg (sessionId ++ "_pv_" ++ ·) hwritten.symm
      rw [htoken]
      exact .pageview hsession (by exact_mod_cast haction)
  | goal a =>
      have htoken : (Action.goal a).dedupToken sessionId =
          sessionId ++ "_goal_" ++ a.name ++ "_" ++ numbers.text a.timestamp :=
        congrArg (sessionId ++ "_goal_" ++ a.name ++ "_" ++ ·) hwritten.symm
      rw [htoken]
      exact .goal hsession haction

/-- A name that the mapper gives a milestone under one of the configurations. -/
def TimelineName (host : Host) (configs : Set (Option WorkspaceCrmMapping)) (name : String) :
    Prop :=
  ∃ config ∈ configs, ∃ event, name ∈ (mapAll host event config).map MappedTimelineEvent.name

/-- The text whose digest is the id of an activity. -/
def hashedText (targetPersonId eventId name : String) : String :=
  "timeline:" ++ targetPersonId ++ ":" ++ eventId ++ ":" ++ name

theorem deterministicTimelineId_eq (sha1 : List Nat → List Nat) (p e n : String) :
    deterministicTimelineId sha1 p e n = uuidv5 sha1 (hashedText p e n) := rfl

/-! ### What a UUID looks like -/

def isHexDigit (c : Char) : Bool := c.isDigit || ('a' ≤ c && c ≤ 'f')

/-- Groups of 8, 4, 4, 4 and 12 digits with hyphens between them. -/
def isUuid (s : String) : Bool :=
  s.toList.length == 36 && (List.range 36).all fun i =>
    if i ∈ [8, 13, 18, 23] then s.toList[i]? == some '-' else s.toList[i]?.any isHexDigit

/-- A UUID of version 5, of the variant that has versions. -/
def isUuidV5 (s : String) : Bool :=
  isUuid s && s.toList[14]? == some '5' && s.toList[19]?.any (· ∈ ['8', '9', 'a', 'b'])

/-- Twenty gives its records UUIDs. -/
abbrev PersonId : Type := { id : String // isUuid id = true }

theorem isHexDigit_digitChar : ∀ n : Fin 16, isHexDigit (Nat.digitChar n) = true := by
  decide

theorem colon_not_mem_of_isUuid {s : String} (h : isUuid s = true) : ':' ∉ s.toList := by
  intro hmem
  obtain ⟨i, hi, hget⟩ := List.mem_iff_getElem.mp hmem
  simp only [isUuid, Bool.and_eq_true, beq_iff_eq, List.all_eq_true, List.mem_range] at h
  have hat := h.2 i (h.1 ▸ hi)
  rw [List.getElem?_eq_getElem hi, hget] at hat
  split at hat
  · exact absurd hat (by decide)
  · exact absurd hat (by decide)

/-- A SHA-1 has 20 bytes. -/
def IsDigest (sha1 : List Nat → List Nat) : Prop :=
  ∀ bytes, (sha1 bytes).length = 20 ∧ ∀ b ∈ sha1 bytes, b < 256

theorem isHexDigit_high {b : Nat} (h : b < 256) : isHexDigit (Nat.digitChar (b / 16)) = true :=
  isHexDigit_digitChar ⟨b / 16, by omega⟩

theorem isHexDigit_low (b : Nat) : isHexDigit (Nat.digitChar (b % 16)) = true :=
  isHexDigit_digitChar ⟨b % 16, by omega⟩

theorem isUuid_bytesToUuid {byte : Nat → Nat} (h : ∀ i, byte i < 256) :
    isUuid (bytesToUuid ((List.range 16).map byte)) = true := by
  have hhigh : ∀ i, isHexDigit (Nat.digitChar (byte i / 16)) = true := fun i => isHexDigit_high (h i)
  have hlow : ∀ i, isHexDigit (Nat.digitChar (byte i % 16)) = true := fun i => isHexDigit_low _
  simp [isUuid, bytesToUuid, hexOfBytes, List.range, List.range.loop, List.intercalate, hhigh, hlow]

/-- The version stands in byte 6 and the variant in byte 8. -/
theorem isUuidV5_bytesToUuid {byte : Nat → Nat} (h : ∀ i, byte i < 256)
    (hversion : byte 6 / 16 = 5) (hvariant : byte 8 / 64 = 2) :
    isUuidV5 (bytesToUuid ((List.range 16).map byte)) = true := by
  have hdigit : ∀ n : Fin 16, n.val / 4 = 2 → Nat.digitChar n ∈ ['8', '9', 'a', 'b'] := by decide
  have hhigh := hdigit ⟨byte 8 / 16, by have := h 8; omega⟩ (by show byte 8 / 16 / 4 = 2; omega)
  have h14 : (bytesToUuid ((List.range 16).map byte)).toList[14]? = some '5' := by
    have hget : (bytesToUuid ((List.range 16).map byte)).toList[14]? =
        some (Nat.digitChar (byte 6 / 16)) := by
      simp [bytesToUuid, hexOfBytes, List.range, List.range.loop, List.intercalate]
    rw [hget, hversion]
    rfl
  have h19 : (bytesToUuid ((List.range 16).map byte)).toList[19]? =
      some (Nat.digitChar (byte 8 / 16)) := by
    simp [bytesToUuid, hexOfBytes, List.range, List.range.loop, List.intercalate]
  rw [isUuidV5, isUuid_bytesToUuid h, h14, h19]
  simpa using hhigh

theorem isUuidV5_uuidv5 {sha1 : List Nat → List Nat} (hsha1 : IsDigest sha1) (name : String) :
    isUuidV5 (uuidv5 sha1 name) = true := by
  unfold uuidv5
  generalize uuidToBytes TIMELINE_NAMESPACE ++ name.toUTF8.toList.map UInt8.toNat = bytes
  obtain ⟨hlength, hbyte⟩ := hsha1 bytes
  have hall : ∀ i, (sha1 bytes).getD i 0 < 256 := by
    intro i
    by_cases hi : i < (sha1 bytes).length
    · rw [List.getD_eq_getElem _ _ hi]
      exact hbyte _ (List.getElem_mem hi)
    · rw [List.getD_eq_default _ _ (Nat.le_of_not_lt hi)]
      decide
  have hstamped : (((sha1 bytes).take 16).modify 6 fun b => b % 16 + 0x50).modify 8
        (fun b => b % 64 + 0x80) =
      (List.range 16).map fun i =>
        if i = 6 then (sha1 bytes).getD i 0 % 16 + 0x50
        else if i = 8 then (sha1 bytes).getD i 0 % 64 + 0x80 else (sha1 bytes).getD i 0 := by
    refine List.ext_getElem (by simp [hlength]) fun i hi hi' => ?_
    have hlt : i < (sha1 bytes).length := by simp at hi'; omega
    simp only [List.getElem_modify, List.getElem_take, List.getElem_map, List.getElem_range,
      List.getD_eq_getElem _ _ hlt]
    grind
  show isUuidV5 (bytesToUuid _) = true
  rw [hstamped]
  refine isUuidV5_bytesToUuid (fun i => ?_) ?_ ?_
  · have hlt := hall i
    split
    · omega
    · split <;> omega
  · simp
    omega
  · simp
    omega

/-! ### What stands behind a token -/

/-- What a token can end in behind another token and a colon: behind a colon of the session
id, or behind one in the name of the goal, which has a number at least before it. -/
inductive TokenRest (numbers : NumberText) : String → Prop
  | pageview {session : String} {pageNumber : ℚ} (hpage : 1 ≤ pageNumber) :
      TokenRest numbers (session ++ "_pv_" ++ numbers.text pageNumber)
  | goal {session name : String} {timestamp : ℚ} (hname : GoalName name) :
      TokenRest numbers (session ++ "_goal_" ++ name ++ "_" ++ numbers.text timestamp)
  | goalName {name : String} {timestamp : ℚ} (hname : Text.utf16Length name ≤ 98) :
      TokenRest numbers (name ++ "_" ++ numbers.text timestamp)

/-- What has no separator lies behind the last one. -/
theorem append_split {α : Type} {c : α} {xs ys us vs : List α} (hys : c ∉ ys)
    (h : xs ++ ys = us ++ c :: vs) : ∃ ws, xs = us ++ c :: ws ∧ vs = ws ++ ys := by
  rcases List.append_eq_append_iff.mp h with ⟨as, rfl, htail⟩ | ⟨as, rfl, htail⟩
  · cases as with
    | nil =>
        have hmem : c ∈ ys := by
          rw [List.nil_append] at htail
          rw [htail]
          exact List.mem_cons_self
        exact absurd hmem hys
    | cons a as =>
        have hmem : c ∈ ys := by
          rw [htail]
          exact List.mem_append_right _ List.mem_cons_self
        exact absurd hmem hys
  · cases as with
    | nil =>
        have hmem : c ∈ ys := by
          rw [List.nil_append] at htail
          rw [← htail]
          exact List.mem_cons_self
        exact absurd hmem hys
    | cons a as =>
        obtain ⟨rfl, rfl⟩ := List.cons.inj htail
        exact ⟨as, rfl, rfl⟩

section

variable {numbers : NumberText}

theorem NumberText.not_mem {c : Char} (hdigit : c.isDigit = false)
    (hsign : c ∉ ['-', '+', '.', 'e']) (x : ℚ) : c ∉ (numbers.text x).toList := by
  intro hmem
  rcases numbers.chars x c hmem with h | h
  · rw [hdigit] at h
    exact absurd h (by decide)
  · exact hsign h

theorem NumberText.colon_not_mem (x : ℚ) : ':' ∉ (numbers.text x).toList :=
  numbers.not_mem (by decide) (by decide) x

/-- No token ends in an underscore. -/
theorem DedupToken.not_underscore {token : String} (h : DedupToken numbers token)
    (front : List Char) : token.toList ≠ front ++ ['_'] := by
  have hnumber : ∀ (before : String) (x : ℚ), (before ++ numbers.text x).toList ≠ front ++ ['_'] := by
    intro before x heq
    rw [String.toList_append] at heq
    have hlast := congrArg List.getLast? heq
    rw [List.getLast?_append_of_ne_nil _ fun hnil =>
      numbers.nonempty x (String.toList_injective hnil), List.getLast?_concat] at hlast
    exact numbers.not_mem (by decide) (by decide) x (List.mem_of_getLast? hlast)
  cases h with
  | pageview _ _ => exact hnumber _ _
  | goal _ _ => exact hnumber _ _

/-- **What follows a token and a colon in another token** is such a rest. -/
theorem tokenRest_of_token {token rest : String} (htoken : DedupToken numbers token)
    (hlonger : DedupToken numbers (token ++ ":" ++ rest)) : TokenRest numbers rest := by
  generalize hwhole : token ++ ":" ++ rest = whole at hlonger
  have hlist : whole.toList = token.toList ++ ':' :: rest.toList := by
    rw [← hwhole]
    simp
  cases hlonger with
  | @pageview session pageNumber _ hpage =>
      have htail : ':' ∉ ("_pv_" ++ numbers.text pageNumber).toList := by
        have hnumber := numbers.colon_not_mem pageNumber
        simp [hnumber]
      obtain ⟨ws, -, hrest⟩ := append_split htail (by simpa using hlist)
      have heq : rest = String.ofList ws ++ "_pv_" ++ numbers.text pageNumber :=
        String.toList_injective (by simpa using hrest)
      rw [heq]
      exact .pageview hpage
  | @goal session name timestamp _ hname =>
      have htail : ':' ∉ ("_" ++ numbers.text timestamp).toList := by
        have hnumber := numbers.colon_not_mem timestamp
        simp [hnumber]
      have hsplit : (session ++ "_goal_" ++ name).toList ++ ("_" ++ numbers.text timestamp).toList =
          token.toList ++ ':' :: rest.toList := by
        simpa using hlist
      obtain ⟨ws, hfront, hrest⟩ := append_split htail hsplit
      rw [String.toList_append] at hfront
      have hgoalName : ∀ as, token.toList = (session ++ "_goal_").toList ++ as →
          name.toList = as ++ ':' :: ws → TokenRest numbers rest := by
        intro as htok hname'
        have hne : as ≠ [] := by
          rintro rfl
          refine htoken.not_underscore (session.toList ++ ['_', 'g', 'o', 'a', 'l']) ?_
          rw [htok]
          simp
        have hlength : Text.utf16Length (String.ofList ws) ≤ 98 := by
          have hwhole' : name = String.ofList as ++ ":" ++ String.ofList ws :=
            String.toList_injective (by simpa using hname')
          have hpos : 0 < Text.utf16Length (String.ofList as) :=
            Text.utf16Length_pos fun hnil => hne (by simpa using congrArg String.toList hnil)
          have hcolon : Text.utf16Length ":" = 1 := by decide
          have hbound := hname.2
          rw [hwhole', Text.utf16Length_append, Text.utf16Length_append, hcolon] at hbound
          unfold MAX_GOAL_NAME_LENGTH at hbound
          omega
        have heq : rest = String.ofList ws ++ "_" ++ numbers.text timestamp :=
          String.toList_injective (by simpa using hrest)
        rw [heq]
        exact .goalName hlength
      rcases List.append_eq_append_iff.mp hfront with ⟨as, htok, hname'⟩ | ⟨as, hsession, htail'⟩
      · exact hgoalName as htok hname'
      · cases as with
        | nil =>
            refine hgoalName [] ?_ htail'.symm
            rw [List.append_nil] at hsession ⊢
            exact hsession.symm
        | cons a as =>
            -- the colon stands in the session id
            obtain ⟨rfl, hws⟩ := List.cons.inj htail'
            rw [String.toList_append] at hsession
            obtain ⟨ys, -, has⟩ := append_split (by decide) hsession
            have heq : rest = String.ofList ys ++ "_goal_" ++ name ++ "_" ++
                numbers.text timestamp :=
              String.toList_injective (by simp [hrest, hws, has])
            rw [heq]
            exact .goal hname

/-- What is such a rest follows a token. -/
theorem TokenRest.exists_token {rest : String} (h : TokenRest numbers rest) :
    ∃ token, DedupToken numbers token ∧ DedupToken numbers (token ++ ":" ++ rest) := by
  have hone : numbers.text 1 = "1" := numbers.whole 1 (by decide)
  have hpv : DedupToken numbers ("s" ++ "_pv_" ++ numbers.text 1) :=
    .pageview (by decide) (le_refl 1)
  have hsession : ∀ session : String,
      "s" ++ "_pv_" ++ numbers.text 1 ++ ":" ++ session ≠ "" := by
    intro session heq
    simpa using congrArg String.toList heq
  cases h with
  | @pageview session pageNumber hpage =>
      refine ⟨_, hpv, ?_⟩
      have hlonger : DedupToken numbers ("s" ++ "_pv_" ++ numbers.text 1 ++ ":" ++ session ++
          "_pv_" ++ numbers.text pageNumber) := .pageview (hsession session) hpage
      simpa only [String.append_assoc] using hlonger
  | @goal session name timestamp hname =>
      refine ⟨_, hpv, ?_⟩
      have hlonger : DedupToken numbers ("s" ++ "_pv_" ++ numbers.text 1 ++ ":" ++ session ++
          "_goal_" ++ name ++ "_" ++ numbers.text timestamp) := .goal (hsession session) hname
      simpa only [String.append_assoc] using hlonger
  | @goalName name timestamp hname =>
      -- the same text is a goal of one session and the start of a goal of another
      have htoken : DedupToken numbers ("s" ++ "_goal_" ++ "y_goal" ++ "_" ++ numbers.text 1) :=
        .goal (by decide) ⟨by decide, by decide⟩
      have hgoalName : GoalName ("1:" ++ name) := by
        refine ⟨fun heq => by simpa using congrArg String.toList heq, ?_⟩
        have hfront : Text.utf16Length "1:" = 2 := by decide
        rw [Text.utf16Length_append, hfront]
        unfold MAX_GOAL_NAME_LENGTH
        omega
      refine ⟨_, htoken, ?_⟩
      have hlonger : DedupToken numbers ("s_goal_y" ++ "_goal_" ++ ("1:" ++ name) ++ "_" ++
          numbers.text timestamp) := .goal (by decide) hgoalName
      have heq : "s" ++ "_goal_" ++ "y_goal" ++ "_" ++ numbers.text 1 ++ ":" ++
          (name ++ "_" ++ numbers.text timestamp) =
          "s_goal_y" ++ "_goal_" ++ ("1:" ++ name) ++ "_" ++ numbers.text timestamp := by
        rw [hone]
        exact String.toList_injective (by simp)
      rw [heq]
      exact hlonger

end

/-! ### Which texts are the same -/

section

variable (numbers : NumberText) (host : Host) (configs : Set (Option WorkspaceCrmMapping))

/-- No name has in front of another name a colon, and before that what can stand behind a
token. -/
def NamesApart : Prop :=
  ∀ name, TimelineName host configs name → ∀ other, TimelineName host configs other →
    ∀ rest, name = rest ++ ":" ++ other → ¬TokenRest numbers rest

/-- **A text has two activities** when one token is the start of the other, up to a colon,
and the rest is the start of a name. -/
theorem hashedText_eq_iff (p₁ p₂ : PersonId) (e₁ e₂ n₁ n₂ : String) :
    hashedText p₁ e₁ n₁ = hashedText p₂ e₂ n₂ ↔
      p₁ = p₂ ∧ ((e₁ = e₂ ∧ n₁ = n₂) ∨
        (∃ rest, e₂ = e₁ ++ ":" ++ rest ∧ n₁ = rest ++ ":" ++ n₂) ∨
        ∃ rest, e₁ = e₂ ++ ":" ++ rest ∧ n₂ = rest ++ ":" ++ n₁) := by
  constructor
  · intro h
    have hlist : p₁.val.toList ++ ':' :: (e₁.toList ++ ':' :: n₁.toList) =
        p₂.val.toList ++ ':' :: (e₂.toList ++ ':' :: n₂.toList) := by
      simpa [hashedText] using congrArg String.toList h
    obtain ⟨hperson, htail⟩ := Text.cons_append_inj (colon_not_mem_of_isUuid p₁.property)
      (colon_not_mem_of_isUuid p₂.property) hlist
    refine ⟨Subtype.ext (String.toList_injective hperson), ?_⟩
    rcases List.append_eq_append_iff.mp htail with ⟨as, htoken, hname⟩ | ⟨as, htoken, hname⟩
    · cases as with
      | nil =>
          refine Or.inl ⟨String.toList_injective (by simpa using htoken.symm), ?_⟩
          exact String.toList_injective (List.cons.inj hname).2
      | cons a as =>
          obtain ⟨rfl, hrest⟩ := List.cons.inj hname
          refine Or.inr (Or.inl ⟨String.ofList as, ?_, ?_⟩)
          · exact String.toList_injective (by simpa using htoken)
          · exact String.toList_injective (by simpa using hrest)
    · cases as with
      | nil =>
          refine Or.inl ⟨String.toList_injective (by simpa using htoken), ?_⟩
          exact String.toList_injective (List.cons.inj hname).2.symm
      | cons a as =>
          obtain ⟨rfl, hrest⟩ := List.cons.inj hname
          refine Or.inr (Or.inr ⟨String.ofList as, ?_, ?_⟩)
          · exact String.toList_injective (by simpa using htoken)
          · exact String.toList_injective (by simpa using hrest)
  · rintro ⟨rfl, ⟨rfl, rfl⟩ | ⟨rest, rfl, rfl⟩ | ⟨rest, rfl, rfl⟩⟩
    · rfl
    · exact String.toList_injective (by simp [hashedText])
    · exact String.toList_injective (by simp [hashedText])

end

theorem mem_of_builtin {eventType name : String} {p : TrackedPayload}
    (h : name ∈ resolveNamesBuiltin eventType p) :
    name ∈ ["audit.page_view", "audit.scroll", "audit.cta_click", "audit.rdv", "signup",
      "app.started", "appel"] := by
  unfold resolveNamesBuiltin at h
  split at h
  · split at h
    · rcases List.mem_cons.mp h with rfl | h
      · decide
      · split at h <;> simp_all
    · exact absurd h List.not_mem_nil
  · split at h
    · repeat' split at h
      all_goals simp_all
    · exact absurd h List.not_mem_nil

/-- Without rules of its own a workspace has no name with a colon. -/
theorem colon_not_mem_of_builtin {host : Host} {name : String}
    (h : TimelineName host {none} name) : ':' ∉ name.toList := by
  obtain ⟨config, hconfig, event, hmem⟩ := h
  obtain rfl : config = none := hconfig
  have hnames : ∀ n ∈ ["audit.page_view", "audit.scroll", "audit.cta_click", "audit.rdv", "signup",
      "app.started", "appel"], ':' ∉ n.toList := by decide
  refine hnames name ?_
  unfold mapAll at hmem
  split at hmem
  · exact absurd hmem List.not_mem_nil
  · rw [List.map_map, List.mem_map] at hmem
    obtain ⟨n, hn, rfl⟩ := hmem
    rcases List.mem_append.mp hn with hbuiltin | hphone
    · exact mem_of_builtin hbuiltin
    · obtain rfl : n = "appel" := by
        simp only [phoneCallNames] at hphone
        split at hphone
        · exact List.mem_singleton.mp hphone
        · exact absurd hphone List.not_mem_nil
      have happel : "appel" ∈ ["audit.page_view", "audit.scroll", "audit.cta_click", "audit.rdv",
          "signup", "app.started", "appel"] := by decide
      exact happel

namespace TimelineIdExample

def milestone (goal timelineName : String) : CrmGoalMapping := ⟨"goal:" ++ goal, timelineName, none⟩

/-- A workspace with two rules; the name of one goes on with the name of the other. -/
def config : WorkspaceCrmMapping :=
  ⟨none, none, some [milestone "b" "z_goal_a_2:n", milestone "a" "n"], none, none⟩

def goal (name : String) (timestamp : ℤ) : GoalAction := ⟨name, "/", 1, timestamp, none, none⟩

/-- The goal as the mapper gets it. -/
def tracked (sessionId : String) (action : GoalAction) : TrackedEventContext where
  workspaceId := "w"
  eventType := "goal"
  eventId := action.dedupToken sessionId
  payload := ⟨some "lea@example.com", action.name, action.path, none, none, none, ""⟩

def person : PersonId := ⟨"3f1c0b52-8a77-4d1e-9c53-0a6b7c8d9e0f", by decide⟩

/-- The digits, and the sign: what the runtime writes of a whole number. -/
def digits (x : ℚ) : String := (if x.num < 0 then "-" else "") ++ toString x.num.natAbs

theorem digits_intCast (n : ℤ) : digits n = toString n := by
  unfold digits
  rw [Rat.num_intCast]
  cases n with
  | ofNat n =>
      rw [if_neg (by exact Int.not_lt.mpr (Int.natCast_nonneg n))]
      exact String.empty_append
  | negSucc n =>
      rw [if_pos (by omega)]
      rfl

def numbers : NumberText where
  text := digits
  nonempty x h := by
    have hlist := congrArg String.toList h
    rw [digits, String.toList_append, Text.toList_toString] at hlist
    exact Nat.toDigits_ne_nil (List.append_eq_nil_iff.mp hlist).2
  chars x c hc := by
    rw [digits, String.toList_append, List.mem_append] at hc
    rcases hc with hsign | hdigit
    · split at hsign
      · exact Or.inr (by simp_all)
      · exact absurd hsign List.not_mem_nil
    · exact Or.inl (Text.isDigit_of_mem_toString hdigit)
  whole n _ := digits_intCast n

theorem token_of_goal (sessionId : String) (action : GoalAction) (hsession : sessionId ≠ "")
    (hname : GoalName action.name) (hnumber : action.timestamp.natAbs < 10 ^ 21) :
    DedupToken numbers (action.dedupToken sessionId) := by
  have hchecked : Checked (.goal action) := hname
  exact dedupToken_of_action numbers hsession hchecked hnumber

theorem isDigest_digest : IsDigest FlushExample.digest := by
  refine fun bytes => ⟨by simp [FlushExample.digest], fun b hb => ?_⟩
  obtain ⟨i, -, rfl⟩ := List.mem_map.mp hb
  exact Nat.mod_lt _ (by decide)

end TimelineIdExample

end Veridian.TwentyConnector
