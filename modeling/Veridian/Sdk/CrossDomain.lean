/-
The parameter that carries a session to another domain.

`encode` is the payload as JSON in Base64URL: `+` and `/` are replaced and the `=` at the
end are cut, which `atob` does without.  `decode` reads any text at all; whatever throws on
the way is an answer of `null`, and what it returns has a UUID as `s` and a number as `t`.
-/
import Veridian.Lib.Base64
import Veridian.Webhooks.DeliveryPayload

namespace Veridian.CrossDomain

open DeliveryPayload

variable {R : Type} (fmt : NumberFormat R)

/-! ### Writing -/

structure CrossDomainPayload (R : Type) where
  /-- The session. -/
  s : String
  /-- The time, in seconds. -/
  t : R

def CrossDomainPayload.json (payload : CrossDomainPayload R) : Json R :=
  .obj [("s", .str payload.s), ("t", .num payload.t)]

def replaceChar (old new : Char) (l : List Char) : List Char :=
  l.map fun c => if c = old then new else c

/-- `none` is an error that is thrown. -/
def encode (payload : CrossDomainPayload R) : Option String :=
  (Base64.btoa (stringify fmt payload.json)).map fun base64 =>
    String.ofList (Base64.unpadded (replaceChar '/' '_' (replaceChar '+' '-' base64.toList)))

/-! ### Reading -/

def isHexDigit (c : Char) : Bool :=
  c.isDigit || decide ('a' ≤ c ∧ c ≤ 'f') || decide ('A' ≤ c ∧ c ≤ 'F')

/-- `/^[0-9a-f]{8}-[0-9a-f]{4}-[0-9a-f]{4}-[0-9a-f]{4}-[0-9a-f]{12}$/i` -/
def UUID_REGEX (s : String) : Bool :=
  let groups := s.toList.splitOn '-'
  groups.map List.length = [8, 4, 4, 4, 12] && groups.all fun group => group.all isHexDigit

inductive Thrown where
  /-- `atob`, on what is no base64. -/
  | invalidCharacter
  /-- `JSON.parse` -/
  | syntaxError
  /-- A member of `null`. -/
  | typeError

/-- `payload.name`, when the value has one. -/
def member (v : Json R) (name : String) : Option (Json R) :=
  match v with
  | .obj members => members.lookup name
  | _ => none

/-- The body of the `try`. -/
def tryDecode (encoded : String) : Except Thrown (Option (Json R)) :=
  let base64 := replaceChar '_' '/' (replaceChar '-' '+' encoded.toList)
  match Base64.atob (String.ofList base64) with
  | none => .error .invalidCharacter
  | some json =>
      match Json.parse fmt.read json with
      | none => .error .syntaxError
      | some .null => .error .typeError
      | some payload =>
          match member payload "s", member payload "t" with
          | some (.str s), some (.num _) => if UUID_REGEX s then .ok (some payload) else .ok none
          | _, _ => .ok none

def decode (encoded : String) : Option (Json R) :=
  match tryDecode fmt encoded with
  | .ok answer => answer
  | .error _ => none

/-! ### What is decoded -/

/-- A UUID and a number. -/
structure Valid (payload : Json R) : Prop where
  session : ∃ s, member payload "s" = some (.str s) ∧ UUID_REGEX s = true
  time : ∃ t, member payload "t" = some (.num t)

theorem decode_eq_some_iff {encoded : String} {payload : Json R} :
    decode fmt encoded = some payload ↔ tryDecode fmt encoded = .ok (some payload) := by
  unfold decode
  cases tryDecode fmt encoded with
  | error e => simp
  | ok answer => simp

theorem valid_of_decode {encoded : String} {payload : Json R}
    (h : decode fmt encoded = some payload) : Valid payload := by
  have htry := (decode_eq_some_iff fmt).mp h
  unfold tryDecode at htry
  dsimp only at htry
  split at htry
  · exact nomatch htry
  · split at htry
    · exact nomatch htry
    · exact nomatch htry
    · split at htry
      · rename_i hsession htime
        split at htry
        · rename_i huuid
          obtain rfl : _ = payload := by simpa using htry
          exact ⟨⟨_, hsession, huuid⟩, ⟨_, htime⟩⟩
        · exact absurd htry (by simp)
      · exact absurd htry (by simp)

/-! ### The text of a payload -/

theorem toNat_lt_of_mem_escape {c d : Char} (h : c ∈ Json.escape d) : c = d ∨ c.toNat < 128 := by
  unfold Json.escape at h
  split at h
  · rename_i letter hletter
    have hall : (Json.shortEscapes.all fun entry => entry.2.toNat < 128) = true := by decide
    have hmem := Json.mem_shortEscapes hletter
    rcases List.mem_cons.mp h with rfl | h
    · exact Or.inr (by decide)
    · rw [List.mem_singleton.mp h]
      exact Or.inr (of_decide_eq_true (List.all_eq_true.mp hall _ hmem))
  · split at h
    · rename_i hcontrol
      have hdigit : ∀ k < 16, (Nat.digitChar k).toNat < 128 := by decide
      simp only [List.mem_cons, List.not_mem_nil, or_false] at h
      rcases h with rfl | rfl | rfl | rfl | rfl | rfl
      · exact Or.inr (by decide)
      · exact Or.inr (by decide)
      · exact Or.inr (by decide)
      · exact Or.inr (by decide)
      · exact Or.inr (hdigit _ (by omega))
      · exact Or.inr (hdigit _ (by omega))
    · exact Or.inl (List.mem_singleton.mp h)

theorem toNat_lt_of_isNumeral {c : Char} (h : Json.isNumeral c = true) : c.toNat < 128 := by
  simp only [Json.isNumeral, Bool.or_eq_true, decide_eq_true_eq] at h
  rcases h with (((hdigit | rfl) | rfl) | rfl) | rfl
  · have hnine := (Char.isDigit_iff_toNat.mp hdigit).2
    exact hnine.trans_lt (by decide)
  · decide
  · decide
  · decide
  · decide

theorem toNat_lt_of_isHexDigit {c : Char} (h : isHexDigit c = true) : c.toNat < 128 := by
  simp only [isHexDigit, Bool.or_eq_true, decide_eq_true_eq] at h
  rcases h with (hdigit | ⟨-, hlower⟩) | ⟨-, hupper⟩
  · have hnine := (Char.isDigit_iff_toNat.mp hdigit).2
    exact hnine.trans_lt (by decide)
  · exact (Char.le_def.mp hlower).trans_lt (by decide)
  · exact (Char.le_def.mp hupper).trans_lt (by decide)

theorem toNat_lt_of_uuid {s : String} (h : UUID_REGEX s = true) : ∀ c ∈ s.toList, c.toNat < 128 := by
  intro c hc
  have hgroups := (Bool.and_eq_true_iff.mp h).2
  have hjoin : List.intercalate ['-'] (s.toList.splitOn '-') = s.toList :=
    List.intercalate_splitOn '-'
  rw [← hjoin] at hc
  rcases Text.mem_intercalate hc with rfl | ⟨group, hgroup, hmem⟩
  · decide
  · have hall := List.all_eq_true.mp hgroups group hgroup
    exact toNat_lt_of_isHexDigit (List.all_eq_true.mp hall c hmem)

section

variable {fmt} {payload : CrossDomainPayload R} (hs : UUID_REGEX payload.s = true)
  (ht : fmt.finite payload.t = true)
include hs ht

omit hs in
theorem stringify_json : (stringify fmt payload.json).toList =
    '\x7b' :: (Json.quote "s" ++ ':' :: (Json.quote payload.s ++ ',' :: (Json.quote "t" ++ ':' ::
      (fmt.numerals.numeral ⟨payload.t, ht⟩ ++ ['\x7d'])))) := by
  unfold stringify Json.stringify
  rw [String.toList_ofList]
  simp [CrossDomainPayload.json, Json.substNumbers, Json.substMembers, writtenNumber, ht,
    Json.text, Json.membersText]

theorem stringify_ascii : ∀ c ∈ (stringify fmt payload.json).toList, c.toNat < 256 := by
  intro c hc
  have hquote : ∀ s : String, (∀ d ∈ s.toList, d.toNat < 128) → ∀ d ∈ Json.quote s,
      d.toNat < 128 := by
    intro s hplain d hd
    simp only [Json.quote, List.mem_cons, List.mem_append, List.mem_flatMap, List.not_mem_nil,
      or_false] at hd
    rcases hd with rfl | ⟨e, he, hd⟩ | rfl
    · decide
    · rcases toNat_lt_of_mem_escape hd with rfl | hlt
      · exact hplain d he
      · exact hlt
    · decide
  rw [stringify_json ht] at hc
  suffices c.toNat < 128 by omega
  have hkeys : (["s", "t"].all fun name => (Json.quote name).all fun d => d.toNat < 128) = true := by
    decide
  have hname : ∀ name ∈ ["s", "t"], ∀ d ∈ Json.quote name, d.toNat < 128 := by
    simpa only [List.all_eq_true, decide_eq_true_eq] using hkeys
  simp only [List.mem_cons, List.mem_append, List.not_mem_nil, or_false] at hc
  rcases hc with rfl | hc | rfl | hc | rfl | hc | rfl | hc | rfl
  · decide
  · exact hname "s" (by decide) c hc
  · decide
  · exact hquote payload.s (toNat_lt_of_uuid hs) c hc
  · decide
  · exact hname "t" (by decide) c hc
  · decide
  · exact toNat_lt_of_isNumeral (fmt.numerals.plain _ c hc)
  · decide

omit hs in
/-- What `JSON.parse` makes of it. -/
theorem parse_payload :
    Json.parse fmt.read (stringify fmt payload.json) = some payload.json := by
  have hdistinct : Json.DistinctKeys payload.json := by
    refine ⟨?_, trivial, trivial, trivial⟩
    show ["s", "t"].Nodup
    decide
  have hparse := parse_stringify fmt ⟨_, hdistinct⟩
  unfold Payload.json at hparse
  rw [show stringify fmt payload.json = stringify fmt (.obj _) from rfl, hparse]
  simp [CrossDomainPayload.json, Json.substNumbers, Json.substMembers, ht]

/-- The text that goes into the URL. -/
def urlText (json : String) : List Char :=
  replaceChar '/' '_' (replaceChar '+' '-' (Base64.digits json))

omit ht hs in
theorem replaced_back {json : String} (h : ∀ c ∈ json.toList, c.toNat < 256) :
    replaceChar '_' '/' (replaceChar '-' '+' (urlText json)) = Base64.digits json := by
  have hdigit : ∀ n < 64, replaceChar '_' '/' (replaceChar '-' '+' (replaceChar '/' '_'
      (replaceChar '+' '-' [Base64.digit n]))) = [Base64.digit n] := by decide
  unfold urlText replaceChar
  rw [List.map_map, List.map_map, List.map_map]
  refine (List.map_congr_left fun c hc => ?_).trans (List.map_id _)
  obtain ⟨n, hn, rfl⟩ := Base64.exists_sextet h hc
  exact (List.cons.inj (hdigit n hn)).1

theorem encode_eq :
    encode fmt payload = some (String.ofList (urlText (stringify fmt payload.json))) := by
  obtain ⟨k, hbtoa⟩ := Base64.btoa_of_bytes (stringify_ascii hs ht)
  have hdigit : ∀ n < 64, '=' ∉ replaceChar '/' '_' (replaceChar '+' '-' [Base64.digit n]) := by
    decide
  have hplain : ∀ c ∈ urlText (stringify fmt payload.json), c ≠ '=' := by
    intro c hc
    unfold urlText replaceChar at hc
    rw [List.map_map] at hc
    obtain ⟨d, hd, rfl⟩ := List.mem_map.mp hc
    obtain ⟨n, hn, rfl⟩ := Base64.exists_sextet (stringify_ascii hs ht) hd
    exact fun heq => hdigit n hn (List.mem_singleton.mpr heq.symm)
  -- the filling has neither of the characters that are replaced
  have hfill : replaceChar '/' '_' (replaceChar '+' '-' (Base64.digits (stringify fmt payload.json)
      ++ List.replicate k '=')) =
        urlText (stringify fmt payload.json) ++ List.replicate k '=' := by
    simp [urlText, replaceChar]
  unfold encode
  rw [hbtoa, Option.map_some, String.toList_ofList, hfill, Base64.unpadded_fill hplain]

/-- **The parameter is read back.** -/
theorem decode_encode : ∃ encoded, encode fmt payload = some encoded ∧
    decode fmt encoded = some payload.json := by
  refine ⟨_, encode_eq hs ht, ?_⟩
  rw [decode_eq_some_iff]
  unfold tryDecode
  rw [String.toList_ofList, replaced_back (stringify_ascii hs ht)]
  dsimp only
  rw [Base64.atob_digits (stringify_ascii hs ht)]
  dsimp only
  rw [parse_payload ht]
  exact if_pos hs

end

/-- **The cross-domain parameter.**

A payload with a UUID and a finite number as time is read back from its parameter, and from
every text whatever `decode` returns `null` or what has a UUID and a number. -/
theorem decode_encode_and_valid (fmt : NumberFormat R) :
    (∀ payload : CrossDomainPayload R, UUID_REGEX payload.s = true → fmt.finite payload.t = true →
      ∃ encoded, encode fmt payload = some encoded ∧ decode fmt encoded = some payload.json) ∧
    ∀ encoded, decode fmt encoded = none ∨
      ∃ payload, decode fmt encoded = some payload ∧ Valid payload := by
  refine ⟨fun _ hs ht => decode_encode hs ht, fun encoded => ?_⟩
  cases hdecode : decode fmt encoded with
  | none => exact Or.inl rfl
  | some payload => exact Or.inr ⟨payload, rfl, valid_of_decode fmt hdecode⟩

namespace LinkExample

open DeliveryPayload.LongPathExample

def payload : CrossDomainPayload (Option ℕ) :=
  ⟨"0190a1b2-c3d4-7e5f-8A9b-0123456789ab", some 1750000000⟩

end LinkExample

open LinkExample DeliveryPayload.LongPathExample in
theorem payload_read_back : ∃ encoded, encode format LinkExample.payload = some encoded ∧
    decode format encoded = some LinkExample.payload.json :=
  (decode_encode_and_valid format).1 LinkExample.payload (by decide) rfl

end Veridian.CrossDomain
