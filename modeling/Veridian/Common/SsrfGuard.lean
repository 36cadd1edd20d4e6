/-
Which addresses the guard takes for private.

An IPv4 address is judged by its numbers.  Of an IPv6 text the guard compares the letters:
it knows `::` and `::1` in this spelling only, an IPv4-mapped address in the dotted one
only, and the two prefixes by the first letters of the text, which are the first digits of
the first group only when that has four.
-/
import Mathlib.Data.List.Forall2
import Veridian.Lib.IpText
import Veridian.Lib.Text

namespace Veridian.SsrfGuard

open Ip

/-! ### The guard -/

/-- `parseInt(n, 10)` of a text without a sign. -/
def parseInt (cs : List Char) : Option Nat :=
  match cs.takeWhile Char.isDigit with
  | [] => none
  | ds => some (Nat.ofDigitChars 10 ds 0)

def isPrivateIpv4 (ip : String) : Bool :=
  match (ip.toList.splitOn '.').map parseInt with
  | [some a, some b, some c, some d] =>
      if a > 255 ∨ b > 255 ∨ c > 255 ∨ d > 255 then false
      else if a = 0 then true
      else if a = 127 then true
      else if a = 10 then true
      else if a = 169 ∧ b = 254 then true
      else if a = 172 ∧ b ≥ 16 ∧ b ≤ 31 then true
      else if a = 192 ∧ b = 168 then true
      else if a = 100 ∧ b ≥ 64 ∧ b ≤ 127 then true
      else false
  | _ => false

/-- `fc00::/7` and `fe80::/10`, by the letters of the text. -/
def hasPrivatePrefix (lower : String) : Bool :=
  ["fc", "fd", "fe8", "fe9", "fea", "feb"].any (Text.startsWith lower)

/-- What `/^::ffff:(\d{1,3}\.\d{1,3}\.\d{1,3}\.\d{1,3})$/` captures. -/
def mappedIpv4 (lower : String) : Option String :=
  if Text.startsWith lower "::ffff:" then
    let rest := lower.toList.drop 7
    let parts := rest.splitOn '.'
    if parts.length = 4 ∧
        ∀ part ∈ parts, 1 ≤ part.length ∧ part.length ≤ 3 ∧ part.all Char.isDigit = true then
      some (String.ofList rest)
    else none
  else none

/-- What `isIP` takes is ASCII, so `toLowerCase` is the one of A to Z. -/
def isPrivateIpv6 (ip : String) : Bool :=
  let lower := Text.asciiLower ip
  if lower = "::1" ∨ lower = "::" then true
  else if hasPrivatePrefix lower then true
  else
    match mappedIpv4 lower with
    | some mapped => isPrivateIpv4 mapped
    | none => false

def isPrivateIp (ip : String) : Bool :=
  match isIP ip with
  | 4 => isPrivateIpv4 ip
  | 6 => isPrivateIpv6 ip
  | _ => false

/-- The literal check of `assertSafeUrl`, on the host name of a parsed URL. -/
def isPrivateHostname (hostname : String) : Bool :=
  let lower := (Text.asciiLower hostname).toList
  let opened := if lower.head? = some '[' then lower.drop 1 else lower
  let bare := String.ofList
    (if opened.getLast? = some ']' then opened.dropLast else opened)
  if bare = "localhost" ∨ bare = "localhost.localdomain" then true
  else if isIP bare ≠ 0 then isPrivateIp bare
  else false

/-! ### The blocked ranges -/

def Blocked4 (x : Ipv4) : Prop :=
  ∃ r ∈ [(0x00000000, 8), (0x7f000000, 8), (0x0a000000, 8), (0xa9fe0000, 16), (0xac100000, 12),
    (0xc0a80000, 16), (0x64400000, 10)], InPrefix 32 r.1 r.2 x.value

/-- The unspecified address, the loopback, the unique-local and the link-local ones, and what
stands for a blocked IPv4 address. -/
def Blocked6 (x : Ipv6) : Prop :=
  InPrefix 128 0 128 x.value ∨ InPrefix 128 1 128 x.value ∨
    InPrefix 128 (0xfc00 * 2 ^ 112) 7 x.value ∨ InPrefix 128 (0xfe80 * 2 ^ 112) 10 x.value ∨
    ∃ y, x.embedded = some y ∧ Blocked4 y

def Blocked : Address → Prop
  | .v4 x => Blocked4 x
  | .v6 x => Blocked6 x

/-! ### IPv4 -/

/-- The first bits of an address, by its first two numbers. -/
theorem value_div (x : Ipv4) :
    x.value / 2 ^ 24 = x.a.val ∧ x.value / 2 ^ 20 = x.a.val * 16 + x.b.val / 16 ∧
      x.value / 2 ^ 22 = x.a.val * 4 + x.b.val / 64 ∧
      x.value / 2 ^ 16 = x.a.val * 256 + x.b.val := by
  have hb := x.b.isLt
  have hc := x.c.isLt
  have hd := x.d.isLt
  unfold Ipv4.value
  refine ⟨?_, ?_, ?_, ?_⟩ <;> omega

theorem blocked4_iff (x : Ipv4) :
    Blocked4 x ↔ x.a.val = 0 ∨ x.a.val = 127 ∨ x.a.val = 10 ∨ (x.a.val = 169 ∧ x.b.val = 254) ∨
      (x.a.val = 172 ∧ 16 ≤ x.b.val ∧ x.b.val ≤ 31) ∨ (x.a.val = 192 ∧ x.b.val = 168) ∨
      (x.a.val = 100 ∧ 64 ≤ x.b.val ∧ x.b.val ≤ 127) := by
  obtain ⟨h8, h12, h10, h16⟩ := value_div x
  have hb := x.b.isLt
  simp only [Blocked4, List.mem_cons, List.not_mem_nil, or_false, exists_eq_or_imp, exists_eq_left]
  refine or_congr ?_ (or_congr ?_ (or_congr ?_ (or_congr ?_ (or_congr ?_ (or_congr ?_ ?_)))))
  · show x.value / 2 ^ 24 = 0 ↔ _
    rw [h8]
  · show x.value / 2 ^ 24 = 127 ↔ _
    rw [h8]
  · show x.value / 2 ^ 24 = 10 ↔ _
    rw [h8]
  · show x.value / 2 ^ 16 = 43518 ↔ _
    rw [h16]
    omega
  · show x.value / 2 ^ 20 = 2753 ↔ _
    rw [h12]
    omega
  · show x.value / 2 ^ 16 = 49320 ↔ _
    rw [h16]
    omega
  · show x.value / 2 ^ 22 = 401 ↔ _
    rw [h10]
    omega

/-- The number of an octet is the one `parseInt` finds. -/
theorem parseInt_of_readOctet {cs : List Char} {n : Fin 256} (h : readOctet cs = some n) :
    parseInt cs = some n.val := by
  unfold readOctet at h
  split_ifs at h with hdigits hlt
  · obtain rfl := Option.some.inj h
    obtain ⟨hne, -, hall, -⟩ := hdigits
    have htake : cs.takeWhile Char.isDigit = cs :=
      List.takeWhile_eq_self_iff.mpr (List.all_eq_true.mp hall)
    unfold parseInt
    rw [htake]
    cases cs with
    | nil => exact absurd hne (by decide)
    | cons c cs => rfl

/-- **Every IPv4 text is judged by the address.** -/
theorem isPrivateIpv4_eq {s : String} {x : Ipv4} (h : readIpv4 s.toList = some x) :
    isPrivateIpv4 s = true ↔ Blocked4 x := by
  unfold readIpv4 at h
  split at h
  · rename_i a b c d hparts
    obtain rfl := Option.some.inj h
    have hmap : (s.toList.splitOn '.').map parseInt =
        [some a.val, some b.val, some c.val, some d.val] := by
      have hread := forall₂_of_mapM hparts
      generalize s.toList.splitOn '.' = parts at hread
      rcases hread with _ | ⟨ha, _ | ⟨hb, _ | ⟨hc, _ | ⟨hd, ⟨⟩⟩⟩⟩⟩
      simp [parseInt_of_readOctet ha, parseInt_of_readOctet hb, parseInt_of_readOctet hc,
        parseInt_of_readOctet hd]
    have hrange : ¬(a.val > 255 ∨ b.val > 255 ∨ c.val > 255 ∨ d.val > 255) := by
      have ha := a.isLt
      have hb := b.isLt
      have hc := c.isLt
      have hd := d.isLt
      omega
    rw [blocked4_iff, isPrivateIpv4, hmap]
    show (if a.val > 255 ∨ b.val > 255 ∨ c.val > 255 ∨ d.val > 255 then false else _) = true ↔ _
    rw [if_neg hrange]
    simp only [Bool.if_true_left, Bool.or_eq_true, decide_eq_true_eq, Bool.false_eq_true, or_false,
      ge_iff_le]
  · exact absurd h (by simp)

/-! ### The first group -/

theorem value_head {x : Ipv6} {g : Nat} (h : x.groups.head? = some g) :
    (InPrefix 128 (0xfc00 * 2 ^ 112) 7 x.value ↔ 0xfc00 ≤ g ∧ g ≤ 0xfdff) ∧
      (InPrefix 128 (0xfe80 * 2 ^ 112) 10 x.value ↔ 0xfe80 ≤ g ∧ g ≤ 0xfebf) ∧
      (x.value ≤ 1 → g = 0) := by
  obtain ⟨groups, hlength, hlt⟩ := x
  match groups, hlength, hlt, h with
  | [g₀, g₁, g₂, g₃, g₄, g₅, g₆, g₇], hlength, hlt, h =>
      obtain rfl : g₀ = g := Option.some.inj h
      have hg : ∀ k ∈ [g₁, g₂, g₃, g₄, g₅, g₆, g₇], k < 65536 := fun k hk =>
        hlt k (List.mem_cons_of_mem _ hk)
      simp only [List.mem_cons, List.not_mem_nil, or_false, forall_eq_or_imp, forall_eq] at hg
      obtain ⟨h₁, h₂, h₃, h₄, h₅, h₆, h₇⟩ := hg
      have hvalue : ∃ low, low < 2 ^ 112 ∧
          Ipv6.value ⟨[g₀, g₁, g₂, g₃, g₄, g₅, g₆, g₇], hlength, hlt⟩ = g₀ * 2 ^ 112 + low := by
        refine ⟨(((((g₁ * 65536 + g₂) * 65536 + g₃) * 65536 + g₄) * 65536 + g₅) * 65536 + g₆) *
          65536 + g₇, by omega, ?_⟩
        simp only [Ipv6.value, List.foldl_cons, List.foldl_nil]
        omega
      obtain ⟨low, hlow, hv⟩ := hvalue
      rw [hv]
      refine ⟨?_, ?_, ?_⟩
      · unfold InPrefix
        omega
      · unfold InPrefix
        omega
      · omega

theorem hexDigit_lt {c : Char} {n : Nat} (h : Json.hexDigit c = some n) : n < 16 := by
  have htable : ∀ m : Fin 128, ∀ n ∈ Json.hexDigit (Char.ofNat m), n < 16 := by decide
  have hrow := htable ⟨c.toNat, toNat_lt_of_hexDigit h⟩
  simp only [Char.ofNat_toNat] at hrow
  exact hrow n h

/-- The lower-case letter of a digit says which it is. -/
theorem toLower_eq_iff {l : Char} {m : Nat} (h : Json.hexDigit l = some m) (n : Nat)
    (hn : n < 16) : l.toLower = Nat.digitChar n ↔ m = n := by
  rw [← hexDigit_eq_some_iff hn, h, Option.some.injEq]

/-- The letters of the prefixes. -/
structure Letters (l : Char) (m : Nat) : Prop where
  f : l.toLower = 'f' ↔ m = 15
  e : l.toLower = 'e' ↔ m = 14
  d : l.toLower = 'd' ↔ m = 13
  c : l.toLower = 'c' ↔ m = 12
  b : l.toLower = 'b' ↔ m = 11
  a : l.toLower = 'a' ↔ m = 10
  nine : l.toLower = '9' ↔ m = 9
  eight : l.toLower = '8' ↔ m = 8

theorem letters {l : Char} {m : Nat} (h : Json.hexDigit l = some m) : Letters l m where
  f := toLower_eq_iff h 15 (by decide)
  e := toLower_eq_iff h 14 (by decide)
  d := toLower_eq_iff h 13 (by decide)
  c := toLower_eq_iff h 12 (by decide)
  b := toLower_eq_iff h 11 (by decide)
  a := toLower_eq_iff h 10 (by decide)
  nine := toLower_eq_iff h 9 (by decide)
  eight := toLower_eq_iff h 8 (by decide)

theorem hasPrivatePrefix_iff (lower : String) :
    hasPrivatePrefix lower = true ↔ ∃ rest,
      lower.toList = 'f' :: 'c' :: rest ∨ lower.toList = 'f' :: 'd' :: rest ∨
        lower.toList = 'f' :: 'e' :: '8' :: rest ∨ lower.toList = 'f' :: 'e' :: '9' :: rest ∨
        lower.toList = 'f' :: 'e' :: 'a' :: rest ∨ lower.toList = 'f' :: 'e' :: 'b' :: rest := by
  have hstart : ∀ (p : String), Text.startsWith lower p = true ↔
      ∃ rest, lower.toList = p.toList ++ rest := fun p =>
    decide_eq_true_iff.trans (exists_congr fun _ => eq_comm)
  simp only [hasPrivatePrefix, List.any_cons, List.any_nil, Bool.or_false, Bool.or_eq_true, hstart,
    exists_or]
  exact Iff.rfl

/-- What a prefix says of the first group: it is the range when the group has four digits,
and below the range when it has fewer. -/
structure FirstGroup (chunk : List Char) (lower : String) (g : Nat) : Prop where
  exact : hasPrivatePrefix lower = true ∧ chunk.length = 4 ↔
    (0xfc00 ≤ g ∧ g ≤ 0xfdff) ∨ (0xfe80 ≤ g ∧ g ≤ 0xfebf)
  pos : hasPrivatePrefix lower = true → 0 < g

theorem head_of_hasPrivatePrefix {lower : String} (h : hasPrivatePrefix lower = true) :
    lower.toList.head? = some 'f' := by
  obtain ⟨rest, h | h | h | h | h | h⟩ := (hasPrivatePrefix_iff lower).mp h <;> rw [h] <;> rfl

theorem firstGroup_of_read {chunk rest : List Char} {lower : String} {g : Nat}
    (hlower : lower.toList = (chunk ++ ':' :: rest).map Char.toLower)
    (hread : readGroup chunk = some g) : FirstGroup chunk lower g := by
  unfold readGroup at hread
  split_ifs at hread with hlength
  obtain ⟨ds, hds, rfl⟩ := Option.map_eq_some_iff.mp hread
  have hhead := @head_of_hasPrivatePrefix lower
  rw [hlower] at hhead
  rcases forall₂_of_mapM hds with _ | ⟨h₁, _ | ⟨h₂, _ | ⟨h₃, _ | ⟨h₄, _ | ⟨h₅, hmore⟩⟩⟩⟩⟩
  · exact absurd hlength.1 (by decide)
  · rename_i c₁ d₁
    have hlt₁ := hexDigit_lt h₁
    have hfirst : hasPrivatePrefix lower = true → d₁ = 15 := fun h =>
      (letters h₁).f.mp (Option.some.inj (hhead h))
    simp only [List.foldl_cons, List.foldl_nil]
    refine ⟨iff_of_false (by simp) (by omega), fun h => ?_⟩
    have hd₁ := hfirst h
    omega
  · rename_i c₁ d₁ c₂ d₂
    have hlt₁ := hexDigit_lt h₁
    have hlt₂ := hexDigit_lt h₂
    have hfirst : hasPrivatePrefix lower = true → d₁ = 15 := fun h =>
      (letters h₁).f.mp (Option.some.inj (hhead h))
    simp only [List.foldl_cons, List.foldl_nil]
    refine ⟨iff_of_false (by simp) (by omega), fun h => ?_⟩
    have hd₁ := hfirst h
    omega
  · rename_i c₁ d₁ c₂ d₂ c₃ d₃
    have hlt₁ := hexDigit_lt h₁
    have hlt₂ := hexDigit_lt h₂
    have hlt₃ := hexDigit_lt h₃
    have hfirst : hasPrivatePrefix lower = true → d₁ = 15 := fun h =>
      (letters h₁).f.mp (Option.some.inj (hhead h))
    simp only [List.foldl_cons, List.foldl_nil]
    refine ⟨iff_of_false (by simp) (by omega), fun h => ?_⟩
    have hd₁ := hfirst h
    omega
  · rename_i c₁ d₁ c₂ d₂ c₃ d₃ c₄ d₄
    have hlt₂ := hexDigit_lt h₂
    have hlt₃ := hexDigit_lt h₃
    have hlt₄ := hexDigit_lt h₄
    have hstarts : hasPrivatePrefix lower = true ↔ d₁ = 15 ∧ (d₂ = 12 ∨ d₂ = 13 ∨
        (d₂ = 14 ∧ (d₃ = 8 ∨ d₃ = 9 ∨ d₃ = 10 ∨ d₃ = 11))) := by
      rw [hasPrivatePrefix_iff, ← (letters h₁).f, ← (letters h₂).c, ← (letters h₂).d,
        ← (letters h₂).e, ← (letters h₃).eight, ← (letters h₃).nine, ← (letters h₃).a,
        ← (letters h₃).b]
      simp only [hlower, List.cons_append, List.map_cons, List.cons.injEq, exists_or,
        exists_and_left, exists_eq', and_true, and_or_left]
    have hlt₁ := hexDigit_lt h₁
    simp only [List.foldl_cons, List.foldl_nil]
    refine ⟨?_, fun h => ?_⟩
    · rw [hstarts]
      simp only [List.length_cons, List.length_nil, Nat.reduceAdd, and_true]
      omega
    · have hd₁ := (hstarts.mp h).1
      omega
  · exact absurd hlength.2 (by simp)

theorem colon_not_mem_of_readGroup {chunk : List Char} {g : Nat} (h : readGroup chunk = some g) :
    ':' ∉ chunk := by
  intro hmem
  unfold readGroup at h
  split_ifs at h
  obtain ⟨ds, hds, -⟩ := Option.map_eq_some_iff.mp h
  obtain ⟨d, hd⟩ := read_of_mem (forall₂_of_mapM hds) hmem
  have hnone : Json.hexDigit ':' = none := by decide
  rw [hnone] at hd
  exact absurd hd (by simp)

/-- What the texts of one address have in common: its first group, which is zero where the
text starts with a colon. -/
theorem firstGroup_of_text {s : String} {x : Ipv6} (h : read s = some (.v6 x)) :
    ∃ g, x.groups.head? = some g ∧
      FirstGroup (s.toList.takeWhile (· ≠ ':')) (Text.asciiLower s) g := by
  obtain ⟨chunk, rest, hcore, hhead⟩ := readGroups_head (read_eq_v6 h)
  have hs : s.toList = chunk ++ ':' :: (rest ++ s.toList.dropWhile (· ≠ '%')) := by
    conv_lhs => rw [← List.takeWhile_append_dropWhile (p := (· ≠ '%')) (l := s.toList), hcore]
    simp
  have hlower : (Text.asciiLower s).toList =
      (chunk ++ ':' :: (rest ++ s.toList.dropWhile (· ≠ '%'))).map Char.toLower := by
    rw [← hs]
    exact String.toList_ofList
  have hchunk : ':' ∉ chunk → s.toList.takeWhile (· ≠ ':') = chunk := by
    intro hnot
    have hall : ∀ c ∈ chunk, decide (c ≠ ':') = true := fun c hc =>
      decide_eq_true fun heq => hnot (heq ▸ hc)
    rw [hs, List.takeWhile_append_of_pos hall, List.takeWhile_cons_of_neg (by simp),
      List.append_nil]
  rcases hhead with ⟨rfl, hzero⟩ | ⟨g, hread, hg⟩
  · rw [hchunk List.not_mem_nil]
    have hnone : ¬hasPrivatePrefix (Text.asciiLower s) = true := by
      intro hstarts
      have hf := head_of_hasPrivatePrefix hstarts
      rw [hlower] at hf
      exact absurd hf (by simp)
    exact ⟨0, hzero, ⟨iff_of_false (fun hc => hnone hc.1) (by omega), fun hc => absurd hc hnone⟩⟩
  · rw [hchunk (colon_not_mem_of_readGroup hread)]
    exact ⟨g, hg, firstGroup_of_read hlower hread⟩

/-! ### The mapped spelling -/

/-- Lower case only adds letters. -/
theorem eq_of_toLower {c l : Char} (h : c.toLower = l) (hl : l.isLower = false) : c = l := by
  have htable : ∀ m : Fin 128, (Char.ofNat m).toLower.isLower = false →
      (Char.ofNat m).toLower = Char.ofNat m := by
    decide
  rw [← h] at hl ⊢
  by_cases hc : c.toNat < 128
  · have hrow := htable ⟨c.toNat, hc⟩
    simp only [Char.ofNat_toNat] at hrow
    exact (hrow hl).symm
  · by_contra hne
    refine hc (toNat_lt_of_toLower ?_)
    unfold Char.toLower at hne ⊢
    split at hne
    · rename_i hupper
      have hle : c.val.toNat ≤ 90 := UInt32.le_iff_toNat_le.mp hupper.2
      have hval : c.toNat = c.val.toNat := rfl
      omega
    · exact absurd rfl hne

/-- Four parts of one to three digits. -/
def IsDotted (cs : List Char) : Prop :=
  (cs.splitOn '.').length = 4 ∧
    ∀ part ∈ cs.splitOn '.', 1 ≤ part.length ∧ part.length ≤ 3 ∧ part.all Char.isDigit = true

theorem mappedIpv4_eq_some_iff {lower mapped : String} :
    mappedIpv4 lower = some mapped ↔ lower = "::ffff:" ++ mapped ∧ IsDotted mapped.toList := by
  by_cases hstart : Text.startsWith lower "::ffff:" = true
  · have hstarts : "::ffff:".toList <+: lower.toList := of_decide_eq_true hstart
    obtain ⟨dotted, hdotted⟩ := hstarts
    have hlower : ∀ t : String, lower = "::ffff:" ++ t ↔ dotted = t.toList := by
      intro t
      rw [← String.toList_inj, String.toList_append, ← hdotted]
      exact ⟨List.append_cancel_left, congrArg _⟩
    have hdrop : lower.toList.drop 7 = dotted := by
      rw [← hdotted]
      rfl
    have hunfold : mappedIpv4 lower =
        if (dotted.splitOn '.').length = 4 ∧ ∀ part ∈ dotted.splitOn '.',
          1 ≤ part.length ∧ part.length ≤ 3 ∧ part.all Char.isDigit = true then
        some (String.ofList dotted) else none := by
      unfold mappedIpv4
      rw [if_pos hstart, hdrop]
    rw [hunfold, hlower]
    constructor
    · intro h
      split_ifs at h with hparts
      rw [← Option.some.inj h, String.toList_ofList]
      exact ⟨rfl, hparts⟩
    · rintro ⟨rfl, hparts⟩
      exact (if_pos hparts).trans (congrArg some String.ofList_toList)
  · refine iff_of_false ?_ fun h => hstart ?_
    · unfold mappedIpv4
      rw [if_neg hstart]
      exact fun h => Option.noConfusion rfl (heq_of_eq h)
    · refine decide_eq_true ?_
      rw [h.1, String.toList_append]
      exact List.prefix_append _ _

theorem IsDotted.chars {cs : List Char} (h : IsDotted cs) :
    ∀ c ∈ cs, c.isDigit = true ∨ c = '.' := by
  intro c hc
  have hwhole : ['.'].intercalate (cs.splitOn '.') = cs := List.intercalate_splitOn '.'
  rw [← hwhole] at hc
  rcases Text.mem_intercalate hc with hdot | ⟨part, hpart, hmem⟩
  · exact Or.inr hdot
  · exact Or.inl (List.all_eq_true.mp (h.2 part hpart).2.2 c hmem)

theorem IsDotted.dot_mem {cs : List Char} (h : IsDotted cs) : '.' ∈ cs := by
  by_contra hnot
  have hlength := h.1
  rw [List.splitOn_eq_singleton hnot] at hlength
  exact absurd hlength (by simp)

theorem not_isLower_of_dotted {c : Char} (h : c.isDigit = true ∨ c = '.') :
    c.isLower = false := by
  rcases h with h | rfl
  · have hle : c.val ≤ '9'.val := of_decide_eq_true (Bool.and_eq_true_iff.mp h).2
    have hle' : c.val.toNat ≤ 57 := UInt32.le_iff_toNat_le.mp hle
    refine Bool.eq_false_iff.mpr fun hlower => ?_
    have hge : c.val ≥ 'a'.val := of_decide_eq_true (Bool.and_eq_true_iff.mp hlower).1
    have hge' : 97 ≤ c.val.toNat := UInt32.le_iff_toNat_le.mp hge
    omega
  · decide

/-- What the pattern of the mapped addresses takes is one of them. -/
theorem embedded_of_mappedIpv4 {s mapped : String} {x : Ipv6} (h : read s = some (.v6 x))
    (hmapped : mappedIpv4 (Text.asciiLower s) = some mapped) :
    Text.asciiLower s = "::ffff:" ++ mapped ∧
      ∃ y, x.embedded = some y ∧ readIpv4 mapped.toList = some y := by
  obtain ⟨hlower, hdotted⟩ := mappedIpv4_eq_some_iff.mp hmapped
  refine ⟨hlower, ?_⟩
  have hmap : s.toList.map Char.toLower =
      ':' :: ':' :: 'f' :: 'f' :: 'f' :: 'f' :: ':' :: mapped.toList := by
    have hlist : (Text.asciiLower s).toList = s.toList.map Char.toLower := String.toList_ofList
    rw [← hlist, hlower, String.toList_append]
    rfl
  obtain ⟨c₁, r₁, hs₁, h₁, hmap⟩ := List.map_eq_cons_iff.mp hmap
  obtain ⟨c₂, r₂, hs₂, h₂, hmap⟩ := List.map_eq_cons_iff.mp hmap
  obtain ⟨f₁, r₃, hs₃, hf₁, hmap⟩ := List.map_eq_cons_iff.mp hmap
  obtain ⟨f₂, r₄, hs₄, hf₂, hmap⟩ := List.map_eq_cons_iff.mp hmap
  obtain ⟨f₃, r₅, hs₅, hf₃, hmap⟩ := List.map_eq_cons_iff.mp hmap
  obtain ⟨f₄, r₆, hs₆, hf₄, hmap⟩ := List.map_eq_cons_iff.mp hmap
  obtain ⟨c₃, r₇, hs₇, h₃, hmap⟩ := List.map_eq_cons_iff.mp hmap
  obtain rfl := eq_of_toLower h₁ (by decide)
  obtain rfl := eq_of_toLower h₂ (by decide)
  obtain rfl := eq_of_toLower h₃ (by decide)
  have hrest : r₇ = mapped.toList := by
    rw [← hmap]
    refine (List.map_id _).symm.trans (List.map_congr_left fun c hc => eq_of_toLower rfl ?_)
    have hmem : c.toLower ∈ mapped.toList := by
      rw [← hmap]
      exact List.mem_map_of_mem hc
    exact not_isLower_of_dotted (hdotted.chars _ hmem)
  have hs : s.toList = ':' :: ':' :: f₁ :: f₂ :: f₃ :: f₄ :: ':' :: mapped.toList := by
    rw [hs₁, hs₂, hs₃, hs₄, hs₅, hs₆, hs₇, hrest]
  have hf : ∀ f ∈ [f₁, f₂, f₃, f₄], Json.hexDigit f = some 15 := by
    intro f hmem
    have hletter : f.toLower = 'f' := by
      simp only [List.mem_cons, List.not_mem_nil, or_false] at hmem
      rcases hmem with rfl | rfl | rfl | rfl <;> assumption
    exact (hexDigit_eq_some_iff (by decide)).mpr hletter
  have hpercent : ∀ c ∈ s.toList, decide (c ≠ '%') = true := by
    intro c hc
    refine decide_eq_true ?_
    rintro rfl
    have hdigit : ∀ f, Json.hexDigit f = some 15 → '%' ≠ f := by
      rintro f hfifteen rfl
      exact absurd hfifteen (by decide)
    rw [hs] at hc
    simp only [List.mem_cons, hdigit f₁ (hf f₁ (by simp)), hdigit f₂ (hf f₂ (by simp)),
      hdigit f₃ (hf f₃ (by simp)), hdigit f₄ (hf f₄ (by simp)), false_or] at hc
    rcases hc with hc | hc | hc | hc
    · exact absurd hc (by decide)
    · exact absurd hc (by decide)
    · exact absurd hc (by decide)
    · exact absurd (hdotted.chars _ hc) (by decide)
  have hgroups := read_eq_v6 h
  rw [List.takeWhile_eq_self_iff.mpr hpercent, hs] at hgroups
  have hcolon : ':' ∉ mapped.toList := fun hmem => absurd (hdotted.chars _ hmem) (by decide)
  obtain ⟨y, hy, hx⟩ := readGroups_mapped hf hcolon hdotted.dot_mem hgroups
  exact ⟨y, embedded_of_groups hx, hy⟩

/-- The pattern takes what is written so. -/
theorem mappedIpv4_of_spelled {lower dotted : String} {y : Ipv4}
    (hlower : lower = "::ffff:" ++ dotted) (hread : readIpv4 dotted.toList = some y) :
    mappedIpv4 lower = some dotted := by
  refine mappedIpv4_eq_some_iff.mpr ⟨hlower, ?_⟩
  unfold readIpv4 at hread
  split at hread
  · rename_i a b c d hparts
    have hocts := forall₂_of_mapM hparts
    refine ⟨hocts.length_eq, fun part hpart => ?_⟩
    obtain ⟨n, hn⟩ := read_of_mem hocts hpart
    unfold readOctet at hn
    split_ifs at hn with hoctet
    exact ⟨hoctet.1, hoctet.2.1, hoctet.2.2.1⟩
  · exact absurd hread (by simp)

/-! ### The law -/

/-- The spelling of an IPv6 address that the guard reads right. -/
structure Spelled (s : String) (x : Ipv6) : Prop where
  unspecified : x.value = 0 → s = "::"
  loopback : x.value = 1 → s = "::1"
  /-- A blocked IPv4 address in it is written in decimal. -/
  mapped : ∀ y, x.embedded = some y → Blocked4 y →
    ∃ dotted, Text.asciiLower s = "::ffff:" ++ dotted ∧ readIpv4 dotted.toList = some y
  /-- A first group that starts like one of the two ranges has four digits. -/
  first : hasPrivatePrefix (Text.asciiLower s) = true →
    (s.toList.takeWhile (· ≠ ':')).length = 4

def WellSpelled (s : String) : Address → Prop
  | .v4 _ => True
  | .v6 x => Spelled s x

theorem asciiLower_eq_iff {s t : String} (ht : ∀ c ∈ t.toList, c.isLower = false ∧ c.toLower = c) :
    Text.asciiLower s = t ↔ s = t := by
  have hlist : ∀ u : String, (Text.asciiLower u).toList = u.toList.map Char.toLower := fun _ =>
    String.toList_ofList
  constructor
  · rintro rfl
    refine String.toList_injective ?_
    rw [hlist] at ht ⊢
    refine (List.map_id _).symm.trans (List.map_congr_left fun c hc => ?_)
    exact eq_of_toLower rfl (ht _ (List.mem_map_of_mem hc)).1
  · rintro rfl
    refine String.toList_injective ?_
    rw [hlist]
    exact (List.map_congr_left fun c hc => (ht c hc).2).trans (List.map_id _)

theorem isPrivateIpv6_iff (s : String) :
    isPrivateIpv6 s = true ↔ s = "::1" ∨ s = "::" ∨
      hasPrivatePrefix (Text.asciiLower s) = true ∨
      ∃ mapped, mappedIpv4 (Text.asciiLower s) = some mapped ∧ isPrivateIpv4 mapped = true := by
  have hone : Text.asciiLower s = "::1" ↔ s = "::1" := asciiLower_eq_iff (by simp)
  have hnone : Text.asciiLower s = "::" ↔ s = "::" := asciiLower_eq_iff (by simp)
  unfold isPrivateIpv6
  simp only [hone, hnone, Bool.if_true_left, Bool.or_eq_true, decide_eq_true_eq, or_assoc]
  cases mappedIpv4 (Text.asciiLower s) <;> simp

theorem blocked6_iff {x : Ipv6} {g : Nat} (h : x.groups.head? = some g) :
    Blocked6 x ↔ x.value = 0 ∨ x.value = 1 ∨
      ((0xfc00 ≤ g ∧ g ≤ 0xfdff) ∨ (0xfe80 ≤ g ∧ g ≤ 0xfebf)) ∨
      ∃ y, x.embedded = some y ∧ Blocked4 y := by
  obtain ⟨hlocal, hlink, -⟩ := value_head h
  have hexact : ∀ n, InPrefix 128 n 128 x.value ↔ x.value = n := by
    intro n
    unfold InPrefix
    rw [Nat.sub_self, Nat.pow_zero, Nat.div_one, Nat.div_one]
  unfold Blocked6
  rw [hexact, hexact, hlocal, hlink, or_assoc]

/-- The value of the address that is read, if it has one. -/
def readValue (s : String) : Option Nat :=
  match read s with
  | some (.v6 x) => some x.value
  | _ => none

theorem unspecified_read : readValue "::" = some 0 := by decide

theorem loopback_read : readValue "::1" = some 1 := by decide

theorem value_of_read {s : String} {x : Ipv6} {n : Nat} (h : read s = some (.v6 x))
    (hvalue : readValue s = some n) : x.value = n := by
  unfold readValue at hvalue
  rw [h] at hvalue
  exact Option.some.inj hvalue

/-- **An IPv6 text is judged by its address exactly when it is spelled so.** -/
theorem isPrivateIpv6_blocked_iff {s : String} {x : Ipv6} (h : read s = some (.v6 x)) :
    (isPrivateIpv6 s = true ↔ Blocked6 x) ↔ Spelled s x := by
  obtain ⟨g, hg, hfirst⟩ := firstGroup_of_text h
  have hlow := (value_head hg).2.2
  have hmapped : ∀ {y}, x.embedded = some y → g = 0 ∧ 1 < x.value := by
    intro y hy
    obtain ⟨hhead, hvalue⟩ := head_of_embedded hy
    exact ⟨Option.some.inj (hg.symm.trans hhead), hvalue⟩
  have hzero : s = "::" → x.value = 0 := by
    rintro rfl
    exact value_of_read h unspecified_read
  have hone : s = "::1" → x.value = 1 := by
    rintro rfl
    exact value_of_read h loopback_read
  rw [isPrivateIpv6_iff, blocked6_iff hg]
  constructor
  · intro hiff
    have hspelling := fun hblocked => hiff.mpr hblocked
    refine ⟨fun hv => ?_, fun hv => ?_, fun y hy hblocked => ?_, fun hstarts => ?_⟩
    · rcases hspelling (Or.inl hv) with hs | hs | hstarts | ⟨mapped, hm, -⟩
      · exact absurd (hone hs) (by omega)
      · exact hs
      · exact absurd (hfirst.pos hstarts) (by have := hlow (by omega); omega)
      · obtain ⟨-, y, hy, -⟩ := embedded_of_mappedIpv4 h hm
        exact absurd (hmapped hy).2 (by omega)
    · rcases hspelling (Or.inr (Or.inl hv)) with hs | hs | hstarts | ⟨mapped, hm, -⟩
      · exact hs
      · exact absurd (hzero hs) (by omega)
      · exact absurd (hfirst.pos hstarts) (by have := hlow (by omega); omega)
      · obtain ⟨-, y, hy, -⟩ := embedded_of_mappedIpv4 h hm
        exact absurd (hmapped hy).2 (by omega)
    · obtain ⟨hg0, hvalue⟩ := hmapped hy
      rcases hspelling (Or.inr (Or.inr (Or.inr ⟨y, hy, hblocked⟩))) with
        hs | hs | hstarts | ⟨mapped, hm, -⟩
      · exact absurd (hone hs) (by omega)
      · exact absurd (hzero hs) (by omega)
      · exact absurd (hfirst.pos hstarts) (by omega)
      · obtain ⟨hlower, z, hz, hread⟩ := embedded_of_mappedIpv4 h hm
        obtain rfl := Option.some.inj (hy.symm.trans hz)
        exact ⟨mapped, hlower, hread⟩
    · have hpos := hfirst.pos hstarts
      rcases hiff.mp (Or.inr (Or.inr (Or.inl hstarts))) with hv | hv | hrange | ⟨y, hy, -⟩
      · exact absurd (hlow (by omega)) (by omega)
      · exact absurd (hlow (by omega)) (by omega)
      · exact (hfirst.exact.mpr hrange).2
      · exact absurd (hmapped hy).1 (by omega)
  · intro hspelled
    constructor
    · rintro (hs | hs | hstarts | ⟨mapped, hm, hprivate⟩)
      · exact Or.inr (Or.inl (hone hs))
      · exact Or.inl (hzero hs)
      · exact Or.inr (Or.inr (Or.inl (hfirst.exact.mp ⟨hstarts, hspelled.first hstarts⟩)))
      · obtain ⟨-, y, hy, hread⟩ := embedded_of_mappedIpv4 h hm
        exact Or.inr (Or.inr (Or.inr ⟨y, hy, (isPrivateIpv4_eq hread).mp hprivate⟩))
    · rintro (hv | hv | hrange | ⟨y, hy, hblocked⟩)
      · exact Or.inr (Or.inl (hspelled.unspecified hv))
      · exact Or.inl (hspelled.loopback hv)
      · exact Or.inr (Or.inr (Or.inl (hfirst.exact.mpr hrange).1))
      · obtain ⟨dotted, hlower, hread⟩ := hspelled.mapped y hy hblocked
        exact Or.inr (Or.inr (Or.inr ⟨dotted, mappedIpv4_of_spelled hlower hread,
          (isPrivateIpv4_eq hread).mpr hblocked⟩))

theorem isPrivateIp_blocked_iff {s : String} {a : Address} (h : read s = some a) :
    (isPrivateIp s = true ↔ Blocked a) ↔ WellSpelled s a := by
  cases a with
  | v4 x =>
      have hjudge : isPrivateIp s = isPrivateIpv4 s := by
        simp only [isPrivateIp, isIP, h]
      rw [hjudge]
      exact iff_of_true (isPrivateIpv4_eq (read_eq_v4 h)) trivial
  | v6 x =>
      have hjudge : isPrivateIp s = isPrivateIpv6 s := by
        simp only [isPrivateIp, isIP, h]
      rw [hjudge]
      exact isPrivateIpv6_blocked_iff h

/-- **The guard judges addresses, for these spellings.**

Two texts of one address get the same answer, and it is that the address is blocked, if and
only if both are spelled the way the guard reads. -/
theorem guard_judges_addresses_iff {s₁ s₂ : String} {a : Address} (h₁ : read s₁ = some a)
    (h₂ : read s₂ = some a) :
    (isPrivateIp s₁ = isPrivateIp s₂ ∧ (isPrivateIp s₁ = true ↔ Blocked a)) ↔
      WellSpelled s₁ a ∧ WellSpelled s₂ a := by
  rw [← isPrivateIp_blocked_iff h₁, ← isPrivateIp_blocked_iff h₂]
  constructor
  · rintro ⟨hsame, hexact⟩
    exact ⟨hexact, hsame ▸ hexact⟩
  · rintro ⟨hone, htwo⟩
    exact ⟨Bool.eq_iff_iff.mpr (hone.trans htwo.symm), hone⟩

namespace SsrfExample

/-- 127.0.0.1 in its two mapped spellings; the second is how a URL writes both. -/
theorem mapped_loopback_passes :
    (read "::ffff:127.0.0.1" = read "::ffff:7f00:1" ∧ isIP "::ffff:7f00:1" = 6) ∧
      isPrivateIp "::ffff:127.0.0.1" = true ∧ isPrivateIp "::ffff:7f00:1" = false ∧
      isPrivateHostname "[::ffff:7f00:1]" = false := by
  decide

def uniqueLocal : Ipv6 := ⟨[0xfd12, 0, 0, 0, 0, 0, 0, 1], rfl, by decide⟩

theorem uniqueLocal_blocked : Blocked (.v6 uniqueLocal) := by
  have hrange : InPrefix 128 (0xfc00 * 2 ^ 112) 7 uniqueLocal.value := by decide
  exact Or.inr (Or.inr (Or.inl hrange))

theorem spelled_uniqueLocal {s : String} (h : (s.toList.takeWhile (· ≠ ':')).length = 4) :
    WellSpelled s (.v6 uniqueLocal) := by
  have hvalue : 1 < uniqueLocal.value := by decide
  exact ⟨fun hv => absurd hv (by omega), fun hv => absurd hv (by omega),
    fun y hy => absurd hy (by simp [uniqueLocal, Ipv6.embedded]), fun _ => h⟩

/-- Two spellings of one unique-local address. -/
theorem unique_local_blocked :
    isPrivateIp "fd12::1" = isPrivateIp "FD12:0:0::0.0.0.1" ∧ isPrivateIp "fd12::1" = true := by
  have hshort : read "fd12::1" = some (.v6 uniqueLocal) := by decide
  have hlong : read "FD12:0:0::0.0.0.1" = some (.v6 uniqueLocal) := by decide
  obtain ⟨hsame, hexact⟩ := (guard_judges_addresses_iff hshort hlong).mpr
    ⟨spelled_uniqueLocal (by decide), spelled_uniqueLocal (by decide)⟩
  exact ⟨hsame, hexact.mpr uniqueLocal_blocked⟩

end SsrfExample

end Veridian.SsrfGuard
