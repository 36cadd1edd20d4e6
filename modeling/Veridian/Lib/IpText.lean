/-
IP addresses and the texts that name them.

An IPv6 address has many texts: a group may have zeros in front, a run of zero groups may be
left out, the last two groups may be written as an IPv4 address, a zone may follow.  Of a
text that is read, the first group is what stands in front of the first colon, or it is
zero and nothing stands there.
-/
import Mathlib.Algebra.Ring.Nat
import Veridian.Lib.JsonParse

namespace Veridian.Ip

/-! ### Addresses -/

structure Ipv4 where
  (a b c d : Fin 256)
  deriving DecidableEq, Repr

def Ipv4.value (x : Ipv4) : Nat := ((x.a.val * 256 + x.b) * 256 + x.c) * 256 + x.d

structure Ipv6 where
  groups : List Nat
  length_eq : groups.length = 8
  lt : ∀ g ∈ groups, g < 65536
  deriving DecidableEq, Repr

def Ipv6.value (x : Ipv6) : Nat := x.groups.foldl (fun n g => n * 65536 + g) 0

/-- The address in `::ffff:0:0/96`. -/
def Ipv6.embedded (x : Ipv6) : Option Ipv4 :=
  match x.groups with
  | [0, 0, 0, 0, 0, 65535, g, h] =>
      some ⟨Fin.ofNat 256 (g / 256), Fin.ofNat 256 g, Fin.ofNat 256 (h / 256), Fin.ofNat 256 h⟩
  | _ => none

inductive Address where
  | v4 (x : Ipv4)
  | v6 (x : Ipv6)
  deriving DecidableEq, Repr

/-- `base/len`: the first `len` bits are those of the base. -/
def InPrefix (bits base len value : Nat) : Prop :=
  value / 2 ^ (bits - len) = base / 2 ^ (bits - len)

instance (bits base len value : Nat) : Decidable (InPrefix bits base len value) :=
  inferInstanceAs (Decidable (_ = _))

/-! ### IPv4 -/

/-- A number below 256 without zeros in front. -/
def readOctet (cs : List Char) : Option (Fin 256) :=
  if 1 ≤ cs.length ∧ cs.length ≤ 3 ∧ cs.all Char.isDigit = true ∧
      (cs.head? = some '0' → cs = ['0']) then
    if h : Nat.ofDigitChars 10 cs 0 < 256 then some ⟨Nat.ofDigitChars 10 cs 0, h⟩ else none
  else none

def readIpv4 (cs : List Char) : Option Ipv4 :=
  match (cs.splitOn '.').mapM readOctet with
  | some [a, b, c, d] => some ⟨a, b, c, d⟩
  | _ => none

/-! ### IPv6 -/

def readGroup (cs : List Char) : Option Nat :=
  if 1 ≤ cs.length ∧ cs.length ≤ 4 then
    (cs.mapM Json.hexDigit).map (List.foldl (fun n d => n * 16 + d) 0)
  else none

/-- Groups, the last of which may be an IPv4 address in the place of two. -/
def readTail : List (List Char) → Option (List Nat)
  | [] => some []
  | [last] =>
      match readGroup last with
      | some g => some [g]
      | none => (readIpv4 last).map fun x => [x.a * 256 + x.b, x.c * 256 + x.d]
  | chunk :: rest =>
      match readGroup chunk, readTail rest with
      | some g, some gs => some (g :: gs)
      | _, _ => none

/-- What stands before the first `::`, and behind it. -/
def cutDouble : List Char → Option (List Char × List Char)
  | [] => none
  | ':' :: ':' :: rest => some ([], rest)
  | c :: rest => (cutDouble rest).map fun cut => (c :: cut.1, cut.2)

def chunks (cs : List Char) : List (List Char) := if cs = [] then [] else cs.splitOn ':'

def readGroups (cs : List Char) : Option (List Nat) :=
  match cutDouble cs with
  | none => (readTail (chunks cs)).filter fun gs => gs.length = 8
  | some (front, back) =>
      match (chunks front).mapM readGroup, readTail (chunks back) with
      | some fs, some bs =>
          if fs.length + bs.length ≤ 7 then
            some (fs ++ List.replicate (8 - (fs.length + bs.length)) 0 ++ bs)
          else none
      | _, _ => none

/-- Nothing, or `%` and a name. -/
def isZone : List Char → Bool
  | [] => true
  | '%' :: zone =>
      zone ≠ [] && zone.all fun c => c.isAlphanum || c = '-' || c = '.' || c = ':'
  | _ => false

def readIpv6 (cs : List Char) : Option Ipv6 :=
  if isZone (cs.dropWhile (· ≠ '%')) = true then
    match readGroups (cs.takeWhile (· ≠ '%')) with
    | some gs =>
        if h : gs.length = 8 ∧ ∀ g ∈ gs, g < 65536 then some ⟨gs, h.1, h.2⟩ else none
    | none => none
  else none

def read (s : String) : Option Address :=
  match readIpv4 s.toList with
  | some x => some (.v4 x)
  | none => (readIpv6 s.toList).map .v6

/-- `net.isIP(s)` -/
def isIP (s : String) : Nat :=
  match read s with
  | some (.v4 _) => 4
  | some (.v6 _) => 6
  | none => 0

example : read "::FFFF:127.0.0.1%eth0" = read "0:0:0:0:0:ffff:7f00:1" := by decide

/-! ### The digits of a group -/

theorem toNat_lt_of_hexDigit {c : Char} {n : Nat} (h : Json.hexDigit c = some n) :
    c.toNat < 128 := by
  have hval : c.toNat = c.val.toNat := rfl
  unfold Json.hexDigit at h
  split_ifs at h with hdigit hlower hupper
  · simp only [Char.isDigit, Bool.and_eq_true, decide_eq_true_eq, UInt32.le_iff_toNat_le] at hdigit
    have hnine : '9'.val.toNat = 57 := rfl
    omega
  · have hle : c.val.toNat ≤ 'f'.val.toNat := UInt32.le_iff_toNat_le.mp hlower.2
    have hf : 'f'.val.toNat = 102 := rfl
    omega
  · have hle : c.val.toNat ≤ 'F'.val.toNat := UInt32.le_iff_toNat_le.mp hupper.2
    have hf : 'F'.val.toNat = 70 := rfl
    omega

theorem toNat_lt_of_toLower {c : Char} (h : c.toLower.toNat < 128) : c.toNat < 128 := by
  unfold Char.toLower at h
  split at h
  · rename_i hupper
    have hle : c.val.toNat ≤ 90 := by
      have hz : c.val ≤ 'Z'.val := hupper.2
      exact UInt32.le_iff_toNat_le.mp hz
    have hval : c.toNat = c.val.toNat := rfl
    omega
  · exact h

/-- A digit is known by its lower-case letter. -/
theorem hexDigit_eq_some_iff {c : Char} {n : Nat} (hn : n < 16) :
    Json.hexDigit c = some n ↔ c.toLower = Nat.digitChar n := by
  have htable : ∀ m : Fin 128, ∀ n : Fin 16,
      Json.hexDigit (Char.ofNat m) = some n.val ↔ (Char.ofNat m).toLower = Nat.digitChar n := by
    decide +kernel
  have hchar : ∀ n : Fin 16, (Nat.digitChar n).toNat < 128 := by decide
  have hiff : c.toNat < 128 → (Json.hexDigit c = some n ↔ c.toLower = Nat.digitChar n) := by
    intro hc
    have hrow := htable ⟨c.toNat, hc⟩ ⟨n, hn⟩
    simp only [Char.ofNat_toNat] at hrow
    exact hrow
  refine ⟨fun h => (hiff (toNat_lt_of_hexDigit h)).mp h, fun h => (hiff ?_).mpr h⟩
  refine toNat_lt_of_toLower ?_
  rw [h]
  exact hchar ⟨n, hn⟩

/-- What is read as a whole is read part for part. -/
theorem forall₂_of_mapM {α β : Type} {f : α → Option β} {l : List α} :
    ∀ {ys : List β}, l.mapM f = some ys → List.Forall₂ (fun x y => f x = some y) l ys := by
  induction l with
  | nil =>
      intro ys h
      obtain rfl : [] = ys := Option.some.inj h
      exact .nil
  | cons x l ih =>
      intro ys h
      rw [List.mapM_cons] at h
      obtain ⟨y, hy, hrest⟩ := Option.bind_eq_some_iff.mp h
      obtain ⟨ys', hys, heq⟩ := Option.bind_eq_some_iff.mp hrest
      obtain rfl : y :: ys' = ys := Option.some.inj heq
      exact .cons hy (ih hys)

theorem read_of_mem {α β : Type} {f : α → Option β} {l : List α} {ys : List β}
    (h : List.Forall₂ (fun x y => f x = some y) l ys) {x : α} (hx : x ∈ l) :
    ∃ y, f x = some y := by
  induction h with
  | nil => exact absurd hx List.not_mem_nil
  | cons hy _ ih =>
      rcases List.mem_cons.mp hx with rfl | hx
      · exact ⟨_, hy⟩
      · exact ih hx

/-! ### The first group -/

theorem cutDouble_eq_some {cs front back : List Char} (h : cutDouble cs = some (front, back)) :
    cs = front ++ ':' :: ':' :: back := by
  induction cs using cutDouble.induct generalizing front with
  | case1 => exact absurd h (by simp [cutDouble])
  | case2 rest =>
      obtain ⟨rfl, rfl⟩ := Prod.mk.inj (Option.some.inj h)
      rfl
  | case3 c rest hne ih =>
      rw [cutDouble] at h
      · obtain ⟨cut, hcut, heq⟩ := Option.map_eq_some_iff.mp h
        obtain ⟨rfl, rfl⟩ := Prod.mk.inj heq
        exact congrArg (c :: ·) (ih hcut)
      · exact hne

/-- What is cut at its colons starts with the first chunk. -/
theorem splitOn_cons {cs chunk : List Char} {rest : List (List Char)}
    (h : cs.splitOn ':' = chunk :: rest) :
    (rest = [] ∧ cs = chunk) ∨ ∃ tail, cs = chunk ++ ':' :: tail := by
  have hwhole : [':'].intercalate (cs.splitOn ':') = cs := List.intercalate_splitOn ':'
  rw [h] at hwhole
  cases rest with
  | nil => exact Or.inl ⟨rfl, by simpa using hwhole.symm⟩
  | cons next rest =>
      refine Or.inr ⟨[':'].intercalate (next :: rest), ?_⟩
      rw [← hwhole, List.intercalate_cons_cons]
      simp

theorem readTail_cons_cons {chunk next : List Char} {rest : List (List Char)} {gs : List Nat}
    (h : readTail (chunk :: next :: rest) = some gs) :
    ∃ g, readGroup chunk = some g ∧ gs.head? = some g := by
  unfold readTail at h
  split at h
  · rename_i g gs' hg _
    exact ⟨g, hg, by rw [← Option.some.inj h]; rfl⟩
  · exact absurd h (by simp)

theorem readTail_singleton_length {last : List Char} {gs : List Nat}
    (h : readTail [last] = some gs) : gs.length ≤ 2 := by
  unfold readTail at h
  split at h
  · rw [← Option.some.inj h]
    exact Nat.le_succ 1
  · obtain ⟨x, -, rfl⟩ := Option.map_eq_some_iff.mp h
    exact le_refl _

/-- **The first group of a text.** -/
theorem readGroups_head {cs : List Char} {gs : List Nat} (h : readGroups cs = some gs) :
    ∃ chunk rest, cs = chunk ++ ':' :: rest ∧
      ((chunk = [] ∧ gs.head? = some 0) ∨ ∃ g, readGroup chunk = some g ∧ gs.head? = some g) := by
  unfold readGroups at h
  split at h
  · -- eight groups, so more than one chunk
    obtain ⟨htail, hlength⟩ := Option.filter_eq_some_iff.mp h
    have height : gs.length = 8 := of_decide_eq_true hlength
    unfold chunks at htail
    split_ifs at htail with hnil
    · rw [← Option.some.inj htail] at height
      exact absurd height (by decide)
    · cases hsplit : cs.splitOn ':' with
      | nil => exact absurd hsplit (List.splitOn_ne_nil _ _)
      | cons chunk more =>
          rw [hsplit] at htail
          cases more with
          | nil => exact absurd (readTail_singleton_length htail) (by omega)
          | cons next more =>
              rcases splitOn_cons hsplit with ⟨hnone, -⟩ | ⟨rest, hcs⟩
              · exact absurd hnone (List.cons_ne_nil _ _)
              · exact ⟨chunk, rest, hcs, Or.inr (readTail_cons_cons htail)⟩
  · rename_i front back hcut
    have hcs := cutDouble_eq_some hcut
    split at h
    · rename_i fs bs hfront hback
      split_ifs at h with hcount
      obtain rfl := Option.some.inj h
      by_cases hempty : front = []
      · refine ⟨[], ':' :: back, by rw [hcs, hempty], Or.inl ⟨rfl, ?_⟩⟩
        have hfs : fs = [] := by
          rw [hempty] at hfront
          exact (Option.some.inj hfront).symm
        rw [hfs] at hcount ⊢
        have hzeros : 8 - (([] : List Nat).length + bs.length) =
            7 - bs.length + 1 := by
          simp only [List.length_nil] at hcount ⊢
          omega
        rw [hzeros, List.replicate_succ]
        rfl
      · rw [chunks, if_neg hempty] at hfront
        cases hsplit : front.splitOn ':' with
        | nil => exact absurd hsplit (List.splitOn_ne_nil _ _)
        | cons chunk more =>
            rw [hsplit, List.mapM_cons] at hfront
            obtain ⟨g, hg, hrest⟩ := Option.bind_eq_some_iff.mp hfront
            obtain ⟨gs', -, heq⟩ := Option.bind_eq_some_iff.mp hrest
            have hfs : fs = g :: gs' := (Option.some.inj heq).symm
            have hhead : (fs ++ List.replicate (8 - (fs.length + bs.length)) 0 ++ bs).head? =
                some g := by
              rw [hfs]
              rfl
            rcases splitOn_cons hsplit with ⟨-, hone⟩ | ⟨tail, hmany⟩
            · exact ⟨chunk, ':' :: back, by rw [hcs, hone], Or.inr ⟨g, hg, hhead⟩⟩
            · refine ⟨chunk, tail ++ ':' :: ':' :: back, ?_, Or.inr ⟨g, hg, hhead⟩⟩
              rw [hcs, hmany]
              simp
    · exact absurd h (by simp)

/-- A text in front of which stands `::ffff:` and that ends in an IPv4 address. -/
theorem readGroups_mapped {f₁ f₂ f₃ f₄ : Char} {dotted : List Char} {gs : List Nat}
    (hf : ∀ f ∈ [f₁, f₂, f₃, f₄], Json.hexDigit f = some 15) (hcolon : ':' ∉ dotted)
    (hdot : '.' ∈ dotted) (h : readGroups (':' :: ':' :: f₁ :: f₂ :: f₃ :: f₄ :: ':' :: dotted) =
      some gs) :
    ∃ x, readIpv4 dotted = some x ∧
      gs = [0, 0, 0, 0, 0, 65535, x.a.val * 256 + x.b.val, x.c.val * 256 + x.d.val] := by
  have hnot : ':' ∉ [f₁, f₂, f₃, f₄] := by
    intro hmem
    have hdigit := hf ':' hmem
    exact absurd hdigit (by decide)
  have hchunks : chunks (f₁ :: f₂ :: f₃ :: f₄ :: ':' :: dotted) = [[f₁, f₂, f₃, f₄], dotted] := by
    rw [chunks, if_neg (List.cons_ne_nil _ _)]
    have hsplit : ([f₁, f₂, f₃, f₄] ++ ':' :: dotted).splitOn ':' =
        [f₁, f₂, f₃, f₄] :: dotted.splitOn ':' :=
      List.splitOn_append_cons_self_of_not_mem hnot _
    rw [List.splitOn_eq_singleton hcolon] at hsplit
    exact hsplit
  have hffff : readGroup [f₁, f₂, f₃, f₄] = some 65535 := by
    have h₁ := hf f₁ (by simp)
    have h₂ := hf f₂ (by simp)
    have h₃ := hf f₃ (by simp)
    have h₄ := hf f₄ (by simp)
    simp [readGroup, h₁, h₂, h₃, h₄]
  have hnone : readGroup dotted = none := by
    cases hread : readGroup dotted with
    | none => rfl
    | some g =>
        unfold readGroup at hread
        split_ifs at hread
        obtain ⟨ds, hds, -⟩ := Option.map_eq_some_iff.mp hread
        obtain ⟨d, hd⟩ := read_of_mem (forall₂_of_mapM hds) hdot
        have hdotNone : Json.hexDigit '.' = none := by decide
        rw [hdotNone] at hd
        exact absurd hd (by simp)
  have hcut : cutDouble (':' :: ':' :: f₁ :: f₂ :: f₃ :: f₄ :: ':' :: dotted) =
      some ([], f₁ :: f₂ :: f₃ :: f₄ :: ':' :: dotted) := rfl
  unfold readGroups at h
  rw [hcut] at h
  simp only [hchunks, readTail, hffff, hnone] at h
  cases hread : readIpv4 dotted with
  | none => simp [hread] at h
  | some x =>
      refine ⟨x, rfl, ?_⟩
      simp [hread, chunks] at h
      exact h.symm

/-! ### What was read -/

/-- The address is that of the text in front of the zone. -/
theorem read_eq_v6 {s : String} {x : Ipv6} (h : read s = some (.v6 x)) :
    readGroups (s.toList.takeWhile (· ≠ '%')) = some x.groups := by
  unfold read at h
  split at h
  · exact absurd h (by simp)
  · obtain ⟨y, hy, heq⟩ := Option.map_eq_some_iff.mp h
    obtain rfl := Address.v6.inj heq
    unfold readIpv6 at hy
    split_ifs at hy
    split at hy
    · rename_i gs hgs
      split_ifs at hy
      obtain rfl := Option.some.inj hy
      exact hgs
    · exact absurd hy (by simp)

theorem read_eq_v4 {s : String} {x : Ipv4} (h : read s = some (.v4 x)) :
    readIpv4 s.toList = some x := by
  unfold read at h
  split at h
  · rename_i y hy
    rw [hy, Address.v4.inj (Option.some.inj h)]
  · obtain ⟨y, -, heq⟩ := Option.map_eq_some_iff.mp h
    exact absurd heq (by simp)

/-- An address in the range of the mapped ones starts with zeros, and is neither of the two
lowest. -/
theorem head_of_embedded {x : Ipv6} {y : Ipv4} (h : x.embedded = some y) :
    x.groups.head? = some 0 ∧ 1 < x.value := by
  unfold Ipv6.embedded at h
  split at h
  · rename_i g k hgroups
    unfold Ipv6.value
    rw [hgroups]
    refine ⟨rfl, ?_⟩
    simp only [List.foldl_cons, List.foldl_nil]
    omega
  · exact absurd h (by simp)

/-- An address written as mapped has the IPv4 address in it. -/
theorem embedded_of_groups {x : Ipv6} {y : Ipv4}
    (h : x.groups = [0, 0, 0, 0, 0, 65535, y.a.val * 256 + y.b.val, y.c.val * 256 + y.d.val]) :
    x.embedded = some y := by
  have ha := y.a.isLt
  have hb := y.b.isLt
  have hc := y.c.isLt
  have hd := y.d.isLt
  unfold Ipv6.embedded
  rw [h]
  refine congrArg some ?_
  obtain ⟨a, b, c, d⟩ := y
  simp only [Ipv4.mk.injEq]
  refine ⟨Fin.ext ?_, Fin.ext ?_, Fin.ext ?_, Fin.ext ?_⟩ <;> simp [Fin.ofNat] <;> omega

end Veridian.Ip
