/-
Base64, as `btoa` writes it and `atob` reads it.

Three bytes are four digits of six bits; what is left over at the end is two or three
digits, and the writer fills the last four up with `=`.  The reader is the forgiving one of
the browsers: blanks are skipped, one or two `=` that complete four are dropped, a single
digit left over is an error and so is any other character.  It reads back what was written
whether or not the `=` are there.
-/
import Mathlib.Data.List.DropRight

namespace Veridian.Base64

/-! ### Digits -/

def digit (n : Nat) : Char :=
  if n < 26 then Char.ofNat (65 + n)
  else if n < 52 then Char.ofNat (71 + n)
  else if n < 62 then Char.ofNat (n - 4)
  else if n = 62 then '+'
  else '/'

def value (c : Char) : Option Nat :=
  if 'A' ≤ c ∧ c ≤ 'Z' then some (c.toNat - 65)
  else if 'a' ≤ c ∧ c ≤ 'z' then some (c.toNat - 71)
  else if '0' ≤ c ∧ c ≤ '9' then some (c.toNat + 4)
  else if c = '+' then some 62
  else if c = '/' then some 63
  else none

/-- ASCII whitespace. -/
def isBlank (c : Char) : Bool := c = '\t' || c = '\n' || c = '\x0c' || c = '\r' || c = ' '

theorem value_digit : ∀ n < 64, value (digit n) = some n := by decide

theorem digit_plain : ∀ n < 64, digit n ≠ '=' ∧ isBlank (digit n) = false := by decide

/-! ### Six bits at a time -/

def sextets : List Nat → List Nat
  | a :: b :: c :: rest => a / 4 :: (a % 4 * 16 + b / 16) :: (b % 16 * 4 + c / 64) :: c % 64 ::
      sextets rest
  | [a, b] => [a / 4, a % 4 * 16 + b / 16, b % 16 * 4]
  | [a] => [a / 4, a % 4 * 16]
  | [] => []

/-- Bits that are left over at the end are dropped. -/
def octets : List Nat → List Nat
  | a :: b :: c :: d :: rest => (a * 4 + b / 16) :: (b % 16 * 16 + c / 4) :: (c % 4 * 64 + d) ::
      octets rest
  | [a, b, c] => [a * 4 + b / 16, b % 16 * 16 + c / 4]
  | [a, b] => [a * 4 + b / 16]
  | _ => []

theorem octets_sextets : ∀ bytes : List Nat, (∀ b ∈ bytes, b < 256) →
    octets (sextets bytes) = bytes := by
  intro bytes
  induction bytes using sextets.induct with
  | case1 a b c rest ih =>
      intro hlt
      have ha := hlt a (by simp)
      have hb := hlt b (by simp)
      have hc := hlt c (by simp)
      have hrest := ih fun x hx => hlt x (by simp [hx])
      simp only [sextets, octets, hrest, List.cons.injEq, and_true]
      omega
  | case2 a b =>
      intro hlt
      have ha := hlt a (by simp)
      have hb := hlt b (by simp)
      simp only [sextets, octets, List.cons.injEq, and_true]
      omega
  | case3 a =>
      intro hlt
      have ha := hlt a (by simp)
      simp only [sextets, octets, List.cons.injEq, and_true]
      omega
  | case4 => exact fun _ => rfl

theorem sextets_lt : ∀ bytes : List Nat, (∀ b ∈ bytes, b < 256) → ∀ n ∈ sextets bytes, n < 64 := by
  intro bytes
  induction bytes using sextets.induct with
  | case1 a b c rest ih =>
      intro hlt
      have ha := hlt a (by simp)
      have hb := hlt b (by simp)
      have hc := hlt c (by simp)
      have hrest := ih fun x hx => hlt x (by simp [hx])
      simp only [sextets, List.forall_mem_cons]
      exact ⟨by omega, by omega, by omega, by omega, hrest⟩
  | case2 a b =>
      intro hlt
      have ha := hlt a (by simp)
      have hb := hlt b (by simp)
      simp only [sextets, List.forall_mem_cons]
      exact ⟨by omega, by omega, by omega, fun _ hn => nomatch hn⟩
  | case3 a =>
      intro hlt
      have ha := hlt a (by simp)
      simp only [sextets, List.forall_mem_cons]
      exact ⟨by omega, by omega, fun _ hn => nomatch hn⟩
  | case4 => exact fun _ n hn => absurd hn (by simp [sextets])

/-- No single digit is left over. -/
theorem length_sextets_mod (bytes : List Nat) : (sextets bytes).length % 4 ≠ 1 := by
  induction bytes using sextets.induct with
  | case1 a b c rest ih =>
      simp only [sextets, List.length_cons]
      omega
  | case2 a b => simp [sextets]
  | case3 a => simp [sextets]
  | case4 => simp [sextets]

/-! ### The writer and the reader -/

/-- The digits and what fills the last four up. -/
def write (bytes : List Nat) : List Char :=
  (sextets bytes).map digit ++ List.replicate ((3 - bytes.length % 3) % 3) '='

/-- One or two `=` that complete four. -/
def dropPadding (l : List Char) : List Char :=
  if l.length % 4 = 0 then
    match l.reverse with
    | '=' :: '=' :: rest => rest.reverse
    | '=' :: rest => rest.reverse
    | _ => l
  else l

def read (l : List Char) : Option (List Nat) :=
  let data := dropPadding (l.filter fun c => !isBlank c)
  if data.length % 4 = 1 then none else (data.mapM value).map octets

/-- Without what fills up, `.replace(/=+$/, '')`. -/
def unpadded (l : List Char) : List Char := l.rdropWhile (· = '=')

theorem unpadded_fill {l : List Char} (h : ∀ c ∈ l, c ≠ '=') (k : Nat) :
    unpadded (l ++ List.replicate k '=') = l := by
  unfold unpadded
  induction k with
  | zero =>
      rw [List.replicate_zero, List.append_nil, List.rdropWhile_eq_self_iff]
      intro hne hlast
      exact h _ (List.getLast_mem hne) (of_decide_eq_true hlast)
  | succ k ih =>
      rw [List.replicate_succ', ← List.append_assoc, List.rdropWhile_concat_pos _ _ _ rfl]
      exact ih

theorem mapM_value : ∀ ns : List Nat, (∀ n ∈ ns, n < 64) → (ns.map digit).mapM value = some ns := by
  intro ns
  induction ns with
  | nil => exact fun _ => rfl
  | cons n ns ih =>
      intro h
      have hn := value_digit n (h n (List.mem_cons_self ..))
      have hns := ih fun m hm => h m (List.mem_cons_of_mem _ hm)
      simp [List.mapM_cons, hn, hns]

/-- **What was written is read back**, without what filled it up. -/
theorem read_digits {bytes : List Nat} (h : ∀ b ∈ bytes, b < 256) :
    read ((sextets bytes).map digit) = some bytes := by
  have hlt := sextets_lt bytes h
  have hplain : ∀ c ∈ (sextets bytes).map digit, c ≠ '=' ∧ isBlank c = false := by
    intro c hc
    obtain ⟨n, hn, rfl⟩ := List.mem_map.mp hc
    exact digit_plain n (hlt n hn)
  have hblank : ((sextets bytes).map digit).filter (fun c => !isBlank c) =
      (sextets bytes).map digit := by
    rw [List.filter_eq_self]
    intro c hc
    rw [(hplain c hc).2]
    rfl
  have hkept : dropPadding ((sextets bytes).map digit) = (sextets bytes).map digit := by
    unfold dropPadding
    split
    · split
      · rename_i hreverse
        exact absurd rfl (hplain '=' (List.mem_reverse.mp (by simp [hreverse]))).1
      · rename_i hreverse
        exact absurd rfl (hplain '=' (List.mem_reverse.mp (by simp [hreverse]))).1
      · rfl
    · rfl
  unfold read
  rw [hblank]
  dsimp only
  rw [hkept, if_neg (by simpa using length_sextets_mod bytes), mapM_value _ hlt, Option.map_some,
    octets_sextets bytes h]

/-! ### Texts of bytes -/

/-- `btoa`; `none` is an error that is thrown. -/
def btoa (s : String) : Option String :=
  if s.toList.all fun c => c.toNat < 256 then
    some (String.ofList (write (s.toList.map Char.toNat)))
  else none

/-- `atob`; `none` is an error that is thrown. -/
def atob (s : String) : Option String :=
  (read s.toList).map fun bytes => String.ofList (bytes.map Char.ofNat)

/-- The digits of a text of bytes. -/
def digits (s : String) : List Char := (sextets (s.toList.map Char.toNat)).map digit

variable {s : String}

theorem btoa_of_bytes (h : ∀ c ∈ s.toList, c.toNat < 256) :
    ∃ k, btoa s = some (String.ofList (digits s ++ List.replicate k '=')) := by
  have hall : (s.toList.all fun c => c.toNat < 256) = true :=
    List.all_eq_true.mpr fun c hc => decide_eq_true (h c hc)
  exact ⟨_, if_pos hall⟩

theorem exists_sextet (h : ∀ c ∈ s.toList, c.toNat < 256) {c : Char} (hc : c ∈ digits s) :
    ∃ n < 64, c = digit n := by
  have hbytes : ∀ b ∈ s.toList.map Char.toNat, b < 256 := by simpa using h
  obtain ⟨n, hn, rfl⟩ := List.mem_map.mp hc
  exact ⟨n, sextets_lt _ hbytes n hn, rfl⟩

/-- **A text of bytes is read back** from its digits alone. -/
theorem atob_digits (h : ∀ c ∈ s.toList, c.toNat < 256) :
    atob (String.ofList (digits s)) = some s := by
  have hbytes : ∀ b ∈ s.toList.map Char.toNat, b < 256 := by simpa using h
  have hchars : (s.toList.map Char.toNat).map Char.ofNat = s.toList := by
    rw [List.map_map]
    exact List.map_id'' (fun c => Char.ofNat_toNat c) _
  unfold atob digits
  rw [String.toList_ofList, read_digits hbytes, Option.map_some, hchars, String.ofList_toList]

end Veridian.Base64
