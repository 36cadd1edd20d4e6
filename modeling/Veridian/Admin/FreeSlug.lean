/-
The id a workspace gets from the name of its tenant.

Everything but a to z and 0 to 9 becomes an underscore, so what is left of a name is plain;
a letter is put in front of it where it has none, and it is cut to 47 characters, which
leaves room for the longest suffix, `_50`.  Whatever the name is, each of the candidates is
an id a workspace may have, and no two of them are the same.
-/
import Veridian.Access.Handlers
import Veridian.Admin.Provisioning

namespace Veridian

def findFreeWorkspaceId (h : ProvisionHost) (existing : Set String)
    [DecidablePred (· ∈ existing)] (name : String) : Except ProvisionError String :=
  match (slugCandidates h name).find? fun id => id ∉ existing with
  | some id => .ok id
  | none => .error (.noFreeWorkspaceId name)

/-- `provisionTenant` asks for a free id when it is given none. -/
theorem workspaceIdFor_of_none {h : ProvisionHost} {rows : List WorkspaceRow}
    {dto : ProvisionTenantDto} (hid : dto.workspaceId.filter (fun id => id ≠ "") = none) :
    workspaceIdFor h rows dto =
      findFreeWorkspaceId h { id | workspaceExists rows id = true } dto.name := by
  have hset : (fun id => decide (id ∉ { id | workspaceExists rows id = true })) =
      fun id => !workspaceExists rows id := by
    funext id
    simp
  unfold workspaceIdFor findFreeWorkspaceId
  cases hfind : (slugCandidates h dto.name).find? fun id => !workspaceExists rows id with
  | none => simp only [hid, hset, hfind]
  | some id => simp only [hid, hset, hfind]

/-! ### The characters of an id -/

/-- `[a-z0-9_]` -/
def isIdChar (c : Char) : Bool := c.isLower || c.isDigit || c = '_'

/-- `[a-z]` first and then what an id may have. -/
structure IdText (cs : List Char) : Prop where
  letter : startsWithLetter cs = true
  chars : ∀ c ∈ cs, isIdChar c = true

theorem startsWithLetter_cons (c : Char) (cs : List Char) :
    startsWithLetter (c :: cs) = c.isLower := by
  rfl

theorem isWorkspaceId_of_idText {cs : List Char} (h : IdText cs) (hshort : 2 ≤ cs.length)
    (hlong : cs.length ≤ 50) : isWorkspaceId (String.ofList cs) = true := by
  cases cs with
  | nil => exact absurd hshort (by decide)
  | cons c rest =>
      have hletter : c.isLower = true := (startsWithLetter_cons c rest) ▸ h.letter
      have hrest : ∀ d ∈ rest, isIdChar d = true := fun d hd =>
        h.chars d (List.mem_cons_of_mem _ hd)
      have hall : rest.all (fun d => d.isLower || d.isDigit || d = '_') = true :=
        List.all_eq_true.mpr hrest
      simp only [isWorkspaceId, String.toList_ofList, String.length_ofList, hletter, hall,
        Bool.true_and, Bool.and_eq_true, decide_eq_true_eq]
      exact ⟨hshort, hlong⟩

theorem isIdChar_of_isSlugEnd {c : Char} (h : isSlugEnd c = true) : isIdChar c = true := by
  have hslug : (c.isLower || c.isDigit) = true := h
  rw [isIdChar, hslug, Bool.true_or]

theorem isIdChar_underscored (cs : List Char) :
    ∀ gap, ∀ c ∈ underscored gap cs, isIdChar c = true := by
  induction cs with
  | nil => exact fun _ _ h => absurd h List.not_mem_nil
  | cons d cs ih =>
      intro gap c hc
      unfold underscored at hc
      split_ifs at hc with hslug hgap
      · rcases List.mem_cons.mp hc with rfl | hc
        · exact isIdChar_of_isSlugEnd hslug
        · exact ih false c hc
      · exact ih true c hc
      · rcases List.mem_cons.mp hc with rfl | hc
        · decide
        · exact ih true c hc

theorem mem_of_mem_withoutOuter {c : Char} {cs : List Char} (h : c ∈ withoutOuter cs) :
    c ∈ cs := by
  have hreverse := (List.dropWhile_sublist _).subset (List.mem_reverse.mp h)
  exact (List.dropWhile_sublist _).subset (List.mem_reverse.mp hreverse)

/-- A letter in front makes it an id, whatever else it is made of. -/
theorem idText_lettered {cs : List Char} (h : ∀ c ∈ cs, isIdChar c = true) :
    IdText (lettered cs) := by
  unfold lettered
  split_ifs with hletter
  · exact ⟨hletter, h⟩
  · refine ⟨rfl, fun c hc => ?_⟩
    have hstarts : ∀ d ∈ "ws_".toList, isIdChar d = true := by simp [isIdChar]
    rcases List.mem_append.mp hc with hc | hc
    · exact hstarts c hc
    · exact h c hc

theorem lettered_of_idText {cs : List Char} (h : IdText cs) : lettered cs = cs :=
  if_pos h.letter

theorem IdText.take {cs : List Char} (h : IdText cs) (n : Nat) : IdText (cs.take (n + 1)) := by
  refine ⟨?_, fun c hc => h.chars c (List.mem_of_mem_take hc)⟩
  cases cs with
  | nil => exact h.letter
  | cons c cs => exact h.letter

theorem IdText.append {cs ds : List Char} (h : IdText cs) (hds : ∀ c ∈ ds, isIdChar c = true) :
    IdText (cs ++ ds) := by
  refine ⟨?_, fun c hc => ?_⟩
  · cases cs with
    | nil => exact absurd h.letter (by decide)
    | cons c cs => exact h.letter
  · rcases List.mem_append.mp hc with hc | hc
    · exact h.chars c hc
    · exact hds c hc

/-! ### The candidates -/

/-- The base is an id that leaves room for a suffix. -/
theorem slugBase_idText (h : ProvisionHost) (name : String) :
    IdText (slugBase h name).toList ∧ 2 ≤ (slugBase h name).toList.length ∧
      (slugBase h name).toList.length ≤ 47 := by
  have hplain : ∀ cs, ∀ c ∈ withoutOuter (underscored false cs), isIdChar c = true :=
    fun cs c hc => isIdChar_underscored cs false c (mem_of_mem_withoutOuter hc)
  have hcut : ∀ cs, IdText ((lettered (withoutOuter (underscored false cs))).take 47) :=
    fun cs => (idText_lettered (hplain cs)).take 46
  have hpad : ∀ c ∈ "_x".toList, isIdChar c = true := by simp [isIdChar]
  unfold slugBase
  rw [String.toList_ofList]
  generalize (h.normalizeNFD (h.host.toLowerCase name)).toList.filter _ = cs
  have hlong := List.length_take_le 47 (lettered (withoutOuter (underscored false cs)))
  have hid := hcut cs
  generalize (lettered (withoutOuter (underscored false cs))).take 47 = base at hlong hid
  split_ifs with hshort
  · rw [lettered_of_idText (hid.append hpad)]
    refine ⟨hid.append hpad, ?_, ?_⟩
    · rw [List.length_append]
      exact Nat.le_add_left 2 base.length
    · rw [List.length_append]
      have htwo : "_x".toList.length = 2 := by decide
      omega
  · rw [lettered_of_idText hid]
    exact ⟨hid, Nat.le_of_not_lt hshort, hlong⟩

/-- No suffix has more than two digits. -/
theorem suffix_length : ∀ i : Fin MAX_SLUG_COLLISION_ATTEMPTS,
    (Nat.toDigits 10 (i + 1)).length ≤ 2 := by
  decide

theorem slugCandidate_toList (base : String) (i : Nat) :
    (slugCandidate base i).toList =
      base.toList ++ if i = 0 then [] else '_' :: Nat.toDigits 10 (i + 1) := by
  unfold slugCandidate
  split_ifs with hi
  · exact (List.append_nil _).symm
  · rw [String.toList_append, String.toList_append, Text.toList_toString]
    exact List.append_assoc _ _ _

theorem isWorkspaceId_slugCandidate (h : ProvisionHost) (name : String) {i : Nat}
    (hi : i < MAX_SLUG_COLLISION_ATTEMPTS) :
    isWorkspaceId (slugCandidate (slugBase h name) i) = true := by
  obtain ⟨hbase, hshort, hlong⟩ := slugBase_idText h name
  rw [← @String.ofList_toList (slugCandidate (slugBase h name) i), slugCandidate_toList]
  split_ifs with hzero
  · rw [List.append_nil]
    exact isWorkspaceId_of_idText hbase hshort (by omega)
  · have hdigits := suffix_length ⟨i, hi⟩
    refine isWorkspaceId_of_idText (hbase.append fun c hc => ?_) ?_ ?_
    · rcases List.mem_cons.mp hc with rfl | hc
      · decide
      · have hdigit := Nat.isDigit_of_mem_toDigits (by decide) (by decide) hc
        rw [isIdChar, hdigit, Bool.or_true, Bool.true_or]
    · rw [List.length_append]
      omega
    · rw [List.length_append, List.length_cons]
      exact Nat.add_le_add hlong (Nat.succ_le_succ hdigits)

/-- **No two candidates are the same**, the base among them. -/
theorem slugCandidate_inj {base : String} {i j : Nat}
    (h : slugCandidate base i = slugCandidate base j) : i = j := by
  have hlist := congrArg String.toList h
  rw [slugCandidate_toList, slugCandidate_toList] at hlist
  have hsuffix := List.append_cancel_left hlist
  split_ifs at hsuffix with hi hj hj
  · rw [hi, hj]
  · exact Nat.succ_injective (Text.toDigits_inj (List.cons.inj hsuffix).2)

theorem slugCandidates_nodup (h : ProvisionHost) (name : String) :
    (slugCandidates h name).Nodup :=
  List.Nodup.map (fun _ _ => slugCandidate_inj) List.nodup_range

/-- **The id of a name.**

Whatever the name and the ids that exist, the id is well formed and free, or there are fifty
candidates, none of them twice, and all of them exist. -/
theorem free_workspace_id (h : ProvisionHost) (existing : Set String)
    [DecidablePred (· ∈ existing)] (name : String) :
    (∃ id, findFreeWorkspaceId h existing name = .ok id ∧ isWorkspaceId id = true ∧
        id ∉ existing) ∨
      (findFreeWorkspaceId h existing name = .error (.noFreeWorkspaceId name) ∧
        (slugCandidates h name).length = 50 ∧ (slugCandidates h name).Nodup ∧
        ∀ id ∈ slugCandidates h name, isWorkspaceId id = true ∧ id ∈ existing) := by
  have hvalid : ∀ id ∈ slugCandidates h name, isWorkspaceId id = true := by
    intro id hid
    obtain ⟨i, hi, rfl⟩ := List.mem_map.mp hid
    exact isWorkspaceId_slugCandidate h name (List.mem_range.mp hi)
  unfold findFreeWorkspaceId
  cases hfind : (slugCandidates h name).find? fun id => id ∉ existing with
  | some id =>
      have hfree := List.find?_some hfind
      exact Or.inl ⟨id, rfl, hvalid id (List.mem_of_find?_eq_some hfind), of_decide_eq_true hfree⟩
  | none =>
      have hlength : (slugCandidates h name).length = 50 := by
        rw [slugCandidates, List.length_map, List.length_range]
        rfl
      refine Or.inr ⟨rfl, hlength, slugCandidates_nodup h name, fun id hid => ⟨hvalid id hid, ?_⟩⟩
      have htaken := List.find?_eq_none.mp hfind id hid
      simpa using htaken

end Veridian
