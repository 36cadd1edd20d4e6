/-
What gap filling returns.

`fillGaps` keys the rows by their date and the texts of their dimensions, joined by a bar, and
splits that key again for a row of zeros.  So the result is one row for each bucket and each
combination exactly when three things hold: no date beyond the range was written down, no two
combinations have the same key, and a combination that misses a bucket has nothing but texts
without a bar.
-/
import Mathlib.Data.List.Find
import Veridian.Analytics.DateBuckets
import Veridian.Analytics.QueryService
import Veridian.Lib.Grouping

namespace Veridian.Analytics.GapFilling

open DateBuckets Calendar

section

variable (numeral : ℚ → String) (dateKey : Cell → String) (dateColumn : String)
  (metrics dimensions : List String) (data : List ResultRow)

/-! ### The rows that are wanted -/

def cellOf (row : ResultRow) (column : String) : Cell := (row.lookup column).getD .null

/-- The name of a row's bucket. -/
def dateOf (row : ResultRow) : String := dateKey (cellOf row dateColumn)

/-- The values of a row's dimensions. -/
def valuesOf (row : ResultRow) : List Cell := dimensions.map (cellOf row)

/-- A row of zeros for a bucket and a combination. -/
def zeros (date : String) (values : List Cell) : ResultRow :=
  (dateColumn, .text date) :: dimensions.zip values ++ metrics.map fun m => (m, .number 0)

/-- The combinations that the rows have; without dimensions there is the empty one. -/
def combinations : List (List Cell) :=
  if dimensions.isEmpty then [[]] else (data.map (valuesOf dimensions)).dedup

/-- The row of a bucket and a combination. -/
def rowFor (date : String) (values : List Cell) : ResultRow :=
  (data.find? fun row =>
    dateOf dateKey dateColumn row = date ∧ valuesOf dimensions row = values).getD
      (zeros dateColumn metrics dimensions date values)

/-- One row for each bucket and each combination. -/
def wanted (dates : List String) : List ResultRow :=
  dates.flatMap fun date =>
    (combinations dimensions data).map (rowFor dateKey dateColumn metrics dimensions data date)

/-- No bucket has two rows of the same combination. -/
def Distinct : Prop :=
  data.Pairwise fun row row' => ¬(dateOf dateKey dateColumn row = dateOf dateKey dateColumn row' ∧
    valuesOf dimensions row = valuesOf dimensions row')

/-! ### Keys -/

/-- `dimValues.join('|')` -/
def comboKey (values : List Cell) : String :=
  "|".intercalate (values.map fun cell => cellString numeral (some cell))

/-- No two combinations have the same key. -/
def KeysDiffer : Prop :=
  ∀ row ∈ data, ∀ row' ∈ data,
    comboKey numeral (valuesOf dimensions row) = comboKey numeral (valuesOf dimensions row') →
      valuesOf dimensions row = valuesOf dimensions row'

/-- A text that survives being joined and split. -/
def Plain (cell : Cell) : Prop := ∃ s, cell = .text s ∧ '|' ∉ s.toList

/-- Whoever misses a bucket has plain values only. -/
def GapsPlain (dates : List String) : Prop :=
  ∀ row ∈ data, (∃ date ∈ dates, ∀ row' ∈ data,
      ¬(dateOf dateKey dateColumn row' = date ∧
        valuesOf dimensions row' = valuesOf dimensions row)) →
    ∀ cell ∈ valuesOf dimensions row, Plain cell

theorem cellString_lookup (row : ResultRow) (column : String) :
    cellString numeral (row.lookup column) = cellString numeral (some (cellOf row column)) := by
  unfold cellOf
  cases row.lookup column with
  | none => rfl
  | some cell => rfl

theorem comboKey_valuesOf (row : ResultRow) :
    "|".intercalate (dimensions.map fun d => cellString numeral (row.lookup d)) =
      comboKey numeral (valuesOf dimensions row) := by
  unfold comboKey valuesOf
  rw [List.map_map]
  exact congrArg _ (List.map_congr_left fun d _ => cellString_lookup numeral row d)

theorem key_eq_iff {date date' combo combo' : String} (h : '|' ∉ date.toList)
    (h' : '|' ∉ date'.toList) :
    date ++ "|" ++ combo = date' ++ "|" ++ combo' ↔ date = date' ∧ combo = combo' := by
  constructor
  · intro heq
    have hlist : date.toList ++ '|' :: combo.toList = date'.toList ++ '|' :: combo'.toList := by
      have htoList := congrArg String.toList heq
      simpa using htoList
    obtain ⟨hdate, hcombo⟩ := Text.cons_append_inj h h' hlist
    exact ⟨String.toList_injective hdate, String.toList_injective hcombo⟩
  · rintro ⟨rfl, rfl⟩
    rfl

/-- Plain values are read back from their key. -/
theorem splitOn_comboKey {values : List Cell} (hne : values ≠ [])
    (hplain : ∀ cell ∈ values, Plain cell) :
    ((comboKey numeral values).splitOn "|").map Cell.text = values := by
  have hparts : ∀ part ∈ values.map fun cell => (cellString numeral (some cell)).toList,
      '|' ∉ part := by
    intro part hpart
    obtain ⟨cell, hcell, rfl⟩ := List.mem_map.mp hpart
    obtain ⟨s, rfl, hs⟩ := hplain cell hcell
    exact hs
  have hlist : (comboKey numeral values).toList =
      ['|'].intercalate (values.map fun cell => (cellString numeral (some cell)).toList) := by
    unfold comboKey
    rw [String.toList_intercalate, List.map_map]
    rfl
  have hsplit := Text.splitOn_singleton '|' (comboKey numeral values)
  rw [hlist, List.splitOn_intercalate '|' hparts (by simpa using hne), List.map_map] at hsplit
  rw [show ("|" : String) = String.ofList ['|'] from rfl, hsplit, List.map_map]
  refine (List.map_congr_left fun cell hcell => ?_).trans (List.map_id values)
  obtain ⟨s, rfl, -⟩ := hplain cell hcell
  simp [cellString]

/-! ### The result, slot by slot -/

/-- The row that is kept for a date and a key, or one of zeros. -/
def slot (date combo : String) : ResultRow :=
  (data.reverse.find? fun row =>
    dateOf dateKey dateColumn row = date ∧ comboKey numeral (valuesOf dimensions row) = combo).getD
      (zeroRow dateColumn date (dimensions.zip (combo.splitOn "|")) metrics)

/-- The keys of the combinations; without dimensions there is the empty one. -/
def comboKeys : List String :=
  if dimensions.isEmpty then [""]
  else (data.map fun row => comboKey numeral (valuesOf dimensions row)).eraseDups

theorem fillGaps_eq (dates : List String) (hdates : ∀ date ∈ dates, '|' ∉ date.toList)
    (hrows : ∀ row ∈ data, '|' ∉ (dateOf dateKey dateColumn row).toList) :
    fillGaps numeral dates dateKey dateColumn metrics dimensions data =
      dates.flatMap fun date => (comboKeys numeral dimensions data).map
        (slot numeral dateKey dateColumn metrics dimensions data date) := by
  unfold fillGaps comboKeys
  cases dimensions with
  | nil =>
      have hslot : ∀ date, slot numeral dateKey dateColumn metrics [] data date "" =
          (data.reverse.find? fun row => dateOf dateKey dateColumn row = date).getD
            (zeroRow dateColumn date [] metrics) := by
        intro date
        have hcombo : ∀ row : ResultRow, comboKey numeral (valuesOf [] row) = "" := fun _ => rfl
        simp only [slot, hcombo, and_true, List.zip_nil_left]
      show (dates.map fun date => _) = dates.flatMap fun date => [slot _ _ _ _ _ _ date ""]
      rw [List.map_eq_flatMap]
      refine List.flatMap_congr fun date _ => ?_
      rw [hslot]
      rfl
  | cons d rest =>
      rw [if_neg (by simp), if_neg (by simp)]
      have hkeys : (data.map fun row => "|".intercalate
          ((d :: rest).map fun d => cellString numeral (row.lookup d))) =
          data.map fun row => comboKey numeral (valuesOf (d :: rest) row) :=
        List.map_congr_left fun row _ => comboKey_valuesOf numeral (d :: rest) row
      dsimp only
      rw [hkeys]
      refine List.flatMap_congr fun date hdate => List.map_congr_left fun combo _ => ?_
      unfold slot
      congr 1
      refine List.find?_congr fun row hrow => decide_eq_decide.mpr ?_
      have hcombo := comboKey_valuesOf numeral (d :: rest) row
      have hkey : dateOf dateKey dateColumn row ++ "|" ++
            comboKey numeral (valuesOf (d :: rest) row) = date ++ "|" ++ combo ↔ _ :=
        key_eq_iff (hrows row (List.mem_reverse.mp hrow)) (hdates date hdate)
      rw [← hcombo] at hkey ⊢
      exact hkey

theorem mem_comboKeys {combo : String} (h : combo ∈ comboKeys numeral dimensions data)
    (hdims : dimensions ≠ []) :
    ∃ row ∈ data, comboKey numeral (valuesOf dimensions row) = combo := by
  unfold comboKeys at h
  rw [if_neg (by simpa using hdims), List.mem_eraseDups] at h
  exact List.mem_map.mp h

theorem mem_combinations {values : List Cell} (h : values ∈ combinations dimensions data)
    (hdims : dimensions ≠ []) : ∃ row ∈ data, valuesOf dimensions row = values := by
  unfold combinations at h
  rw [if_neg (by simpa using hdims), List.mem_dedup] at h
  exact List.mem_map.mp h

theorem combinations_nodup : (combinations dimensions data).Nodup := by
  unfold combinations
  split
  · exact List.nodup_singleton _
  · exact List.nodup_dedup _

theorem comboKeys_perm (hkeys : KeysDiffer numeral dimensions data) :
    (comboKeys numeral dimensions data).Perm
      ((combinations dimensions data).map (comboKey numeral)) := by
  by_cases hdims : dimensions.isEmpty = true
  · unfold comboKeys combinations
    rw [if_pos hdims, if_pos hdims]
    exact List.Perm.refl _
  · have hnodup : ((combinations dimensions data).map (comboKey numeral)).Nodup := by
      refine List.Nodup.map_on (fun values hvalues values' hvalues' heq => ?_)
        (combinations_nodup dimensions data)
      obtain ⟨row, hrow, rfl⟩ := mem_combinations dimensions data hvalues (by simpa using hdims)
      obtain ⟨row', hrow', rfl⟩ := mem_combinations dimensions data hvalues' (by simpa using hdims)
      exact hkeys row hrow row' hrow' heq
    have hmem : ∀ combo, combo ∈ comboKeys numeral dimensions data ↔
        combo ∈ (combinations dimensions data).map (comboKey numeral) := by
      intro combo
      unfold comboKeys combinations
      rw [if_neg hdims, if_neg hdims, List.mem_eraseDups]
      simp only [List.mem_map, List.mem_dedup, exists_exists_and_eq_and]
    have hleft : (comboKeys numeral dimensions data).Nodup := by
      unfold comboKeys
      rw [if_neg hdims]
      exact Grouping.nodup_eraseDups _ _ (Nat.le_refl _)
    exact (List.perm_ext_iff_of_nodup hleft hnodup).mpr hmem

/-! ### Rows of their own -/

/-- Of a list with one row at most for a condition, either end finds the same. -/
theorem find?_reverse {α : Type*} {p : α → Bool} {l : List α}
    (h : ∀ a ∈ l, ∀ b ∈ l, p a = true → p b = true → a = b) : l.reverse.find? p = l.find? p := by
  cases hfind : l.find? p with
  | none =>
      rw [List.find?_eq_none] at hfind ⊢
      exact fun a ha => hfind a (List.mem_reverse.mp ha)
  | some a =>
      have ha := List.mem_of_find?_eq_some hfind
      have hpa := List.find?_some hfind
      cases hrev : l.reverse.find? p with
      | none =>
          rw [List.find?_eq_none] at hrev
          exact absurd hpa (hrev a (List.mem_reverse.mpr ha))
      | some b =>
          have hb := List.mem_reverse.mp (List.mem_of_find?_eq_some hrev)
          rw [h b hb a ha (List.find?_some hrev) hpa]

variable {numeral dateKey dateColumn metrics dimensions data}

theorem Distinct.eq (hdistinct : Distinct dateKey dateColumn dimensions data) :
    ∀ row ∈ data, ∀ row' ∈ data,
      dateOf dateKey dateColumn row = dateOf dateKey dateColumn row' →
        valuesOf dimensions row = valuesOf dimensions row' → row = row' := by
  intro row hrow row' hrow' hdate hvalues
  by_contra hne
  have hsymm : Std.Symm fun row row' : ResultRow =>
      ¬(dateOf dateKey dateColumn row = dateOf dateKey dateColumn row' ∧
        valuesOf dimensions row = valuesOf dimensions row') :=
    ⟨fun _ _ h hc => h ⟨hc.1.symm, hc.2.symm⟩⟩
  exact List.Pairwise.forall hdistinct hrow hrow' hne ⟨hdate, hvalues⟩

/-- Where the keys tell the combinations apart, the slot of a combination holds its row. -/
theorem slot_comboKey (hdistinct : Distinct dateKey dateColumn dimensions data)
    (hkeys : KeysDiffer numeral dimensions data) {dates : List String}
    (hplain : GapsPlain dateKey dateColumn dimensions data dates) {date : String}
    (hdate : date ∈ dates) {values : List Cell} (hvalues : values ∈ combinations dimensions data) :
    slot numeral dateKey dateColumn metrics dimensions data date (comboKey numeral values) =
      rowFor dateKey dateColumn metrics dimensions data date values := by
  have hvaluesOf : ∀ row ∈ data,
      comboKey numeral (valuesOf dimensions row) = comboKey numeral values ↔
        valuesOf dimensions row = values := by
    intro row hrow
    refine ⟨fun heq => ?_, congrArg _⟩
    by_cases hdims : dimensions = []
    · subst hdims
      exact (List.mem_singleton.mp hvalues).symm
    · obtain ⟨row', hrow', rfl⟩ := mem_combinations dimensions data hvalues hdims
      exact hkeys row hrow row' hrow' heq
  have hfind : (data.reverse.find? fun row => dateOf dateKey dateColumn row = date ∧
        comboKey numeral (valuesOf dimensions row) = comboKey numeral values) =
      data.find? fun row => dateOf dateKey dateColumn row = date ∧
        valuesOf dimensions row = values := by
    have hsame : (data.reverse.find? fun row => dateOf dateKey dateColumn row = date ∧
          comboKey numeral (valuesOf dimensions row) = comboKey numeral values) =
        data.reverse.find? fun row => dateOf dateKey dateColumn row = date ∧
          valuesOf dimensions row = values :=
      List.find?_congr fun row hrow => by
        rw [decide_eq_decide, hvaluesOf row (List.mem_reverse.mp hrow)]
    rw [hsame]
    refine find?_reverse fun row hrow row' hrow' h h' => ?_
    have hrows := of_decide_eq_true h
    have hrows' := of_decide_eq_true h'
    exact hdistinct.eq row hrow row' hrow' (hrows.1.trans hrows'.1.symm)
      (hrows.2.trans hrows'.2.symm)
  unfold slot rowFor
  rw [hfind]
  cases hrow : data.find? fun row => dateOf dateKey dateColumn row = date ∧
      valuesOf dimensions row = values with
  | some row => rfl
  | none =>
      show zeroRow _ _ _ _ = zeros _ _ _ _ _
      unfold zeroRow zeros
      congr 2
      by_cases hdims : dimensions = []
      · subst hdims
        rfl
      · obtain ⟨row, hmem, rfl⟩ := mem_combinations dimensions data hvalues hdims
        have hgap : ∀ cell ∈ valuesOf dimensions row, Plain cell := by
          refine hplain row hmem ⟨date, hdate, fun row' hrow' hc => ?_⟩
          rw [List.find?_eq_none] at hrow
          exact hrow row' hrow' (decide_eq_true hc)
        have hne : valuesOf dimensions row ≠ [] := by simpa [valuesOf] using hdims
        have hsplit := splitOn_comboKey numeral hne hgap
        calc (dimensions.zip ((comboKey numeral (valuesOf dimensions row)).splitOn "|")).map
              (fun d => (d.1, Cell.text d.2)) =
            dimensions.zip (((comboKey numeral (valuesOf dimensions row)).splitOn "|").map
              Cell.text) := by
              rw [List.zip_map_right]
              rfl
          _ = dimensions.zip (valuesOf dimensions row) := by rw [hsplit]

/-- **Distinct keys and plain gaps give the rows that are wanted.** -/
theorem slots_perm_wanted (hdistinct : Distinct dateKey dateColumn dimensions data)
    (hkeys : KeysDiffer numeral dimensions data) {dates : List String}
    (hplain : GapsPlain dateKey dateColumn dimensions data dates) :
    (dates.flatMap fun date => (comboKeys numeral dimensions data).map
        (slot numeral dateKey dateColumn metrics dimensions data date)).Perm
      (wanted dateKey dateColumn metrics dimensions data dates) := by
  refine List.Perm.flatMap_left _ fun date hdate => ?_
  refine ((comboKeys_perm numeral dimensions data hkeys).map _).trans (List.Perm.of_eq ?_)
  rw [List.map_map]
  exact List.map_congr_left fun values hvalues =>
    slot_comboKey hdistinct hkeys hplain hdate hvalues

/-! ### What the rows that are wanted ask for -/

theorem cellOf_zeros_date (date : String) (values : List Cell) :
    cellOf (zeros dateColumn metrics dimensions date values) dateColumn = .text date := by
  simp [zeros, cellOf]

theorem dateOf_zeros (date : String) (values : List Cell) :
    dateOf dateKey dateColumn (zeros dateColumn metrics dimensions date values) =
      dateKey (.text date) :=
  congrArg dateKey (cellOf_zeros_date date values)

theorem dateOf_zeroRow (date : String) (columns : List (String × String)) :
    dateOf dateKey dateColumn (zeroRow dateColumn date columns metrics) = dateKey (.text date) := by
  simp [zeroRow, dateOf, cellOf]

/-- A row of zeros has the values of its combination. -/
theorem valuesOf_zeros (hcolumn : dateColumn ∉ dimensions) (date : String) (row : ResultRow) :
    valuesOf dimensions (zeros dateColumn metrics dimensions date (valuesOf dimensions row)) =
      valuesOf dimensions row := by
  refine List.map_congr_left fun d hd => ?_
  have hne : (d == dateColumn) = false := beq_eq_false_iff_ne.mpr fun hc => hcolumn (hc ▸ hd)
  have hlookup : ∀ ds : List String, d ∈ ds → ∀ rest : ResultRow,
      (ds.zip (ds.map (cellOf row)) ++ rest).lookup d = some (cellOf row d) := by
    intro ds
    induction ds with
    | nil => exact fun h => absurd h List.not_mem_nil
    | cons e ds ih =>
        intro hmem rest
        by_cases heq : d = e
        · subst heq
          simp
        · have hrest : d ∈ ds := (List.mem_cons.mp hmem).resolve_left heq
          have hbeq : (d == e) = false := beq_eq_false_iff_ne.mpr heq
          simp only [List.map_cons, List.zip_cons_cons, List.cons_append, List.lookup_cons, hbeq]
          exact ih hrest rest
  show ((((dateColumn, Cell.text date) :: (dimensions.zip (valuesOf dimensions row) ++ _) :
    ResultRow)).lookup d).getD .null = cellOf row d
  rw [List.lookup_cons, hne]
  exact congrArg (·.getD .null) (hlookup dimensions hd _)

theorem mem_wanted {dates : List String} {row : ResultRow}
    (h : row ∈ wanted dateKey dateColumn metrics dimensions data dates) :
    row ∈ data ∧ dateOf dateKey dateColumn row ∈ dates ∨
      ∃ date ∈ dates, ∃ values, row = zeros dateColumn metrics dimensions date values := by
  obtain ⟨date, hdate, hrow⟩ := List.mem_flatMap.mp h
  obtain ⟨values, -, rfl⟩ := List.mem_map.mp hrow
  unfold rowFor
  cases hfind : data.find? fun row => dateOf dateKey dateColumn row = date ∧
      valuesOf dimensions row = values with
  | none => exact Or.inr ⟨date, hdate, values, rfl⟩
  | some found =>
      have hdecide := List.find?_some hfind
      have hfound := of_decide_eq_true hdecide
      exact Or.inl ⟨List.mem_of_find?_eq_some hfind, hfound.1 ▸ hdate⟩

/-- A slot holds a row of the data for its date and key, or a row of zeros. -/
theorem slot_cases (date combo : String) :
    (∃ row ∈ data, dateOf dateKey dateColumn row = date ∧
        slot numeral dateKey dateColumn metrics dimensions data date combo = row) ∨
      slot numeral dateKey dateColumn metrics dimensions data date combo =
        zeroRow dateColumn date (dimensions.zip (combo.splitOn "|")) metrics := by
  unfold slot
  cases hfind : data.reverse.find? fun row => dateOf dateKey dateColumn row = date ∧
      comboKey numeral (valuesOf dimensions row) = combo with
  | none => exact Or.inr rfl
  | some row =>
      have hdecide := List.find?_some hfind
      have hrow := of_decide_eq_true hdecide
      exact Or.inl ⟨row, List.mem_reverse.mp (List.mem_of_find?_eq_some hfind), hrow.1, rfl⟩

section

variable {dates inRange : List String}

/-- A date beyond the range gives a row that nobody wants. -/
theorem dates_of_perm (hread : ∀ date ∈ dates, dateKey (.text date) = date)
    (hsub : inRange ⊆ dates)
    (hrows : ∀ row ∈ data, dateOf dateKey dateColumn row ∈ inRange)
    (hperm : (dates.flatMap fun date => (comboKeys numeral dimensions data).map
        (slot numeral dateKey dateColumn metrics dimensions data date)).Perm
      (wanted dateKey dateColumn metrics dimensions data inRange))
    (hsome : dimensions = [] ∨ data ≠ []) : dates ⊆ inRange := by
  intro date hdate
  by_contra hnot
  obtain ⟨combo, hcombo⟩ : ∃ combo, combo ∈ comboKeys numeral dimensions data := by
    unfold comboKeys
    split
    · exact ⟨"", List.mem_singleton_self _⟩
    · rename_i hdims
      obtain ⟨row, hrow⟩ := List.exists_mem_of_ne_nil data
        (hsome.resolve_left fun h => hdims (by rw [h]; rfl))
      exact ⟨_, List.mem_eraseDups.mpr (List.mem_map_of_mem hrow)⟩
  have hmem := hperm.mem_iff.mp
    (List.mem_flatMap.mpr ⟨date, hdate, List.mem_map_of_mem hcombo⟩)
  rcases slot_cases date combo with ⟨row, hrow, hof, -⟩ | hzero
  · exact hnot (hof ▸ hrows row hrow)
  · rw [hzero] at hmem
    have hof : dateOf dateKey dateColumn (zeroRow dateColumn date
        (dimensions.zip (combo.splitOn "|")) metrics) = date :=
      (dateOf_zeroRow date _).trans (hread date hdate)
    rcases mem_wanted hmem with ⟨-, hin⟩ | ⟨date', hdate', values, heq⟩
    · exact hnot (hof ▸ hin)
    · rw [heq, dateOf_zeros, hread date' (hsub hdate')] at hof
      exact hnot (hof ▸ hdate')

/-- As many keys as combinations: no two combinations share one. -/
theorem keysDiffer_of_perm (hdates : dates ≠ [])
    (hperm : (dates.flatMap fun date => (comboKeys numeral dimensions data).map
        (slot numeral dateKey dateColumn metrics dimensions data date)).Perm
      (wanted dateKey dateColumn metrics dimensions data dates)) :
    KeysDiffer numeral dimensions data := by
  by_cases hdims : dimensions = []
  · subst hdims
    exact fun _ _ _ _ _ => rfl
  · have hlength := hperm.length_eq
    unfold wanted comboKeys combinations at hlength
    have hempty : ¬dimensions.isEmpty = true := by simpa using hdims
    simp only [if_neg hempty, List.length_flatMap, List.length_map, List.map_const',
      List.sum_replicate_nat] at hlength
    have hcount := Nat.eq_of_mul_eq_mul_left (List.length_pos_iff.mpr hdates) hlength
    rw [(Grouping.eraseDups_perm_dedup _).length_eq] at hcount
    have hmap : (data.map fun row => comboKey numeral (valuesOf dimensions row)) =
        (data.map (valuesOf dimensions)).map (comboKey numeral) := by
      rw [List.map_map]
      rfl
    rw [hmap] at hcount
    intro row hrow row' hrow' heq
    exact (Grouping.uniqExact_map_eq_iff (comboKey numeral) _).mp hcount _
      (List.mem_map_of_mem hrow) _ (List.mem_map_of_mem hrow') heq

/-- The wanted row of zeros is there only where its values are plain. -/
theorem gapsPlain_of_perm (hcolumn : dateColumn ∉ dimensions)
    (hread : ∀ date ∈ dates, dateKey (.text date) = date)
    (hperm : (dates.flatMap fun date => (comboKeys numeral dimensions data).map
        (slot numeral dateKey dateColumn metrics dimensions data date)).Perm
      (wanted dateKey dateColumn metrics dimensions data dates)) :
    GapsPlain dateKey dateColumn dimensions data dates := by
  rintro row hrow ⟨date, hdate, hgap⟩ cell hcell
  have hempty : ¬dimensions.isEmpty = true := by
    intro hc
    rw [List.isEmpty_iff.mp hc] at hcell
    exact absurd hcell List.not_mem_nil
  have hwanted : zeros dateColumn metrics dimensions date (valuesOf dimensions row) ∈
      wanted dateKey dateColumn metrics dimensions data dates := by
    refine List.mem_flatMap.mpr ⟨date, hdate, List.mem_map.mpr ⟨valuesOf dimensions row, ?_, ?_⟩⟩
    · unfold combinations
      rw [if_neg hempty]
      exact List.mem_dedup.mpr (List.mem_map_of_mem hrow)
    · unfold rowFor
      rw [List.find?_eq_none.mpr fun row' hrow' hc => hgap row' hrow' (of_decide_eq_true hc)]
      rfl
  obtain ⟨date', -, hslot⟩ := List.mem_flatMap.mp (hperm.mem_iff.mpr hwanted)
  obtain ⟨combo, -, heq⟩ := List.mem_map.mp hslot
  rcases slot_cases date' combo with ⟨found, hfound, -, hrowEq⟩ | hzero
  · rw [heq] at hrowEq
    refine absurd ⟨?_, ?_⟩ (hgap found hfound)
    · rw [← hrowEq, dateOf_zeros, hread date hdate]
    · rw [← hrowEq, valuesOf_zeros hcolumn]
  · rw [hzero] at heq
    have htail : ((dimensions.zip (combo.splitOn "|")).map fun d => (d.1, Cell.text d.2)) =
        dimensions.zip (valuesOf dimensions row) :=
      List.append_cancel_right (List.cons.inj heq).2
    have hsecond : cell ∈ (dimensions.zip (valuesOf dimensions row)).map Prod.snd := by
      rw [List.map_snd_zip (by simp [valuesOf])]
      exact hcell
    rw [← htail, List.map_map] at hsecond
    obtain ⟨column, hcolumn', rfl⟩ := List.mem_map.mp hsecond
    refine ⟨column.2, rfl, ?_⟩
    have hpart : column.2 ∈ combo.splitOn "|" := (List.of_mem_zip hcolumn').2
    rw [show ("|" : String) = String.ofList ['|'] from rfl, Text.splitOn_singleton] at hpart
    obtain ⟨part, hsplit, hof⟩ := List.mem_map.mp hpart
    rw [← hof, String.toList_ofList]
    exact Text.notMem_of_mem_splitOn _ hsplit

end

/-! ### The whole range -/

/-- **Gap filling gives one row for each bucket and each combination exactly when no week
beyond the range is added, keys tell the combinations apart, and gaps are plain.** -/
theorem fillGaps_complete_iff (g : WidgetGranularity) {start stop : Int} (hrange : start ≤ stop)
    (hcolumn : dateColumn ∉ dimensions)
    (hread : ∀ date ∈ allDates g start stop, dateKey (.text date) = date)
    (hrows : ∀ row ∈ data, ∃ k, bucket g start ≤ k ∧ k ≤ bucket g stop ∧
      label g k = dateOf dateKey dateColumn row)
    (hdistinct : Distinct dateKey dateColumn dimensions data) :
    (fillGaps numeral (allDates g start stop) dateKey dateColumn metrics dimensions data).Perm
        (wanted dateKey dateColumn metrics dimensions data
          (labels g (bucket g start) (bucket g stop))) ↔
      (g = .week ∧ weekday (dayOf stop) = 0 → dimensions ≠ [] ∧ data = []) ∧
        KeysDiffer numeral dimensions data ∧
        GapsPlain dateKey dateColumn dimensions data
          (labels g (bucket g start) (bucket g stop)) := by
  have hmem : ∀ row ∈ data,
      dateOf dateKey dateColumn row ∈ labels g (bucket g start) (bucket g stop) :=
    fun row hrow => mem_labels.mpr (hrows row hrow)
  have hlast := bucket_le_lastBucket g stop
  have hstart := bucket_mono g hrange
  have hsub : labels g (bucket g start) (bucket g stop) ⊆ allDates g start stop := by
    intro date hdate
    obtain ⟨k, hlo, hhi, hk⟩ := mem_labels.mp hdate
    rw [allDates_eq]
    exact mem_labels.mpr ⟨k, hlo, by omega, hk⟩
  have hbar : ∀ lo hi, ∀ date ∈ labels g lo hi, '|' ∉ date.toList := by
    intro lo hi date hdate
    obtain ⟨k, -, -, rfl⟩ := mem_labels.mp hdate
    exact separator_notMem_label g k
  rw [fillGaps_eq numeral dateKey dateColumn metrics dimensions data _
    (by rw [allDates_eq]; exact hbar _ _) fun row hrow => hbar _ _ _ (hmem row hrow)]
  constructor
  · intro hperm
    have hweek : g = .week ∧ weekday (dayOf stop) = 0 → dimensions ≠ [] ∧ data = [] := by
      intro hsunday
      by_contra hnot
      have hne : lastBucket g stop ≠ bucket g stop :=
        fun hc => (lastBucket_eq_iff g stop).mp hc hsunday
      have hsome : dimensions = [] ∨ data ≠ [] := by
        by_cases hdims : dimensions = []
        · exact Or.inl hdims
        · exact Or.inr fun hdata => hnot ⟨hdims, hdata⟩
      have hextra : label g (lastBucket g stop) ∈ allDates g start stop := by
        rw [allDates_eq]
        exact mem_labels.mpr ⟨_, by omega, Int.le_refl _, rfl⟩
      obtain ⟨k, -, hhi, hk⟩ := mem_labels.mp
        (dates_of_perm hread hsub hmem hperm hsome hextra)
      have heq := label_injective g hk
      omega
    refine ⟨hweek, ?_⟩
    by_cases hdata : data = []
    · subst hdata
      exact ⟨fun _ h => absurd h List.not_mem_nil, fun _ h => absurd h List.not_mem_nil⟩
    · have hdates : allDates g start stop = labels g (bucket g start) (bucket g stop) := by
        rw [allDates_eq, (lastBucket_eq_iff g stop).mpr fun h => hdata (hweek h).2]
      have hne : labels g (bucket g start) (bucket g stop) ≠ [] := by
        refine List.ne_nil_of_length_pos ?_
        rw [length_labels]
        omega
      rw [hdates] at hread hperm
      exact ⟨keysDiffer_of_perm hne hperm, gapsPlain_of_perm hcolumn hread hperm⟩
  · rintro ⟨hweek, hkeys, hplain⟩
    by_cases hsunday : g = .week ∧ weekday (dayOf stop) = 0
    · obtain ⟨hdims, rfl⟩ := hweek hsunday
      have hempty : ¬dimensions.isEmpty = true := by simpa using hdims
      have hkeysNil : comboKeys numeral dimensions ([] : List ResultRow) = [] := by
        unfold comboKeys
        rw [if_neg hempty]
        rfl
      have hwantedNil : combinations dimensions ([] : List ResultRow) = [] := by
        unfold combinations
        rw [if_neg hempty]
        rfl
      have hnone : ∀ dates : List String, (dates.flatMap fun _ => ([] : List ResultRow)) = [] :=
        fun dates => List.flatMap_eq_nil_iff.mpr fun _ _ => rfl
      unfold wanted
      simp only [hkeysNil, hwantedNil, List.map_nil, hnone, List.Perm.refl]
    · rw [allDates_eq, (lastBucket_eq_iff g stop).mpr hsunday]
      exact slots_perm_wanted hdistinct hkeys hplain

end

/-! ### Two days of a campaign -/

namespace GapExample

/-- `2024-01-01 00:00:00` -/
def start : Int := 19723 * dayMs

/-- `2024-01-02 12:00:00` -/
def stop : Int := 19724 * dayMs + 12 * hourMs

/-- The dates of rows are texts as they are written. -/
def dateKey : Cell → String
  | .text s => s
  | _ => "Invalid Date"

def numeral (x : ℚ) : String := toString x.num

def visits (campaign : String) : ResultRow :=
  [("date_day", .text "2024-01-01"), ("utm_campaign", .text campaign), ("sessions", .number 3)]

theorem dates : labels .day (bucket .day start) (bucket .day stop) =
    ["2024-01-01", "2024-01-02"] := by decide +kernel

theorem allDates_start : allDates .day start stop = ["2024-01-01", "2024-01-02"] := by
  rw [allDates_eq]
  exact dates

theorem inRange (campaign : String) : ∀ row ∈ [visits campaign],
    ∃ k, bucket .day start ≤ k ∧ k ≤ bucket .day stop ∧
      label .day k = dateOf dateKey "date_day" row := by
  intro row hrow
  have hdate : dateOf dateKey "date_day" row = "2024-01-01" := by
    rw [List.mem_singleton.mp hrow]
    rfl
  rw [hdate]
  refine mem_labels.mp ?_
  rw [dates]
  exact List.mem_cons_self

/-- The rows of a campaign, filled up. -/
def filled (campaign : String) : List ResultRow :=
  fillGaps numeral (allDates .day start stop) dateKey "date_day" ["sessions"] ["utm_campaign"]
    [visits campaign]

/-- The rows of a campaign that are wanted. -/
def expected (campaign : String) : List ResultRow :=
  wanted dateKey "date_day" ["sessions"] ["utm_campaign"] [visits campaign]
    (labels .day (bucket .day start) (bucket .day stop))

theorem spring_complete : (filled "spring").Perm (expected "spring") := by
  refine (fillGaps_complete_iff .day (by decide) (by decide) (by rw [allDates_start]; decide)
    (inRange "spring") (List.pairwise_singleton _ _)).mpr ⟨?_, ?_, ?_⟩
  · exact fun h => WidgetGranularity.noConfusion h.1
  · intro row hrow row' hrow' _
    rw [List.mem_singleton.mp hrow, List.mem_singleton.mp hrow']
  · intro row hrow _ cell hcell
    rw [List.mem_singleton.mp hrow] at hcell
    rw [List.mem_singleton.mp hcell]
    exact ⟨"spring", rfl, by decide⟩

/-- The zeros of the second day are given to a campaign `a` that nobody ran. -/
theorem bar_in_campaign : Distinct dateKey "date_day" ["utm_campaign"] [visits "a|b"] ∧
    ¬(filled "a|b").Perm (expected "a|b") := by
  refine ⟨List.pairwise_singleton _ _, ?_⟩
  have hbar : ∀ date ∈ ["2024-01-01", "2024-01-02"], '|' ∉ date.toList := by decide
  unfold filled expected
  rw [allDates_start, dates, fillGaps_eq _ _ _ _ _ _ _ hbar (by decide)]
  intro hperm
  have hgap := gapsPlain_of_perm (by decide) (by decide) hperm (visits "a|b")
    (List.mem_singleton_self _) ⟨"2024-01-02", by decide, by decide⟩ (.text "a|b")
    (List.mem_singleton_self _)
  obtain ⟨s, hs, hnot⟩ := hgap
  rw [← Cell.text.inj hs] at hnot
  exact hnot (by decide)

end GapExample

end Veridian.Analytics.GapFilling
