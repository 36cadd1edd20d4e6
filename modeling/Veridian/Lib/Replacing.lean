/-
Tables that keep one row per key.

A replacing table is a list of rows in insertion order.  Reading it as merged leaves,
for every key, the row of the greatest version, and among rows of one version the one
inserted last; the others are outdated.  They go in merges, and deleted rows in mutations,
both at a time of the database's own.  `groupBy` is the other thing such a database does
with keys: the groups of a block, each with its rows in the order they came in.
-/
import Mathlib.Data.List.Count
import Mathlib.Data.List.Dedup
import Mathlib.Order.MinMax

namespace Veridian.Replacing

variable {ρ κ ν : Type*} [DecidableEq κ] [LinearOrder ν] (key : ρ → κ) (version : ρ → ν)

/-! ### The newest row -/

def newest : List ρ → Option ρ
  | [] => none
  | r :: rest =>
      match newest rest with
      | none => some r
      | some m => if version m < version r then some r else some m

theorem newest_mem :
    ∀ {rows : List ρ} {m : ρ}, newest version rows = some m → m ∈ rows := by
  intro rows
  induction rows with
  | nil => intro m h; simp [newest] at h
  | cons r rest ih =>
      intro m h
      rw [newest] at h
      split at h
      · exact List.mem_cons.mpr (Or.inl (Option.some.inj h).symm)
      · rename_i m' hm'
        split at h
        · exact List.mem_cons.mpr (Or.inl (Option.some.inj h).symm)
        · obtain rfl := Option.some.inj h
          exact List.mem_cons_of_mem _ (ih hm')

theorem newest_eq_none_iff {rows : List ρ} : newest version rows = none ↔ rows = [] := by
  cases rows with
  | nil => simp [newest]
  | cons r rest =>
      have hsome : newest version (r :: rest) ≠ none := by
        rw [newest]
        split
        · exact Option.some_ne_none _
        · split <;> exact Option.some_ne_none _
      simp [hsome]

/-- No row is newer than the newest. -/
theorem newest_le :
    ∀ {rows : List ρ} {m r : ρ}, newest version rows = some m → r ∈ rows →
      version r ≤ version m := by
  intro rows
  induction rows with
  | nil => intro m r _ hr; exact absurd hr List.not_mem_nil
  | cons q rest ih =>
      intro m r h hr
      rw [newest] at h
      rcases hrest : newest version rest with _ | m'
      · rw [hrest] at h
        obtain rfl := (newest_eq_none_iff version).mp hrest
        obtain rfl := Option.some.inj h
        exact le_of_eq (congrArg version (List.mem_singleton.mp hr))
      · rw [hrest] at h
        dsimp only at h
        split_ifs at h with hlt
        · obtain rfl := Option.some.inj h
          rcases List.mem_cons.mp hr with rfl | hr
          · exact le_refl _
          · exact (ih hrest hr).trans (le_of_lt hlt)
        · obtain rfl := Option.some.inj h
          rcases List.mem_cons.mp hr with rfl | hr
          · exact not_lt.mp hlt
          · exact ih hrest hr

/-- A row that is inserted last and is not older than any other survives. -/
theorem newest_append_singleton {rows : List ρ} {x : ρ}
    (h : ∀ r ∈ rows, version r ≤ version x) : newest version (rows ++ [x]) = some x := by
  induction rows with
  | nil => rfl
  | cons r rest ih =>
      rw [List.cons_append, newest, ih fun q hq => h q (List.mem_cons_of_mem _ hq)]
      exact if_neg (not_lt.mpr (h r (by simp)))

/-- The newer of two rows, of two equals the second. -/
def newer : Option ρ → Option ρ → Option ρ
  | a, none => a
  | none, some m => some m
  | some r, some m => if version m < version r then some r else some m

theorem newest_cons (r : ρ) (rest : List ρ) :
    newest version (r :: rest) = newer version (some r) (newest version rest) := by
  rw [newest]
  cases newest version rest <;> rfl

theorem newer_none (a : Option ρ) : newer version none a = a := by
  cases a <;> rfl

theorem newer_assoc (a b c : Option ρ) :
    newer version (newer version a b) c = newer version a (newer version b c) := by
  cases a with
  | none => rw [newer_none, newer_none]
  | some x =>
      cases b with
      | none => rw [newer_none]; rfl
      | some y =>
          cases c with
          | none => rfl
          | some z =>
              show newer version (if version y < version x then some x else some y) (some z) =
                newer version (some x) (if version z < version y then some y else some z)
              by_cases hyx : version y < version x <;> by_cases hzy : version z < version y
              · simp [newer, hyx, hzy, lt_trans hzy hyx]
              · simp [newer, hyx, hzy]
              · simp [newer, hyx, hzy]
              · have hzx : ¬version z < version x :=
                  not_lt.mpr ((not_lt.mp hyx).trans (not_lt.mp hzy))
                simp [newer, hyx, hzy, hzx]

theorem newest_append (l l' : List ρ) :
    newest version (l ++ l') = newer version (newest version l) (newest version l') := by
  induction l with
  | nil => rw [List.nil_append, newest, newer_none]
  | cons r rest ih => rw [List.cons_append, newest_cons, newest_cons, ih, newer_assoc]

/-- A row that is inserted last replaces the newest one unless it is older. -/
theorem newest_append_of_some {rows : List ρ} {m x : ρ} (h : newest version rows = some m) :
    newest version (rows ++ [x]) = some (if version x < version m then m else x) := by
  rw [newest_append, h]
  show (if version x < version m then some m else some x) = _
  split <;> rfl

/-- Without a row that is not the newest, or that one as new follows, the newest is the same. -/
theorem newest_remove {l l' : List ρ} {x m : ρ} (h : newest version (l ++ x :: l') = some m)
    (hout : x ≠ m ∨ ∃ q ∈ l', version x ≤ version q) : newest version (l ++ l') = some m := by
  rw [newest_append, newest_cons] at h
  rw [newest_append]
  by_cases hlast : ∃ y, newest version l' = some y ∧ version x ≤ version y
  · obtain ⟨y, hy, hxy⟩ := hlast
    rw [hy] at h ⊢
    rwa [show newer version (some x) (some y) = some y from if_neg (not_lt.mpr hxy)] at h
  -- From here on `x` is newer than all that follows it, so it lost to a row before it.
  have hx : x ≠ m := by
    refine hout.resolve_right fun ⟨q, hq, hle⟩ => hlast ?_
    obtain ⟨y, hy⟩ := Option.ne_none_iff_exists'.mp fun hnone =>
      absurd ((newest_eq_none_iff version).mp hnone) (List.ne_nil_of_mem hq)
    exact ⟨y, hy, hle.trans (newest_le version hy hq)⟩
  have hfirst : newer version (some x) (newest version l') = some x := by
    cases hl' : newest version l' with
    | none => rfl
    | some y => exact if_pos (not_le.mp fun hle => hlast ⟨y, hl', hle⟩)
  rw [hfirst] at h
  cases hl : newest version l with
  | none =>
      rw [hl, newer_none] at h
      exact absurd (Option.some.inj h) hx
  | some r =>
      rw [hl] at h
      have hlt : version x < version r := by
        by_contra hge
        exact hx (Option.some.inj ((if_neg hge).symm.trans h))
      rw [← (if_pos hlt).symm.trans h]
      cases hl' : newest version l' with
      | none => rfl
      | some y => exact if_pos ((not_le.mp fun hle => hlast ⟨y, hl', hle⟩).trans hlt)

/-- Of rows of one version the last one is newest. -/
theorem newest_of_const {v : ν} :
    ∀ {l : List ρ}, (∀ r ∈ l, version r = v) → newest version l = l.getLast? := by
  intro l
  induction l with
  | nil => intro _; rfl
  | cons r rest ih =>
      intro h
      rw [newest_cons, ih fun q hq => h q (List.mem_cons_of_mem _ hq), List.getLast?_cons]
      cases hlast : rest.getLast? with
      | none => rfl
      | some m =>
          have hm : version m = v := h m (List.mem_cons_of_mem _ (List.mem_of_getLast? hlast))
          exact if_neg (by rw [hm, h r List.mem_cons_self]; exact lt_irrefl v)

/-- Rows that come in batches, each of one version: the newest row is the last one of the
newest batch that has any. -/
theorem newest_flatMap {δ : Type*} {f : δ → List ρ} {v : δ → ν}
    (hv : ∀ d, ∀ r ∈ f d, version r = v d) :
    ∀ ds : List δ, newest version (ds.flatMap f) =
      (newest v (ds.filter fun d => !(f d).isEmpty)).bind fun d => (f d).getLast? := by
  intro ds
  induction ds with
  | nil => rfl
  | cons d rest ih =>
      rw [List.flatMap_cons, newest_append, ih, newest_of_const version (hv d)]
      by_cases hd : f d = []
      · rw [List.filter_cons_of_neg (by simp [hd]), hd, List.getLast?_nil, newer_none]
      · rw [List.filter_cons_of_pos (by simpa using hd), newest_cons]
        obtain ⟨r, hr⟩ := Option.ne_none_iff_exists'.mp (mt List.getLast?_eq_none_iff.mp hd)
        cases hn : newest v (rest.filter fun d => !(f d).isEmpty) with
        | none => rfl
        | some d' =>
            have hmem := (List.mem_filter.mp (newest_mem v hn)).2
            have hd' : f d' ≠ [] := by simpa using hmem
            obtain ⟨r', hr'⟩ := Option.ne_none_iff_exists'.mp (mt List.getLast?_eq_none_iff.mp hd')
            have hvr := hv d r (List.mem_of_getLast? hr)
            have hvr' := hv d' r' (List.mem_of_getLast? hr')
            show newer version ((f d).getLast?) ((f d').getLast?) =
              (if v d' < v d then some d else some d').bind fun d => (f d).getLast?
            rw [hr, hr']
            show (if version r' < version r then some r else some r') = _
            rw [hvr, hvr']
            split
            · exact hr.symm
            · exact hr'.symm

/-! ### One key among many -/

/-- Of the values of a list of distinct keys, a selection that picks out one key finds the
value of that key and nothing else. -/
theorem filter_filterMap_of_nodup {β : Type*} {f : κ → Option β} {p : β → Bool} {k : κ}
    (hp : ∀ k' b, f k' = some b → (p b = true ↔ k' = k)) :
    ∀ {ks : List κ}, ks.Nodup →
      (ks.filterMap f).filter p = if k ∈ ks then (f k).toList else [] := by
  intro ks
  induction ks with
  | nil => intro _; rfl
  | cons k' rest ih =>
      intro hnodup
      obtain ⟨hnotin, hrest⟩ := List.nodup_cons.mp hnodup
      rw [List.filterMap_cons]
      by_cases hk : k = k'
      · subst hk
        rw [if_pos (by simp)]
        cases hs : f k with
        | none =>
            show List.filter p _ = []
            rw [ih hrest, if_neg hnotin]
        | some b =>
            show List.filter p (b :: _) = [b]
            rw [List.filter_cons_of_pos ((hp k b hs).mpr rfl), ih hrest, if_neg hnotin]
      · have hmem : (k ∈ k' :: rest) = (k ∈ rest) := by simp [hk]
        simp only [hmem]
        cases hs : f k' with
        | none => exact ih hrest
        | some b =>
            have hneg : ¬p b = true := fun hc => hk ((hp k' b hs).mp hc).symm
            show List.filter p (b :: _) = _
            rw [List.filter_cons_of_neg hneg]
            exact ih hrest

/-! ### The merged table -/

/-- The row that survives under a key. -/
def survivor (k : κ) (rows : List ρ) : Option ρ :=
  newest version (rows.filter fun r => key r = k)

/-- The rows of the merged table. -/
def final (rows : List ρ) : List ρ :=
  (rows.map key).dedup.filterMap fun k => survivor key version k rows

theorem survivor_key {k : κ} {rows : List ρ} {m : ρ}
    (h : survivor key version k rows = some m) : m ∈ rows ∧ key m = k := by
  have hmem := newest_mem version h
  exact ⟨List.mem_of_mem_filter hmem, by simpa using (List.mem_filter.mp hmem).2⟩

/-- A key survives as soon as one row has it. -/
theorem survivor_isSome_iff {k : κ} {rows : List ρ} :
    (survivor key version k rows).isSome = true ↔ ∃ r ∈ rows, key r = k := by
  rw [← Option.ne_none_iff_isSome, survivor, Ne, newest_eq_none_iff, List.filter_eq_nil_iff]
  simp

theorem survivor_append_of_ne {k : κ} {rows : List ρ} {x : ρ} (h : key x ≠ k) :
    survivor key version k (rows ++ [x]) = survivor key version k rows := by
  unfold survivor
  rw [List.filter_append, List.filter_cons_of_neg (by simpa using h), List.filter_nil,
    List.append_nil]

theorem survivor_append_of_some {k : κ} {rows : List ρ} {m x : ρ}
    (hm : survivor key version k rows = some m) (hx : key x = k) :
    survivor key version k (rows ++ [x]) = some (if version x < version m then m else x) := by
  unfold survivor
  rw [List.filter_append, List.filter_cons_of_pos (by simpa using hx), List.filter_nil]
  exact newest_append_of_some version hm

theorem survivor_append_of_none {k : κ} {rows : List ρ} {x : ρ}
    (hm : survivor key version k rows = none) (hx : key x = k) :
    survivor key version k (rows ++ [x]) = some x := by
  unfold survivor at hm ⊢
  rw [List.filter_append, (newest_eq_none_iff version).mp hm,
    List.filter_cons_of_pos (by simpa using hx), List.filter_nil]
  rfl

/-- What survives under a key depends on its rows alone. -/
theorem survivor_filter_of_key {k : κ} {rows : List ρ} {p : ρ → Bool}
    (h : ∀ r ∈ rows, key r = k → p r = true) :
    survivor key version k (rows.filter p) = survivor key version k rows := by
  unfold survivor
  rw [List.filter_filter]
  congr 1
  refine List.filter_congr fun r hr => ?_
  by_cases hk : key r = k
  · simp [hk, h r hr hk]
  · simp [hk]

/-- Dropping a row leaves what survives under the other keys. -/
theorem survivor_eraseIdx_of_ne {k : κ} {rows : List ρ} {i : Nat} {r : ρ} (hr : rows[i]? = some r)
    (hne : key r ≠ k) :
    survivor key version k (rows.eraseIdx i) = survivor key version k rows := by
  obtain ⟨hi, rfl⟩ := List.getElem?_eq_some_iff.mp hr
  have hsplit : rows = rows.take i ++ rows[i] :: rows.drop (i + 1) := by
    rw [← List.drop_eq_getElem_cons hi, List.take_append_drop]
  unfold survivor
  rw [List.eraseIdx_eq_take_drop_succ]
  conv_rhs => rw [hsplit]
  rw [List.filter_append, List.filter_append, List.filter_cons_of_neg (by simpa using hne)]

/-- Dropping a row that does not survive, or that one of its key as new follows, leaves what
survives. -/
theorem survivor_eraseIdx_of_outdated {k : κ} {rows : List ρ} {i : Nat} {r m : ρ}
    (hr : rows[i]? = some r) (hm : survivor key version k rows = some m)
    (hout : r ≠ m ∨ ∃ q ∈ rows.drop (i + 1), key q = k ∧ version r ≤ version q) :
    survivor key version k (rows.eraseIdx i) = some m := by
  by_cases hk : key r = k
  · obtain ⟨hi, rfl⟩ := List.getElem?_eq_some_iff.mp hr
    have hsplit : rows = rows.take i ++ rows[i] :: rows.drop (i + 1) := by
      rw [← List.drop_eq_getElem_cons hi, List.take_append_drop]
    unfold survivor at hm ⊢
    rw [hsplit, List.filter_append, List.filter_cons_of_pos (by simpa using hk)] at hm
    rw [List.eraseIdx_eq_take_drop_succ, List.filter_append]
    refine newest_remove version hm (hout.imp_right fun ⟨q, hq, hqk, hle⟩ => ⟨q, ?_, hle⟩)
    exact List.mem_filter.mpr ⟨hq, by simpa using hqk⟩
  · rw [survivor_eraseIdx_of_ne key version hr hk]
    exact hm

/-- The merged table holds the survivors of its keys. -/
theorem mem_final_iff {rows : List ρ} {m : ρ} :
    m ∈ final key version rows ↔ survivor key version (key m) rows = some m := by
  constructor
  · intro hm
    obtain ⟨k, -, hk⟩ := List.mem_filterMap.mp hm
    obtain ⟨-, rfl⟩ := survivor_key key version hk
    exact hk
  · intro hm
    refine List.mem_filterMap.mpr ⟨key m, List.mem_dedup.mpr ?_, hm⟩
    exact List.mem_map.mpr ⟨m, (survivor_key key version hm).1, rfl⟩

/-- The merged table has one row for each key. -/
theorem final_map_key (rows : List ρ) :
    (final key version rows).map key = (rows.map key).dedup := by
  have hkeys : ∀ ks : List κ, (∀ k ∈ ks, (survivor key version k rows).isSome = true) →
      (ks.filterMap fun k => survivor key version k rows).map key = ks := by
    intro ks
    induction ks with
    | nil => intro _; rfl
    | cons k rest ih =>
        intro hsome
        obtain ⟨m, hm⟩ := Option.isSome_iff_exists.mp (hsome k List.mem_cons_self)
        rw [List.filterMap_cons, hm]
        show key m :: List.map key _ = k :: rest
        rw [(survivor_key key version hm).2, ih fun k' hk' => hsome k' (List.mem_cons_of_mem _ hk')]
  refine hkeys _ fun k hk => ?_
  obtain ⟨r, hr, hkey⟩ := List.mem_map.mp (List.mem_dedup.mp hk)
  exact (survivor_isSome_iff key version).mpr ⟨r, hr, hkey⟩

theorem final_length (rows : List ρ) :
    (final key version rows).length = (rows.map key).dedup.length := by
  rw [← final_map_key key version, List.length_map]

theorem final_subset (rows : List ρ) : final key version rows ⊆ rows := fun _ hm =>
  (survivor_key key version ((mem_final_iff key version).mp hm)).1

/-- A row that none of its key is newer than takes the place of the one under its key. -/
theorem mem_final_append {rows : List ρ} {x m : ρ}
    (hnew : ∀ r ∈ rows, key r = key x → version r ≤ version x) :
    m ∈ final key version (rows ++ [x]) ↔
      m = x ∨ m ∈ final key version rows ∧ key m ≠ key x := by
  rw [mem_final_iff, mem_final_iff]
  by_cases hkey : key x = key m
  · have hsurvives : survivor key version (key m) (rows ++ [x]) = some x := by
      cases hold : survivor key version (key m) rows with
      | none => exact survivor_append_of_none key version hold hkey
      | some old =>
          obtain ⟨hmem, holdkey⟩ := survivor_key key version hold
          rw [survivor_append_of_some key version hold hkey,
            if_neg (not_lt.mpr (hnew old hmem (holdkey.trans hkey.symm)))]
    rw [hsurvives, Option.some.injEq]
    exact ⟨fun heq => Or.inl heq.symm, fun hor => (hor.resolve_right fun h => h.2 hkey.symm).symm⟩
  · rw [survivor_append_of_ne key version hkey]
    refine ⟨fun hold => Or.inr ⟨hold, fun heq => hkey heq.symm⟩, fun hor => ?_⟩
    rcases hor with rfl | ⟨hold, -⟩
    · exact absurd rfl hkey
    · exact hold

/-- A row that one of its key is newer than changes nothing. -/
theorem mem_final_append_of_older {rows : List ρ} {x m old : ρ}
    (hold : old ∈ final key version rows) (hkey : key x = key old)
    (hlt : version x < version old) :
    m ∈ final key version (rows ++ [x]) ↔ m ∈ final key version rows := by
  rw [mem_final_iff, mem_final_iff]
  by_cases hm : key x = key m
  · have hsurvives : survivor key version (key m) rows = some old := by
      rw [← hm, hkey]
      exact (mem_final_iff key version).mp hold
    rw [survivor_append_of_some key version hsurvives hm, if_pos hlt, hsurvives]
  · rw [survivor_append_of_ne key version hm]

/-- The merged table takes in nothing but the row that is inserted. -/
theorem eq_or_mem_of_mem_final_append {rows : List ρ} {x m : ρ}
    (hm : m ∈ final key version (rows ++ [x])) : m = x ∨ m ∈ final key version rows := by
  rw [mem_final_iff] at hm ⊢
  by_cases hkey : key x = key m
  · cases hold : survivor key version (key m) rows with
    | none =>
        rw [survivor_append_of_none key version hold hkey] at hm
        exact Or.inl (Option.some.inj hm).symm
    | some old =>
        rw [survivor_append_of_some key version hold hkey] at hm
        split at hm
        · exact Or.inr hm
        · exact Or.inl (Option.some.inj hm).symm
  · rw [survivor_append_of_ne key version hkey] at hm
    exact Or.inr hm

/-- Two rows of the merged table under one key are one. -/
theorem eq_of_mem_final {rows : List ρ} {m m' : ρ} (hm : m ∈ final key version rows)
    (hm' : m' ∈ final key version rows) (hkey : key m = key m') : m = m' := by
  rw [mem_final_iff] at hm hm'
  exact Option.some.inj (hm.symm.trans (hkey ▸ hm'))

/-- No row under the key of one of the merged table is newer. -/
theorem le_of_mem_final {rows : List ρ} {m r : ρ} (hm : m ∈ final key version rows) (hr : r ∈ rows)
    (hkey : key r = key m) : version r ≤ version m :=
  newest_le version ((mem_final_iff key version).mp hm)
    (List.mem_filter.mpr ⟨hr, by simpa using hkey⟩)

/-- What is shown of the merged table stays when a row is inserted that shows the same as the
one under its key. -/
theorem exists_mem_final_append_copy {β : Type*} {f : ρ → β} {rows : List ρ} {x m₀ : ρ} {b : β}
    (hm₀ : m₀ ∈ final key version rows) (hkey : key x = key m₀) (hf : f x = f m₀) :
    (∃ m ∈ final key version (rows ++ [x]), f m = b) ↔
      ∃ m ∈ final key version rows, f m = b := by
  by_cases hlt : version x < version m₀
  · simp only [mem_final_append_of_older key version hm₀ hkey hlt]
  · have hnew : ∀ r ∈ rows, key r = key x → version r ≤ version x := fun r hr hrx =>
      (le_of_mem_final key version hm₀ hr (hrx.trans hkey)).trans (not_lt.mp hlt)
    simp only [mem_final_append key version hnew]
    constructor
    · rintro ⟨m, rfl | ⟨hm, -⟩, hb⟩
      · exact ⟨m₀, hm₀, hf ▸ hb⟩
      · exact ⟨m, hm, hb⟩
    · rintro ⟨m, hm, hb⟩
      by_cases hmx : key m = key x
      · obtain rfl := eq_of_mem_final key version hm hm₀ (hmx.trans hkey)
        exact ⟨x, Or.inl rfl, hf.trans hb⟩
      · exact ⟨m, Or.inr ⟨hm, hmx⟩, hb⟩

/-- What a merge removes, each row as often as it is removed. -/
def outdated [DecidableEq ρ] (rows : List ρ) : List ρ := rows.diff (final key version rows)

theorem final_append_outdated_perm [DecidableEq ρ] (rows : List ρ) :
    (final key version rows ++ outdated key version rows).Perm rows := by
  have hnodup : (final key version rows).Nodup :=
    List.Nodup.of_map key (by rw [final_map_key]; exact List.nodup_dedup _)
  exact List.subperm_append_diff_self_of_count_le fun m hm =>
    ((List.nodup_iff_count_le_one.mp hnodup) m).trans
      (List.one_le_count_iff.mpr (final_subset key version rows hm))

/-- A selection that picks out one key finds the survivor of that key and nothing else. -/
theorem final_filter_eq_survivor {rows : List ρ} {k : κ} {p : ρ → Bool}
    (hp : ∀ r ∈ rows, p r = true ↔ key r = k) :
    (final key version rows).filter p = (survivor key version k rows).toList := by
  have hpick : ∀ k' m, survivor key version k' rows = some m → (p m = true ↔ k' = k) := by
    intro k' m hm
    obtain ⟨hmem, rfl⟩ := survivor_key key version hm
    exact hp m hmem
  rw [final, filter_filterMap_of_nodup hpick (List.nodup_dedup _)]
  by_cases hin : k ∈ (rows.map key).dedup
  · rw [if_pos hin]
  · rw [if_neg hin]
    cases hs : survivor key version k rows with
    | none => rfl
    | some m =>
        obtain ⟨hm, hkey⟩ := survivor_key key version hs
        refine absurd (List.mem_dedup.mpr ?_) hin
        exact List.mem_map.mpr ⟨m, hm, hkey⟩

/-! ### Rows that go later -/

/-- A stored row, and whether a `DELETE` has been issued that takes it out. -/
structure Stored (ρ : Type*) where
  row : ρ
  deleted : Bool
  deriving DecidableEq

/-- A `DELETE` marks what it selects; the rows go one by one, when the database gets to it. -/
def deleteWhere (selects : ρ → Bool) (rows : List (Stored ρ)) : List (Stored ρ) :=
  rows.map fun r => if selects r.row then { r with deleted := true } else r

/-- A row goes when it was deleted, or merged with one of its key that is newer, or as new
and inserted later. -/
def mayVanish (rows : List (Stored ρ)) (i : Nat) : Bool :=
  match rows[i]? with
  | none => false
  | some r =>
      r.deleted ||
        rows.any (fun q => decide (key q.row = key r.row ∧ version r.row < version q.row)) ||
        (rows.drop (i + 1)).any fun q =>
          decide (key q.row = key r.row ∧ version r.row = version q.row)

/-- What survives under a key among the rows that are still there. -/
def storedSurvivor (k : κ) (rows : List (Stored ρ)) : Option (Stored ρ) :=
  survivor (fun r : Stored ρ => key r.row) (fun r : Stored ρ => version r.row) k rows

theorem deleteWhere_rows (selects : ρ → Bool) (rows : List (Stored ρ)) :
    (deleteWhere selects rows).map Stored.row = rows.map Stored.row := by
  unfold deleteWhere
  rw [List.map_map]
  refine List.map_congr_left fun r _ => ?_
  show Stored.row (if _ then _ else _) = _
  split <;> rfl

/-- A `DELETE` of other keys leaves what survives. -/
theorem storedSurvivor_deleteWhere {k : κ} {selects : ρ → Bool} {rows : List (Stored ρ)}
    (h : ∀ row, key row = k → selects row = false) :
    storedSurvivor key version k (deleteWhere selects rows) = storedSurvivor key version k rows := by
  have hfilter : ((deleteWhere selects rows).filter fun r => key r.row = k) =
      rows.filter fun r => key r.row = k := by
    induction rows with
    | nil => rfl
    | cons r rest ih =>
        show List.filter _ ((if selects r.row then { r with deleted := true } else r) ::
          deleteWhere selects rest) = _
        by_cases hr : key r.row = k
        · rw [if_neg (by simp [h r.row hr]), List.filter_cons_of_pos (by simpa using hr),
            List.filter_cons_of_pos (by simpa using hr), ih]
        · rw [List.filter_cons_of_neg (by split <;> simpa using hr),
            List.filter_cons_of_neg (by simpa using hr), ih]
  show newest _ (List.filter _ _) = newest _ (List.filter _ _)
  rw [hfilter]

/-- What survives under a key does not vanish unless it was deleted. -/
theorem storedSurvivor_vanish {k : κ} {rows : List (Stored ρ)} {i : Nat} {row : ρ}
    (hrow : storedSurvivor key version k rows = some ⟨row, false⟩)
    (h : mayVanish key version rows i = true) :
    storedSurvivor key version k (rows.eraseIdx i) = some ⟨row, false⟩ := by
  unfold mayVanish at h
  split at h
  · exact absurd h (by simp)
  · rename_i r hr
    by_cases hk : key r.row = k
    · refine survivor_eraseIdx_of_outdated _ _ hr hrow ?_
      simp only [Bool.or_eq_true, List.any_eq_true, decide_eq_true_eq] at h
      rcases h with (hdeleted | ⟨q, hq, hqk, hlt⟩) | ⟨q, hq, hqk, heq⟩
      · refine Or.inl ?_
        rintro rfl
        exact nomatch hdeleted
      · refine Or.inl ?_
        rintro rfl
        have hle := newest_le _ hrow (List.mem_filter.mpr ⟨hq, by simpa using hqk.trans hk⟩)
        exact absurd hlt (not_lt.mpr hle)
      · exact Or.inr ⟨q, hq, hqk.trans hk, le_of_eq heq⟩
    · exact (survivor_eraseIdx_of_ne _ _ hr hk).trans hrow

/-! ### Rows that are used up -/

section UsedUp

variable (isOpen : ρ → Bool)

/-- The row that survives under a key is open unless the key has been used. -/
structure Tracks (used : List κ) (rows : List ρ) : Prop where
  stored : ∀ k ∈ used, ∃ r ∈ rows, key r = k
  isOpen_iff : ∀ k r, survivor key version k rows = some r → (isOpen r = true ↔ k ∉ used)

variable {key version isOpen} {used : List κ} {rows : List ρ} {x m : ρ}

theorem tracks_nil : Tracks key version isOpen [] ([] : List ρ) :=
  ⟨fun _ hk => absurd hk List.not_mem_nil, fun _ _ hr => (nomatch hr)⟩

/-- A row under a new key is issued open. -/
theorem Tracks.issue (h : Tracks key version isOpen used rows) (hnew : ∀ r ∈ rows, key r ≠ key x)
    (hopen : isOpen x = true) : Tracks key version isOpen used (rows ++ [x]) := by
  have hunused : key x ∉ used := by
    intro hx
    obtain ⟨r, hr, hkey⟩ := h.stored _ hx
    exact hnew r hr hkey
  refine ⟨fun k hk => ?_, fun k r hr => ?_⟩
  · obtain ⟨r, hr, hkey⟩ := h.stored k hk
    exact ⟨r, List.mem_append_left _ hr, hkey⟩
  · by_cases hk : key x = k
    · have hnone : survivor key version k rows = none := by
        rw [← Option.not_isSome_iff_eq_none, survivor_isSome_iff]
        rintro ⟨q, hq, hqk⟩
        exact hnew q hq (hqk.trans hk.symm)
      rw [survivor_append_of_none key version hnone hk] at hr
      obtain rfl := Option.some.inj hr
      exact ⟨fun _ => hk ▸ hunused, fun _ => hopen⟩
    · rw [survivor_append_of_ne key version hk] at hr
      exact h.isOpen_iff k r hr

/-- A closed row that is not older uses its key up. -/
theorem Tracks.use (h : Tracks key version isOpen used rows)
    (hold : survivor key version (key x) rows = some m) (hle : version m ≤ version x)
    (hclosed : isOpen x = false) : Tracks key version isOpen (used ++ [key x]) (rows ++ [x]) := by
  refine ⟨fun k hk => ?_, fun k r hr => ?_⟩
  · rcases List.mem_append.mp hk with hk | hk
    · obtain ⟨r, hr, hkey⟩ := h.stored k hk
      exact ⟨r, List.mem_append_left _ hr, hkey⟩
    · exact ⟨x, List.mem_append_right _ (List.mem_singleton.mpr rfl), (List.mem_singleton.mp hk).symm⟩
  · by_cases hk : key x = k
    · subst hk
      rw [survivor_append_of_some key version hold rfl, if_neg (not_lt.mpr hle)] at hr
      obtain rfl := Option.some.inj hr
      rw [hclosed]
      have hnew : key x ∈ used ++ [key x] :=
        List.mem_append_right _ (List.mem_singleton.mpr rfl)
      exact ⟨fun hc => (nomatch hc), fun hc => absurd hnew hc⟩
    · rw [survivor_append_of_ne key version hk] at hr
      rw [h.isOpen_iff k r hr, List.mem_append, List.mem_singleton]
      exact ⟨fun hn => not_or.mpr ⟨hn, fun heq => hk heq.symm⟩, fun hn hu => hn (Or.inl hu)⟩

end UsedUp

/-! ### The greatest value of a group -/

/-- `max(f)` over a group with a first element. -/
def greatest {α : Type*} (f : α → ν) (first : α) (rest : List α) : ν :=
  rest.foldl (fun m x => max m (f x)) (f first)

theorem greatest_le_iff {α : Type*} {f : α → ν} {first : α} {rest : List α} {b : ν} :
    greatest f first rest ≤ b ↔ ∀ x ∈ first :: rest, f x ≤ b := by
  have hfold : ∀ (l : List α) (m : ν),
      l.foldl (fun m x => max m (f x)) m ≤ b ↔ m ≤ b ∧ ∀ x ∈ l, f x ≤ b := by
    intro l
    induction l with
    | nil => intro m; simp
    | cons x rest ih =>
        intro m
        rw [List.foldl_cons, ih, max_le_iff, List.forall_mem_cons, and_assoc]
  rw [greatest, hfold, List.forall_mem_cons]

theorem le_greatest {α : Type*} {f : α → ν} {first x : α} {rest : List α}
    (h : x ∈ first :: rest) : f x ≤ greatest f first rest :=
  greatest_le_iff.mp le_rfl x h

/-! ### Groups of a block -/

def groupBy (rows : List ρ) : List (List ρ) :=
  (rows.map key).dedup.map fun k => rows.filter fun r => key r = k

/-- Mapping the groups and selecting one key reads that group alone. -/
theorem filterMap_groupBy {β : Type*} (aggregate : List ρ → Option β) {p : β → Bool} {k : κ}
    {rows : List ρ}
    (hp : ∀ k' b, aggregate (rows.filter fun r => key r = k') = some b → (p b = true ↔ k' = k))
    (hnil : aggregate [] = none) :
    ((groupBy key rows).filterMap aggregate).filter p =
      (aggregate (rows.filter fun r => key r = k)).toList := by
  have hgroups : (groupBy key rows).filterMap aggregate = (rows.map key).dedup.filterMap
      fun k' => aggregate (rows.filter fun r => key r = k') := List.filterMap_map
  rw [hgroups, filter_filterMap_of_nodup hp (List.nodup_dedup _)]
  by_cases hin : k ∈ (rows.map key).dedup
  · rw [if_pos hin]
  · rw [if_neg hin]
    have hempty : rows.filter (fun r => key r = k) = [] := by
      refine List.filter_eq_nil_iff.mpr fun r hr hk => hin (List.mem_dedup.mpr ?_)
      exact List.mem_map.mpr ⟨r, hr, by simpa using hk⟩
    rw [hempty, hnil]
    rfl

/-! ### The first row of every key -/

/-- `LIMIT 1 BY key`, past the keys in `seen`. -/
def limitOneBy (seen : List κ) : List ρ → List ρ
  | [] => []
  | r :: rest =>
      if key r ∈ seen then limitOneBy seen rest else r :: limitOneBy (key r :: seen) rest

/-- `fresh` has one row for every key of `rows`, and it is one of the newest. -/
structure FreshestOf (rows fresh : List ρ) : Prop where
  nodup : (fresh.map key).Nodup
  mem : ∀ r ∈ fresh, r ∈ rows
  newest : ∀ r ∈ fresh, ∀ x ∈ rows, key x = key r → version x ≤ version r
  covers : ∀ x ∈ rows, ∃ r ∈ fresh, key r = key x

theorem mem_limitOneBy : ∀ {rows : List ρ} {seen : List κ} {r : ρ},
    r ∈ limitOneBy key seen rows → r ∈ rows ∧ key r ∉ seen := by
  intro rows
  induction rows with
  | nil => intro seen r h; exact absurd h List.not_mem_nil
  | cons x rest ih =>
      intro seen r h
      unfold limitOneBy at h
      split at h
      · exact (ih h).imp (List.mem_cons_of_mem _) id
      · rename_i hx
        rcases List.mem_cons.mp h with rfl | hrest
        · exact ⟨List.mem_cons_self, hx⟩
        · obtain ⟨hmem, hseen⟩ := ih hrest
          exact ⟨List.mem_cons_of_mem _ hmem, fun hr => hseen (List.mem_cons_of_mem _ hr)⟩

theorem nodup_limitOneBy : ∀ (rows : List ρ) (seen : List κ),
    ((limitOneBy key seen rows).map key).Nodup := by
  intro rows
  induction rows with
  | nil => intro seen; exact List.nodup_nil
  | cons x rest ih =>
      intro seen
      unfold limitOneBy
      split
      · exact ih seen
      · refine List.nodup_cons.mpr ⟨fun hmem => ?_, ih _⟩
        obtain ⟨r, hr, heq⟩ := List.mem_map.mp hmem
        exact (mem_limitOneBy key hr).2 (heq ▸ List.mem_cons_self)

theorem exists_mem_limitOneBy : ∀ {rows : List ρ} {seen : List κ} {x : ρ},
    x ∈ rows → key x ∉ seen → ∃ r ∈ limitOneBy key seen rows, key r = key x := by
  intro rows
  induction rows with
  | nil => intro seen x h; exact absurd h List.not_mem_nil
  | cons y rest ih =>
      intro seen x hx hseen
      unfold limitOneBy
      split
      · rename_i hy
        rcases List.mem_cons.mp hx with rfl | hrest
        · exact absurd hy hseen
        · exact ih hrest hseen
      · by_cases hkey : key x = key y
        · exact ⟨y, List.mem_cons_self, hkey.symm⟩
        · have hrest : x ∈ rest := (List.mem_cons.mp hx).resolve_left fun heq => hkey (heq ▸ rfl)
          have hnew : key x ∉ key y :: seen := by
            rw [List.mem_cons, not_or]
            exact ⟨hkey, hseen⟩
          obtain ⟨r, hr, heq⟩ := ih hrest hnew
          exact ⟨r, List.mem_cons_of_mem _ hr, heq⟩

theorem le_of_mem_limitOneBy : ∀ {rows : List ρ} {seen : List κ},
    rows.Pairwise (fun a b => version b ≤ version a) →
      ∀ r ∈ limitOneBy key seen rows, ∀ x ∈ rows, key x = key r → version x ≤ version r := by
  intro rows
  induction rows with
  | nil => intro seen _ r _ x hx; exact absurd hx List.not_mem_nil
  | cons y rest ih =>
      intro seen hsorted r hr x hx hkey
      obtain ⟨hhead, htail⟩ := List.pairwise_cons.mp hsorted
      unfold limitOneBy at hr
      split at hr
      · rename_i hy
        rcases List.mem_cons.mp hx with rfl | hrest
        · exact absurd (hkey ▸ hy) (mem_limitOneBy key hr).2
        · exact ih htail r hr x hrest hkey
      · rcases List.mem_cons.mp hr with rfl | hlater
        · rcases List.mem_cons.mp hx with rfl | hrest
          · exact le_rfl
          · exact hhead x hrest
        · rcases List.mem_cons.mp hx with rfl | hrest
          · exact absurd (hkey ▸ List.mem_cons_self) (mem_limitOneBy key hlater).2
          · exact ih htail r hlater x hrest hkey

/-- **The first row of every key, newest first, is a newest row of that key.** -/
theorem freshestOf_limitOneBy {rows sorted : List ρ} (hperm : sorted.Perm rows)
    (hsorted : sorted.Pairwise fun a b => version b ≤ version a) :
    FreshestOf key version rows (limitOneBy key [] sorted) where
  nodup := nodup_limitOneBy key sorted []
  mem := fun _ hr => hperm.mem_iff.mp (mem_limitOneBy key hr).1
  newest := fun r hr x hx => le_of_mem_limitOneBy key version hsorted r hr x (hperm.mem_iff.mpr hx)
  covers := fun _ hx => exists_mem_limitOneBy key (hperm.mem_iff.mpr hx) List.not_mem_nil

/-- `kept` has lost no newest row of `rows`. -/
structure KeepsNewest (rows kept : List ρ) : Prop where
  mem : ∀ r ∈ kept, r ∈ rows
  newest : ∀ x ∈ rows, ∃ r ∈ kept, key r = key x ∧ version x ≤ version r

omit [DecidableEq κ] in
theorem KeepsNewest.refl (rows : List ρ) : KeepsNewest key version rows rows :=
  ⟨fun _ => id, fun x hx => ⟨x, hx, rfl, le_rfl⟩⟩

variable {key version}

omit [DecidableEq κ] in
/-- **The freshest rows of what has lost none are the freshest rows.** -/
theorem KeepsNewest.freshestOf {rows kept fresh : List ρ} (h : KeepsNewest key version rows kept)
    (hfresh : FreshestOf key version kept fresh) : FreshestOf key version rows fresh where
  nodup := hfresh.nodup
  mem := fun r hr => h.mem r (hfresh.mem r hr)
  newest := by
    intro r hr x hx hkey
    obtain ⟨y, hy, hyx, hle⟩ := h.newest x hx
    exact hle.trans (hfresh.newest r hr y hy (hyx.trans hkey))
  covers := by
    intro x hx
    obtain ⟨y, hy, hyx, -⟩ := h.newest x hx
    obtain ⟨r, hr, hry⟩ := hfresh.covers y hy
    exact ⟨r, hr, hry.trans hyx⟩

omit [DecidableEq κ] in
theorem FreshestOf.keepsNewest {rows fresh : List ρ} (h : FreshestOf key version rows fresh) :
    KeepsNewest key version rows fresh where
  mem := h.mem
  newest := by
    intro x hx
    obtain ⟨r, hr, hkey⟩ := h.covers x hx
    exact ⟨r, hr, hkey, h.newest r hr x hx hkey.symm⟩

end Veridian.Replacing
