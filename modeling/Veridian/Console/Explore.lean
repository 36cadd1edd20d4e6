/-
The tree of the explore page.

A row is expanded by a query for its children, which are put under the row that has the key
of the expanded one.  The key is the path of the row: the key of its parent, a `:`, and the
text of its own value, or `[empty:i]` for an empty one.  Nothing keeps a `:` of a value from
being read as one of the path.

A page is a run of actions on the tree: it is filled, a row is marked, children arrive.  Its
keys are paths of a code, in the sense of `Forest.PathCode`, as long as no value has a `:`
and none is `[empty`.
-/
import Veridian.Lib.Forest
import Veridian.Lib.Text

namespace Veridian.Explore

/-! ### Rows -/

/-- What a field of a row of the API has. -/
inductive ApiValue (N : Type) where
  | undefined
  | null
  | string (s : String)
  | number (n : N)
  | boolean (b : Bool)

abbrev ApiRow (N : Type) := String → ApiValue N

/-- The numbers of the runtime. -/
structure ExploreHost (N R : Type) where
  /-- `String(n)` -/
  text : N → String
  text_ne_empty : ∀ n, text n ≠ ""
  /-- `Number(raw)`, or 0 when that is not finite. -/
  number : ApiValue N → R
  zero : R
  positive : R → Bool
  /-- `((current - previous) / previous) * 100` -/
  changePercent : R → R → R

inductive Metric where
  | unique_visitors | sessions | median_duration | bounce_rate | median_scroll

def Metric.field : Metric → String
  | unique_visitors => "unique_visitors"
  | sessions => "sessions"
  | median_duration => "median_duration"
  | bounce_rate => "bounce_rate"
  | median_scroll => "median_scroll"

structure MetricCell (R : Type) where
  current : R
  previous : Option R
  change : Option R

structure ExploreRow (N R : Type) where
  key : String
  parentDimensionIndex : Nat
  childrenLoaded : Bool
  dimensionValues : List (String × ApiValue N)
  cells : Metric → MetricCell R
  /-- The row has a list of children, maybe an empty one. -/
  hasChildren : Bool
  isLoading : Option Bool
  childrenFilteredByMinSessions : Option Bool

abbrev ExploreTree (N R : Type) := Forest (ExploreRow N R)

section

variable {N R : Type} (host : ExploreHost N R)

def isEmpty : ApiValue N → Bool
  | .undefined | .null => true
  | .string s => s = ""
  | .number _ | .boolean _ => false

/-- `String(dimensionValue)` -/
def valueText : ApiValue N → String
  | .undefined => "undefined"
  | .null => "null"
  | .string s => s
  | .number n => host.text n
  | .boolean b => if b then "true" else "false"

/-- What the value adds to a key. -/
def valueStr (dimensionValue : ApiValue N) (index : Option Nat) : String :=
  if isEmpty dimensionValue then
    match index with
    | some index => "[empty" ++ ":" ++ toString index ++ "]"
    | none => "[empty" ++ "" ++ "]"
  else valueText host dimensionValue

def generateRowKey (parentKey : Option String) (dimensionValue : ApiValue N)
    (index : Option Nat) : String :=
  match parentKey.filter (· ≠ "") with
  | some parentKey => parentKey ++ ":" ++ valueStr host dimensionValue index
  | none => valueStr host dimensionValue index

def toMetricNumber (raw : ApiValue N) : Option R :=
  match raw with
  | .null | .undefined => none
  | raw => some (host.number raw)

def metricCell (row : ApiRow N) (hasPreviousPeriod : Bool) (m : Metric) : MetricCell R :=
  let current := (toMetricNumber host (row m.field)).getD host.zero
  let previous :=
    if hasPreviousPeriod then toMetricNumber host (row (m.field ++ "_prev")) else none
  { current
    previous
    change := (previous.filter host.positive).map (host.changePercent current) }

/-- The values of the dimensions up to the current one. -/
def rowDimensionValues (row : ApiRow N) (dimensions : List String) (currentDimensionIndex : Nat) :
    List (String × ApiValue N) :=
  (dimensions.take (currentDimensionIndex + 1)).filterMap fun dim =>
    if dim = "" then none
    else match row dim with
      | .undefined => none
      | v => some (dim, v)

def transformRow (dimensions : List String) (currentDimensionIndex : Nat)
    (currentDimension : String) (parentKey : Option String) (hasPreviousPeriod : Bool)
    (index : Nat) (row : ApiRow N) : ExploreRow N R where
  key := generateRowKey host parentKey (row currentDimension) (some index)
  parentDimensionIndex := currentDimensionIndex
  childrenLoaded := false
  dimensionValues := rowDimensionValues row dimensions currentDimensionIndex
  cells := metricCell host row hasPreviousPeriod
  hasChildren := false
  isLoading := none
  childrenFilteredByMinSessions := none

def transformApiRowsToExploreRows (apiRows : List (ApiRow N)) (dimensions : List String)
    (parentDimensionIndex : Nat) (parentKey : Option String) (hasPreviousPeriod : Bool) :
    List (ExploreRow N R) :=
  match (dimensions[parentDimensionIndex]?).filter (· ≠ "") with
  | some currentDimension => apiRows.mapIdx
      (transformRow host dimensions parentDimensionIndex currentDimension parentKey
        hasPreviousPeriod)
  | none => []

end

section

variable {N R : Type}

/-- A row without a list of children has no rows under it, and so nothing below it changes. -/
def insertChildrenIntoTree (rows : ExploreTree N R) (parentKey : String)
    (children : List (ExploreRow N R)) (childrenFilteredByMinSessions : Option Bool) :
    ExploreTree N R :=
  rows.replaceAt (fun row => row.key = parentKey)
    (fun row => { row with
      childrenLoaded := true
      hasChildren := true
      isLoading := some false
      childrenFilteredByMinSessions })
    (fun _ => Forest.ofRows children)

def setRowLoading (rows : ExploreTree N R) (rowKey : String) (isLoading : Bool) :
    ExploreTree N R :=
  rows.replaceAt (fun row => row.key = rowKey)
    (fun row => { row with isLoading := some isLoading })
    (fun children => children)

/-! ### The page -/

/-- What the page does with its tree. -/
inductive ExploreAction (N : Type) where
  /-- The first query has been answered. -/
  | fill (apiRows : List (ApiRow N)) (dimensions : List String) (hasPreviousPeriod : Bool)
  | loading (key : String) (isLoading : Bool)
  /-- The query for the children of a row has been answered. -/
  | children (key : String) (apiRows : List (ApiRow N)) (dimensions : List String)
      (index : Nat) (hasPreviousPeriod : Bool) (childrenFilteredByMinSessions : Bool)

variable (host : ExploreHost N R)

def exploreStep (rows : ExploreTree N R) : ExploreAction N → ExploreTree N R
  | .fill apiRows dimensions hasPreviousPeriod =>
      Forest.ofRows (transformApiRowsToExploreRows host apiRows dimensions 0 none
        hasPreviousPeriod)
  | .loading key isLoading => setRowLoading rows key isLoading
  | .children key apiRows dimensions index hasPreviousPeriod filtered =>
      insertChildrenIntoTree rows key
        (transformApiRowsToExploreRows host apiRows dimensions index (some key)
          hasPreviousPeriod)
        (some filtered)

def exploreRun (actions : List (ExploreAction N)) : ExploreTree N R :=
  actions.foldl (exploreStep host) Forest.nil

def treeKeys (rows : ExploreTree N R) : List String := rows.rows.map ExploreRow.key

/-! ### Plain values -/

/-- A value that a path is not confused by. -/
def PlainValue (v : ApiValue N) : Prop :=
  isEmpty v = true ∨ ':' ∉ (valueText host v).toList ∧ valueText host v ≠ "[empty"

/-- Siblings with values that have different texts, unless they are empty. -/
def DistinctValues (values : List (ApiValue N)) : Prop :=
  values.Pairwise fun v w =>
    isEmpty v = false → isEmpty w = false → valueText host v ≠ valueText host w

def PlainRows (apiRows : List (ApiRow N)) (dimension : String) : Prop :=
  DistinctValues host (apiRows.map fun row => row dimension) ∧
    ∀ row ∈ apiRows, PlainValue host (row dimension)

/-- The rows that arrive are plain in the dimension they are rows of. -/
def PlainAction : ExploreAction N → Prop
  | .fill apiRows dimensions _ => ∀ d, dimensions[0]? = some d → PlainRows host apiRows d
  | .loading _ _ => True
  | .children _ apiRows dimensions index _ _ =>
      ∀ d, dimensions[index]? = some d → PlainRows host apiRows d

/-! ### The parts of a key -/

/-- What a plain value adds to a key. -/
def KeyPart (c : List Char) : Prop :=
  (c ≠ [] ∧ ':' ∉ c ∧ c ≠ "[empty".toList) ∨
    ∃ i : Nat, c = "[empty:".toList ++ ((toString i).toList ++ [']'])

end

theorem append_cancel_of_notMem {a b r r' : List Char} {sep : Char} (ha : sep ∉ a) (hb : sep ∉ b)
    (hr : Forest.Continues sep r) (hr' : Forest.Continues sep r') (h : a ++ r = b ++ r') :
    a = b := by
  induction a generalizing b with
  | nil =>
      cases b with
      | nil => rfl
      | cons d b =>
          obtain rfl | ⟨t, rfl⟩ := hr
          · exact nomatch h
          · have hd : sep = d := (List.cons.inj h).1
            exact absurd (hd ▸ List.mem_cons_self) hb
  | cons c a ih =>
      cases b with
      | nil =>
          obtain rfl | ⟨t, rfl⟩ := hr'
          · exact nomatch h
          · have hc : c = sep := (List.cons.inj h).1
            exact absurd (hc ▸ List.mem_cons_self) ha
      | cons d b =>
          obtain ⟨rfl, hrest⟩ := List.cons.inj h
          have hab := ih (fun hmem => ha (List.mem_cons_of_mem _ hmem))
            (fun hmem => hb (List.mem_cons_of_mem _ hmem)) hrest
          rw [hab]

/-- An index is read up to its bracket. -/
theorem index_cancel {i j : Nat} {r r' : List Char}
    (h : (toString i).toList ++ ']' :: r = (toString j).toList ++ ']' :: r') : i = j := by
  have hdigits : ∀ n : Nat, ']' ∉ (toString n).toList := fun n hmem =>
    absurd (Text.isDigit_of_mem_toString hmem) (by decide)
  have hlists := append_cancel_of_notMem (hdigits i) (hdigits j) (Or.inr ⟨r, rfl⟩)
    (Or.inr ⟨r', rfl⟩) h
  rw [Text.toList_toString, Text.toList_toString] at hlists
  exact Text.toDigits_inj hlists

/-- A plain part in front of a path is not the start of an empty one. -/
theorem plain_ne_empty {c r r' : List Char} {i : Nat} (hcolon : ':' ∉ c)
    (hempty : c ≠ "[empty".toList) (hr : Forest.Continues ':' r) :
    c ++ r ≠ "[empty:".toList ++ ((toString i).toList ++ [']']) ++ r' := by
  intro h
  have hsplit : "[empty:".toList ++ ((toString i).toList ++ [']']) ++ r' =
      "[empty".toList ++ ':' :: ((toString i).toList ++ [']'] ++ r') := by
    simp
  rw [hsplit] at h
  exact hempty (append_cancel_of_notMem hcolon (by decide) hr (Or.inr ⟨_, rfl⟩) h)

theorem keyPart_pathCode : Forest.PathCode ':' KeyPart where
  ne_nil c hc := by
    rcases hc with ⟨hne, -, -⟩ | ⟨i, rfl⟩
    · exact hne
    · exact List.append_ne_nil_of_left_ne_nil (by decide) _
  cancel c c' r r' hc hc' hr hr' h := by
    rcases hc with ⟨-, hcolon, hempty⟩ | ⟨i, rfl⟩
    · rcases hc' with ⟨-, hcolon', -⟩ | ⟨j, rfl⟩
      · exact append_cancel_of_notMem hcolon hcolon' hr hr' h
      · exact absurd h (plain_ne_empty hcolon hempty hr)
    · rcases hc' with ⟨-, hcolon', hempty'⟩ | ⟨j, rfl⟩
      · exact absurd h.symm (plain_ne_empty hcolon' hempty' hr')
      · rw [List.append_assoc, List.append_assoc, List.append_assoc, List.append_assoc] at h
        have hij := index_cancel (List.append_cancel_left h)
        rw [hij]

section

variable {N R : Type} (host : ExploreHost N R)

theorem valueText_ne_empty {v : ApiValue N} (h : isEmpty v = false) : valueText host v ≠ "" := by
  cases v with
  | undefined => exact nomatch h
  | null => exact nomatch h
  | string s => exact of_decide_eq_false h
  | number n => exact host.text_ne_empty n
  | boolean b => cases b <;> simp [valueText]

theorem keyPart_valueStr {v : ApiValue N} (h : PlainValue host v) (index : Nat) :
    KeyPart (valueStr host v (some index)).toList := by
  unfold valueStr
  cases hempty : isEmpty v with
  | true =>
      rw [if_pos rfl]
      exact Or.inr ⟨index, by simp [String.toList_append]⟩
  | false =>
      rw [if_neg Bool.false_ne_true]
      obtain ⟨hcolon, hne⟩ := h.resolve_left (by simp [hempty])
      refine Or.inl ⟨?_, hcolon, ?_⟩
      · rw [Ne, String.toList_eq_nil_iff]
        exact valueText_ne_empty host hempty
      · exact fun heq => hne (String.toList_inj.mp heq)

/-- The parts of two siblings. -/
theorem valueStr_ne {v w : ApiValue N} {i j : Nat} (hij : i ≠ j) (hv : PlainValue host v)
    (hw : PlainValue host w)
    (h : isEmpty v = false → isEmpty w = false → valueText host v ≠ valueText host w) :
    valueStr host v (some i) ≠ valueStr host w (some j) := by
  have hcolon : ∀ n : Nat, ':' ∈ ("[empty" ++ ":" ++ toString n ++ "]").toList := by
    intro n
    simp [String.toList_append]
  unfold valueStr
  intro heq
  cases hve : isEmpty v <;> cases hwe : isEmpty w <;> rw [hve, hwe] at heq
  · exact h hve hwe heq
  · have hplain := (hv.resolve_left (by simp [hve])).1
    rw [show valueText host v = _ from heq] at hplain
    exact hplain (hcolon j)
  · have hplain := (hw.resolve_left (by simp [hwe])).1
    rw [← show _ = valueText host w from heq] at hplain
    exact hplain (hcolon i)
  · have hlists : ("[empty" ++ ":" ++ toString i ++ "]").toList =
        ("[empty" ++ ":" ++ toString j ++ "]").toList := congrArg String.toList heq
    refine hij (@index_cancel i j [] [] ?_)
    simpa [String.toList_append] using hlists

/-- What is in front of the part in a key. -/
def keyStart : Option String → List Char
  | some parentKey => parentKey.toList ++ [':']
  | none => []

theorem generateRowKey_toList {parentKey : Option String} (h : parentKey ≠ some "")
    (v : ApiValue N) (index : Option Nat) :
    (generateRowKey host parentKey v index).toList =
      keyStart parentKey ++ (valueStr host v index).toList := by
  cases parentKey with
  | none => rfl
  | some parentKey =>
      have hne : parentKey ≠ "" := fun heq => h (congrArg some heq)
      simp [generateRowKey, keyStart, Option.filter, hne, String.toList_append]

abbrev keyChars (row : ExploreRow N R) : List Char := row.key.toList

/-- Rows of the API, under a row of the tree or at its top. -/
theorem keyed_transform {apiRows : List (ApiRow N)} {dimensions : List String} {index : Nat}
    {parentKey : Option String} {hasPreviousPeriod : Bool} (hparent : parentKey ≠ some "")
    (h : ∀ d, dimensions[index]? = some d → PlainRows host apiRows d) :
    (Forest.ofRows (transformApiRowsToExploreRows host apiRows dimensions index parentKey
      hasPreviousPeriod)).Keyed ':' KeyPart keyChars (keyStart parentKey) := by
  unfold transformApiRowsToExploreRows
  split
  · rename_i d hd
    obtain ⟨hdistinct, hplain⟩ := h d (Option.filter_eq_some_iff.mp hd).1
    refine Forest.keyed_ofRows ?_ ?_
    · intro row hrow
      obtain ⟨i, hi, rfl⟩ := List.mem_mapIdx.mp hrow
      exact ⟨_, keyPart_valueStr host (hplain _ (List.getElem_mem hi)) i,
        generateRowKey_toList host hparent _ _⟩
    · rw [List.Nodup, List.pairwise_iff_getElem]
      intro i j hi hj hij
      simp only [List.getElem_map, List.getElem_mapIdx, keyChars, transformRow]
      rw [generateRowKey_toList host hparent, generateRowKey_toList host hparent]
      intro heq
      have hstr := String.toList_inj.mp (List.append_cancel_left heq)
      rw [List.length_map, List.length_mapIdx] at hi hj
      refine valueStr_ne host (Nat.ne_of_lt hij) (hplain _ (List.getElem_mem hi))
        (hplain _ (List.getElem_mem hj)) ?_ hstr
      have hpair := List.pairwise_iff_getElem.mp hdistinct i j (by simpa using hi)
        (by simpa using hj) hij
      simpa using hpair
  · exact trivial

/-! ### Runs -/

/-- The keys of the tree are paths. -/
def PathKeys (rows : ExploreTree N R) : Prop := rows.Keyed ':' KeyPart keyChars []

theorem PathKeys.step {rows : ExploreTree N R} (h : PathKeys rows) {a : ExploreAction N}
    (ha : PlainAction host a) : PathKeys (exploreStep host rows a) := by
  cases a with
  | fill apiRows dimensions hasPreviousPeriod =>
      have hparent : (none : Option String) ≠ some "" := fun heq => nomatch heq
      exact keyed_transform host hparent ha
  | loading key isLoading =>
      show PathKeys (setRowLoading rows key isLoading)
      unfold setRowLoading
      refine Forest.Keyed.replaceAt ?_ ?_ h
      · exact fun _ => rfl
      · exact fun _ _ _ hchildren => hchildren
  | children key apiRows dimensions index hasPreviousPeriod filtered =>
      by_cases hkey : key = ""
      · -- no row has the empty key
        have hself : exploreStep host rows
            (.children key apiRows dimensions index hasPreviousPeriod filtered) = rows := by
          refine Forest.replaceAt_eq_self fun row hrow => decide_eq_false fun heq => ?_
          refine h.ne_nil keyPart_pathCode (List.mem_map_of_mem hrow) ?_
          rw [keyChars, heq, hkey]
          rfl
        rwa [hself]
      · show PathKeys (insertChildrenIntoTree rows key _ _)
        unfold insertChildrenIntoTree
        refine Forest.Keyed.replaceAt ?_ ?_ h
        · exact fun _ => rfl
        · intro row hrow _ _
          have hrowKey : row.key = key := of_decide_eq_true hrow
          have hparent : some key ≠ some "" := fun heq => hkey (Option.some.inj heq)
          rw [keyChars, hrowKey]
          exact keyed_transform host hparent ha

theorem PathKeys.run {actions : List (ExploreAction N)} (h : ∀ a ∈ actions, PlainAction host a) :
    PathKeys (exploreRun host actions) := by
  have hfrom : ∀ (actions : List (ExploreAction N)) (rows : ExploreTree N R), PathKeys rows →
      (∀ a ∈ actions, PlainAction host a) →
      PathKeys (actions.foldl (exploreStep host) rows) := by
    intro actions
    induction actions with
    | nil => exact fun _ hrows _ => hrows
    | cons a actions ih =>
        intro rows hrows hactions
        obtain ⟨ha, hrest⟩ := List.forall_mem_cons.mp hactions
        exact ih _ (hrows.step host ha) hrest
  exact hfrom actions _ trivial h

omit host in
theorem PathKeys.nodup {rows : ExploreTree N R} (h : PathKeys rows) : (treeKeys rows).Nodup := by
  have hchars := Forest.Keyed.nodup keyPart_pathCode h
  have hmap : rows.rows.map keyChars = (treeKeys rows).map String.toList := by
    unfold treeKeys
    rw [List.map_map]
    rfl
  rw [hmap] at hchars
  exact List.Pairwise.of_map _ (fun a b hne heq => hne (congrArg String.toList heq)) hchars

/-- **The keys of the explore page.**

In every tree that a page comes to by plain actions the keys are distinct, and children and
marks go to the one row that they are for. -/
theorem explore_keys_distinct {actions : List (ExploreAction N)}
    (h : ∀ a ∈ actions, PlainAction host a) :
    (treeKeys (exploreRun host actions)).Nodup ∧
      ∀ key ∈ treeKeys (exploreRun host actions),
        (∀ children filtered, ∃ row under, row.key = key ∧
          Forest.Replaced row
            { row with
              childrenLoaded := true
              hasChildren := true
              isLoading := some false
              childrenFilteredByMinSessions := filtered }
            under (Forest.ofRows children) (exploreRun host actions)
            (insertChildrenIntoTree (exploreRun host actions) key children filtered)) ∧
        ∀ isLoading, ∃ row under, row.key = key ∧
          Forest.Replaced row { row with isLoading := some isLoading } under under
            (exploreRun host actions) (setRowLoading (exploreRun host actions) key isLoading) := by
  have hnodup := (PathKeys.run host h).nodup
  refine ⟨hnodup, fun key hkey => ⟨fun children filtered => ?_, fun isLoading => ?_⟩⟩
  · exact Forest.replaced_of_nodup hnodup hkey
  · exact Forest.replaced_of_nodup hnodup hkey

/-! ### Where paths meet -/

/-- The page with two sources, and a campaign under the first. -/
def twoSources (first second campaign : String) : List (ExploreAction N) :=
  let source (s : String) : ApiRow N := fun field =>
    if field = "source" then .string s else .undefined
  let child : ApiRow N := fun field =>
    if field = "source" then .string first
    else if field = "campaign" then .string campaign
    else .undefined
  [.fill [source first, source second] ["source", "campaign"] false,
    .children first [child] ["source", "campaign"] 1 false false]

/-- A source that is spelled as the path of a campaign. -/
theorem twoSources_keys {p q : String} (hp : p ≠ "") (hq : q ≠ "") :
    treeKeys (exploreRun host (twoSources p (p ++ ":" ++ q) q)) =
      [p, p ++ ":" ++ q, p ++ ":" ++ q] := by
  have hlonger : p ++ ":" ++ q ≠ p := by
    intro heq
    have hlength := congrArg String.length heq
    rw [String.length_append, String.length_append] at hlength
    have hcolon : ":".length = 1 := rfl
    omega
  have hne : p ++ ":" ++ q ≠ "" := by
    intro heq
    have hlength := congrArg String.length heq
    rw [String.length_append, String.length_append] at hlength
    have hcolon : ":".length = 1 := rfl
    have hempty : "".length = 0 := rfl
    omega
  simp [exploreRun, twoSources, exploreStep, treeKeys, transformApiRowsToExploreRows,
    transformRow, generateRowKey, valueStr, isEmpty, valueText, insertChildrenIntoTree,
    Forest.ofRows, Forest.replaceAt, Forest.rows, Option.filter, hp, hq, hlonger, hne]

end

namespace ExploreExample

def host : ExploreHost Nat Nat where
  text n := toString n
  text_ne_empty n := by
    rw [Ne, ← String.toList_eq_nil_iff, Text.toList_toString]
    exact Nat.toDigits_ne_nil
  number _ := 0
  zero := 0
  positive n := 0 < n
  changePercent _ _ := 0

end ExploreExample

open ExploreExample in
theorem spring_keys_distinct :
    (treeKeys (exploreRun host (twoSources "google" "bing" "spring"))).Nodup := by
  refine (explore_keys_distinct host ?_).1
  have hvalue : ∀ s ∈ ["google", "bing", "spring"], PlainValue host (.string s) := by
    simp [PlainValue, isEmpty, valueText]
  intro a ha
  rcases List.mem_cons.mp ha with rfl | ha
  · rintro d hd
    obtain rfl : "source" = d := Option.some.inj hd
    refine ⟨by simp [DistinctValues, isEmpty, valueText], ?_⟩
    simp [hvalue]
  · obtain rfl := List.mem_singleton.mp ha
    rintro d hd
    obtain rfl : "campaign" = d := Option.some.inj hd
    refine ⟨by simp [DistinctValues], ?_⟩
    simp [hvalue]

open ExploreExample in
/-- Two rows are one for the page. -/
theorem colon_keys_meet :
    ¬ (treeKeys (exploreRun host (twoSources "a" "a:b" "b"))).Nodup ∧
      ((setRowLoading (exploreRun host (twoSources "a" "a:b" "b")) "a:b" true).rows.map
          fun row => (row.key, row.isLoading)) =
        [("a", some false), ("a:b", some true), ("a:b", some true)] := by
  decide

end Veridian.Explore
