/-
`Storage`: `localStorage`, and a map in memory for when it fails.

The first call that fails switches the instance to the map for good.  Whatever is written
from then on is read there; what was written before stays in `localStorage`, where nobody
looks any more.
-/
import Mathlib.Logic.Function.Basic
import Veridian.Lib.Machine

namespace Veridian.StorageFallback

open Machine

/-! ### The instance -/

/-- `JSON.stringify` and `JSON.parse`, over values that are JSON. -/
structure Codec (V : Type*) where
  stringify : V → String
  parse : String → Option V
  parse_stringify : ∀ v, parse (stringify v) = some v

structure Storage where
  localStorage : String → Option String
  useMemory : Bool
  memory : String → Option String

def STORAGE_PREFIX : String := "stm_"

def fullKey (key : String) : String := STORAGE_PREFIX ++ key

theorem fullKey_inj {key key' : String} (h : fullKey key = fullKey key') : key = key' := by
  have hlist := congrArg String.toList h
  rw [fullKey, fullKey, String.toList_append, String.toList_append] at hlist
  exact String.toList_inj.mp (List.append_cancel_left hlist)

namespace Storage

variable {V : Type*} (codec : Codec V) (s : Storage)

/-- The constructor, with `testStorage`, whose two calls may throw. -/
def new (localStorage : String → Option String) (setThrows removeThrows : Bool) : Storage where
  localStorage :=
    if setThrows then localStorage
    else if removeThrows then Function.update localStorage (fullKey "test") (some "test")
    else Function.update localStorage (fullKey "test") none
  useMemory := setThrows || removeThrows
  memory := fun _ => none

def memoryValue (key : String) : Option V := (s.memory (fullKey key)).bind codec.parse

/-- The answer of `get`; `throws` is whether `localStorage` does. -/
def get (key : String) (throws : Bool) : Option V × Storage :=
  if s.useMemory then (s.memoryValue codec key, s)
  else if throws then (s.memoryValue codec key, { s with useMemory := true })
  else
    match s.localStorage (fullKey key) with
    | none => (none, s)
    | some text =>
        match codec.parse text with
        | some value => (some value, s)
        | none => (s.memoryValue codec key, { s with useMemory := true })

def set (key : String) (value : V) (throws : Bool) : Storage :=
  let memory := Function.update s.memory (fullKey key) (some (codec.stringify value))
  if s.useMemory then { s with memory := memory }
  else if throws then { s with useMemory := true, memory := memory }
  else
    { s with
      localStorage :=
        Function.update s.localStorage (fullKey key) (some (codec.stringify value)) }

def remove (key : String) (throws : Bool) : Storage :=
  let memory := Function.update s.memory (fullKey key) none
  if s.useMemory then { s with memory := memory }
  else if throws then { s with memory := memory }
  else { s with localStorage := Function.update s.localStorage (fullKey key) none }

end Storage

/-! ### What was written -/

inductive Call (V : Type*) where
  | get (key : String) (throws : Bool)
  | set (key : String) (value : V) (throws : Bool)
  | remove (key : String) (throws : Bool)

/-- The instance, beside it what was set last for each key, and the answers of `get` so far,
each with what was set. -/
structure Watched (V : Type*) where
  storage : Storage
  written : String → Option V
  answers : List (Option V × Option V)

variable {V : Type*} (codec : Codec V)

def Watched.call (w : Watched V) : Call V → Watched V
  | .get key throws =>
      { storage := (w.storage.get codec key throws).2
        written := w.written
        answers := w.answers ++ [((w.storage.get codec key throws).1, w.written key)] }
  | .set key value throws =>
      { storage := w.storage.set codec key value throws
        written := Function.update w.written key (some value)
        answers := w.answers }
  | .remove key throws =>
      { storage := w.storage.remove key throws
        written := Function.update w.written key none
        answers := w.answers }

def step (w : Watched V) (c : Call V) : Option (Watched V) := some (w.call codec c)

/-- A new instance; what it can read of earlier ones counts as written. -/
def Watched.start (localStorage : String → Option String) (setThrows removeThrows : Bool) :
    Watched V where
  storage := .new localStorage setThrows removeThrows
  written := fun key => ((Storage.new localStorage setThrows removeThrows).get codec key false).1
  answers := []

/-! ### The claim and its condition -/

/-- `get` has answered with what was written, and would for every key. -/
structure ReadsWritten (w : Watched V) : Prop where
  answered : ∀ answer ∈ w.answers, answer.1 = answer.2
  answers : ∀ key, (w.storage.get codec key false).1 = w.written key

/-- There is a text for the key that is no JSON. -/
def Unreadable (s : Storage) (key : String) : Prop :=
  ∃ text, s.localStorage (fullKey key) = some text ∧ codec.parse text = none

/-- Nothing is lost where `localStorage` fails: no key but the one that is set has a value,
no key at all where a `get` fails, and not the key that is removed. -/
def LosesNothing (w : Watched V) : Call V → Prop
  | .get key throws =>
      w.storage.useMemory = false → throws = true ∨ Unreadable codec w.storage key →
        ∀ other, w.written other = none
  | .set key _ throws =>
      w.storage.useMemory = false → throws = true → ∀ other, other ≠ key → w.written other = none
  | .remove key throws =>
      w.storage.useMemory = false → throws = true → w.written key = none

/-! ### One call at a time -/

variable {codec}

/-- What an instance answers for a key, where `localStorage` does not throw. -/
def Storage.value (codec : Codec V) (s : Storage) (key : String) : Option V :=
  ((if s.useMemory then s.memory else s.localStorage) (fullKey key)).bind codec.parse

/-- The memory is empty before the switch. -/
def Unswitched (s : Storage) : Prop := s.useMemory = false → s.memory = fun _ => none

theorem Unswitched.memoryValue {s : Storage} (h : Unswitched s) (huse : s.useMemory = false)
    (key : String) : s.memoryValue codec key = none := by
  unfold Storage.memoryValue
  rw [h huse]
  rfl

variable (codec) in
/-- **A `get` answers with the value, or fails, answers with nothing and switches.** -/
theorem get_cases {s : Storage} (h : Unswitched s) (key : String) (throws : Bool) :
    (s.useMemory = false ∧ (throws = true ∨ Unreadable codec s key) ∧
      s.get codec key throws = (none, { s with useMemory := true })) ∨
    (¬ (s.useMemory = false ∧ (throws = true ∨ Unreadable codec s key)) ∧
      s.get codec key throws = (s.value codec key, s)) := by
  unfold Storage.get Storage.value
  by_cases huse : s.useMemory = true
  · rw [if_pos huse, if_pos huse]
    exact Or.inr ⟨fun hfalse => by simp [huse] at hfalse, rfl⟩
  · have hfalse : s.useMemory = false := by simpa using huse
    rw [if_neg huse, if_neg huse, h.memoryValue hfalse]
    by_cases hthrows : throws = true
    · rw [if_pos hthrows]
      exact Or.inl ⟨hfalse, Or.inl hthrows, rfl⟩
    · rw [if_neg hthrows]
      have hreadable : ∀ text, s.localStorage (fullKey key) = some text →
          codec.parse text ≠ none → ¬ Unreadable codec s key := by
        intro text htext hparse hunreadable
        obtain ⟨text', htext', hparse'⟩ := hunreadable
        obtain rfl : text = text' := Option.some.inj (htext.symm.trans htext')
        exact hparse hparse'
      cases htext : s.localStorage (fullKey key) with
      | none =>
          refine Or.inr ⟨fun hfail => ?_, rfl⟩
          obtain ⟨text, htext', -⟩ := hfail.2.resolve_left hthrows
          exact nomatch htext.symm.trans htext'
      | some text =>
          cases hparse : codec.parse text with
          | none =>
              simp only [hparse]
              exact Or.inl ⟨hfalse, Or.inr ⟨text, htext, hparse⟩, trivial⟩
          | some value =>
              simp only [hparse, Option.bind_some]
              refine Or.inr ⟨fun hfail => ?_, trivial⟩
              exact hreadable text htext (by simp [hparse]) (hfail.2.resolve_left hthrows)

theorem fst_get {s : Storage} (h : Unswitched s) (key : String) :
    (s.get codec key false).1 = s.value codec key := by
  rcases get_cases codec h key false with ⟨hfalse, hfail, hget⟩ | ⟨-, hget⟩
  · obtain ⟨text, htext, hparse⟩ := hfail.resolve_left Bool.false_ne_true
    rw [hget]
    unfold Storage.value
    rw [if_neg (by simp [hfalse]), htext, Option.bind_some, hparse]
  · rw [hget]

/-- After the switch there is nothing yet. -/
theorem value_switched {s : Storage} (h : Unswitched s) (huse : s.useMemory = false)
    (key : String) : Storage.value codec { s with useMemory := true } key = none :=
  h.memoryValue huse key

theorem bind_update_fullKey (texts : String → Option String) (key : String) (text : Option String)
    (other : String) : (Function.update texts (fullKey key) text (fullKey other)).bind codec.parse =
      Function.update (fun other => (texts (fullKey other)).bind codec.parse) key
        (text.bind codec.parse) other := by
  by_cases hother : other = key
  · subst hother
    rw [Function.update_self, Function.update_self]
  · rw [Function.update_of_ne hother,
      Function.update_of_ne fun heq => hother (fullKey_inj heq)]

/-- **A `set` writes its key, and switches if it fails.** -/
theorem value_set {s : Storage} (h : Unswitched s) (key : String) (value : V) (throws : Bool)
    (other : String) : (s.set codec key value throws).value codec other =
      if s.useMemory = false ∧ throws = true then
        Function.update (fun _ => none) key (some value) other
      else Function.update (s.value codec) key (some value) other := by
  have hwrite : ∀ texts : String → Option String,
      (Function.update texts (fullKey key) (some (codec.stringify value)) (fullKey other)).bind
        codec.parse =
      Function.update (fun other => (texts (fullKey other)).bind codec.parse) key (some value)
        other := by
    intro texts
    rw [bind_update_fullKey, Option.bind_some, codec.parse_stringify]
  unfold Storage.set
  by_cases huse : s.useMemory = true
  · rw [if_pos huse, if_neg (by simp [huse])]
    unfold Storage.value
    simp only [huse, if_true]
    exact hwrite s.memory
  · have hfalse : s.useMemory = false := by simpa using huse
    rw [if_neg huse]
    by_cases hthrows : throws = true
    · rw [if_pos hthrows, if_pos ⟨hfalse, hthrows⟩]
      show (Function.update s.memory _ _ (fullKey other)).bind codec.parse = _
      rw [hwrite, h hfalse]
      rfl
    · rw [if_neg hthrows, if_neg fun hand => hthrows hand.2]
      unfold Storage.value
      simp only [hfalse, Bool.false_eq_true, if_false]
      exact hwrite s.localStorage

/-- **A `remove` empties its key, and does nothing if it fails.** -/
theorem value_remove {s : Storage} (key : String) (throws : Bool) (other : String) :
    (s.remove key throws).value codec other =
      if s.useMemory = false ∧ throws = true then s.value codec other
      else Function.update (s.value codec) key none other := by
  unfold Storage.remove
  by_cases huse : s.useMemory = true
  · rw [if_pos huse, if_neg (by simp [huse])]
    unfold Storage.value
    simp only [huse, if_true]
    exact bind_update_fullKey s.memory key none other
  · have hfalse : s.useMemory = false := by simpa using huse
    rw [if_neg huse]
    by_cases hthrows : throws = true
    · rw [if_pos hthrows, if_pos ⟨hfalse, hthrows⟩]
      unfold Storage.value
      simp only [hfalse, Bool.false_eq_true, if_false]
    · rw [if_neg hthrows, if_neg fun hand => hthrows hand.2]
      unfold Storage.value
      simp only [hfalse, Bool.false_eq_true, if_false]
      exact bind_update_fullKey s.localStorage key none other

theorem unswitched_call {w : Watched V} (h : Unswitched w.storage) (c : Call V) :
    Unswitched (w.call codec c).storage := by
  cases c with
  | get key throws =>
      show Unswitched (w.storage.get codec key throws).2
      rcases get_cases codec h key throws with ⟨-, -, hget⟩ | ⟨-, hget⟩
      · rw [hget]
        exact fun huse => nomatch huse
      · rw [hget]
        exact h
  | set key value throws =>
      show Unswitched (w.storage.set codec key value throws)
      unfold Storage.set
      by_cases huse : w.storage.useMemory = true
      · rw [if_pos huse]
        exact fun hfalse => absurd hfalse (by simp [huse])
      · rw [if_neg huse]
        by_cases hthrows : throws = true
        · rw [if_pos hthrows]
          exact fun hfalse => nomatch hfalse
        · rw [if_neg hthrows]
          exact h
  | remove key throws =>
      show Unswitched (w.storage.remove key throws)
      unfold Storage.remove
      by_cases huse : w.storage.useMemory = true
      · rw [if_pos huse]
        exact fun hfalse => absurd hfalse (by simp [huse])
      · rw [if_neg huse]
        by_cases hthrows : throws = true
        · rw [if_pos hthrows]
          intro hfalse
          show Function.update w.storage.memory _ none = _
          rw [h hfalse]
          exact Function.update_eq_self _ _
        · rw [if_neg hthrows]
          exact h

theorem readsWritten_iff {w : Watched V} (h : Unswitched w.storage) : ReadsWritten codec w ↔
    (∀ answer ∈ w.answers, answer.1 = answer.2) ∧
      ∀ key, w.storage.value codec key = w.written key := by
  constructor
  · intro hreads
    exact ⟨hreads.answered, fun key => (fst_get h key).symm.trans (hreads.answers key)⟩
  · rintro ⟨hanswered, hvalue⟩
    exact ⟨hanswered, fun key => (fst_get h key).trans (hvalue key)⟩

/-- **A call keeps reading what was written exactly when it loses nothing.** -/
theorem readsWritten_call_iff {w : Watched V} (h : Unswitched w.storage)
    (hreads : ReadsWritten codec w) (c : Call V) :
    ReadsWritten codec (w.call codec c) ↔ LosesNothing codec w c := by
  obtain ⟨hanswered, hvalue⟩ := (readsWritten_iff h).mp hreads
  rw [readsWritten_iff (unswitched_call h c)]
  cases c with
  | get key throws =>
      show (∀ answer ∈ w.answers ++ [((w.storage.get codec key throws).1, w.written key)],
        answer.1 = answer.2) ∧
        (∀ other, (w.storage.get codec key throws).2.value codec other = w.written other) ↔ _
      rcases get_cases codec h key throws with ⟨hfalse, hfail, hget⟩ | ⟨hok, hget⟩
      · rw [hget]
        constructor
        · rintro ⟨-, hswitched⟩ _ _ other
          rw [← hswitched other, value_switched h hfalse]
        · intro hnothing
          have hnone := hnothing hfalse hfail
          refine ⟨fun answer hanswer => ?_, fun other => ?_⟩
          · rcases List.mem_append.mp hanswer with hold | hnew
            · exact hanswered answer hold
            · rw [List.mem_singleton.mp hnew]
              exact (hnone key).symm
          · rw [value_switched h hfalse, hnone other]
      · rw [hget]
        refine ⟨fun _ hfalse hfail => absurd ⟨hfalse, hfail⟩ hok, fun _ => ⟨?_, hvalue⟩⟩
        intro answer hanswer
        rcases List.mem_append.mp hanswer with hold | hnew
        · exact hanswered answer hold
        · rw [List.mem_singleton.mp hnew]
          exact hvalue key
  | set key value throws =>
      show (∀ answer ∈ w.answers, answer.1 = answer.2) ∧
        (∀ other, (w.storage.set codec key value throws).value codec other =
          Function.update w.written key (some value) other) ↔ _
      by_cases hfail : w.storage.useMemory = false ∧ throws = true
      · constructor
        · rintro ⟨-, hset⟩ _ _ other hother
          have hnone := hset other
          rw [value_set h, if_pos hfail, Function.update_of_ne hother,
            Function.update_of_ne hother] at hnone
          exact hnone.symm
        · intro hnothing
          refine ⟨hanswered, fun other => ?_⟩
          rw [value_set h, if_pos hfail]
          by_cases hother : other = key
          · subst hother
            rw [Function.update_self, Function.update_self]
          · rw [Function.update_of_ne hother, Function.update_of_ne hother,
              hnothing hfail.1 hfail.2 other hother]
      · refine ⟨fun _ hfalse hthrows => absurd ⟨hfalse, hthrows⟩ hfail,
          fun _ => ⟨hanswered, fun other => ?_⟩⟩
        rw [value_set h, if_neg hfail, funext hvalue]
  | remove key throws =>
      show (∀ answer ∈ w.answers, answer.1 = answer.2) ∧
        (∀ other, (w.storage.remove key throws).value codec other =
          Function.update w.written key none other) ↔ _
      by_cases hfail : w.storage.useMemory = false ∧ throws = true
      · constructor
        · rintro ⟨-, hremove⟩ _ _
          have hnone := hremove key
          rw [value_remove, if_pos hfail, Function.update_self, hvalue key] at hnone
          exact hnone
        · intro hnothing
          refine ⟨hanswered, fun other => ?_⟩
          rw [value_remove, if_pos hfail, hvalue other]
          have hself : Function.update w.written key none = w.written := by
            rw [← hnothing hfail.1 hfail.2, Function.update_eq_self]
          rw [hself]
      · refine ⟨fun _ hfalse hthrows => absurd ⟨hfalse, hthrows⟩ hfail,
          fun _ => ⟨hanswered, fun other => ?_⟩⟩
        rw [value_remove, if_neg hfail, funext hvalue]

/-! ### Runs -/

/-- **An instance reads what was written, all along a run, exactly when no call of it that
fails loses anything.** -/
theorem reads_written_iff (codec : Codec V) (localStorage : String → Option String)
    (setThrows removeThrows : Bool) (calls : List (Call V)) :
    (∀ before w, before <+: calls →
        exec (step codec) (Watched.start codec localStorage setThrows removeThrows) before =
          some w → ReadsWritten codec w) ↔
      Meets (step codec) (LosesNothing codec)
        (Watched.start codec localStorage setThrows removeThrows) calls := by
  refine always_iff_meets (I := fun w => Unswitched w.storage) (P := ReadsWritten codec)
    (fun w c w' h hstep => ?_) (fun w c w' h hreads hstep => ?_) (fun w c hnone => nomatch hnone)
    (fun _ => rfl) ⟨fun answer hanswer => absurd hanswer List.not_mem_nil, fun _ => rfl⟩
  · obtain rfl := Option.some.inj hstep
    exact unswitched_call h c
  · obtain rfl := Option.some.inj hstep
    exact readsWritten_call_iff h hreads c

namespace QuotaExample

def flags : Codec Bool where
  stringify b := if b then "true" else "false"
  parse
    | "true" => some true
    | "false" => some false
    | _ => none
  parse_stringify b := by cases b <;> rfl

/-- The quota is used up by the second of two keys. -/
def calls : List (Call Bool) := [.set "session" true false, .set "pending" true true]

/-- **The first key is gone.** -/
theorem full_storage_forgets : ∃ w,
    exec (step flags) (Watched.start flags (fun _ => none) false false) calls = some w ∧
      w.written "session" = some true ∧ (w.storage.get flags "session" false).1 = none ∧
      ¬ ReadsWritten flags w := by
  refine ⟨_, rfl, by decide +kernel, by decide +kernel, fun h => ?_⟩
  exact absurd (h.answers "session") (by decide +kernel)

end QuotaExample

end Veridian.StorageFallback
