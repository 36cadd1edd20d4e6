/-
The filters of a webhook, evaluated on an event.

An event is a JSON object and the target of a filter any JSON value, or missing.  A dotted
path walks into objects and arrays and may leave the event: a name an object does not have
is looked up on its prototype, so a path can end at an object or a function of the runtime.
What those are is open, and so is how numbers are read and written.

The only thing that throws is `String(v)`, on an object whose own `toString` is not a
function, as no member of a JSON object is (`stringOf_error_iff`).
-/
import Veridian.Host
import Veridian.Lib.Json
import Veridian.Webhooks.Dispatcher

namespace Veridian.FilterEngine

/-- What an expression may evaluate to: `undefined`, a JSON value, or an object or a
function that the runtime comes with. -/
inductive JsValue (N O : Type) where
  | undefined
  | json (v : Json N)
  | builtin (o : O)

/-- What the evaluator leaves to the runtime. -/
structure Runtime (N O : Type) extends Host where
  /-- `a === b` on numbers. -/
  sameNumber : N → N → Bool
  less : N → N → Bool
  /-- `Number.isFinite(n)` -/
  isFinite : N → Bool
  ofLength : Nat → N
  /-- `Number(s)` -/
  number : String → N
  /-- `String(n)` -/
  numberText : N → String
  objectPrototype : String → JsValue N O
  arrayPrototype : String → JsValue N O
  /-- `typeof o === 'object'` -/
  isObject : O → Bool
  property : O → String → JsValue N O
  /-- `String(o)`: `none` when it throws. -/
  builtinText : O → Option String

inductive FilterOp where
  | equals
  | matchesRegex
  | isIn
  | gt
  | lt
deriving DecidableEq

structure WebhookFilter (N : Type) where
  field : String
  op : FilterOp
  /-- `none` when the filter has no `value`. -/
  value : Option (Json N)

def maxRegexPatternLength : Nat := 512

def maxRegexInputLength : Nat := 4096

variable {N O : Type}

def WebhookFilter.target (filter : WebhookFilter N) : JsValue N O :=
  match filter.value with
  | some v => .json v
  | none => .undefined

/-! ### Paths -/

/-- `l[segment]`, a segment being an index when it is the text of one. -/
def elementAt (l : List (Json N)) (segment : String) : Option (Json N) :=
  (l.zipIdx.find? fun entry => toString entry.2 = segment).map Prod.fst

/-- `cursor[segment]` of a cursor that is an object, else `undefined`. -/
def step (rt : Runtime N O) (cursor : JsValue N O) (segment : String) : JsValue N O :=
  match cursor with
  | .json (.obj members) =>
      match members.lookup segment with
      | some v => .json v
      | none => rt.objectPrototype segment
  | .json (.arr l) =>
      match elementAt l segment with
      | some v => .json v
      | none =>
          if segment = "length" then .json (.num (rt.ofLength l.length))
          else rt.arrayPrototype segment
  | .builtin o => if rt.isObject o then rt.property o segment else .undefined
  | _ => .undefined

/-- `path.split('.')` -/
def segments (path : String) : List String :=
  (path.toList.splitOn '.').map String.ofList

def resolveField (rt : Runtime N O) (source : JsValue N O) (path : String) : JsValue N O :=
  if path = "" then .undefined
  else (segments path).foldl (step rt) source

/-! ### Texts -/

def typeError : String := "Cannot convert object to primitive value"

mutual

/-- `String(v)` -/
def stringOf (rt : Runtime N O) : Json N → Except String String
  | .null => .ok "null"
  | .bool true => .ok "true"
  | .bool false => .ok "false"
  | .num n => .ok (rt.numberText n)
  | .str s => .ok s
  | .arr l => (elementTexts rt l).map (",".intercalate ·)
  | .obj members =>
      if (members.lookup "toString").isSome then .error typeError else .ok "[object Object]"

/-- What `join` puts between the commas: nothing for `null`. -/
def elementTexts (rt : Runtime N O) : List (Json N) → Except String (List String)
  | [] => .ok []
  | v :: vs => do
      let s ← stringOf rt v
      let rest ← elementTexts rt vs
      return (match v with | .null => "" | _ => s) :: rest

end

def JsValue.text (rt : Runtime N O) : JsValue N O → Except String String
  | .undefined => .ok "undefined"
  | .json v => stringOf rt v
  | .builtin o =>
      match rt.builtinText o with
      | some s => .ok s
      | none => .error typeError

/-! ### Operators -/

section

variable [DecidableEq O]

/-- `a === b`: two objects of two texts are never the same. -/
def strictEquals (rt : Runtime N O) : JsValue N O → JsValue N O → Bool
  | .undefined, .undefined => true
  | .json .null, .json .null => true
  | .json (.bool a), .json (.bool b) => a = b
  | .json (.num a), .json (.num b) => rt.sameNumber a b
  | .json (.str a), .json (.str b) => a = b
  | .builtin o, .builtin o' => o = o'
  | _, _ => false

def JsValue.nullish : JsValue N O → Bool
  | .undefined => true
  | .json .null => true
  | _ => false

def equalsLoose (rt : Runtime N O) (a b : JsValue N O) : Except String Bool :=
  if strictEquals rt a b then .ok true
  else if a.nullish || b.nullish then .ok false
  else do
    let s ← a.text rt
    let t ← b.text rt
    return s = t

def coerceNumber (rt : Runtime N O) : JsValue N O → Option N
  | .json (.num n) => if rt.isFinite n then some n else none
  | .json (.str s) =>
      if Text.trim s ≠ "" then
        let n := rt.number s
        if rt.isFinite n then some n else none
      else none
  | _ => none

/-- The `matches` operator: what is over a cap never matches. -/
def matchesRegex (rt : Runtime N O) : JsValue N O → JsValue N O → Bool
  | .json (.str s), .json (.str pattern) =>
      if maxRegexPatternLength < Text.utf16Length pattern then false
      else if maxRegexInputLength < Text.utf16Length s then false
      else rt.regexTest pattern s
  | _, _ => false

def compareNumbers (rt : Runtime N O) (compare : N → N → Bool) (a b : JsValue N O) : Bool :=
  match coerceNumber rt a, coerceNumber rt b with
  | some m, some n => compare m n
  | _, _ => false

def evaluateOne (rt : Runtime N O) (filter : WebhookFilter N) (event : JsValue N O) :
    Except String Bool :=
  let fieldValue := resolveField rt event filter.field
  match filter.op with
  | .equals => equalsLoose rt fieldValue filter.target
  | .matchesRegex => .ok (matchesRegex rt fieldValue filter.target)
  | .isIn =>
      match filter.value with
      | some (.arr candidates) => candidates.anyM fun c => equalsLoose rt fieldValue (.json c)
      | _ => .ok false
  | .gt => .ok (compareNumbers rt (fun m n => rt.less n m) fieldValue filter.target)
  | .lt => .ok (compareNumbers rt rt.less fieldValue filter.target)

/-- `matches(filters, event)`: the first filter that is not met ends the walk. -/
def matchesAll (rt : Runtime N O) (filters : List (WebhookFilter N)) (event : JsValue N O) :
    Except String Bool :=
  filters.allM fun filter => evaluateOne rt filter event

end

/-! ### What throws -/

mutual

/-- An object with a member `toString`, or an array with such a value in it. -/
def Unprintable : Json N → Bool
  | .arr l => anyUnprintable l
  | .obj members => (members.lookup "toString").isSome
  | _ => false

def anyUnprintable : List (Json N) → Bool
  | [] => false
  | v :: vs => Unprintable v || anyUnprintable vs

end

mutual

/-- **`String(v)` throws** exactly on the unprintable values. -/
theorem stringOf_error_iff (rt : Runtime N O) : ∀ v : Json N,
    (∃ e, stringOf rt v = .error e) ↔ Unprintable v = true
  | .null => by simp [stringOf, Unprintable]
  | .bool true => by simp [stringOf, Unprintable]
  | .bool false => by simp [stringOf, Unprintable]
  | .num n => by simp [stringOf, Unprintable]
  | .str s => by simp [stringOf, Unprintable]
  | .arr l => by
      rw [Unprintable, ← elementTexts_error_iff rt l, stringOf]
      cases elementTexts rt l with
      | ok texts => simp [Except.map]
      | error e => simp [Except.map]
  | .obj members => by
      rw [Unprintable, stringOf]
      cases (members.lookup "toString").isSome <;> simp

theorem elementTexts_error_iff (rt : Runtime N O) : ∀ l : List (Json N),
    (∃ e, elementTexts rt l = .error e) ↔ anyUnprintable l = true
  | [] => by simp [elementTexts, anyUnprintable]
  | v :: vs => by
      rw [anyUnprintable, Bool.or_eq_true, ← stringOf_error_iff rt v,
        ← elementTexts_error_iff rt vs, elementTexts]
      cases stringOf rt v with
      | error e => simp [bind, Except.bind]
      | ok s =>
          cases elementTexts rt vs with
          | error e => simp [bind, Except.bind]
          | ok rest => simp [bind, Except.bind, pure, Except.pure]

end

/-- **A comparison throws** exactly when it comes to the texts and one of them throws. -/
theorem equalsLoose_error_iff [DecidableEq O] (rt : Runtime N O) (a b : Json N) :
    (∃ e, equalsLoose rt (.json a) (.json b) = .error e) ↔
      strictEquals rt (.json a) (.json b) = false ∧
        ((JsValue.json a : JsValue N O).nullish || (JsValue.json b : JsValue N O).nullish) = false ∧
        (Unprintable a = true ∨ Unprintable b = true) := by
  unfold equalsLoose
  cases strictEquals rt (.json a) (.json b) with
  | true => simp
  | false =>
      cases (JsValue.json a : JsValue N O).nullish || (JsValue.json b : JsValue N O).nullish with
      | true => simp
      | false =>
          rw [← stringOf_error_iff rt a, ← stringOf_error_iff rt b]
          show (∃ e, (do
            let s ← stringOf rt a
            let t ← stringOf rt b
            return decide (s = t)) = Except.error e) ↔ _
          cases stringOf rt a with
          | error e => simp [bind, Except.bind]
          | ok s =>
              cases stringOf rt b with
              | error e => simp [bind, Except.bind]
              | ok t => simp [bind, Except.bind, pure, Except.pure]

end Veridian.FilterEngine
