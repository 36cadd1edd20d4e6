/-
The payload a delivery carries.

`enqueueDelivery` writes the payload of an event as JSON and cuts the text at 64 000 units;
the worker and the Twenty connector parse it and take an empty object for what does not
parse.  A cut text never does, so a delivery carries its event exactly when the text was
short enough and its numbers have numerals (`carries_iff`).

A payload is a JSON object: a member that is `undefined` is one it does not have.  Its
numbers are those of the runtime, of which the infinite ones are written `null`.
-/
import Veridian.Lib.JsonParse
import Veridian.Webhooks.Dispatcher

namespace Veridian.DeliveryPayload

/-- The numbers of the runtime, how the finite ones are written and how numerals are read. -/
structure NumberFormat (R : Type) where
  finite : R → Bool
  numerals : Json.Numerals { r : R // finite r = true }
  /-- `none` on what is no numeral. -/
  read : List Char → Option R
  reads : Json.Reads numerals read Subtype.val

/-- An object, with every key once in it and in what it holds. -/
structure Payload (R : Type) where
  members : List (String × Json R)
  distinct : Json.DistinctKeys (.obj members)

variable {R φ : Type}

def Payload.json (payload : Payload R) : Json R := .obj payload.members

/-- What `JSON.stringify` writes for a number. -/
def writtenNumber (fmt : NumberFormat R) (r : R) : Json { r : R // fmt.finite r = true } :=
  if h : fmt.finite r = true then .num ⟨r, h⟩ else .null

/-- `JSON.stringify(payload)` -/
def stringify (fmt : NumberFormat R) (v : Json R) : String :=
  Json.stringify fmt.numerals (Json.substNumbers (writtenNumber fmt) v)

/-! ### Writing -/

def bodyLimit : Nat := 64000

def truncate (text : String) : String :=
  if Text.utf16Length text ≤ bodyLimit then text
  else String.ofList (Text.sliceUnits bodyLimit text.toList ++ "… [truncated]".toList)

inductive DeliveryStatus where
  | pending
  | success
  | failed
  | retrying
  | gaveUp
deriving DecidableEq

structure DeliveryRow where
  id : String
  webhookId : String
  workspaceId : String
  eventId : String
  eventType : String
  attempt : Nat
  scheduledAt : String
  sentAt : Option String
  status : DeliveryStatus
  httpStatus : Option Nat
  latencyMs : Option Nat
  requestUrl : String
  requestBody : String
  responseBody : String
  errorMessage : String
  createdAt : String
  updatedAt : String

structure EnqueuedEvent (R : Type) where
  eventId : String
  eventType : String
  payload : Payload R

/-- The row, when the table takes it. -/
def enqueueDelivery (fmt : NumberFormat R) (insert : DeliveryRow → Except String Unit)
    (now deliveryId : String) (webhook : WebhookDefinition φ) (event : EnqueuedEvent R) :
    Except String DeliveryRow := do
  let delivery : DeliveryRow :=
    { id := deliveryId
      webhookId := webhook.id
      workspaceId := webhook.workspaceId
      eventId := event.eventId
      eventType := event.eventType
      attempt := 1
      scheduledAt := now
      sentAt := none
      status := .pending
      httpStatus := none
      latencyMs := none
      requestUrl := webhook.url
      requestBody := truncate (stringify fmt event.payload.json)
      responseBody := ""
      errorMessage := ""
      createdAt := now
      updatedAt := now }
  insert delivery
  return delivery

/-! ### Reading -/

/-- What parses to an object or an array, else an empty object. -/
def parseObject (fmt : NumberFormat R) (raw : String) : Json R :=
  match Json.parse fmt.read raw with
  | some (.arr l) => .arr l
  | some (.obj members) => .obj members
  | _ => .obj []

/-- The worker. -/
def parsePayload (fmt : NumberFormat R) (raw : String) : Json R := parseObject fmt raw

/-- The Twenty connector. -/
def parseBody (fmt : NumberFormat R) (raw : String) : Json R := parseObject fmt raw

/-- Both readers get the payload back. -/
def Carries (fmt : NumberFormat R) (row : DeliveryRow) (event : EnqueuedEvent R) : Prop :=
  parsePayload fmt row.requestBody = event.payload.json ∧
    parseBody fmt row.requestBody = event.payload.json

/-- The text is not cut, and no number of the payload is infinite. -/
def Carriable (fmt : NumberFormat R) (payload : Payload R) : Prop :=
  Text.utf16Length (stringify fmt payload.json) ≤ bodyLimit ∧
    Json.AllNumbers (fun r => fmt.finite r = true) payload.json

/-! ### A text that fits -/

theorem distinctKeys_written (fmt : NumberFormat R) (r : R) :
    Json.DistinctKeys (writtenNumber fmt r) := by
  unfold writtenNumber
  split <;> trivial

/-- What is read back: the payload with `null` for the infinite numbers. -/
theorem parse_stringify (fmt : NumberFormat R) (payload : Payload R) :
    Json.parse fmt.read (stringify fmt payload.json) =
      some (Json.substNumbers (fun r => if fmt.finite r = true then .num r else .null)
        payload.json) := by
  have hdistinct : Json.DistinctKeys (Json.substNumbers (writtenNumber fmt) payload.json) :=
    Json.distinctKeys_substNumbers (distinctKeys_written fmt) _ payload.distinct
  unfold stringify
  rw [Json.parse_stringify fmt.numerals fmt.reads hdistinct, Json.substNumbers_substNumbers]
  refine congrArg (fun f => some (Json.substNumbers f payload.json)) (funext fun r => ?_)
  unfold writtenNumber
  by_cases h : fmt.finite r = true
  · rw [dif_pos h, if_pos h]
    rfl
  · rw [dif_neg h, if_neg h]
    rfl

theorem parseObject_of_fits {fmt : NumberFormat R} {payload : Payload R}
    (h : Text.utf16Length (stringify fmt payload.json) ≤ bodyLimit) :
    parseObject fmt (truncate (stringify fmt payload.json)) =
      Json.substNumbers (fun r => if fmt.finite r = true then .num r else .null)
        payload.json := by
  unfold parseObject truncate
  rw [if_pos h, parse_stringify]
  rfl

theorem read_back_iff (fmt : NumberFormat R) (v : Json R) :
    Json.substNumbers (fun r => if fmt.finite r = true then .num r else .null) v = v ↔
      Json.AllNumbers (fun r => fmt.finite r = true) v := by
  rw [Json.substNumbers_eq_self_iff]
  refine iff_of_eq (congrArg (Json.AllNumbers · v) (funext fun r => propext ?_))
  by_cases h : fmt.finite r = true
  · rw [if_pos h]
    exact ⟨fun _ => h, fun _ => rfl⟩
  · rw [if_neg h]
    exact ⟨fun hnull => Json.noConfusion rfl (heq_of_eq hnull), fun hfinite => absurd hfinite h⟩

/-! ### A text that is cut -/

/-- The text of an object opens with a brace. -/
theorem stringify_payload_toList (fmt : NumberFormat R) (payload : Payload R) :
    ∃ rest, (stringify fmt payload.json).toList = '\x7b' :: rest := by
  unfold stringify Json.stringify Payload.json
  rw [String.toList_ofList, Json.substNumbers]
  cases Json.substMembers (writtenNumber fmt) payload.members with
  | nil => exact ⟨_, rfl⟩
  | cons member ms => exact ⟨_, rfl⟩

/-- **A cut text does not parse**: it opens as an object and ends with a bracket. -/
theorem parseObject_of_cut {fmt : NumberFormat R} {payload : Payload R}
    (h : ¬Text.utf16Length (stringify fmt payload.json) ≤ bodyLimit) :
    parseObject fmt (truncate (stringify fmt payload.json)) = .obj [] := by
  have hparse : Json.parse fmt.read (truncate (stringify fmt payload.json)) = none := by
    obtain ⟨rest, hrest⟩ := stringify_payload_toList fmt payload
    have hcut : (truncate (stringify fmt payload.json)).toList =
        '\x7b' :: (Text.sliceUnits 63999 rest ++ "… [truncated".toList ++ [']']) := by
      unfold truncate
      rw [if_neg h, hrest, String.toList_ofList, List.append_assoc]
      rfl
    refine Option.eq_none_iff_forall_ne_some.mpr fun v hv => ?_
    rcases Json.object_text_ends hcut hv with hbrace | hblank
    · exact absurd hbrace (by decide)
    · exact absurd hblank (by decide)
  unfold parseObject
  rw [hparse]

/-- The text of the empty object is short. -/
theorem members_ne_nil_of_cut {fmt : NumberFormat R} {payload : Payload R}
    (h : ¬Text.utf16Length (stringify fmt payload.json) ≤ bodyLimit) : payload.members ≠ [] := by
  intro hnil
  refine h ?_
  have htext : stringify fmt payload.json = String.ofList ['\x7b', '\x7d'] := by
    unfold stringify Json.stringify Payload.json
    rw [hnil]
    rfl
  rw [htext]
  decide

theorem requestBody_of_enqueued {fmt : NumberFormat R} {insert : DeliveryRow → Except String Unit}
    {now deliveryId : String} {webhook : WebhookDefinition φ} {event : EnqueuedEvent R}
    {row : DeliveryRow}
    (h : enqueueDelivery fmt insert now deliveryId webhook event = .ok row) :
    row.requestBody = truncate (stringify fmt event.payload.json) := by
  simp only [enqueueDelivery, bind, Except.bind] at h
  split at h
  · exact absurd h (by simp)
  · rw [← Except.ok.inj h]

/-- What is cut is lost. -/
theorem not_carries_of_cut {fmt : NumberFormat R} {insert : DeliveryRow → Except String Unit}
    {now deliveryId : String} {webhook : WebhookDefinition φ} {event : EnqueuedEvent R}
    {row : DeliveryRow}
    (h : enqueueDelivery fmt insert now deliveryId webhook event = .ok row)
    (hcut : ¬Text.utf16Length (stringify fmt event.payload.json) ≤ bodyLimit) :
    ¬Carries fmt row event := by
  intro hcarries
  have hempty := hcarries.1
  unfold parsePayload at hempty
  rw [requestBody_of_enqueued h, parseObject_of_cut hcut] at hempty
  exact members_ne_nil_of_cut hcut (Json.obj.inj hempty).symm

/--
**A delivery carries its event.**

For every payload whose row the table takes: both readers rebuild the payload exactly when
its text has at most 64 000 units and no number in it is infinite.
-/
theorem carries_iff {fmt : NumberFormat R} {insert : DeliveryRow → Except String Unit}
    {now deliveryId : String} {webhook : WebhookDefinition φ} {event : EnqueuedEvent R}
    {row : DeliveryRow}
    (h : enqueueDelivery fmt insert now deliveryId webhook event = .ok row) :
    Carries fmt row event ↔ Carriable fmt event.payload := by
  by_cases hfits : Text.utf16Length (stringify fmt event.payload.json) ≤ bodyLimit
  · unfold Carries Carriable parsePayload parseBody
    rw [requestBody_of_enqueued h, and_self_iff, parseObject_of_fits hfits, read_back_iff,
      and_iff_right hfits]
  · exact iff_of_false (not_carries_of_cut h hfits) fun hcarriable => hfits hcarriable.1

/-! ### A short payload and a long one -/

namespace LongPathExample

/-- Natural numbers, and one that is not finite. -/
def digits (n : { n : Option ℕ // n.isSome = true }) : List Char :=
  Nat.toDigits 10 (n.1.getD 0)

def readDigits (l : List Char) : Option (Option ℕ) :=
  if l ≠ [] ∧ l.all Char.isDigit = true then some (some (Nat.ofDigitChars 10 l 0)) else none

theorem digits_injective : Function.Injective digits := by
  rintro ⟨m, hm⟩ ⟨n, hn⟩ h
  obtain ⟨m, rfl⟩ := Option.isSome_iff_exists.mp hm
  obtain ⟨n, rfl⟩ := Option.isSome_iff_exists.mp hn
  exact Subtype.ext (congrArg some (Text.toDigits_inj h))

theorem digits_ne_nil (n : { n : Option ℕ // n.isSome = true }) : digits n ≠ [] :=
  Nat.toDigits_ne_nil

theorem isDigit_of_mem_digits (n : { n : Option ℕ // n.isSome = true }) {c : Char}
    (hc : c ∈ digits n) : c.isDigit = true :=
  Nat.isDigit_of_mem_toDigits (by omega) (by omega) hc

theorem digits_plain (n : { n : Option ℕ // n.isSome = true }) :
    ∀ c ∈ digits n, Json.isNumeral c = true := by
  intro c hc
  simp [Json.isNumeral, isDigit_of_mem_digits n hc]

def numerals : Json.Numerals { n : Option ℕ // n.isSome = true } where
  numeral := digits
  injective := digits_injective
  nonempty := digits_ne_nil
  plain := digits_plain

theorem reads_digits : Json.Reads numerals readDigits Subtype.val := by
  intro n
  obtain ⟨m, hm⟩ := n
  obtain ⟨m, rfl⟩ := Option.isSome_iff_exists.mp hm
  have hall : (digits ⟨some m, hm⟩).all Char.isDigit = true :=
    List.all_eq_true.mpr fun c hc => isDigit_of_mem_digits _ hc
  show readDigits (digits ⟨some m, hm⟩) = _
  rw [readDigits, if_pos ⟨digits_ne_nil _, hall⟩]
  exact congrArg (fun n => some (some n)) Nat.ofDigitChars_ten_toDigits

def format : NumberFormat (Option ℕ) where
  finite := Option.isSome
  numerals := numerals
  read := readDigits
  reads := reads_digits

def webhook : WebhookDefinition Unit where
  id := "hook"
  workspaceId := "w"
  url := "https://example.org/hook"
  active := true
  events := []
  filters := ()
  updatedAt := 0
  deletedAt := none

theorem path_distinct (path : String) :
    Json.DistinctKeys (.obj [("path", (.str path : Json (Option ℕ)))]) :=
  ⟨List.nodup_singleton _, trivial, trivial⟩

/-- A goal on a page. -/
def visit (path : String) : EnqueuedEvent (Option ℕ) where
  eventId := "e"
  eventType := "goal"
  payload := ⟨[("path", .str path)], path_distinct path⟩

def path (n : Nat) : String := String.ofList (List.replicate n 'a')

theorem stringify_visit (path : String) :
    (stringify format (visit path).payload.json).toList =
      '\x7b' :: (Json.quote "path" ++ ':' :: (Json.quote path ++ ['\x7d'])) := by
  unfold stringify Json.stringify
  rw [String.toList_ofList]
  rfl

theorem length_path (n : Nat) : (path n).toList.length = n := by
  rw [path, String.toList_ofList, List.length_replicate]

theorem visit_cut {n : Nat} (hn : bodyLimit ≤ n) :
    ¬Text.utf16Length (stringify format (visit (path n)).payload.json) ≤ bodyLimit := by
  intro hfits
  have hlength := (Text.length_le_utf16Length _).trans (hfits.trans hn)
  have hescapes := Json.length_le_escapes (path n).toList
  rw [stringify_visit] at hlength
  simp only [List.length_cons, List.length_append, Json.quote, length_path] at hlength hescapes
  omega

theorem visit_lost {n : Nat} (hn : bodyLimit ≤ n) :
    ∃ row, enqueueDelivery format (fun _ => .ok ()) "2026-01-01 00:00:00" "del" webhook
      (visit (path n)) = .ok row ∧ ¬Carries format row (visit (path n)) :=
  ⟨_, rfl, @not_carries_of_cut _ _ format (fun _ => .ok ()) "2026-01-01 00:00:00" "del" webhook
    (visit (path n)) _ rfl (visit_cut hn)⟩

end LongPathExample

open LongPathExample in
/-- A short payload arrives. -/
theorem short_payload_carried :
    ∃ row, enqueueDelivery format (fun _ => .ok ()) "2026-01-01 00:00:00" "del" webhook
      (visit "/") = .ok row ∧
        (Carries format row (visit "/") ↔ Carriable format (visit "/").payload) :=
  ⟨_, rfl, @carries_iff _ _ format (fun _ => .ok ()) "2026-01-01 00:00:00" "del" webhook
    (visit "/") _ rfl⟩

open LongPathExample in
/-- A path of 64 000 characters arrives as an empty object. -/
theorem long_payload_lost :
    ∃ row, enqueueDelivery format (fun _ => .ok ()) "2026-01-01 00:00:00" "del" webhook
      (visit (path 64000)) = .ok row ∧ ¬Carries format row (visit (path 64000)) :=
  visit_lost (Nat.le_refl bodyLimit)

end Veridian.DeliveryPayload
