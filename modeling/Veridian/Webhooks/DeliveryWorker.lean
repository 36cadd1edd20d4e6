/-
One delivery of a generic webhook.

`deliverOne` looks the webhook up, `sendOne` makes the POST, `recordOutcome` inserts the
row that says how it went.  What the outside answers on the way is one record of answers;
whatever throws ends the delivery, with nothing stored after it.

A wait of `backoff_ms` is any JSON value: the validation only asks for a non-empty array.
The next attempt is scheduled at `new Date(Date.now() + backoff)`, which can fail to be a
date, and a date can fail to be one that the column takes.
-/
import Mathlib.Data.Rat.Floor
import Veridian.Lib.Text

namespace Veridian.WebhookDeliveryWorker

def RESPONSE_BODY_LIMIT : Nat := 64_000

/-! ### Rows -/

inductive DeliveryStatus where
  | pending
  | success
  | failed
  | retrying
  | gaveUp
deriving DecidableEq

/-- `success`, `failed` and `gave_up`. -/
def DeliveryStatus.terminal : DeliveryStatus → Bool
  | .pending | .retrying => false
  | .success | .failed | .gaveUp => true

/-- A row of `webhook_deliveries`; times are in milliseconds. -/
structure DeliveryRow where
  id : String
  webhookId : String
  workspaceId : String
  eventId : String
  eventType : String
  attempt : Nat
  scheduledAt : Int
  sentAt : Option Int
  status : DeliveryStatus
  httpStatus : Option Nat
  latencyMs : Option Int
  requestUrl : String
  requestBody : String
  responseBody : String
  errorMessage : String
  createdAt : Int
  updatedAt : Int
deriving DecidableEq

/-- An element of `backoff_ms`; strings, arrays and objects by the text they are added as. -/
inductive Backoff where
  | null
  | number (ms : ℚ)
  | boolean (b : Bool)
  | text (s : String)
deriving DecidableEq

structure WebhookRetryConfig where
  maxAttempts : Int
  backoffMs : List Backoff
deriving DecidableEq

def DEFAULT_RETRY_CONFIG : WebhookRetryConfig :=
  { maxAttempts := 3
    backoffMs := [.number 60_000, .number 300_000, .number 900_000] }

inductive WebhookAuthType where
  | none
  | bearer
  | basic
  | hmac
deriving DecidableEq

inductive WebhookTransform where
  | passthrough
  | template (template : String)
  | twenty (dryRun : Bool)
deriving DecidableEq

/-- The columns of `webhook_definitions` that the worker reads. -/
structure WebhookRow where
  id : String
  workspaceId : String
  url : String
  active : Bool
  authType : WebhookAuthType
  authSecretEncrypted : String
  transform : Option WebhookTransform
  retryConfig : WebhookRetryConfig
deriving DecidableEq

/-! ### What the create and update paths accept -/

structure BadRequest where
  code : String
  message : String
deriving DecidableEq

def dtoToRetry (retry : Option WebhookRetryConfig) : Except BadRequest WebhookRetryConfig :=
  match retry with
  | none => .ok DEFAULT_RETRY_CONFIG
  | some retry =>
      if retry.maxAttempts < 1 ∨ retry.maxAttempts > 10 ∨ retry.backoffMs.length = 0 then
        .error
          { code := "INVALID_RETRY"
            message := "retry.max_attempts must be between 1 and 10 and backoff_ms must be a " ++
              "non-empty array." }
      else .ok retry

theorem dtoToRetry_bounds {retry : Option WebhookRetryConfig} {config : WebhookRetryConfig}
    (h : dtoToRetry retry = .ok config) :
    1 ≤ config.maxAttempts ∧ config.maxAttempts ≤ 10 ∧ config.backoffMs ≠ [] := by
  unfold dtoToRetry at h
  split at h
  · obtain rfl := Except.ok.inj h
    exact ⟨by decide, by decide, by simp [DEFAULT_RETRY_CONFIG]⟩
  · rename_i given
    split at h
    · exact absurd h (by simp)
    · rename_i hbounds
      obtain rfl := Except.ok.inj h
      push Not at hbounds
      exact ⟨hbounds.1, hbounds.2.1, List.ne_nil_of_length_pos (Nat.pos_of_ne_zero hbounds.2.2)⟩

/-! ### The next schedule -/

/-- What the runtime and the table make of numbers, texts and dates. -/
structure Clockwork where
  /-- `Date.now() + ms`, the sum of two doubles. -/
  plus : Int → ℚ → ℚ
  /-- `new Date(text)`: `none` when it is not a date. -/
  parseDate : String → Option Int
  /-- What `scheduled_at` holds of a date, if the insert takes it. -/
  column : Int → Option Int
  /-- A date that is read back can be stored again. -/
  column_held : ∀ date held, column date = some held → column held = some held
  base64 : String → String
  /-- `createHmac('sha256', secret).update(body).digest('hex')` -/
  hmac : String → String → String

/-- `new Date(t)`: a number is a date up to 8.64e15 ms around the epoch, cut to whole ones. -/
def timeClip (t : ℚ) : Option Int :=
  if |t| ≤ 8_640_000_000_000_000 then some (if 0 ≤ t then ⌊t⌋ else ⌈t⌉) else none

/-- `new Date(Date.now() + backoff)` with `backoff ?? 60_000`; `none` when its
`toISOString` throws. -/
def scheduleDate (clockwork : Clockwork) (now : Int) : Backoff → Option Int
  | .null => timeClip (clockwork.plus now 60_000)
  | .number ms => timeClip (clockwork.plus now ms)
  | .boolean b => timeClip (clockwork.plus now (if b then 1 else 0))
  | .text s => clockwork.parseDate (toString now ++ s)

/-- `backoff_ms[Math.min(attempt - 1, backoff_ms.length - 1)]` -/
def backoffOf (config : WebhookRetryConfig) (attempt : Nat) : Backoff :=
  if attempt = 0 then .null
  else (config.backoffMs[min (attempt - 1) (config.backoffMs.length - 1)]?).getD .null

/-! ### Sending -/

structure Post where
  url : String
  headers : List (String × String)
  body : String
deriving DecidableEq

/-- How a `fetch` and the reading of its body end. -/
inductive HttpOutcome where
  | response (status : Nat) (location : Option String) (body : Option String)
  | aborted
  | network (message : String)

structure DeliveryAttemptResult where
  success : Bool
  httpStatus : Option Nat
  latencyMs : Int
  responseBody : String
  errorMessage : String

/-- The insert of one row. -/
structure InsertAnswer where
  updatedAt : Int
  /-- The insert puts the row into the table. -/
  lands : Bool
  /-- The insert is reported as done. -/
  acknowledged : Bool

/-- What one delivery is answered by the database, the guards, the network and the clock. -/
structure Answers where
  /-- `findByIdInternal`: `none` when the query throws. -/
  webhook : Option (Option WebhookRow)
  /-- The message of `assertSafeUrlResolved`, if it rejects. -/
  ssrf : Option String
  /-- `transformEngine.render`, or its message. -/
  render : Except String String
  /-- `crypto.decryptSecret` of a stored secret: `none` when it throws. -/
  secret : Option String
  fetch : HttpOutcome
  latencyMs : Int
  sentAt : Int
  now : Int
  insert : InsertAnswer

/-- The characters that the first `n` UTF-16 units hold; half a pair is stored as U+FFFD. -/
def takeUnits : Nat → List Char → List Char
  | _, [] => []
  | 0, _ => []
  | n + 1, c :: rest =>
      if c.val < 0x10000 then c :: takeUnits n rest
      else
        match n with
        | 0 => [Char.ofNat 0xFFFD]
        | n + 1 => c :: takeUnits n rest

/-- `text.length` -/
def unitLength (s : String) : Nat :=
  (s.toList.map fun c => if c.val < 0x10000 then 1 else 2).sum

def truncate (text : String) : String :=
  if unitLength text ≤ RESPONSE_BODY_LIMIT then text
  else String.ofList (takeUnits RESPONSE_BODY_LIMIT text.toList) ++ "… [truncated]"

/-- `WebhooksService.decryptSecret` -/
def decryptSecret (webhook : WebhookRow) (secret : Option String) : Option String :=
  if webhook.authSecretEncrypted = "" then some "" else secret

def buildHeaders (clockwork : Clockwork) (webhook : WebhookRow) (body : String)
    (answer : Option String) : Option (List (String × String)) :=
  (decryptSecret webhook answer).map fun secret =>
    [("content-type", "application/json"),
      ("user-agent", "veridian-analytics-engine/webhooks-1.0"), ("x-webhook-id", webhook.id)] ++
    if secret = "" then []
    else
      match webhook.authType with
      | .none => []
      | .bearer => [("authorization", "Bearer " ++ secret)]
      | .basic => [("authorization", "Basic " ++ clockwork.base64 secret)]
      | .hmac => [("x-veridian-signature", "sha256=" ++ clockwork.hmac secret body)]

/-- A delivery that does not get as far as the network. -/
def unsent (message : String) : DeliveryAttemptResult :=
  { success := false, httpStatus := none, latencyMs := 0, responseBody := ""
    errorMessage := message }

def HttpOutcome.result (latencyMs : Int) : HttpOutcome → DeliveryAttemptResult
  | .response status location body =>
      if 300 ≤ status ∧ status < 400 then
        { success := false, httpStatus := some status, latencyMs := latencyMs, responseBody := ""
          errorMessage := "redirect_blocked:" ++ (" HTTP " ++ toString status ++ " to " ++
            location.getD "(no location)" ++ " not followed (SSRF guard)") }
      else
        let ok : Bool := 200 ≤ status ∧ status < 300
        { success := ok, httpStatus := some status, latencyMs := latencyMs
          responseBody := truncate (body.getD "")
          errorMessage := if ok then "" else "HTTP " ++ toString status }
  | .aborted =>
      { success := false, httpStatus := none, latencyMs := latencyMs, responseBody := ""
        errorMessage := "timeout" }
  | .network message =>
      { success := false, httpStatus := none, latencyMs := latencyMs, responseBody := ""
        errorMessage := "network: " ++ message }

/-- The POST that was made, and the result unless something threw. -/
def sendOne (clockwork : Clockwork) (webhook : WebhookRow) (answers : Answers) :
    Option Post × Option DeliveryAttemptResult :=
  match answers.ssrf with
  | some message => (none, some (unsent ("ssrf: " ++ message)))
  | none =>
      match answers.render with
      | .error message => (none, some (unsent ("transform_failed: " ++ message)))
      | .ok body =>
          match buildHeaders clockwork webhook body answers.secret with
          | none => (none, none)
          | some headers =>
              (some { url := webhook.url, headers := headers, body := body },
                some (answers.fetch.result answers.latencyMs))

/-! ### Recording -/

/-- Failures that no attempt can mend. -/
def DeliveryAttemptResult.isTerminalConfig (result : DeliveryAttemptResult) : Bool :=
  Text.startsWith result.errorMessage "ssrf:" ||
    Text.startsWith result.errorMessage "redirect_blocked:" ||
    Text.startsWith result.errorMessage "transform_failed:"

def DeliveryAttemptResult.isClient4xx (result : DeliveryAttemptResult) : Bool :=
  match result.httpStatus with
  | some status => 400 ≤ status && status < 500 && status != 429
  | none => false

/-- What every row of `recordOutcome` says of the attempt. -/
def DeliveryRow.recorded (delivery : DeliveryRow) (result : DeliveryAttemptResult)
    (sentAt : Int) : DeliveryRow :=
  { delivery with
    sentAt := some sentAt
    httpStatus := result.httpStatus
    latencyMs := some result.latencyMs
    responseBody := truncate result.responseBody
    errorMessage := result.errorMessage }

/-- The row handed to `updateDelivery`; `none` when the date of the next attempt throws. -/
def recordOutcome (clockwork : Clockwork) (webhook : WebhookRow) (delivery : DeliveryRow)
    (result : DeliveryAttemptResult) (answers : Answers) : Option DeliveryRow :=
  let recorded := delivery.recorded result answers.sentAt
  if result.success then some { recorded with status := .success, errorMessage := "" }
  else if result.isTerminalConfig || result.isClient4xx then some { recorded with status := .failed }
  else if webhook.retryConfig.maxAttempts < (delivery.attempt + 1 : Nat) then
    some { recorded with status := .gaveUp }
  else
    (scheduleDate clockwork answers.now (backoffOf webhook.retryConfig delivery.attempt)).map
      fun nextSchedule =>
        { recorded with
          status := .retrying
          attempt := delivery.attempt + 1
          scheduledAt := nextSchedule }

/-- `updateDelivery`: the row as the table has it, if the insert is taken. -/
def updateDelivery (clockwork : Clockwork) (delivery : DeliveryRow) (insert : InsertAnswer) :
    Option DeliveryRow :=
  if insert.lands then
    (clockwork.column delivery.scheduledAt).map fun scheduledAt =>
      { delivery with scheduledAt := scheduledAt, updatedAt := insert.updatedAt }
  else none

/-- What a delivery leaves behind. -/
structure Delivered where
  post : Option Post
  stored : Option DeliveryRow
  threw : Bool

/-- Storing a row ends the delivery; so does having none to store. -/
def Delivered.storing (clockwork : Clockwork) (post : Option Post) (row : Option DeliveryRow)
    (insert : InsertAnswer) : Delivered :=
  match row with
  | none => { post := post, stored := none, threw := true }
  | some row =>
      let stored := updateDelivery clockwork row insert
      { post := post, stored := stored, threw := stored.isNone || !insert.acknowledged }

def deliverOne (clockwork : Clockwork) (delivery : DeliveryRow) (answers : Answers) : Delivered :=
  match answers.webhook with
  | none => { post := none, stored := none, threw := true }
  | some none =>
      .storing clockwork none
        (some { delivery with
          status := .failed, errorMessage := "webhook_definition not found (deleted?)" })
        answers.insert
  | some (some webhook) =>
      if !webhook.active then
        .storing clockwork none
          (some { delivery with status := .failed, errorMessage := "webhook is inactive" })
          answers.insert
      else
        match sendOne clockwork webhook answers with
        | (post, none) => { post := post, stored := none, threw := true }
        | (post, some result) =>
            .storing clockwork post (recordOutcome clockwork webhook delivery result answers)
              answers.insert

end Veridian.WebhookDeliveryWorker
