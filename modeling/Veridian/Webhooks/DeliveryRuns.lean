/-
One generic delivery under repeated ticks.

A tick that finds the delivery due hands its current row to `deliverOne`.  A row that is
stored either has a final status or is `retrying` with the next attempt, so each POST uses
up an attempt, as long as its row is stored at all.  It is not when the wait that
`backoff_ms` names leads to no date, or to none the column takes: then the same attempt is
made again at every tick.
-/
import Veridian.Lib.Machine
import Veridian.Lib.Replacing
import Veridian.Webhooks.DeliveryWorker

namespace Veridian.WebhookDeliveryWorker

/-! ### One delivery -/

/-- A row that records an attempt: it is final, or asks for the next one. -/
inductive Records (maxAttempts : Int) (delivery row : DeliveryRow) : Prop
  | final (hstatus : row.status.terminal = true) (hattempt : row.attempt = delivery.attempt)
  | retry (hstatus : row.status = .retrying) (hattempt : row.attempt = delivery.attempt + 1)
      (hmax : ((delivery.attempt + 1 : Nat) : Int) ≤ maxAttempts)

theorem recordOutcome_records {clockwork : Clockwork} {webhook : WebhookRow}
    {delivery row : DeliveryRow} {result : DeliveryAttemptResult} {answers : Answers}
    (h : recordOutcome clockwork webhook delivery result answers = some row) :
    Records webhook.retryConfig.maxAttempts delivery row := by
  simp only [recordOutcome] at h
  split at h
  · obtain rfl := Option.some.inj h
    exact .final rfl rfl
  · split at h
    · obtain rfl := Option.some.inj h
      exact .final rfl rfl
    · split at h
      · obtain rfl := Option.some.inj h
        exact .final rfl rfl
      · rename_i hmax
        obtain ⟨date, -, rfl⟩ := Option.map_eq_some_iff.mp h
        exact .retry rfl rfl (not_lt.mp hmax)

theorem updateDelivery_eq_some {clockwork : Clockwork} {delivery row : DeliveryRow}
    {insert : InsertAnswer} (h : updateDelivery clockwork delivery insert = some row) :
    row.status = delivery.status ∧ row.attempt = delivery.attempt ∧
      row.updatedAt = insert.updatedAt ∧
      clockwork.column row.scheduledAt = some row.scheduledAt := by
  unfold updateDelivery at h
  split at h
  · obtain ⟨held, hheld, rfl⟩ := Option.map_eq_some_iff.mp h
    exact ⟨rfl, rfl, rfl, clockwork.column_held _ held hheld⟩
  · exact absurd h (by simp)

/-- A delivery stores a row that records it. -/
theorem deliverOne_stored {clockwork : Clockwork} {delivery row : DeliveryRow} {answers : Answers}
    {config : WebhookRetryConfig}
    (hconfig : ∀ webhook, answers.webhook = some (some webhook) → webhook.retryConfig = config)
    (h : (deliverOne clockwork delivery answers).stored = some row) :
    Records config.maxAttempts delivery row ∧ row.updatedAt = answers.insert.updatedAt ∧
      clockwork.column row.scheduledAt = some row.scheduledAt := by
  have hstored : ∀ post new, (∀ r, new = some r → Records config.maxAttempts delivery r) →
      (Delivered.storing clockwork post new answers.insert).stored = some row →
      Records config.maxAttempts delivery row ∧ row.updatedAt = answers.insert.updatedAt ∧
        clockwork.column row.scheduledAt = some row.scheduledAt := by
    intro post new hnew hrow
    cases new with
    | none => exact absurd hrow (by simp [Delivered.storing])
    | some r =>
        obtain ⟨hstatus, hattempt, hupdated, hheld⟩ := updateDelivery_eq_some hrow
        refine ⟨?_, hupdated, hheld⟩
        rcases hnew r rfl with ⟨hs, ha⟩ | ⟨hs, ha, hmax⟩
        · exact .final (hstatus ▸ hs) (hattempt.trans ha)
        · exact .retry (hstatus.trans hs) (hattempt.trans ha) hmax
  have hfailed : ∀ message r, some { delivery with status := .failed, errorMessage := message } =
      some r → Records config.maxAttempts delivery r := by
    intro message r hr
    obtain rfl := Option.some.inj hr
    exact .final rfl rfl
  unfold deliverOne at h
  split at h
  · exact absurd h (by simp)
  · exact hstored _ _ (hfailed _) h
  · rename_i webhook hwebhook
    split at h
    · exact hstored _ _ (hfailed _) h
    · split at h
      · exact absurd h (by simp)
      · refine hstored _ _ (fun r hr => ?_) h
        rw [← hconfig webhook hwebhook]
        exact recordOutcome_records hr

/-! ### When a row is stored after a POST -/

/-- The answers under which `sendOne` reaches the network. -/
def Answers.sends (answers : Answers) (webhook : WebhookRow) : Bool :=
  answers.ssrf.isNone && (match answers.render with | .ok _ => true | .error _ => false) &&
    (decryptSecret webhook answers.secret).isSome

/-- The outcomes that ask for another attempt: 429, 5xx, a timeout, a network error. -/
def HttpOutcome.retriable : HttpOutcome → Bool
  | .response status _ _ =>
      !(200 ≤ status && status < 300) && !(300 ≤ status && status < 400) &&
        !(400 ≤ status && status < 500 && status != 429)
  | .aborted => true
  | .network _ => true

/-- A wait that leads to a date the column takes. -/
def schedulable (clockwork : Clockwork) (now : Int) (backoff : Backoff) : Bool :=
  ((scheduleDate clockwork now backoff).bind clockwork.column).isSome

theorem sendOne_post {clockwork : Clockwork} {webhook : WebhookRow} {answers : Answers} :
    (sendOne clockwork webhook answers).1.isSome = answers.sends webhook := by
  unfold sendOne Answers.sends
  cases answers.ssrf with
  | some message => rfl
  | none =>
      cases hrender : answers.render with
      | error message => rfl
      | ok body =>
          simp only [buildHeaders]
          cases decryptSecret webhook answers.secret <;> rfl

theorem sendOne_result {clockwork : Clockwork} {webhook : WebhookRow} {answers : Answers}
    (h : answers.sends webhook = true) :
    (sendOne clockwork webhook answers).2 = some (answers.fetch.result answers.latencyMs) := by
  unfold Answers.sends at h
  unfold sendOne
  cases hssrf : answers.ssrf with
  | some message => simp [hssrf] at h
  | none =>
      cases hrender : answers.render with
      | error message => simp [hrender] at h
      | ok body =>
          simp only [buildHeaders]
          cases hsecret : decryptSecret webhook answers.secret with
          | none => simp [hsecret] at h
          | some secret => rfl

/-! The message of a result that came from the network is none of the terminal ones, except
for a redirect. -/

theorem startsWith_append_of_ne {s t u : String} {a b : Char} {as bs : List Char}
    (hs : s.toList = a :: as) (ht : t.toList = b :: bs) (hab : a ≠ b) :
    Text.startsWith (s ++ u) t = false := by
  unfold Text.startsWith
  rw [String.toList_append, hs, ht, List.cons_append]
  simp [List.cons_prefix_cons, Ne.symm hab]

theorem startsWith_self (s u : String) : Text.startsWith (s ++ u) s = true :=
  Text.startsWith_append (decide_eq_true List.prefix_rfl) u

theorem isTerminalConfig_of_append {result : DeliveryAttemptResult} {s u : String} {a : Char}
    {as : List Char} (hmessage : result.errorMessage = s ++ u) (hs : s.toList = a :: as)
    (ha : a ≠ 's' ∧ a ≠ 'r' ∧ a ≠ 't') : result.isTerminalConfig = false := by
  unfold DeliveryAttemptResult.isTerminalConfig
  rw [hmessage, startsWith_append_of_ne (t := "ssrf:") hs rfl ha.1,
    startsWith_append_of_ne (t := "redirect_blocked:") hs rfl ha.2.1,
    startsWith_append_of_ne (t := "transform_failed:") hs rfl ha.2.2]
  rfl

/-- A result of the network is a success or final unless the outcome asks for another attempt. -/
theorem final_of_result (fetch : HttpOutcome) (latencyMs : Int) :
    ((fetch.result latencyMs).success || ((fetch.result latencyMs).isTerminalConfig ||
      (fetch.result latencyMs).isClient4xx)) = !fetch.retriable := by
  cases fetch with
  | aborted =>
      have hterminal : (HttpOutcome.aborted.result latencyMs).isTerminalConfig = false := by
        show (Text.startsWith "timeout" "ssrf:" || Text.startsWith "timeout" "redirect_blocked:" ||
          Text.startsWith "timeout" "transform_failed:") = false
        decide
      rw [hterminal]
      rfl
  | network message =>
      rw [isTerminalConfig_of_append (s := "network: ") (u := message) rfl rfl (by decide)]
      rfl
  | response status location body =>
      by_cases hredirect : 300 ≤ status ∧ status < 400
      · have hresult : ((HttpOutcome.response status location body).result
            latencyMs).isTerminalConfig = true := by
          unfold DeliveryAttemptResult.isTerminalConfig
          simp only [HttpOutcome.result, if_pos hredirect, startsWith_self, Bool.or_true,
            Bool.true_or]
        rw [hresult]
        simp [HttpOutcome.retriable, hredirect]
      · by_cases hok : 200 ≤ status ∧ status < 300
        · simp [HttpOutcome.result, HttpOutcome.retriable, hredirect, hok]
        · have hresult : ((HttpOutcome.response status location body).result
              latencyMs).isTerminalConfig = false := by
            refine isTerminalConfig_of_append (s := "HTTP ") (u := toString status) ?_ rfl
              (by decide)
            simp [HttpOutcome.result, hredirect, hok]
          rw [hresult]
          simp [HttpOutcome.result, HttpOutcome.retriable, DeliveryAttemptResult.isClient4xx,
            hredirect, hok]

/-- A delivery that does not get as far as the network has failed. -/
theorem sendOne_unsent {clockwork : Clockwork} {webhook : WebhookRow} {answers : Answers}
    {result : DeliveryAttemptResult} (h : answers.sends webhook = false)
    (hresult : (sendOne clockwork webhook answers).2 = some result) :
    result.isTerminalConfig = true := by
  unfold Answers.sends at h
  unfold sendOne at hresult
  unfold DeliveryAttemptResult.isTerminalConfig
  cases hssrf : answers.ssrf with
  | some message =>
      rw [hssrf] at hresult
      obtain rfl := Option.some.inj hresult
      have hstart : Text.startsWith ("ssrf: " ++ message) "ssrf:" = true :=
        Text.startsWith_append (by decide) message
      show (Text.startsWith ("ssrf: " ++ message) "ssrf:" || _ || _) = true
      rw [hstart]
      rfl
  | none =>
      cases hrender : answers.render with
      | error message =>
          rw [hssrf, hrender] at hresult
          obtain rfl := Option.some.inj hresult
          have hstart : Text.startsWith ("transform_failed: " ++ message)
              "transform_failed:" = true := Text.startsWith_append (by decide) message
          show (_ || _ || Text.startsWith ("transform_failed: " ++ message) _) = true
          rw [hstart]
          exact Bool.or_true _
      | ok body =>
          rw [hssrf, hrender] at hresult
          simp only [buildHeaders] at hresult
          cases hsecret : decryptSecret webhook answers.secret with
          | none => simp [hsecret] at hresult
          | some secret => simp [hssrf, hrender, hsecret] at h

theorem updateDelivery_isSome {clockwork : Clockwork} {delivery : DeliveryRow}
    {insert : InsertAnswer} :
    (updateDelivery clockwork delivery insert).isSome = true ↔
      insert.lands = true ∧ (clockwork.column delivery.scheduledAt).isSome = true := by
  unfold updateDelivery
  by_cases h : insert.lands = true
  · rw [if_pos h, Option.isSome_map]
    exact (and_iff_right h).symm
  · rw [if_neg h]
    simp [h]

/-- Without another attempt the row keeps its schedule. -/
theorem recordOutcome_keeps {clockwork : Clockwork} {webhook : WebhookRow}
    {delivery : DeliveryRow} {result : DeliveryAttemptResult} {answers : Answers}
    (h : (result.success || (result.isTerminalConfig || result.isClient4xx)) = true ∨
      webhook.retryConfig.maxAttempts < (delivery.attempt + 1 : Nat)) :
    ∃ row, recordOutcome clockwork webhook delivery result answers = some row ∧
      row.scheduledAt = delivery.scheduledAt := by
  simp only [recordOutcome]
  split
  · exact ⟨_, rfl, rfl⟩
  · rename_i hsuccess
    split
    · exact ⟨_, rfl, rfl⟩
    · rename_i hfinal
      rcases h with h | h
      · simp only [Bool.or_eq_true] at h hfinal
        exact absurd h (not_or.mpr ⟨hsuccess, hfinal⟩)
      · rw [if_pos h]
        exact ⟨_, rfl, rfl⟩

theorem recordOutcome_retries {clockwork : Clockwork} {webhook : WebhookRow}
    {delivery : DeliveryRow} {result : DeliveryAttemptResult} {answers : Answers}
    (h : (result.success || (result.isTerminalConfig || result.isClient4xx)) = false)
    (hmax : ((delivery.attempt + 1 : Nat) : Int) ≤ webhook.retryConfig.maxAttempts) :
    recordOutcome clockwork webhook delivery result answers =
      (scheduleDate clockwork answers.now (backoffOf webhook.retryConfig delivery.attempt)).map
        fun date =>
          { delivery.recorded result answers.sentAt with
            status := .retrying, attempt := delivery.attempt + 1, scheduledAt := date } := by
  obtain ⟨hsuccess, hfinal⟩ := Bool.or_eq_false_iff.mp h
  simp only [recordOutcome]
  rw [if_neg (by simp [hsuccess]), if_neg (by simp [hfinal]), if_neg (not_lt.mpr hmax)]

/-- The row that follows a POST is stored unless the insert is lost or no date can be found
for the next attempt. -/
theorem deliverOne_post_stored {clockwork : Clockwork} {delivery : DeliveryRow}
    {answers : Answers} {webhook : WebhookRow} (hwebhook : answers.webhook = some (some webhook))
    (hactive : webhook.active = true) (hsends : answers.sends webhook = true)
    (hheld : clockwork.column delivery.scheduledAt = some delivery.scheduledAt) :
    (deliverOne clockwork delivery answers).stored.isSome = true ↔
      answers.insert.lands = true ∧
        (answers.fetch.retriable = true →
          ((delivery.attempt + 1 : Nat) : Int) ≤ webhook.retryConfig.maxAttempts →
          schedulable clockwork answers.now (backoffOf webhook.retryConfig delivery.attempt) =
            true) := by
  have hdeliver : (deliverOne clockwork delivery answers).stored =
      (recordOutcome clockwork webhook delivery (answers.fetch.result answers.latencyMs)
        answers).bind fun row => updateDelivery clockwork row answers.insert := by
    unfold deliverOne
    rw [hwebhook]
    simp only [hactive, Bool.not_true, Bool.false_eq_true, if_false]
    have hresult : (sendOne clockwork webhook answers).2 =
        some (answers.fetch.result answers.latencyMs) := sendOne_result hsends
    split
    · rename_i hsend
      rw [hsend] at hresult
      exact absurd hresult (by simp)
    · rename_i result hsend
      rw [hsend] at hresult
      obtain rfl := Option.some.inj hresult
      unfold Delivered.storing
      cases recordOutcome clockwork webhook delivery (answers.fetch.result answers.latencyMs)
        answers <;> rfl
  have hfinal := final_of_result answers.fetch answers.latencyMs
  rw [hdeliver]
  by_cases hretry : answers.fetch.retriable = true ∧
      ((delivery.attempt + 1 : Nat) : Int) ≤ webhook.retryConfig.maxAttempts
  · rw [recordOutcome_retries (by rw [hfinal, hretry.1]; rfl) hretry.2]
    unfold schedulable
    cases hdate : scheduleDate clockwork answers.now
        (backoffOf webhook.retryConfig delivery.attempt) with
    | none =>
        exact ⟨fun h => absurd h (by simp), fun h => absurd (h.2 hretry.1 hretry.2) (by simp)⟩
    | some date =>
        show (updateDelivery clockwork _ answers.insert).isSome = true ↔ _
        rw [updateDelivery_isSome]
        exact and_congr_right fun _ => ⟨fun h _ _ => h, fun h => h hretry.1 hretry.2⟩
  · have hkeeps : ((answers.fetch.result answers.latencyMs).success ||
        ((answers.fetch.result answers.latencyMs).isTerminalConfig ||
          (answers.fetch.result answers.latencyMs).isClient4xx)) = true ∨
        webhook.retryConfig.maxAttempts < (delivery.attempt + 1 : Nat) := by
      rw [hfinal]
      by_cases hr : answers.fetch.retriable = true
      · exact Or.inr (not_le.mp fun hle => hretry ⟨hr, hle⟩)
      · exact Or.inl (by simpa using hr)
    obtain ⟨row, hrow, hsame⟩ := recordOutcome_keeps hkeeps
    rw [hrow]
    show (updateDelivery clockwork row answers.insert).isSome = true ↔ _
    rw [updateDelivery_isSome, hsame, hheld]
    refine and_congr_right fun _ => ⟨fun _ hr hle => absurd ⟨hr, hle⟩ hretry, fun _ => rfl⟩

/-! ### Ticks -/

/-- The row that a read with `FINAL` sees of the rows of one delivery. -/
def currentRow (rows : List DeliveryRow) : Option DeliveryRow :=
  Replacing.newest DeliveryRow.updatedAt rows

/-- One call of `deliverOne`: the row it was handed and what it left. -/
structure Attempt where
  delivery : DeliveryRow
  post : Option Post
  stored : Option DeliveryRow

structure DeliveryRun where
  /-- The rows of the delivery, in the order of their insertion. -/
  rows : List DeliveryRow
  attempts : List Attempt

def DeliveryRun.start (delivery : DeliveryRow) : DeliveryRun := ⟨[delivery], []⟩

/-- A tick whose batch has room for the delivery. -/
structure Tick where
  /-- `now64(3)` of `findReadyDeliveries` -/
  readAt : Int
  answers : Answers

/-- `status IN ('pending', 'retrying') AND scheduled_at <= now64(3)` -/
def DeliveryRow.ready (delivery : DeliveryRow) (readAt : Int) : Bool :=
  !delivery.status.terminal && delivery.scheduledAt ≤ readAt

/-- The webhook keeps its retry configuration, and the clock does not go back. -/
def Answers.fits (config : WebhookRetryConfig) (rows : List DeliveryRow) (answers : Answers) :
    Bool :=
  (match answers.webhook with
    | some (some webhook) => webhook.retryConfig = config
    | _ => true) &&
  rows.all fun row => row.updatedAt ≤ answers.insert.updatedAt

def DeliveryRun.step (clockwork : Clockwork) (config : WebhookRetryConfig) (s : DeliveryRun)
    (tick : Tick) : Option DeliveryRun :=
  if tick.answers.fits config s.rows then
    match currentRow s.rows with
    | none => some s
    | some delivery =>
        if delivery.ready tick.readAt then
          let delivered := deliverOne clockwork delivery tick.answers
          some
            { rows := s.rows ++ delivered.stored.toList
              attempts := s.attempts ++ [⟨delivery, delivered.post, delivered.stored⟩] }
        else some s
  else none

inductive TickStepped (clockwork : Clockwork) (config : WebhookRetryConfig) (s : DeliveryRun)
    (tick : Tick) : DeliveryRun → Prop
  | idle (h : ∀ delivery, currentRow s.rows = some delivery → delivery.ready tick.readAt = false) :
      TickStepped clockwork config s tick s
  | delivered (delivery : DeliveryRow) (hcurrent : currentRow s.rows = some delivery)
      (hready : delivery.ready tick.readAt = true)
      (hconfig : ∀ webhook, tick.answers.webhook = some (some webhook) →
        webhook.retryConfig = config)
      (hclock : ∀ row ∈ s.rows, row.updatedAt ≤ tick.answers.insert.updatedAt) :
      TickStepped clockwork config s tick
        { rows := s.rows ++ (deliverOne clockwork delivery tick.answers).stored.toList
          attempts := s.attempts ++
            [⟨delivery, (deliverOne clockwork delivery tick.answers).post,
              (deliverOne clockwork delivery tick.answers).stored⟩] }

theorem tickStepped_of_step {clockwork : Clockwork} {config : WebhookRetryConfig}
    {s s' : DeliveryRun} {tick : Tick} (h : s.step clockwork config tick = some s') :
    TickStepped clockwork config s tick s' := by
  unfold DeliveryRun.step at h
  split at h
  · rename_i hfits
    simp only [Answers.fits, Bool.and_eq_true, List.all_eq_true, decide_eq_true_eq] at hfits
    split at h
    · rename_i hcurrent
      obtain rfl := Option.some.inj h
      exact .idle fun delivery hd => absurd (hcurrent.symm.trans hd) (by simp)
    · rename_i delivery hcurrent
      split at h
      · rename_i hready
        obtain rfl := Option.some.inj h
        refine .delivered delivery hcurrent hready (fun webhook hwebhook => ?_) hfits.2
        have hconfig := hfits.1
        rw [hwebhook] at hconfig
        exact of_decide_eq_true hconfig
      · rename_i hready
        obtain rfl := Option.some.inj h
        refine .idle fun d hd => ?_
        obtain rfl := Option.some.inj (hcurrent.symm.trans hd)
        simpa using hready
  · exact absurd h (by simp)

/-! ### What every run keeps -/

/-- The rows end with the current one, and attempts do not decrease. -/
structure Ordered (clockwork : Clockwork) (s : DeliveryRun) (delivery : DeliveryRow) : Prop where
  current : currentRow s.rows = some delivery
  mem : delivery ∈ s.rows
  held : clockwork.column delivery.scheduledAt = some delivery.scheduledAt
  sorted : (s.rows.map DeliveryRow.attempt).Pairwise (· ≤ ·)
  last : ∀ row ∈ s.rows, row.attempt ≤ delivery.attempt

theorem Records.attempt_le {maxAttempts : Int} {delivery row : DeliveryRow}
    (h : Records maxAttempts delivery row) : delivery.attempt ≤ row.attempt := by
  rcases h with ⟨-, h⟩ | ⟨-, h, -⟩ <;> omega

/-- A stored row becomes the current one. -/
theorem Ordered.append {clockwork : Clockwork} {s : DeliveryRun} {delivery row : DeliveryRow}
    (h : Ordered clockwork s delivery) (hattempt : delivery.attempt ≤ row.attempt)
    (hclock : ∀ r ∈ s.rows, r.updatedAt ≤ row.updatedAt)
    (hheld : clockwork.column row.scheduledAt = some row.scheduledAt) (attempts : List Attempt) :
    Ordered clockwork ⟨s.rows ++ [row], attempts⟩ row := by
  refine ⟨Replacing.newest_append_singleton _ hclock, by simp, hheld, ?_, fun r hr => ?_⟩
  · show ((s.rows ++ [row]).map DeliveryRow.attempt).Pairwise (· ≤ ·)
    rw [List.map_append, List.pairwise_append]
    refine ⟨h.sorted, List.pairwise_singleton _ _, fun a ha b hb => ?_⟩
    obtain ⟨r, hr, rfl⟩ := List.mem_map.mp ha
    rw [List.mem_singleton.mp hb]
    exact (h.last r hr).trans hattempt
  · rcases List.mem_append.mp hr with hold | hnew
    · exact (h.last r hold).trans hattempt
    · rw [List.mem_singleton.mp hnew]

theorem Ordered.step {clockwork : Clockwork} {config : WebhookRetryConfig} {s s' : DeliveryRun}
    {tick : Tick} (h : ∃ delivery, Ordered clockwork s delivery)
    (hstep : s.step clockwork config tick = some s') : ∃ delivery, Ordered clockwork s' delivery := by
  obtain ⟨delivery, h⟩ := h
  cases tickStepped_of_step hstep with
  | idle _ => exact ⟨delivery, h⟩
  | delivered d hcurrent hready hconfig hclock =>
      obtain rfl := Option.some.inj (h.current.symm.trans hcurrent)
      cases hstored : (deliverOne clockwork delivery tick.answers).stored with
      | none => exact ⟨delivery, by simpa using ⟨h.current, h.mem, h.held, h.sorted, h.last⟩⟩
      | some row =>
          obtain ⟨hrecords, hupdated, hheld⟩ := deliverOne_stored hconfig hstored
          exact ⟨row, h.append hrecords.attempt_le (hupdated ▸ hclock) hheld _⟩

/-! ### The condition -/

/-- After the POST, a row is stored whose status or attempt differs. -/
def Attempt.Followed (a : Attempt) : Prop :=
  ∃ row, a.stored = some row ∧ (row.status ≠ a.delivery.status ∨ row.attempt ≠ a.delivery.attempt)

/-- If the tick makes a POST, its row is not lost: the insert lands, and when another attempt
is to be made, the wait for it leads to a date that the column takes. -/
def Recordable (clockwork : Clockwork) (config : WebhookRetryConfig) (s : DeliveryRun)
    (tick : Tick) : Prop :=
  ∀ delivery webhook, currentRow s.rows = some delivery → delivery.ready tick.readAt = true →
    tick.answers.webhook = some (some webhook) → webhook.active = true →
    tick.answers.sends webhook = true →
      tick.answers.insert.lands = true ∧
        (tick.answers.fetch.retriable = true →
          ((delivery.attempt + 1 : Nat) : Int) ≤ config.maxAttempts →
          schedulable clockwork tick.answers.now (backoffOf config delivery.attempt) = true)

theorem deliverOne_post {clockwork : Clockwork} {delivery : DeliveryRow} {answers : Answers} :
    (deliverOne clockwork delivery answers).post.isSome = true ↔
      ∃ webhook, answers.webhook = some (some webhook) ∧ webhook.active = true ∧
        answers.sends webhook = true := by
  unfold deliverOne
  split
  · rename_i hwebhook
    simp [hwebhook]
  · rename_i hwebhook
    simp [hwebhook, Delivered.storing]
  · rename_i webhook hwebhook
    have hiff : (∃ w, answers.webhook = some (some w) ∧ w.active = true ∧
        answers.sends w = true) ↔ webhook.active = true ∧ answers.sends webhook = true := by
      rw [hwebhook]
      simp
    rw [hiff, ← sendOne_post]
    split
    · rename_i hinactive
      simp [Delivered.storing, by simpa using hinactive]
    · rename_i hactive
      rw [show webhook.active = true by simpa using hactive, and_iff_right rfl]
      split
      · rename_i hsend
        rw [hsend]
      · rename_i hsend
        rw [hsend]
        unfold Delivered.storing
        split <;> rfl

/-- Of a delivery that was ready, a row that records it differs from it. -/
theorem Records.differs {maxAttempts : Int} {delivery row : DeliveryRow}
    (h : Records maxAttempts delivery row) (hopen : delivery.status.terminal = false) :
    row.status ≠ delivery.status ∨ row.attempt ≠ delivery.attempt := by
  rcases h with ⟨hstatus, -⟩ | ⟨-, hattempt, -⟩
  · refine Or.inl fun heq => ?_
    rw [heq, hopen] at hstatus
    exact absurd hstatus (by simp)
  · exact Or.inr (by omega)

theorem open_of_ready {delivery : DeliveryRow} {readAt : Int}
    (h : delivery.ready readAt = true) : delivery.status.terminal = false := by
  simp only [DeliveryRow.ready, Bool.and_eq_true, Bool.not_eq_true'] at h
  exact h.1

/-- **A tick leaves no POST without its row exactly when it meets the condition.** -/
theorem followed_step {clockwork : Clockwork} {config : WebhookRetryConfig} {s s' : DeliveryRun}
    {tick : Tick} (h : ∃ delivery, Ordered clockwork s delivery)
    (hstep : s.step clockwork config tick = some s') :
    (∀ a ∈ s'.attempts, a.post.isSome = true → a.Followed) ↔
      (∀ a ∈ s.attempts, a.post.isSome = true → a.Followed) ∧
        Recordable clockwork config s tick := by
  obtain ⟨delivery, h⟩ := h
  cases tickStepped_of_step hstep with
  | idle hidle =>
      refine (and_iff_left ?_).symm
      intro d webhook hcurrent hready
      rw [hidle d hcurrent] at hready
      exact absurd hready (by simp)
  | delivered d hcurrent hready hconfig hclock =>
      obtain rfl := Option.some.inj (h.current.symm.trans hcurrent)
      rw [List.forall_mem_append, List.forall_mem_singleton]
      refine and_congr_right fun _ => ?_
      rw [deliverOne_post]
      constructor
      · intro hfollowed d webhook hd _ hwebhook hactive hsends
        obtain rfl := Option.some.inj (hcurrent.symm.trans hd)
        obtain ⟨row, hrow, -⟩ := hfollowed ⟨webhook, hwebhook, hactive, hsends⟩
        rw [← hconfig webhook hwebhook]
        exact (deliverOne_post_stored hwebhook hactive hsends h.held).mp
          (Option.isSome_iff_exists.mpr ⟨row, hrow⟩)
      · rintro hrecordable ⟨webhook, hwebhook, hactive, hsends⟩
        have hcond := hrecordable delivery webhook hcurrent hready hwebhook hactive hsends
        rw [← hconfig webhook hwebhook] at hcond
        obtain ⟨row, hrow⟩ := Option.isSome_iff_exists.mp
          ((deliverOne_post_stored hwebhook hactive hsends h.held).mpr
            hcond)
        exact ⟨row, hrow, (deliverOne_stored hconfig hrow).1.differs (open_of_ready hready)⟩

/-! ### Attempts are used up -/

def DeliveryRun.posts (s : DeliveryRun) : Nat :=
  s.attempts.countP fun a => a.post.isSome

/-- Every POST has used up an attempt, the last of them only when the row is final. -/
def Spent (config : WebhookRetryConfig) (s : DeliveryRun) : Prop :=
  ∃ delivery, currentRow s.rows = some delivery ∧
    (delivery.attempt : Int) ≤ config.maxAttempts ∧
    s.posts + (if delivery.status.terminal then 0 else 1) ≤ delivery.attempt

theorem spent_step {clockwork : Clockwork} {config : WebhookRetryConfig} {s s' : DeliveryRun}
    {tick : Tick} (h : ∃ delivery, Ordered clockwork s delivery)
    (hfollowed : ∀ a ∈ s'.attempts, a.post.isSome = true → a.Followed)
    (hstep : s.step clockwork config tick = some s') (hspent : Spent config s) :
    Spent config s' := by
  obtain ⟨delivery, h⟩ := h
  obtain ⟨d, hd, hmax, hposts⟩ := hspent
  obtain rfl := Option.some.inj (h.current.symm.trans hd)
  cases tickStepped_of_step hstep with
  | idle _ => exact ⟨delivery, hd, hmax, hposts⟩
  | delivered d hcurrent hready hconfig hclock =>
      obtain rfl := Option.some.inj (h.current.symm.trans hcurrent)
      have hopen := open_of_ready hready
      rw [hopen] at hposts
      have hone : (deliverOne clockwork delivery tick.answers).post.isSome = true →
          (deliverOne clockwork delivery tick.answers).stored.isSome = true := by
        intro hpost
        obtain ⟨row, hrow, -⟩ := hfollowed _ (List.mem_append_right _ (List.mem_singleton.mpr rfl)) hpost
        exact Option.isSome_iff_exists.mpr ⟨row, hrow⟩
      cases hstored : (deliverOne clockwork delivery tick.answers).stored with
      | none =>
          -- Nothing was sent, so nothing was used up.
          have hnone : (deliverOne clockwork delivery tick.answers).post.isSome = false := by
            rw [hstored] at hone
            exact Bool.eq_false_iff.mpr fun hc => absurd (hone hc) (by simp)
          refine ⟨delivery, by simpa using hd, hmax, ?_⟩
          rw [hopen]
          show List.countP _ (s.attempts ++ [_]) + _ ≤ _
          rw [List.countP_append, List.countP_singleton, hnone]
          exact hposts
      | some row =>
          obtain ⟨hrecords, hupdated, hheld⟩ := deliverOne_stored hconfig hstored
          have hrow := (h.append hrecords.attempt_le (hupdated ▸ hclock) hheld []).current
          refine ⟨row, hrow, ?_⟩
          have hcount : List.countP (fun a : Attempt => a.post.isSome) (s.attempts ++
              [⟨delivery, (deliverOne clockwork delivery tick.answers).post, some row⟩]) ≤
              s.posts + 1 := by
            rw [List.countP_append]
            exact Nat.add_le_add_left List.countP_le_length _
          rcases hrecords with ⟨hstatus, hattempt⟩ | ⟨hstatus, hattempt, hle⟩
          · rw [hstatus, hattempt]
            exact ⟨hmax, hcount.trans hposts⟩
          · rw [hstatus, hattempt]
            exact ⟨hle, Nat.add_le_add_right (hcount.trans hposts) 1⟩

/-- A final row stays the current one, and nothing is sent any more. -/
theorem terminal_step {clockwork : Clockwork} {config : WebhookRetryConfig} {s s' : DeliveryRun}
    {tick : Tick} {delivery : DeliveryRow} (hcurrent : currentRow s.rows = some delivery)
    (hterminal : delivery.status.terminal = true)
    (hstep : s.step clockwork config tick = some s') : s' = s := by
  cases tickStepped_of_step hstep with
  | idle _ => rfl
  | delivered d hd hready _ _ =>
      obtain rfl := Option.some.inj (hcurrent.symm.trans hd)
      rw [open_of_ready hready] at hterminal
      exact absurd hterminal (by simp)

/-- A delivery as `enqueueDelivery` inserts it. -/
structure Enqueued (clockwork : Clockwork) (delivery : DeliveryRow) : Prop where
  status : delivery.status = .pending
  attempt : delivery.attempt = 1
  held : clockwork.column delivery.scheduledAt = some delivery.scheduledAt

theorem Enqueued.ordered {clockwork : Clockwork} {delivery : DeliveryRow}
    (h : Enqueued clockwork delivery) : Ordered clockwork (.start delivery) delivery :=
  ⟨rfl, List.mem_singleton.mpr rfl, h.held, List.pairwise_singleton _ _,
    fun row hrow => by rw [List.mem_singleton.mp hrow]⟩

theorem ordered_of_run {clockwork : Clockwork} {config : WebhookRetryConfig}
    {delivery : DeliveryRow} (hnew : Enqueued clockwork delivery) {as : List Tick}
    {s : DeliveryRun}
    (h : Machine.exec (DeliveryRun.step clockwork config) (.start delivery) as = some s) :
    ∃ d, Ordered clockwork s d :=
  Machine.exec_invariant (P := fun s => ∃ d, Ordered clockwork s d)
    (fun _ _ _ hs hstep => Ordered.step hs hstep) ⟨delivery, hnew.ordered⟩ h

theorem posts_le_of_run {clockwork : Clockwork} {retry : Option WebhookRetryConfig}
    {config : WebhookRetryConfig} (hconfig : dtoToRetry retry = .ok config)
    {delivery : DeliveryRow} (hnew : Enqueued clockwork delivery) {as : List Tick}
    {s : DeliveryRun}
    (h : Machine.exec (DeliveryRun.step clockwork config) (.start delivery) as = some s)
    (hmeets : Machine.Meets (DeliveryRun.step clockwork config) (Recordable clockwork config)
      (.start delivery) as) : (s.posts : Int) ≤ config.maxAttempts := by
  have hstart : Spent config (.start delivery) := by
    refine ⟨delivery, rfl, ?_, ?_⟩
    · rw [hnew.attempt]
      exact (dtoToRetry_bounds hconfig).1
    · rw [hnew.status, hnew.attempt]
      exact le_refl _
  obtain ⟨-, -, d, -, hmax, hposts⟩ := Machine.exec_invariant_of_meets
    (P := fun s => (∃ d, Ordered clockwork s d) ∧
      (∀ a ∈ s.attempts, a.post.isSome = true → a.Followed) ∧ Spent config s)
    (fun s tick s' hs hC hstep => by
      have hfollowed := (followed_step hs.1 hstep).mpr ⟨hs.2.1, hC⟩
      exact ⟨Ordered.step hs.1 hstep, hfollowed, spent_step hs.1 hfollowed hstep hs.2.2⟩)
    ⟨⟨delivery, hnew.ordered⟩, fun a ha => absurd ha (by simp [DeliveryRun.start]), hstart⟩
    hmeets h
  omega

namespace RetryExample

/-- Doubles that are small enough to be exact, and a column of the years 1900 to 2299. -/
def clockwork : Clockwork where
  plus := fun now ms => now + ms
  parseDate := fun _ => none
  column := fun date =>
    if -2_208_988_800_000 ≤ date ∧ date ≤ 10_413_791_999_999 then some date else none
  column_held := by
    intro date held h
    split at h
    · rename_i hrange
      obtain rfl := Option.some.inj h
      exact if_pos hrange
    · exact absurd h (by simp)
  base64 := id
  hmac := fun _ body => body

def delivery : DeliveryRow where
  id := "del_1"
  webhookId := "wh_1"
  workspaceId := "w"
  eventId := "e"
  eventType := "goal"
  attempt := 1
  scheduledAt := 1_700_000_000_000
  sentAt := none
  status := .pending
  httpStatus := none
  latencyMs := none
  requestUrl := "https://hooks.example.com/in"
  requestBody := "\x7b\x7d"
  responseBody := ""
  errorMessage := ""
  createdAt := 1_700_000_000_000
  updatedAt := 1_700_000_000_000

def webhook (retryConfig : WebhookRetryConfig) : WebhookRow where
  id := "wh_1"
  workspaceId := "w"
  url := "https://hooks.example.com/in"
  active := true
  authType := .none
  authSecretEncrypted := ""
  transform := none
  retryConfig := retryConfig

/-- A tick that gets as far as the network. -/
def tick (retryConfig : WebhookRetryConfig) (now : Int) (fetch : HttpOutcome) : Tick where
  readAt := now
  answers :=
    { webhook := some (some (webhook retryConfig)), ssrf := none, render := .ok "\x7b\x7d"
      secret := none, fetch := fetch, latencyMs := 12, sentAt := now, now := now
      insert := ⟨now, true, true⟩ }

def unavailable : HttpOutcome := .response 503 none (some "")

def recovering : List Tick :=
  [tick DEFAULT_RETRY_CONFIG 1_700_000_010_000 unavailable,
    tick DEFAULT_RETRY_CONFIG 1_700_000_080_000 unavailable,
    tick DEFAULT_RETRY_CONFIG 1_700_000_400_000 (.response 200 none (some "ok"))]

/-- A wait of nine million million seconds. -/
def endless : WebhookRetryConfig := ⟨3, [.number 9_000_000_000_000_000]⟩

def refusing : List Tick :=
  [tick endless 1_700_000_010_000 unavailable, tick endless 1_700_000_020_000 unavailable,
    tick endless 1_700_000_030_000 unavailable, tick endless 1_700_000_040_000 unavailable]

end RetryExample

open RetryExample

theorem delivery_enqueued : Enqueued RetryExample.clockwork delivery := ⟨rfl, rfl, by decide⟩

/-- The waits of the default configuration. -/
theorem backoffOf_default (attempt : Nat) :
    backoffOf DEFAULT_RETRY_CONFIG attempt ∈
      [Backoff.null, .number 60_000, .number 300_000, .number 900_000] := by
  match attempt with
  | 0 => exact List.mem_cons_self
  | 1 => exact List.mem_cons_of_mem _ List.mem_cons_self
  | 2 => exact List.mem_cons_of_mem _ (List.mem_cons_of_mem _ List.mem_cons_self)
  | n + 3 =>
      have hmin : min (n + 3 - 1) (DEFAULT_RETRY_CONFIG.backoffMs.length - 1) = 2 := by
        show min (n + 3 - 1) 2 = 2
        omega
      unfold backoffOf
      rw [if_neg (by omega), hmin]
      simp [DEFAULT_RETRY_CONFIG]

example : [1, 2, 3, 9].map (backoffOf DEFAULT_RETRY_CONFIG) =
    [.number 60_000, .number 300_000, .number 900_000, .number 900_000] := by
  decide +kernel

theorem recovering_meets :
    Machine.Meets (DeliveryRun.step RetryExample.clockwork DEFAULT_RETRY_CONFIG)
      (Recordable RetryExample.clockwork DEFAULT_RETRY_CONFIG) (.start delivery) recovering := by
  have hlands : recovering.all (fun tick => tick.answers.insert.lands) = true := by decide
  have hschedulable : (recovering.all fun tick =>
      [Backoff.null, .number 60_000, .number 300_000, .number 900_000].all fun backoff =>
        schedulable RetryExample.clockwork tick.answers.now backoff) = true := by decide +kernel
  refine Machine.meets_of_forall fun tick htick s d w _ _ _ _ _ => ?_
  refine ⟨List.all_eq_true.mp hlands tick htick, fun _ _ => ?_⟩
  exact List.all_eq_true.mp (List.all_eq_true.mp hschedulable tick htick) _ (backoffOf_default _)

end Veridian.WebhookDeliveryWorker
