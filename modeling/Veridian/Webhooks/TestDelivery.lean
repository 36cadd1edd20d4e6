/-
The test delivery of a webhook.

`webhooks.test` enqueues a delivery like any other, pending and due at once, then makes the
POST itself and at last writes how it went.  Until then the delivery is in the queue that the
worker polls: a tick that reads it in between makes a POST of its own, and the two rows that
say how it went are written in either order.

A run takes the three steps of the call and the ticks of the one worker in any order.  The
state has the rows of the test delivery, the number of POSTs of its event, and how far the
call and the worker have come.
-/
import Veridian.Webhooks.DeliveryRuns
import Veridian.Webhooks.DrainQueue

namespace Veridian.WebhookDeliveryWorker

open TwentyConnector (Caches)

/-! ### The call -/

/-- The event of the request, or the synthetic one, with its payload as JSON text. -/
structure TestEvent where
  eventId : String
  eventType : String
  requestBody : String

/-- The row that `enqueueDelivery` inserts; `requestBody` is cut already. -/
def enqueueDelivery (webhook : WebhookRow) (event : TestEvent) (deliveryId : String) (now : Int) :
    DeliveryRow where
  id := deliveryId
  webhookId := webhook.id
  workspaceId := webhook.workspaceId
  eventId := event.eventId
  eventType := event.eventType
  attempt := 1
  scheduledAt := now
  sentAt := none
  status := .pending
  httpStatus := none
  latencyMs := none
  requestUrl := webhook.url
  requestBody := event.requestBody
  responseBody := ""
  errorMessage := ""
  createdAt := now
  updatedAt := now

/-- The row that `test` hands to `updateDelivery`. -/
def testedRow (delivery : DeliveryRow) (result : DeliveryAttemptResult) (sentAt : Int) :
    DeliveryRow :=
  { delivery with
    status := if result.success then .success else .failed
    sentAt := some sentAt
    httpStatus := result.httpStatus
    latencyMs := some result.latencyMs
    responseBody := result.responseBody
    errorMessage := result.errorMessage }

/-- How far the call has come. -/
inductive TestCall where
  | enqueueDelivery
  | sendOne (delivery : DeliveryRow)
  | updateDelivery (delivery : DeliveryRow) (result : DeliveryAttemptResult)
  | returned (result : DeliveryAttemptResult)
  | threw

/-! ### The worker -/

/-- What becomes of the test delivery in a tick that has read it: it is delivered by itself, or
flushed with the other deliveries of a Twenty webhook. -/
inductive Handling where
  | deliver (answers : Answers)
  | flush (worker : Worker) (webhook : WebhookRow) (deliveries : List DeliveryRow)
      (caches : Caches) (meter : Meter) (answers : GroupAnswers)

/-- The POSTs of its event, and the rows to insert for it. -/
def Handling.outcome (clockwork : Clockwork) (delivery : DeliveryRow) :
    Handling → Nat × List DeliveryRow
  | .deliver answers =>
      let delivered := deliverOne clockwork delivery answers
      (if delivered.post.isSome then 1 else 0, delivered.stored.toList)
  | .flush worker webhook deliveries caches meter answers =>
      let flushed := flushTwentyGroup worker webhook deliveries caches meter answers
      ((flushed.flush.map fun flush => flush.outcome.written.count delivery.id).getD 0,
        flushed.stored.filter fun row => row.id = delivery.id)

/-- How far the worker has come with the test delivery. -/
inductive Ticking where
  | idle
  | read (delivery : DeliveryRow)
  | storing (rows : List DeliveryRow)

/-! ### Runs -/

structure TestRun where
  rows : List DeliveryRow
  posts : Nat
  call : TestCall
  worker : Ticking

def TestRun.start : TestRun := ⟨[], 0, .enqueueDelivery, .idle⟩

inductive TestAction where
  | enqueue (now : Int) (insert : InsertAnswer)
  | send (answers : Answers)
  | update (sentAt : Int) (insert : InsertAnswer)
  /-- A tick begins; `taken` says that its batch has room for the delivery. -/
  | tick (readAt : Int) (taken : Bool)
  | handle (handling : Handling)
  | store

section

variable (clockwork : Clockwork) (webhook : WebhookRow) (event : TestEvent) (deliveryId : String)

/-- The call after its `sendOne`. -/
def TestRun.sent (s : TestRun) (delivery : DeliveryRow)
    (outcome : Option Post × Option DeliveryAttemptResult) : TestRun :=
  { s with
    posts := s.posts + if outcome.1.isSome then 1 else 0
    call := match outcome.2 with
      | none => .threw
      | some result => .updateDelivery delivery result }

def TestRun.step (s : TestRun) (a : TestAction) : Option TestRun :=
  match a, s.call, s.worker with
  | .enqueue now insert, .enqueueDelivery, _ =>
      let delivery := enqueueDelivery webhook event deliveryId now
      some { s with
        rows := if insert.lands then s.rows ++ [delivery] else s.rows
        call := if insert.lands && insert.acknowledged then .sendOne delivery else .threw }
  | .send answers, .sendOne delivery, _ =>
      some (s.sent delivery (sendOne clockwork webhook answers))
  | .update sentAt insert, .updateDelivery delivery result, _ =>
      let stored := updateDelivery clockwork (testedRow delivery result sentAt) insert
      some { s with
        rows := s.rows ++ stored.toList
        call := if stored.isSome && insert.acknowledged then .returned result else .threw }
  | .tick readAt taken, _, .idle =>
      some { s with
        worker := match currentRow s.rows with
          | none => .idle
          | some row => if taken && row.ready readAt then .read row else .idle }
  | .handle handling, _, .read delivery =>
      let (posts, rows) := handling.outcome clockwork delivery
      some { s with posts := s.posts + posts, worker := .storing rows }
  | .store, _, .storing rows => some { s with rows := s.rows ++ rows, worker := .idle }
  | _, _, _ => none

/-- The row says how an attempt went. -/
structure DeliveryRow.Reports (row : DeliveryRow) (result : DeliveryAttemptResult) : Prop where
  status : row.status = if result.success then .success else .failed
  httpStatus : row.httpStatus = result.httpStatus
  latencyMs : row.latencyMs = some result.latencyMs
  responseBody : row.responseBody = result.responseBody
  errorMessage : row.errorMessage = result.errorMessage

/-- **A test delivery is posted once**: at no time has the event gone out twice, and when the
call has returned it has gone out once, and the delivery says how that went. -/
structure PostedOnce (s : TestRun) : Prop where
  once : s.posts ≤ 1
  reported : ∀ result, s.call = .returned result →
    s.posts = 1 ∧ ∃ row, currentRow s.rows = some row ∧ row.Reports result

/-- What is asked of a step: that no tick reads the delivery, that the request of the call gets
to the network, and that the row of the call is stored under a time that puts it in force. -/
def Undisturbed (s : TestRun) : TestAction → Prop
  | .tick readAt taken =>
      taken = true → ∀ row ∈ currentRow s.rows, row.ready readAt = false
  | .send answers => answers.sends webhook = true
  | .update _ insert =>
      insert.lands = true → ∀ row ∈ s.rows, row.updatedAt ≤ insert.updatedAt
  | .enqueue _ _ | .handle _ | .store => True

instance (s : TestRun) : ∀ a, Decidable (Undisturbed webhook s a)
  | .tick readAt _ =>
      inferInstanceAs (Decidable (_ → ∀ row ∈ currentRow s.rows, row.ready readAt = false))
  | .send answers => inferInstanceAs (Decidable (answers.sends webhook = true))
  | .update _ insert =>
      inferInstanceAs (Decidable (_ → ∀ row ∈ s.rows, row.updatedAt ≤ insert.updatedAt))
  | .enqueue _ _ | .handle _ | .store => isTrue trivial

/-! ### Undisturbed runs -/

/-- What an undisturbed run has come to, by how far the call is. -/
def Reached (rows : List DeliveryRow) (posts : Nat) : TestCall → Prop
  | .enqueueDelivery => rows = [] ∧ posts = 0
  | .sendOne delivery => rows = [delivery] ∧ posts = 0
  | .updateDelivery delivery _ => rows = [delivery] ∧ posts = 1
  | .returned result => posts = 1 ∧ ∃ row, currentRow rows = some row ∧ row.Reports result
  | .threw => posts ≤ 1

structure Alone (s : TestRun) : Prop where
  worker : s.worker = .idle
  reached : Reached s.rows s.posts s.call

theorem alone_start : Alone .start := ⟨rfl, rfl, rfl⟩

theorem Alone.postedOnce {s : TestRun} (h : Alone s) : PostedOnce s := by
  obtain ⟨-, hreached⟩ := h
  refine ⟨?_, fun result hresult => ?_⟩
  · cases hcall : s.call with
    | enqueueDelivery => rw [hcall] at hreached; exact hreached.2 ▸ Nat.zero_le 1
    | sendOne delivery => rw [hcall] at hreached; exact hreached.2 ▸ Nat.zero_le 1
    | updateDelivery delivery result => rw [hcall] at hreached; exact Nat.le_of_eq hreached.2
    | returned result => rw [hcall] at hreached; exact Nat.le_of_eq hreached.1
    | threw => rw [hcall] at hreached; exact hreached
  · rw [hresult] at hreached
    exact hreached

/-- What the call stores in the end says how its POST went. -/
theorem testedRow_reports {clockwork : Clockwork} {delivery row : DeliveryRow}
    {result : DeliveryAttemptResult} {sentAt : Int} {insert : InsertAnswer}
    (h : updateDelivery clockwork (testedRow delivery result sentAt) insert = some row) :
    insert.lands = true ∧ row.updatedAt = insert.updatedAt ∧ row.Reports result := by
  unfold updateDelivery at h
  split at h
  · rename_i hlands
    obtain ⟨held, -, rfl⟩ := Option.map_eq_some_iff.mp h
    exact ⟨hlands, rfl, rfl, rfl, rfl, rfl, rfl⟩
  · exact absurd h (by simp)

variable {clockwork webhook event deliveryId}

theorem alone_enqueue {s t : TestRun} {now : Int} {insert : InsertAnswer} (hs : Alone s)
    (h : s.step clockwork webhook event deliveryId (.enqueue now insert) = some t) : Alone t := by
  obtain ⟨rows, posts, call, worker⟩ := s
  obtain ⟨rfl, hreached⟩ := hs
  cases call with
  | enqueueDelivery =>
      obtain ⟨rfl, rfl⟩ := hreached
      obtain rfl := Option.some.inj h
      refine ⟨rfl, ?_⟩
      cases insert.lands with
      | false => exact Nat.zero_le 1
      | true =>
          cases insert.acknowledged with
          | false => exact Nat.zero_le 1
          | true => exact ⟨rfl, rfl⟩
  | sendOne delivery => exact nomatch h
  | updateDelivery delivery result => exact nomatch h
  | returned result => exact nomatch h
  | threw => exact nomatch h

theorem alone_send {s t : TestRun} {answers : Answers} (hs : Alone s)
    (hsends : answers.sends webhook = true)
    (h : s.step clockwork webhook event deliveryId (.send answers) = some t) : Alone t := by
  obtain ⟨rows, posts, call, worker⟩ := s
  obtain ⟨rfl, hreached⟩ := hs
  cases call with
  | sendOne delivery =>
      obtain ⟨rfl, rfl⟩ := hreached
      have hpost : (sendOne clockwork webhook answers).1.isSome = true := sendOne_post.trans hsends
      have hresult : (sendOne clockwork webhook answers).2 =
          some (answers.fetch.result answers.latencyMs) := sendOne_result hsends
      obtain rfl := Option.some.inj h
      refine ⟨rfl, ?_⟩
      simp only [TestRun.sent, hresult, if_pos hpost]
      exact ⟨rfl, rfl⟩
  | enqueueDelivery => exact nomatch h
  | updateDelivery delivery result => exact nomatch h
  | returned result => exact nomatch h
  | threw => exact nomatch h

theorem alone_update {s t : TestRun} {sentAt : Int} {insert : InsertAnswer} (hs : Alone s)
    (hnewest : insert.lands = true → ∀ row ∈ s.rows, row.updatedAt ≤ insert.updatedAt)
    (h : s.step clockwork webhook event deliveryId (.update sentAt insert) = some t) :
    Alone t := by
  obtain ⟨rows, posts, call, worker⟩ := s
  obtain ⟨rfl, hreached⟩ := hs
  cases call with
  | updateDelivery delivery result =>
      obtain ⟨rfl, rfl⟩ := hreached
      obtain rfl := Option.some.inj h
      refine ⟨rfl, ?_⟩
      dsimp only
      cases hstored : updateDelivery clockwork (testedRow delivery result sentAt) insert with
      | none => exact Nat.le_refl 1
      | some row =>
          obtain ⟨hlands, hupdated, hreports⟩ := testedRow_reports hstored
          cases insert.acknowledged with
          | false => exact Nat.le_refl 1
          | true =>
              refine ⟨rfl, row, ?_, hreports⟩
              exact Replacing.newest_append_singleton _ fun r hr => hupdated ▸ hnewest hlands r hr
  | enqueueDelivery => exact nomatch h
  | sendOne delivery => exact nomatch h
  | returned result => exact nomatch h
  | threw => exact nomatch h

theorem alone_tick {s t : TestRun} {readAt : Int} {taken : Bool} (hs : Alone s)
    (hunread : taken = true → ∀ row ∈ currentRow s.rows, row.ready readAt = false)
    (h : s.step clockwork webhook event deliveryId (.tick readAt taken) = some t) : Alone t := by
  obtain ⟨rows, posts, call, worker⟩ := s
  obtain ⟨rfl, hreached⟩ := hs
  have ht : t = ⟨rows, posts, call, match currentRow rows with
      | none => .idle
      | some row => if taken && row.ready readAt then .read row else .idle⟩ := by
    cases call <;> exact (Option.some.inj h).symm
  rw [ht]
  refine ⟨?_, hreached⟩
  dsimp only
  cases hcurrent : currentRow rows with
  | none => rfl
  | some row =>
      refine if_neg fun hread => ?_
      obtain ⟨htaken, hready⟩ := Bool.and_eq_true_iff.mp hread
      rw [hunread htaken row hcurrent] at hready
      exact absurd hready (by simp)

/-- **A step that leaves the call alone keeps what it has come to.** -/
theorem alone_step (s : TestRun) (a : TestAction) (t : TestRun) (hs : Alone s)
    (ha : Undisturbed webhook s a) (h : s.step clockwork webhook event deliveryId a = some t) :
    Alone t := by
  cases a with
  | enqueue now insert => exact alone_enqueue hs h
  | send answers => exact alone_send hs ha h
  | update sentAt insert => exact alone_update hs ha h
  | tick readAt taken => exact alone_tick hs ha h
  | handle handling =>
      -- the worker holds nothing
      obtain ⟨rows, posts, call, worker⟩ := s
      obtain ⟨rfl, -⟩ := hs
      cases call <;> exact nomatch h
  | store =>
      obtain ⟨rows, posts, call, worker⟩ := s
      obtain ⟨rfl, -⟩ := hs
      cases call <;> exact nomatch h

/-- **A test delivery is posted once in every run that leaves its call alone.** -/
theorem posted_once (clockwork : Clockwork) (webhook : WebhookRow) (event : TestEvent)
    (deliveryId : String) {actions : List TestAction} {s : TestRun}
    (hactions : Machine.Meets (TestRun.step clockwork webhook event deliveryId)
      (Undisturbed webhook) .start actions)
    (h : Machine.exec (TestRun.step clockwork webhook event deliveryId) .start actions = some s) :
    PostedOnce s :=
  (Machine.exec_invariant_of_meets alone_step alone_start hactions h).postedOnce

end

namespace TestExample

open RetryExample (clockwork)

def webhook : WebhookRow := RetryExample.webhook DEFAULT_RETRY_CONFIG

def event : TestEvent := ⟨"test_1", "webhook.test", "\x7b\x7d"⟩

/-- The answers at a time, with the status of the response. -/
def answers (status : Nat) (now : Int) : Answers where
  webhook := some (some webhook)
  ssrf := none
  render := .ok "\x7b\x7d"
  secret := none
  fetch := .response status none (some "")
  latencyMs := 12
  sentAt := now
  now := now
  insert := ⟨now, true, true⟩

/-- A tick before the call and one after it. -/
def quiet : List TestAction :=
  [.tick 1_700_000_000_000 true, .enqueue 1_700_000_001_000 ⟨1_700_000_001_000, true, true⟩,
    .send (answers 200 1_700_000_002_000), .update 1_700_000_003_000 ⟨1_700_000_003_000, true, true⟩,
    .tick 1_700_000_004_000 true]

/-- A tick while the destination takes its time to answer; it answers 404 the second time. -/
def disturbed : List TestAction :=
  [.enqueue 1_700_000_001_000 ⟨1_700_000_001_000, true, true⟩, .tick 1_700_000_002_000 true,
    .send (answers 200 1_700_000_003_000), .update 1_700_000_003_000 ⟨1_700_000_003_000, true, true⟩,
    .handle (.deliver (answers 404 1_700_000_004_000)), .store]

theorem quiet_posted_once :
    ∃ s, Machine.exec (TestRun.step clockwork webhook event "del_1") .start quiet = some s ∧
      PostedOnce s := by
  obtain ⟨s, hs⟩ := Option.isSome_iff_exists.mp
    (show (Machine.exec (TestRun.step clockwork webhook event "del_1") .start quiet).isSome = true
      by decide)
  exact ⟨s, hs, posted_once clockwork webhook event "del_1" (by decide) hs⟩

/-- Two POSTs, and a delivery that has failed where the call has returned a success. -/
theorem test_posted_twice :
    ∃ s, Machine.exec (TestRun.step clockwork webhook event "del_1") .start disturbed = some s ∧
      s.posts = 2 ∧ (∃ result, s.call = .returned result ∧ result.success = true) ∧
      (currentRow s.rows).map DeliveryRow.status = some .failed ∧ ¬PostedOnce s := by
  have hrun : (Machine.exec (TestRun.step clockwork webhook event "del_1") .start disturbed).any
      (fun s => s.posts = 2 &&
        (match s.call with
          | .returned result => result.success
          | _ => false) &&
        (currentRow s.rows).map DeliveryRow.status = some .failed) = true := by decide
  obtain ⟨s, hs, hall⟩ := (Option.any_eq_true _ _).mp hrun
  simp only [Bool.and_eq_true, decide_eq_true_eq] at hall
  obtain ⟨⟨hposts, hcall⟩, hstatus⟩ := hall
  refine ⟨s, hs, hposts, ?_, hstatus, fun h => absurd (hposts ▸ h.once) (by decide)⟩
  split at hcall
  · rename_i result hreturned
    exact ⟨result, hreturned, hcall⟩
  · exact absurd hcall (by simp)

end TestExample

end Veridian.WebhookDeliveryWorker
