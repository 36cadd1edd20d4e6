/-
A call of `drainQueue` that throws.

What a delivery or a flush throws ends the call, and what is behind it is not begun.  So
the other webhooks of the batch are spared exactly when there are none behind it: the
webhooks are all looked up first, then the two loops go through the deliveries in order.
-/
import Veridian.Webhooks.DeliveryRuns
import Veridian.Webhooks.DrainQueue

namespace Veridian.WebhookDeliveryWorker

open TwentyConnector (Caches flushBatch)

/-! ### What throws -/

/-- The insert of a row with this schedule is not reported as done. -/
def InsertAnswer.refuses (clockwork : Clockwork) (insert : InsertAnswer) (scheduledAt : Int) :
    Bool :=
  !(insert.lands && insert.acknowledged && (clockwork.column scheduledAt).isSome)

def Pending.fails (clockwork : Clockwork) (pending : Pending) : Bool :=
  match pending.row with
  | none => true
  | some row => pending.insert.refuses clockwork row.scheduledAt

theorem storing_threw {clockwork : Clockwork} {post : Option Post} {row : Option DeliveryRow}
    {insert : InsertAnswer} :
    (Delivered.storing clockwork post row insert).threw = Pending.fails clockwork ⟨row, insert⟩ := by
  cases row with
  | none => rfl
  | some row =>
      show ((updateDelivery clockwork row insert).isNone || !insert.acknowledged) =
        !(insert.lands && insert.acknowledged && (clockwork.column row.scheduledAt).isSome)
      unfold updateDelivery
      cases insert.lands <;> cases insert.acknowledged <;>
        cases clockwork.column row.scheduledAt <;> rfl

theorem storeRows_threw {clockwork : Clockwork} :
    ∀ {rows : List Pending}, (storeRows clockwork rows).2 = rows.any (Pending.fails clockwork) := by
  intro rows
  induction rows with
  | nil => rfl
  | cons pending rest ih =>
      simp only [storeRows, List.any_cons]
      rw [storing_threw]
      cases Pending.fails clockwork pending with
      | true => rfl
      | false => exact ih

/-- The stored secret is needed and cannot be decrypted. -/
def Answers.undecryptable (webhook : WebhookRow) (answers : Answers) : Bool :=
  answers.ssrf.isNone && (match answers.render with | .ok _ => true | .error _ => false) &&
    (decryptSecret webhook answers.secret).isNone

/-- The schedule of the row that follows an attempt; `none` when its date throws. -/
def Answers.nextSchedule (clockwork : Clockwork) (webhook : WebhookRow) (delivery : DeliveryRow)
    (answers : Answers) : Option Int :=
  if webhook.active ∧ answers.sends webhook ∧ answers.fetch.retriable ∧
      ((delivery.attempt + 1 : Nat) : Int) ≤ webhook.retryConfig.maxAttempts then
    scheduleDate clockwork answers.now (backoffOf webhook.retryConfig delivery.attempt)
  else some delivery.scheduledAt

/-- The lookup of the webhook throws, or its secret cannot be decrypted, or there is no
date for the next attempt, or the row of the delivery is not taken. -/
def Answers.throws (clockwork : Clockwork) (delivery : DeliveryRow) (answers : Answers) : Bool :=
  match answers.webhook with
  | none => true
  | some none => answers.insert.refuses clockwork delivery.scheduledAt
  | some (some webhook) =>
      (webhook.active && answers.undecryptable webhook) ||
        ((answers.nextSchedule clockwork webhook delivery).map
          (answers.insert.refuses clockwork)).getD true

theorem sendOne_undecryptable {clockwork : Clockwork} {webhook : WebhookRow} {answers : Answers} :
    (sendOne clockwork webhook answers).2.isNone = answers.undecryptable webhook := by
  unfold sendOne Answers.undecryptable
  cases answers.ssrf with
  | some message => rfl
  | none =>
      cases hrender : answers.render with
      | error message => rfl
      | ok body =>
          simp only [buildHeaders]
          cases decryptSecret webhook answers.secret <;> rfl

/-- The row that is recorded has the next schedule. -/
theorem recordOutcome_schedule {clockwork : Clockwork} {webhook : WebhookRow}
    {delivery : DeliveryRow} {answers : Answers} {result : DeliveryAttemptResult}
    (hactive : webhook.active = true)
    (hresult : (sendOne clockwork webhook answers).2 = some result) :
    (recordOutcome clockwork webhook delivery result answers).map DeliveryRow.scheduledAt =
      answers.nextSchedule clockwork webhook delivery := by
  have hkept : ∀ {row}, (∃ r, row = some r ∧ DeliveryRow.scheduledAt r = delivery.scheduledAt) →
      row.map DeliveryRow.scheduledAt = some delivery.scheduledAt := by
    rintro row ⟨r, rfl, hr⟩
    exact congrArg some hr
  unfold Answers.nextSchedule
  by_cases hsends : answers.sends webhook = true
  · obtain rfl := Option.some.inj (hresult.symm.trans (sendOne_result hsends))
    have hfinal := final_of_result answers.fetch answers.latencyMs
    by_cases hretry : answers.fetch.retriable = true ∧
        ((delivery.attempt + 1 : Nat) : Int) ≤ webhook.retryConfig.maxAttempts
    · rw [if_pos ⟨hactive, hsends, hretry⟩,
        recordOutcome_retries (by rw [hfinal, hretry.1]; rfl) hretry.2, Option.map_map]
      cases scheduleDate clockwork answers.now
        (backoffOf webhook.retryConfig delivery.attempt) <;> rfl
    · rw [if_neg fun h => hretry h.2.2]
      refine hkept (recordOutcome_keeps ?_)
      rw [hfinal]
      by_cases hr : answers.fetch.retriable = true
      · exact Or.inr (not_le.mp fun hle => hretry ⟨hr, hle⟩)
      · exact Or.inl (by simpa using hr)
  · rw [if_neg fun h => hsends h.2.1]
    refine hkept (recordOutcome_keeps (Or.inl ?_))
    rw [sendOne_unsent (by simpa using hsends) hresult]
    simp

theorem deliverOne_threw {clockwork : Clockwork} {delivery : DeliveryRow} {answers : Answers} :
    (deliverOne clockwork delivery answers).threw = answers.throws clockwork delivery := by
  unfold deliverOne Answers.throws
  rcases answers.webhook with _ | _ | webhook
  · rfl
  · exact storing_threw
  · dsimp only
    by_cases hactive : webhook.active = true
    · have hsecret : (sendOne clockwork webhook answers).2.isNone = answers.undecryptable webhook :=
        sendOne_undecryptable
      simp only [← hsecret, hactive]
      simp only [Bool.not_true, Bool.false_eq_true, if_false, Bool.true_and]
      split
      · rename_i hsend
        rw [hsend]
        rfl
      · rename_i result hsend
        rw [storing_threw, ← recordOutcome_schedule hactive (by rw [hsend]), hsend]
        show Pending.fails clockwork _ = _
        unfold Pending.fails
        cases recordOutcome clockwork webhook delivery result answers <;> rfl
    · have hinactive : webhook.active = false := by simpa using hactive
      have hnext : answers.nextSchedule clockwork webhook delivery = some delivery.scheduledAt :=
        if_neg (by simp [hinactive])
      simp only [hinactive, hnext, storing_threw, Bool.not_false, if_true]
      rfl

/-- The flush of a group throws: its stored secret cannot be decrypted, or one of its rows
is not taken. -/
def GroupAnswers.throws (worker : Worker) (webhook : WebhookRow) (deliveries : List DeliveryRow)
    (caches : Caches) (meter : Meter) (answers : GroupAnswers) : Bool :=
  let refused := deliveries.any fun d =>
    (answers.row d.id).insert.refuses worker.clockwork d.scheduledAt
  if webhook.active = false then refused
  else if decryptSecret webhook answers.secret = none then true
  else if answers.ssrf.isSome then refused
  else
    let flush := flushBatch (flushContext worker webhook answers) caches meter
      (deliveries.map fun d => (d, answers.look d.id)) answers.batch
    (outcomeRows worker.clockwork webhook deliveries answers flush.outcome).any
      (Pending.fails worker.clockwork)

theorem failedRows_fails {clockwork : Clockwork} {deliveries : List DeliveryRow}
    {answers : String → RowAnswers} {message : String} :
    (failedRows deliveries answers message).any (Pending.fails clockwork) =
      deliveries.any fun d => (answers d.id).insert.refuses clockwork d.scheduledAt := by
  unfold failedRows
  rw [List.any_map]
  rfl

theorem flushTwentyGroup_threw {worker : Worker} {webhook : WebhookRow}
    {deliveries : List DeliveryRow} {caches : Caches} {meter : Meter} {answers : GroupAnswers} :
    (flushTwentyGroup worker webhook deliveries caches meter answers).threw =
      answers.throws worker webhook deliveries caches meter := by
  have hstoring : ∀ flush rows, (GroupFlushed.storing worker webhook flush rows).threw =
      rows.any (Pending.fails worker.clockwork) := fun _ _ => storeRows_threw
  unfold flushTwentyGroup GroupAnswers.throws
  cases webhook.active with
  | false => exact (hstoring _ _).trans failedRows_fails
  | true =>
      cases decryptSecret webhook answers.secret with
      | none => rfl
      | some secret =>
          cases answers.ssrf with
          | some message => exact (hstoring _ _).trans failedRows_fails
          | none => exact hstoring _ _

/-- Whether a turn of the loops throws in the state it is taken in. -/
def Work.throws (worker : Worker) (answers : DrainAnswers) (s : Drained) : Work → Bool
  | .single delivery => (answers.deliver delivery.id).throws worker.clockwork delivery
  | .group webhookId webhook deliveries =>
      (answers.group webhookId).throws worker webhook deliveries s.caches s.meter

/-! ### The loops -/

section
variable {worker : Worker} {answers : DrainAnswers}

theorem process_threwAt {s : Drained} {work : Work} :
    (s.process worker answers work).threwAt =
      if work.throws worker answers s then some work.webhookId else none := by
  cases work with
  | single delivery =>
      simp only [Drained.process, Work.throws, deliverOne_threw]
      rfl
  | group webhookId webhook deliveries =>
      simp only [Drained.process, Work.throws, flushTwentyGroup_threw]
      rfl

theorem process_begun {s : Drained} {work : Work} :
    (s.process worker answers work).begun = s.begun ++ work.deliveries := by
  cases work <;> rfl

/-- The first turn that throws has nothing behind it that counts as other than its webhook. -/
def ThrowsBefore (worker : Worker) (answers : DrainAnswers) (other : String → DeliveryRow → Prop) :
    Drained → List Work → Prop
  | _, [] => True
  | s, work :: rest =>
      if work.throws worker answers s then
        ∀ later ∈ rest, ∀ d ∈ later.deliveries, ¬other work.webhookId d
      else ThrowsBefore worker answers other (s.process worker answers work) rest

/-- **The loops begin every other delivery exactly when what throws has none behind it.** -/
theorem drainWork_begun_iff {other : String → DeliveryRow → Prop} :
    ∀ {works : List Work} {s : Drained}, s.threwAt = none →
      ((∀ webhookId, (drainWork worker answers s works).threwAt = some webhookId →
          ∀ d, other webhookId d → (drainWork worker answers s works).begun.count d =
            s.begun.count d + (works.flatMap Work.deliveries).count d) ↔
        ThrowsBefore worker answers other s works) := by
  intro works
  induction works with
  | nil =>
      intro s hs
      exact iff_of_true (fun x hx => absurd (hs.symm.trans hx) (by simp)) trivial
  | cons work rest ih =>
      intro s hs
      have hcount : ∀ d, (s.process worker answers work).begun.count d =
          s.begun.count d + work.deliveries.count d := by
        intro d
        rw [process_begun, List.count_append]
      simp only [drainWork, ThrowsBefore, process_threwAt, List.flatMap_cons, List.count_append]
      by_cases h : work.throws worker answers s = true
      · simp only [h, if_true, Option.isSome_some, process_threwAt, hcount]
        constructor
        · intro hall later hlater d hd hother
          have hzero := hall work.webhookId rfl d hother
          have hmem : d ∈ rest.flatMap Work.deliveries := List.mem_flatMap.mpr ⟨later, hlater, hd⟩
          have hpos := List.count_pos_iff.mpr hmem
          omega
        · intro hnone x hx d hother
          obtain rfl := Option.some.inj hx
          have hzero : (rest.flatMap Work.deliveries).count d = 0 := by
            refine List.count_eq_zero.mpr fun hmem => ?_
            obtain ⟨later, hlater, hd⟩ := List.mem_flatMap.mp hmem
            exact hnone later hlater d hd hother
          omega
      · have hnone : (s.process worker answers work).threwAt = none := by
          rw [process_threwAt, if_neg h]
        rw [if_neg h, ← ih hnone]
        simp only [h, Bool.false_eq_true, if_false, Option.isSome_none, hcount, Nat.add_assoc]

/-- Without a throw everything is begun. -/
theorem drainWork_begun :
    ∀ {works : List Work} {s : Drained}, (drainWork worker answers s works).threwAt = none →
      (drainWork worker answers s works).begun = s.begun ++ works.flatMap Work.deliveries := by
  intro works
  induction works with
  | nil =>
      intro s _
      exact (List.append_nil _).symm
  | cons work rest ih =>
      intro s h
      simp only [drainWork] at h ⊢
      by_cases hthrows : (s.process worker answers work).threwAt.isSome = true
      · rw [if_pos hthrows] at h
        rw [h] at hthrows
        exact absurd hthrows (by simp)
      · rw [if_neg hthrows] at h ⊢
        rw [ih h, process_begun, List.flatMap_cons, List.append_assoc]

end

/-! ### Isolation -/

/-- Every delivery that counts as other than the webhook at which the call threw was begun:
as often as the batch has it. -/
def Isolated (other : String → DeliveryRow → Prop) (pending : List DeliveryRow)
    (drained : Drained) : Prop :=
  ∀ webhookId, drained.threwAt = some webhookId → ∀ d, other webhookId d →
    drained.begun.count d = pending.count d

/-- A webhook that cannot be looked up has no other delivery in the batch, and a delivery
or a flush that throws has none behind it. -/
structure Contained (other : String → DeliveryRow → Prop) (worker : Worker) (caches : Caches)
    (pending : List DeliveryRow) (answers : DrainAnswers) : Prop where
  lookups : ∀ webhookId, splitBatch answers.lookup ⟨[], []⟩ pending = .error webhookId →
    ∀ d ∈ pending, ¬other webhookId d
  loops : ∀ split, splitBatch answers.lookup ⟨[], []⟩ pending = .ok split →
    ThrowsBefore worker answers other (.start caches) (split.work answers.lookup)

theorem isolated_iff_contained {other : String → DeliveryRow → Prop} {worker : Worker} {caches : Caches}
    {pending : List DeliveryRow} {answers : DrainAnswers} :
    Isolated other pending (drainQueue worker caches pending answers) ↔
      Contained other worker caches pending answers := by
  unfold Isolated drainQueue
  cases hsplit : splitBatch answers.lookup ⟨[], []⟩ pending with
  | error webhookId =>
      constructor
      · intro h
        refine ⟨fun x hx d hd hother => ?_, fun split hok => absurd (hsplit.symm.trans hok) (by simp)⟩
        obtain rfl := Except.error.inj (hsplit.symm.trans hx)
        have hzero : 0 = pending.count d := h webhookId rfl d hother
        have hpos := List.count_pos_iff.mpr hd
        omega
      · intro h x hx d hother
        obtain rfl := Option.some.inj hx
        show 0 = pending.count d
        exact (List.count_eq_zero.mpr fun hd => h.lookups webhookId hsplit d hd hother).symm
  | ok split =>
      obtain ⟨hsorted, hperm⟩ := splitBatch_perm sorted_nil hsplit
      have hcount : ∀ d, ((split.work answers.lookup).flatMap Work.deliveries).count d =
          pending.count d := by
        intro d
        rw [hsorted.work_deliveries]
        exact hperm.count_eq d
      have hiff : _ ↔ ThrowsBefore worker answers other (.start caches) (split.work answers.lookup) :=
        drainWork_begun_iff rfl
      simp only [hcount, show (Drained.start caches).begun = [] from rfl, List.count_nil,
        Nat.zero_add] at hiff
      rw [hiff]
      constructor
      · intro h
        refine ⟨fun x hx => absurd (hsplit.symm.trans hx) (by simp), fun split' hok => ?_⟩
        obtain rfl := Except.ok.inj (hsplit.symm.trans hok)
        exact h
      · intro h
        exact h.loops split hsplit

/-- Without a throw the whole batch is begun. -/
theorem begun_perm_of_not_threw {worker : Worker} {caches : Caches} {pending : List DeliveryRow}
    {answers : DrainAnswers} (h : (drainQueue worker caches pending answers).threwAt = none) :
    (drainQueue worker caches pending answers).begun.Perm pending := by
  unfold drainQueue at h ⊢
  cases hsplit : splitBatch answers.lookup ⟨[], []⟩ pending with
  | error webhookId =>
      rw [hsplit] at h
      exact absurd h (by simp)
  | ok split =>
      rw [hsplit] at h
      obtain ⟨hsorted, hperm⟩ := splitBatch_perm sorted_nil hsplit
      show (drainWork worker answers (.start caches) (split.work answers.lookup)).begun.Perm pending
      rw [drainWork_begun h, hsorted.work_deliveries]
      exact hperm

/--
**What one webhook costs the others.**

For every batch and everything that may throw while it is processed: the deliveries of the
other webhooks are all begun if and only if what throws has none of them behind it, and
the whole batch is begun if and only if what throws has nothing behind it.
-/
theorem drain_isolation_iff (worker : Worker) (caches : Caches) (pending : List DeliveryRow)
    (answers : DrainAnswers) :
    (Isolated (fun webhookId d => d.webhookId ≠ webhookId) pending
        (drainQueue worker caches pending answers) ↔
      Contained (fun webhookId d => d.webhookId ≠ webhookId) worker caches pending answers) ∧
    ((drainQueue worker caches pending answers).begun.Perm pending ↔
      Contained (fun _ _ => True) worker caches pending answers) := by
  refine ⟨isolated_iff_contained, ?_⟩
  rw [← isolated_iff_contained]
  constructor
  · intro hperm x _ d _
    exact hperm.count_eq d
  · intro h
    cases hthrew : (drainQueue worker caches pending answers).threwAt with
    | none => exact begun_perm_of_not_threw hthrew
    | some webhookId => exact List.perm_iff_count.mpr fun d => h webhookId hthrew d trivial

namespace PoisonExample

def worker : Worker where
  clockwork := RetryExample.clockwork
  host := .bare
  parseBody := fun _ => ⟨none, "", "", none, none, none, ""⟩
  dryRun := false

/-- Two deliveries, each of a webhook of a workspace of its own. -/
def poisoned : DeliveryRow := RetryExample.delivery

def healthy : DeliveryRow :=
  { RetryExample.delivery with id := "del_2", webhookId := "wh_2", workspaceId := "w2" }

/-- The secret that is stored for the first webhook cannot be decrypted. -/
def answers : DrainAnswers where
  lookup := fun id => some (some { RetryExample.webhook DEFAULT_RETRY_CONFIG with
    id := id, authSecretEncrypted := if id = "wh_1" then "v1:garbage" else "" })
  deliver := fun id =>
    { webhook := some (some { RetryExample.webhook DEFAULT_RETRY_CONFIG with
        authSecretEncrypted := if id = "del_1" then "v1:garbage" else "" })
      ssrf := none, render := .ok "\x7b\x7d", secret := none
      fetch := .response 200 none (some "ok"), latencyMs := 12, sentAt := 1_700_000_010_000
      now := 1_700_000_010_000, insert := ⟨1_700_000_010_000, true, true⟩ }
  group := fun _ =>
    { secret := none, ssrf := none, crmConfig := none
      look := fun _ => ⟨none, 0, 0, 0, .missing⟩
      batch := ⟨0, .noAnswer, fun _ => ⟨0, none⟩⟩
      sentAt := 0, row := fun _ => ⟨0, 0, ⟨0, true, true⟩⟩ }

def caches : Caches := ⟨[], [], 50_000⟩

end PoisonExample

/-- A secret that cannot be decrypted keeps the delivery of another workspace from being begun. -/
theorem drain_stopped_by_secret :
    let drained := drainQueue PoisonExample.worker PoisonExample.caches
      [PoisonExample.poisoned, PoisonExample.healthy] PoisonExample.answers
    drained.threwAt = some "wh_1" ∧ drained.begun = [PoisonExample.poisoned] ∧
      PoisonExample.healthy.workspaceId ≠ PoisonExample.poisoned.workspaceId ∧
      ¬Isolated (fun webhookId d => d.webhookId ≠ webhookId)
        [PoisonExample.poisoned, PoisonExample.healthy] drained := by
  intro drained
  have hthrew : drained.threwAt = some "wh_1" := by decide
  have hbegun : drained.begun = [PoisonExample.poisoned] := by decide
  refine ⟨hthrew, hbegun, by decide, fun h => ?_⟩
  have hcount := h "wh_1" hthrew PoisonExample.healthy (by decide)
  rw [hbegun] at hcount
  exact absurd hcount (by decide)

end Veridian.WebhookDeliveryWorker
