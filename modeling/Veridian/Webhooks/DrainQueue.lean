/-
One call of `drainQueue`.

The ready deliveries are split by the kind of their webhook.  The generic ones are
delivered one by one, then the Twenty ones in one flush for each webhook, which share one
budget.  Nothing around the two loops catches what a delivery or a flush throws: the call
ends there.

A flush stores the rows of its group after the connector is done.  The connector catches
what its own calls throw, so the branch for a crash of it is not taken.
-/
import Mathlib.Data.List.Perm.Basic
import Veridian.Webhooks.TwentyConnector

namespace Veridian.WebhookDeliveryWorker

open TwentyConnector (Caches BatchAnswers ConnectorOutcome DeliveryAnswers Flush FlushContext
  flushBatch)
open TwentyEventMapper (TrackedPayload WorkspaceCrmMapping)

def TWENTY_BUDGET_PER_MIN : Nat := 100

def TWENTY_ORPHAN_BACKOFF_MS : ℚ := 5 * 60_000

/-- `TwentyConnectorService.isTwentyDestination` -/
def isTwentyDestination (webhook : WebhookRow) : Bool :=
  match webhook.transform with
  | some (.twenty _) => true
  | _ => false

/-- What the worker is set up with. -/
structure Worker where
  clockwork : Clockwork
  host : Host
  /-- `parseBody`, as far as it is read. -/
  parseBody : String → TrackedPayload
  /-- `TWENTY_CONNECTOR_DRY_RUN` is `true`. -/
  dryRun : Bool

/-! ### The rows of a group -/

/-- What the storing of one row is answered. -/
structure RowAnswers where
  now : Int
  sentAt : Int
  insert : InsertAnswer

/-- What one flush is answered. -/
structure GroupAnswers where
  /-- `crypto.decryptSecret` of a stored secret: `none` when it throws. -/
  secret : Option String
  /-- The message of `assertSafeUrlResolved`, if it rejects. -/
  ssrf : Option String
  crmConfig : Option WorkspaceCrmMapping
  /-- By the id of the delivery. -/
  look : String → DeliveryAnswers
  batch : BatchAnswers
  sentAt : Int
  /-- By the id of the delivery. -/
  row : String → RowAnswers

/-- The row handed to `updateDelivery`; `none` when the date of the next attempt throws. -/
def scheduleConnectorRetry (clockwork : Clockwork) (webhook : WebhookRow) (delivery : DeliveryRow)
    (reason : String) (overrideBackoffMs : Option ℚ) (answers : RowAnswers) :
    Option DeliveryRow :=
  if webhook.retryConfig.maxAttempts < (delivery.attempt + 1 : Nat) then
    some { delivery with
      status := .gaveUp, sentAt := some answers.sentAt, errorMessage := reason }
  else
    let backoff := (overrideBackoffMs.map Backoff.number).getD
      (backoffOf webhook.retryConfig delivery.attempt)
    (scheduleDate clockwork answers.now backoff).map fun scheduledAt =>
      { delivery with
        status := .retrying
        attempt := delivery.attempt + 1
        scheduledAt := scheduledAt
        sentAt := some answers.sentAt
        errorMessage := reason }

/-- `new Map(deliveries.map((d) => [d.id, d])).get(id)` -/
def byId (deliveries : List DeliveryRow) (id : String) : Option DeliveryRow :=
  deliveries.reverse.find? fun delivery => delivery.id = id

/-- A row to store, unless there is none because its date throws. -/
structure Pending where
  row : Option DeliveryRow
  insert : InsertAnswer

/-- The rows of the deliveries with the given ids, in this order. -/
def rowsOf (deliveries : List DeliveryRow) (answers : String → RowAnswers)
    (row : DeliveryRow → RowAnswers → Option DeliveryRow) (ids : List String) : List Pending :=
  ids.filterMap fun id =>
    (byId deliveries id).map fun delivery => ⟨row delivery (answers id), (answers id).insert⟩

/-- The rows of a flush that did not get as far as the connector. -/
def failedRows (deliveries : List DeliveryRow) (answers : String → RowAnswers)
    (message : String) : List Pending :=
  deliveries.map fun delivery =>
    ⟨some { delivery with status := .failed, errorMessage := message },
      (answers delivery.id).insert⟩

/-- The rows that `outcome` asks for. -/
def outcomeRows (clockwork : Clockwork) (webhook : WebhookRow) (deliveries : List DeliveryRow)
    (answers : GroupAnswers) (outcome : ConnectorOutcome) : List Pending :=
  rowsOf deliveries answers.row
      (fun d _ => some { d with
        status := .success, sentAt := some answers.sentAt, httpStatus := some 200
        errorMessage := "" })
      outcome.written ++
    rowsOf deliveries answers.row
      (fun d _ => some { d with
        status := .success, sentAt := some answers.sentAt
        errorMessage := "skipped: not a timeline milestone" })
      outcome.skipped ++
    rowsOf deliveries answers.row
      (fun d answers => scheduleConnectorRetry clockwork webhook d "orphan: Person not found"
        (some TWENTY_ORPHAN_BACKOFF_MS) answers)
      outcome.orphans ++
    rowsOf deliveries answers.row
      (fun d answers => scheduleConnectorRetry clockwork webhook d "twenty: write/budget failure"
        none answers)
      outcome.failed

/-- Storing the rows one by one until it throws: the rows stored, and whether it did. -/
def storeRows (clockwork : Clockwork) : List Pending → List DeliveryRow × Bool
  | [] => ([], false)
  | pending :: rest =>
      let delivered := Delivered.storing clockwork none pending.row pending.insert
      if delivered.threw then (delivered.stored.toList, true)
      else
        let more := storeRows clockwork rest
        (delivered.stored.toList ++ more.1, more.2)

/-! ### The flush of a group -/

/-- What a flush leaves behind. -/
structure GroupFlushed where
  webhook : WebhookRow
  /-- What the connector made of the group, if it was asked. -/
  flush : Option Flush
  stored : List DeliveryRow
  threw : Bool

def flushContext (worker : Worker) (webhook : WebhookRow) (answers : GroupAnswers) :
    FlushContext where
  host := worker.host
  parseBody := worker.parseBody
  workspaceId := webhook.workspaceId
  crmConfig := answers.crmConfig
  dryRun := webhook.transform = some (.twenty true) || worker.dryRun

/-- A flush that stores some rows. -/
def GroupFlushed.storing (worker : Worker) (webhook : WebhookRow) (flush : Option Flush)
    (rows : List Pending) : GroupFlushed :=
  let stored := storeRows worker.clockwork rows
  { webhook := webhook, flush := flush, stored := stored.1, threw := stored.2 }

def flushTwentyGroup (worker : Worker) (webhook : WebhookRow) (deliveries : List DeliveryRow)
    (caches : Caches) (meter : Meter) (answers : GroupAnswers) : GroupFlushed :=
  if !webhook.active then
    .storing worker webhook none (failedRows deliveries answers.row "webhook is inactive")
  else
    match decryptSecret webhook answers.secret with
    | none => { webhook := webhook, flush := none, stored := [], threw := true }
    | some _ =>
        match answers.ssrf with
        | some message =>
            .storing worker webhook none (failedRows deliveries answers.row ("ssrf: " ++ message))
        | none =>
            let flush := flushBatch (flushContext worker webhook answers) caches meter
              (deliveries.map fun d => (d, answers.look d.id)) answers.batch
            .storing worker webhook (some flush)
              (outcomeRows worker.clockwork webhook deliveries answers flush.outcome)

/-! ### The queue -/

/-- What one call is answered. -/
structure DrainAnswers where
  /-- `findByIdInternal` of each webhook while the batch is split: `none` when it throws. -/
  lookup : String → Option (Option WebhookRow)
  /-- By the id of a generic delivery. -/
  deliver : String → Answers
  /-- By the id of a Twenty webhook. -/
  group : String → GroupAnswers

/-- One turn of the two loops. -/
inductive Work where
  | single (delivery : DeliveryRow)
  | group (webhookId : String) (webhook : WebhookRow) (deliveries : List DeliveryRow)

def Work.webhookId : Work → String
  | .single delivery => delivery.webhookId
  | .group webhookId _ _ => webhookId

def Work.deliveries : Work → List DeliveryRow
  | .single delivery => [delivery]
  | .group _ _ deliveries => deliveries

structure Split where
  twentyGroups : List (String × List DeliveryRow)
  generic : List DeliveryRow

/-- The split of the batch, or the webhook that could not be looked up. -/
def splitBatch (lookup : String → Option (Option WebhookRow)) :
    Split → List DeliveryRow → Except String Split
  | split, [] => .ok split
  | split, delivery :: rest =>
      match lookup delivery.webhookId with
      | none => .error delivery.webhookId
      | some webhook =>
          if webhook.any isTwentyDestination then
            splitBatch lookup
              { split with
                twentyGroups := Assoc.push split.twentyGroups delivery.webhookId delivery } rest
          else splitBatch lookup { split with generic := split.generic ++ [delivery] } rest

/-- The generic deliveries, then the groups of the webhooks that were found. -/
def Split.work (lookup : String → Option (Option WebhookRow)) (split : Split) : List Work :=
  split.generic.map .single ++
    split.twentyGroups.filterMap fun group =>
      (lookup group.1).join.map fun webhook => .group group.1 webhook group.2

/-- What a call has done so far. -/
structure Drained where
  caches : Caches
  meter : Meter
  /-- The deliveries that were begun. -/
  begun : List DeliveryRow
  stored : List DeliveryRow
  /-- The flushes that were begun. -/
  groups : List GroupFlushed
  /-- The webhook at which the call threw. -/
  threwAt : Option String

def Drained.start (caches : Caches) : Drained where
  caches := caches
  meter := ⟨.new TWENTY_BUDGET_PER_MIN, []⟩
  begun := []
  stored := []
  groups := []
  threwAt := none

def Drained.process (worker : Worker) (answers : DrainAnswers) (s : Drained) : Work → Drained
  | .single delivery =>
      let delivered := deliverOne worker.clockwork delivery (answers.deliver delivery.id)
      { s with
        begun := s.begun ++ [delivery]
        stored := s.stored ++ delivered.stored.toList
        threwAt := if delivered.threw then some delivery.webhookId else none }
  | .group webhookId webhook deliveries =>
      let flushed := flushTwentyGroup worker webhook deliveries s.caches s.meter
        (answers.group webhookId)
      { caches := (flushed.flush.map Flush.caches).getD s.caches
        meter := (flushed.flush.map Flush.meter).getD s.meter
        begun := s.begun ++ deliveries
        stored := s.stored ++ flushed.stored
        groups := s.groups ++ [flushed]
        threwAt := if flushed.threw then some webhookId else none }

/-- The two loops. -/
def drainWork (worker : Worker) (answers : DrainAnswers) : Drained → List Work → Drained
  | s, [] => s
  | s, work :: rest =>
      let s := s.process worker answers work
      if s.threwAt.isSome then s else drainWork worker answers s rest

def drainQueue (worker : Worker) (caches : Caches) (pending : List DeliveryRow)
    (answers : DrainAnswers) : Drained :=
  match splitBatch answers.lookup ⟨[], []⟩ pending with
  | .error webhookId => { Drained.start caches with threwAt := some webhookId }
  | .ok split => drainWork worker answers (.start caches) (split.work answers.lookup)

/-! ### The split -/

/-- The webhook was found, and is a Twenty destination. -/
def isTwenty (lookup : String → Option (Option WebhookRow)) (webhookId : String) : Bool :=
  (lookup webhookId).join.any isTwentyDestination

/-- The deliveries are where their webhooks belong. -/
structure Split.Sorted (lookup : String → Option (Option WebhookRow)) (split : Split) : Prop where
  generic : ∀ d ∈ split.generic, isTwenty lookup d.webhookId = false
  twenty : ∀ group ∈ split.twentyGroups, isTwenty lookup group.1 = true
  grouped : ∀ group ∈ split.twentyGroups, ∀ d ∈ group.2, d.webhookId = group.1

theorem sorted_nil {lookup : String → Option (Option WebhookRow)} :
    Split.Sorted lookup ⟨[], []⟩ :=
  ⟨fun d hd => absurd hd (by simp), fun group hgroup => absurd hgroup (by simp),
    fun group hgroup => absurd hgroup (by simp)⟩

def Split.deliveries (split : Split) : List DeliveryRow :=
  split.generic ++ split.twentyGroups.flatMap Prod.snd

theorem Split.Sorted.work_deliveries {lookup : String → Option (Option WebhookRow)}
    {split : Split} (h : split.Sorted lookup) :
    (split.work lookup).flatMap Work.deliveries = split.deliveries := by
  have hgroups : ∀ {groups : List (String × List DeliveryRow)},
      (∀ group ∈ groups, isTwenty lookup group.1 = true) →
      (groups.filterMap fun group =>
        (lookup group.1).join.map fun webhook => Work.group group.1 webhook group.2).flatMap
          Work.deliveries = groups.flatMap Prod.snd := by
    intro groups
    induction groups with
    | nil => intro _; rfl
    | cons group rest ih =>
        intro htwenty
        obtain ⟨webhook, hwebhook, -⟩ :=
          (Option.any_eq_true _ _).mp (htwenty group List.mem_cons_self)
        rw [List.filterMap_cons, hwebhook, List.flatMap_cons]
        exact congrArg (group.2 ++ ·) (ih fun g hg => htwenty g (List.mem_cons_of_mem _ hg))
  have hsingles : (split.generic.map Work.single).flatMap Work.deliveries = split.generic := by
    rw [List.flatMap_map]
    exact List.flatMap_singleton' split.generic
  unfold Split.work Split.deliveries
  rw [List.flatMap_append, hsingles, hgroups h.twenty]

/-- A turn of the loops has deliveries of one kind. -/
inductive Work.Fits (lookup : String → Option (Option WebhookRow)) : Work → Prop
  | single (delivery : DeliveryRow) (h : isTwenty lookup delivery.webhookId = false) :
      Work.Fits lookup (.single delivery)
  | group (webhookId : String) (webhook : WebhookRow) (deliveries : List DeliveryRow)
      (hwebhook : (lookup webhookId).join = some webhook)
      (htwenty : isTwentyDestination webhook = true)
      (hgrouped : ∀ d ∈ deliveries, d.webhookId = webhookId) :
      Work.Fits lookup (.group webhookId webhook deliveries)

theorem Split.Sorted.work_fits {lookup : String → Option (Option WebhookRow)} {split : Split}
    (h : split.Sorted lookup) : ∀ work ∈ split.work lookup, work.Fits lookup := by
  intro work hwork
  rcases List.mem_append.mp hwork with hsingle | hflush
  · obtain ⟨d, hd, rfl⟩ := List.mem_map.mp hsingle
    exact .single d (h.generic d hd)
  · obtain ⟨group, hgroup, hwork⟩ := List.mem_filterMap.mp hflush
    obtain ⟨webhook, hwebhook, rfl⟩ := Option.map_eq_some_iff.mp hwork
    have htwenty := h.twenty group hgroup
    unfold isTwenty at htwenty
    rw [hwebhook] at htwenty
    exact .group group.1 webhook group.2 hwebhook htwenty (h.grouped group hgroup)

theorem Split.Sorted.push {lookup : String → Option (Option WebhookRow)} {split : Split}
    (h : split.Sorted lookup) {delivery : DeliveryRow}
    (htwenty : isTwenty lookup delivery.webhookId = true) :
    Split.Sorted lookup { split with
      twentyGroups := Assoc.push split.twentyGroups delivery.webhookId delivery } := by
  refine ⟨h.generic, fun group hgroup => ?_, fun group hgroup d hd => ?_⟩
  · rcases Assoc.mem_push hgroup with hold | ⟨hkey, -⟩
    · exact h.twenty group hold
    · rw [hkey]
      exact htwenty
  · rcases Assoc.mem_push hgroup with hold | ⟨hkey, hvalues⟩
    · exact h.grouped group hold d hd
    · rcases hvalues d hd with rfl | ⟨old, hold, hkey', hd'⟩
      · exact hkey.symm
      · rw [hkey, ← hkey']
        exact h.grouped old hold d hd'

/-- **The split hands on the deliveries of the batch.** -/
theorem splitBatch_perm {lookup : String → Option (Option WebhookRow)} :
    ∀ {pending : List DeliveryRow} {s split : Split}, s.Sorted lookup →
      splitBatch lookup s pending = .ok split →
      split.Sorted lookup ∧ split.deliveries.Perm (s.deliveries ++ pending) := by
  intro pending
  induction pending with
  | nil =>
      intro s split hsorted h
      obtain rfl := Except.ok.inj h
      exact ⟨hsorted, by rw [List.append_nil]⟩
  | cons delivery rest ih =>
      intro s split hsorted h
      unfold splitBatch at h
      split at h
      · exact absurd h (by simp)
      · rename_i webhook hlookup
        have hkind : isTwenty lookup delivery.webhookId = webhook.any isTwentyDestination := by
          unfold isTwenty
          rw [hlookup]
          rfl
        split at h
        · rename_i htwenty
          obtain ⟨hsorted', hperm⟩ := ih (hsorted.push (hkind.trans htwenty)) h
          refine ⟨hsorted', hperm.trans ?_⟩
          have hpush := ((Assoc.flatMap_push_perm (k := delivery.webhookId) (a := delivery)
            (m := s.twentyGroups)).append_left s.generic).append_right rest
          refine hpush.trans (List.Perm.of_eq ?_)
          simp [Split.deliveries]
        · rename_i hgeneric
          have hsorted₁ : Split.Sorted lookup { s with generic := s.generic ++ [delivery] } := by
            refine ⟨fun d hd => ?_, hsorted.twenty, hsorted.grouped⟩
            rcases List.mem_append.mp hd with hd | hd
            · exact hsorted.generic d hd
            · rw [List.mem_singleton.mp hd, hkind]
              simpa using hgeneric
          obtain ⟨hsorted', hperm⟩ := ih hsorted₁ h
          refine ⟨hsorted', hperm.trans ?_⟩
          show (s.generic ++ [delivery] ++ s.twentyGroups.flatMap Prod.snd ++ rest).Perm
            (s.generic ++ s.twentyGroups.flatMap Prod.snd ++ (delivery :: rest))
          have hswap : ([delivery] ++ s.twentyGroups.flatMap Prod.snd).Perm
              (s.twentyGroups.flatMap Prod.snd ++ [delivery]) := List.perm_append_comm
          have happ := (hswap.append_left s.generic).append_right rest
          simpa [List.append_assoc] using happ

end Veridian.WebhookDeliveryWorker
