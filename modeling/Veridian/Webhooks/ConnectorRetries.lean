/-
What the deliveries are charged for over many ticks.

A delivery that was not sent is stored with its next attempt, or gives up when it has none
left.  That is what its own failures cost: a Person that is not there, a request that
fails.  A delivery that found no token is among the failed ones of its flush, and nothing
tells it from them any more: it is charged as well.

Two things are recorded that nothing keeps: the failures of each delivery, and the rows of
deliveries that found no token.
-/
import Veridian.Lib.Machine
import Veridian.Webhooks.DeliveryRuns
import Veridian.Webhooks.DrainQueue

namespace Veridian.WebhookDeliveryWorker

open TwentyConnector (Caches ConnectorOutcome Flush)

/-! ### The row of a delivery -/

/-- A row that is stored of a delivery: it settles the delivery, or charges it. -/
inductive Charged (maxAttempts : Option Int) (failed : Prop) (delivery row : DeliveryRow) : Prop
  | settled (hstatus : row.status = .success ∨ row.status = .failed)
      (hattempt : row.attempt = delivery.attempt)
  | retried (hstatus : row.status = .retrying) (hattempt : row.attempt = delivery.attempt + 1)
      (hfailed : failed)
  | gaveUp (hstatus : row.status = .gaveUp) (hattempt : row.attempt = delivery.attempt)
      (hmax : ∃ max, maxAttempts = some max ∧ max ≤ delivery.attempt) (hfailed : failed)

structure RowOf (maxAttempts : Option Int) (failed : Prop) (delivery row : DeliveryRow) :
    Prop where
  id : row.id = delivery.id
  webhookId : row.webhookId = delivery.webhookId
  charged : Charged maxAttempts failed delivery row

theorem RowOf.mono {maxAttempts : Option Int} {failed failed' : Prop} {delivery row : DeliveryRow}
    (h : RowOf maxAttempts failed delivery row) (himp : failed → failed') :
    RowOf maxAttempts failed' delivery row := by
  refine ⟨h.id, h.webhookId, ?_⟩
  rcases h.charged with ⟨hs, ha⟩ | ⟨hs, ha, hf⟩ | ⟨hs, ha, hmax, hf⟩
  · exact .settled hs ha
  · exact .retried hs ha (himp hf)
  · exact .gaveUp hs ha hmax (himp hf)

theorem rowOf_failed {maxAttempts : Option Int} {failed : Prop} {delivery : DeliveryRow}
    (message : String) : RowOf maxAttempts failed delivery
      { delivery with status := .failed, errorMessage := message } :=
  ⟨rfl, rfl, .settled (Or.inr rfl) rfl⟩

/-- The insert changes nothing that a row says of its delivery. -/
theorem RowOf.updated {clockwork : Clockwork} {insert : InsertAnswer} {maxAttempts : Option Int}
    {failed : Prop} {delivery row stored : DeliveryRow} (h : RowOf maxAttempts failed delivery row)
    (hstored : updateDelivery clockwork row insert = some stored) :
    RowOf maxAttempts failed delivery stored := by
  unfold updateDelivery at hstored
  split at hstored
  · obtain ⟨held, -, rfl⟩ := Option.map_eq_some_iff.mp hstored
    refine ⟨h.id, h.webhookId, ?_⟩
    rcases h.charged with ⟨hs, ha⟩ | ⟨hs, ha, hf⟩ | ⟨hs, ha, hmax, hf⟩
    · exact .settled hs ha
    · exact .retried hs ha hf
    · exact .gaveUp hs ha hmax hf
  · exact absurd hstored (by simp)

/-! ### A generic delivery -/

/-- A request was made and asks for another. -/
def Answers.fails (answers : Answers) : Bool :=
  answers.webhook.join.any fun webhook =>
    webhook.active && answers.sends webhook && answers.fetch.retriable

def Answers.maxAttempts (answers : Answers) : Option Int :=
  answers.webhook.join.map fun webhook => webhook.retryConfig.maxAttempts

theorem recordOutcome_rowOf {clockwork : Clockwork} {webhook : WebhookRow}
    {delivery row : DeliveryRow} {answers : Answers} {result : DeliveryAttemptResult}
    (hresult : (sendOne clockwork webhook answers).2 = some result)
    (h : recordOutcome clockwork webhook delivery result answers = some row) :
    RowOf (some webhook.retryConfig.maxAttempts)
      (answers.sends webhook = true ∧ answers.fetch.retriable = true) delivery row := by
  -- Short of a final result, the request was made and asks for another.
  have hfailed : ¬(result.success || (result.isTerminalConfig || result.isClient4xx)) = true →
      answers.sends webhook = true ∧ answers.fetch.retriable = true := by
    intro hopen
    by_cases hsends : answers.sends webhook = true
    · obtain rfl := Option.some.inj (hresult.symm.trans (sendOne_result hsends))
      rw [final_of_result] at hopen
      exact ⟨hsends, by simpa using hopen⟩
    · rw [sendOne_unsent (by simpa using hsends) hresult] at hopen
      exact absurd (by simp) hopen
  simp only [recordOutcome] at h
  split at h
  · obtain rfl := Option.some.inj h
    exact ⟨rfl, rfl, .settled (Or.inl rfl) rfl⟩
  · rename_i hsuccess
    split at h
    · obtain rfl := Option.some.inj h
      exact ⟨rfl, rfl, .settled (Or.inr rfl) rfl⟩
    · rename_i hfinal
      have hretry := hfailed (by simpa using ⟨by simpa using hsuccess, by simpa using hfinal⟩)
      split at h
      · rename_i hmax
        obtain rfl := Option.some.inj h
        exact ⟨rfl, rfl, .gaveUp rfl rfl ⟨_, rfl, by push_cast at hmax; omega⟩ hretry⟩
      · obtain ⟨date, -, rfl⟩ := Option.map_eq_some_iff.mp h
        exact ⟨rfl, rfl, .retried rfl rfl hretry⟩

theorem deliverOne_rowOf {clockwork : Clockwork} {delivery row : DeliveryRow} {answers : Answers}
    (h : (deliverOne clockwork delivery answers).stored = some row) :
    RowOf answers.maxAttempts (answers.fails = true) delivery row := by
  have hstoring : ∀ post r, (Delivered.storing clockwork post r answers.insert).stored = some row →
      ∃ r', r = some r' ∧ updateDelivery clockwork r' answers.insert = some row := by
    intro post r hstored
    cases r with
    | none => exact absurd hstored (by simp [Delivered.storing])
    | some r => exact ⟨r, rfl, hstored⟩
  unfold deliverOne at h
  split at h
  · exact absurd h (by simp)
  · obtain ⟨r, hr, hstored⟩ := hstoring _ _ h
    obtain rfl := Option.some.inj hr
    exact (rowOf_failed _).updated hstored
  · rename_i webhook hwebhook
    have hmax : answers.maxAttempts = some webhook.retryConfig.maxAttempts := by
      unfold Answers.maxAttempts
      rw [hwebhook]
      rfl
    have hfails : answers.fails =
        (webhook.active && answers.sends webhook && answers.fetch.retriable) := by
      unfold Answers.fails
      rw [hwebhook]
      rfl
    split at h
    · obtain ⟨r, hr, hstored⟩ := hstoring _ _ h
      obtain rfl := Option.some.inj hr
      exact (rowOf_failed _).updated hstored
    · rename_i hactive
      split at h
      · exact absurd h (by simp)
      · rename_i post result hsend
        obtain ⟨r, hr, hstored⟩ := hstoring _ _ h
        rw [hmax]
        refine ((recordOutcome_rowOf (by rw [hsend]) hr).updated hstored).mono fun hretry => ?_
        rw [hfails, hretry.1, hretry.2]
        simpa using hactive

/-! ### A group -/

/-- The deliveries of a flush that failed by themselves: there is no Person, or the request
for one, or that of the batch, failed. -/
def Flush.failures (s : Flush) : List String :=
  s.outcome.orphans ++ s.outcome.failed.filter fun id => id ∉ s.refused

def GroupFlushed.failures (flushed : GroupFlushed) : List String :=
  (flushed.flush.map Flush.failures).getD []

def GroupFlushed.refused (flushed : GroupFlushed) : List String :=
  (flushed.flush.map Flush.refused).getD []

theorem byId_eq_some {deliveries : List DeliveryRow} {id : String} {d : DeliveryRow}
    (h : byId deliveries id = some d) : d ∈ deliveries ∧ d.id = id := by
  unfold byId at h
  refine ⟨List.mem_reverse.mp (List.mem_of_find?_eq_some h), ?_⟩
  simpa using List.find?_some h

theorem storeRows_stored {clockwork : Clockwork} {row : DeliveryRow} :
    ∀ {rows : List Pending}, row ∈ (storeRows clockwork rows).1 →
      ∃ p ∈ rows, ∃ r, p.row = some r ∧ updateDelivery clockwork r p.insert = some row := by
  intro rows
  induction rows with
  | nil => intro h; exact absurd h (by simp [storeRows])
  | cons pending rest ih =>
      intro h
      have hhere : row ∈ (Delivered.storing clockwork none pending.row
          pending.insert).stored.toList →
          ∃ p ∈ pending :: rest, ∃ r, p.row = some r ∧
            updateDelivery clockwork r p.insert = some row := by
        intro hrow
        have hstored := Option.mem_toList.mp hrow
        cases hr : pending.row with
        | none =>
            rw [hr] at hstored
            exact absurd hstored (by simp [Delivered.storing])
        | some r =>
            rw [hr] at hstored
            exact ⟨pending, List.mem_cons_self, r, hr, hstored⟩
      simp only [storeRows] at h
      split at h
      · exact hhere h
      · rcases List.mem_append.mp h with h | h
        · exact hhere h
        · obtain ⟨p, hp, hrow⟩ := ih h
          exact ⟨p, List.mem_cons_of_mem _ hp, hrow⟩

theorem scheduleConnectorRetry_rowOf {clockwork : Clockwork} {webhook : WebhookRow}
    {delivery row : DeliveryRow} {reason : String} {overrideBackoffMs : Option ℚ}
    {answers : RowAnswers} {failed : Prop} (hfailed : failed)
    (h : scheduleConnectorRetry clockwork webhook delivery reason overrideBackoffMs answers =
      some row) : RowOf (some webhook.retryConfig.maxAttempts) failed delivery row := by
  unfold scheduleConnectorRetry at h
  split at h
  · rename_i hmax
    obtain rfl := Option.some.inj h
    exact ⟨rfl, rfl, .gaveUp rfl rfl ⟨_, rfl, by push_cast at hmax; omega⟩ hfailed⟩
  · obtain ⟨date, -, rfl⟩ := Option.map_eq_some_iff.mp h
    exact ⟨rfl, rfl, .retried rfl rfl hfailed⟩

/-- The rows of some ids are rows of the deliveries with them. -/
theorem rowsOf_row {deliveries : List DeliveryRow} {answers : String → RowAnswers}
    {row : DeliveryRow → RowAnswers → Option DeliveryRow} {ids : List String} {p : Pending}
    (h : p ∈ rowsOf deliveries answers row ids) :
    ∃ d ∈ deliveries, d.id ∈ ids ∧ p.row = row d (answers d.id) := by
  obtain ⟨id, hid, hp⟩ := List.mem_filterMap.mp h
  obtain ⟨d, hd, rfl⟩ := Option.map_eq_some_iff.mp hp
  obtain ⟨hmem, rfl⟩ := byId_eq_some hd
  exact ⟨d, hmem, hid, rfl⟩

theorem outcomeRows_rowOf {clockwork : Clockwork} {webhook : WebhookRow}
    {deliveries : List DeliveryRow} {answers : GroupAnswers} {outcome : ConnectorOutcome}
    {p : Pending} {row : DeliveryRow}
    (h : p ∈ outcomeRows clockwork webhook deliveries answers outcome) (hrow : p.row = some row) :
    ∃ d ∈ deliveries, RowOf (some webhook.retryConfig.maxAttempts)
      (d.id ∈ outcome.orphans ∨ d.id ∈ outcome.failed) d row := by
  unfold outcomeRows at h
  rcases List.mem_append.mp h with h | h
  · rcases List.mem_append.mp h with h | h
    · rcases List.mem_append.mp h with h | h
      · obtain ⟨d, hd, -, hp⟩ := rowsOf_row h
        obtain rfl := Option.some.inj (hp.symm.trans hrow)
        exact ⟨d, hd, rfl, rfl, .settled (Or.inl rfl) rfl⟩
      · obtain ⟨d, hd, -, hp⟩ := rowsOf_row h
        obtain rfl := Option.some.inj (hp.symm.trans hrow)
        exact ⟨d, hd, rfl, rfl, .settled (Or.inl rfl) rfl⟩
    · obtain ⟨d, hd, hid, hp⟩ := rowsOf_row h
      exact ⟨d, hd, scheduleConnectorRetry_rowOf (Or.inl hid) (hp.symm.trans hrow)⟩
  · obtain ⟨d, hd, hid, hp⟩ := rowsOf_row h
    exact ⟨d, hd, scheduleConnectorRetry_rowOf (Or.inr hid) (hp.symm.trans hrow)⟩

theorem failedRows_rowOf {deliveries : List DeliveryRow} {answers : String → RowAnswers}
    {message : String} {p : Pending} {row : DeliveryRow} {maxAttempts : Option Int}
    {failed : DeliveryRow → Prop}
    (h : p ∈ failedRows deliveries answers message) (hrow : p.row = some row) :
    ∃ d ∈ deliveries, RowOf maxAttempts (failed d) d row := by
  obtain ⟨d, hd, rfl⟩ := List.mem_map.mp h
  obtain rfl := Option.some.inj hrow
  exact ⟨d, hd, rowOf_failed message⟩

/-- **A row that a flush stores charges a delivery only for a failure or for want of a token.** -/
theorem flushTwentyGroup_rowOf {worker : Worker} {webhook : WebhookRow}
    {deliveries : List DeliveryRow} {caches : Caches} {meter : Meter} {answers : GroupAnswers}
    {row : DeliveryRow}
    (h : row ∈ (flushTwentyGroup worker webhook deliveries caches meter answers).stored) :
    ∃ d ∈ deliveries, RowOf (some webhook.retryConfig.maxAttempts)
      (d.id ∈ (flushTwentyGroup worker webhook deliveries caches meter answers).failures ∨
        d.id ∈ (flushTwentyGroup worker webhook deliveries caches meter answers).refused) d row := by
  generalize hflushed : flushTwentyGroup worker webhook deliveries caches meter answers =
    flushed at h ⊢
  unfold flushTwentyGroup at hflushed
  split at hflushed
  · subst hflushed
    obtain ⟨p, hp, r, hr, hstored⟩ := storeRows_stored h
    obtain ⟨d, hd, hrow⟩ := failedRows_rowOf hp hr
    exact ⟨d, hd, hrow.updated hstored⟩
  · split at hflushed
    · subst hflushed
      exact absurd h (by simp)
    · split at hflushed
      · subst hflushed
        obtain ⟨p, hp, r, hr, hstored⟩ := storeRows_stored h
        obtain ⟨d, hd, hrow⟩ := failedRows_rowOf hp hr
        exact ⟨d, hd, hrow.updated hstored⟩
      · subst hflushed
        obtain ⟨p, hp, r, hr, hstored⟩ := storeRows_stored h
        obtain ⟨d, hd, hrow⟩ := outcomeRows_rowOf hp hr
        refine ⟨d, hd, (hrow.updated hstored).mono fun hfailed => ?_⟩
        rcases hfailed with horphan | hfailed
        · exact Or.inl (List.mem_append_left _ horphan)
        · by_cases hrefused : d.id ∈ Flush.refused (TwentyConnector.flushBatch
              (flushContext worker webhook answers) caches meter
              (deliveries.map fun d => (d, answers.look d.id)) answers.batch)
          · exact Or.inr hrefused
          · exact Or.inl (List.mem_append_right _
              (List.mem_filter.mpr ⟨hfailed, by simpa using hrefused⟩))

/-! ### A call of `drainQueue` -/

/-- The deliveries that failed by themselves. -/
def Drained.failures (answers : DrainAnswers) (s : Drained) : List String :=
  ((s.begun.filter fun d => !isTwenty answers.lookup d.webhookId && (answers.deliver d.id).fails).map
    DeliveryRow.id) ++ s.groups.flatMap GroupFlushed.failures

/-- The deliveries that found no token. -/
def Drained.refused (s : Drained) : List String := s.groups.flatMap GroupFlushed.refused

/-- The attempts that a delivery has, as its webhook says in this call. -/
def DrainAnswers.maxAttempts (answers : DrainAnswers) (delivery : DeliveryRow) : Option Int :=
  if isTwenty answers.lookup delivery.webhookId then
    (answers.lookup delivery.webhookId).join.map fun webhook => webhook.retryConfig.maxAttempts
  else (answers.deliver delivery.id).maxAttempts

/-- The rows stored so far are rows of the batch. -/
def Explained (answers : DrainAnswers) (pending : List DeliveryRow) (s : Drained) : Prop :=
  ∀ row ∈ s.stored, ∃ d ∈ pending,
    RowOf (answers.maxAttempts d) (d.id ∈ s.failures answers ∨ d.id ∈ s.refused) d row

theorem mem_failures {answers : DrainAnswers} {s : Drained} {id : String} :
    id ∈ s.failures answers ↔
      (∃ d ∈ s.begun, isTwenty answers.lookup d.webhookId = false ∧
        (answers.deliver d.id).fails = true ∧ d.id = id) ∨
      ∃ flushed ∈ s.groups, id ∈ flushed.failures := by
  unfold Drained.failures
  rw [List.mem_append, List.mem_flatMap, List.mem_map]
  refine or_congr ⟨?_, ?_⟩ Iff.rfl
  · rintro ⟨d, hd, hid⟩
    obtain ⟨hmem, hfails⟩ := List.mem_filter.mp hd
    simp only [Bool.and_eq_true, Bool.not_eq_true'] at hfails
    exact ⟨d, hmem, hfails.1, hfails.2, hid⟩
  · rintro ⟨d, hmem, hgeneric, hfails, hid⟩
    exact ⟨d, List.mem_filter.mpr ⟨hmem, by rw [hgeneric, hfails]; rfl⟩, hid⟩

theorem Explained.process {worker : Worker} {answers : DrainAnswers} {pending : List DeliveryRow}
    {s : Drained} {work : Work} (h : Explained answers pending s) (hfits : work.Fits answers.lookup)
    (hwork : ∀ d ∈ work.deliveries, d ∈ pending) :
    Explained answers pending (s.process worker answers work) := by
  have hkept : ∀ id, id ∈ s.failures answers ∨ id ∈ s.refused →
      id ∈ (s.process worker answers work).failures answers ∨
        id ∈ (s.process worker answers work).refused := by
    intro id hid
    cases work with
    | single delivery =>
        refine hid.imp_left fun hfailed => mem_failures.mpr ?_
        refine (mem_failures.mp hfailed).imp_left ?_
        rintro ⟨d, hd, hrest⟩
        exact ⟨d, List.mem_append_left _ hd, hrest⟩
    | group webhookId webhook deliveries =>
        refine hid.imp (fun hfailed => mem_failures.mpr ?_) fun hrefused => ?_
        · refine (mem_failures.mp hfailed).imp ?_ ?_
          · rintro ⟨d, hd, hrest⟩
            exact ⟨d, List.mem_append_left _ hd, hrest⟩
          · rintro ⟨flushed, hflushed, hmem⟩
            exact ⟨flushed, List.mem_append_left _ hflushed, hmem⟩
        · obtain ⟨flushed, hflushed, hmem⟩ := List.mem_flatMap.mp hrefused
          exact List.mem_flatMap.mpr ⟨flushed, List.mem_append_left _ hflushed, hmem⟩
  intro row hrow
  have hold : row ∈ s.stored → ∃ d ∈ pending, RowOf (answers.maxAttempts d)
      (d.id ∈ (s.process worker answers work).failures answers ∨
        d.id ∈ (s.process worker answers work).refused) d row := by
    intro hrow
    obtain ⟨d, hd, hrow⟩ := h row hrow
    exact ⟨d, hd, hrow.mono (hkept d.id)⟩
  cases hfits with
  | single delivery hgeneric =>
      rcases List.mem_append.mp hrow with hrow | hrow
      · exact hold hrow
      · have hmax : answers.maxAttempts delivery = (answers.deliver delivery.id).maxAttempts := by
          unfold DrainAnswers.maxAttempts
          rw [hgeneric]
          rfl
        refine ⟨delivery, hwork delivery (List.mem_singleton.mpr rfl), ?_⟩
        rw [hmax]
        refine (deliverOne_rowOf (Option.mem_toList.mp hrow)).mono fun hfails => Or.inl ?_
        exact mem_failures.mpr (Or.inl ⟨delivery,
          List.mem_append_right _ (List.mem_singleton.mpr rfl), hgeneric, hfails, rfl⟩)
  | group webhookId webhook deliveries hwebhook htwenty hgrouped =>
      rcases List.mem_append.mp hrow with hrow | hrow
      · exact hold hrow
      · obtain ⟨d, hd, hrow⟩ := flushTwentyGroup_rowOf hrow
        have hmax : answers.maxAttempts d = some webhook.retryConfig.maxAttempts := by
          unfold DrainAnswers.maxAttempts isTwenty
          rw [hgrouped d hd, hwebhook]
          show (if isTwentyDestination webhook = true then _ else _) = _
          rw [if_pos htwenty]
          rfl
        refine ⟨d, hwork d hd, ?_⟩
        rw [hmax]
        refine hrow.mono fun hfailed => hfailed.imp (fun hmem => ?_) fun hmem => ?_
        · exact mem_failures.mpr (Or.inr ⟨_,
            List.mem_append_right _ (List.mem_singleton.mpr rfl), hmem⟩)
        · exact List.mem_flatMap.mpr ⟨_, List.mem_append_right _ (List.mem_singleton.mpr rfl), hmem⟩

theorem Explained.drainWork {worker : Worker} {answers : DrainAnswers}
    {pending : List DeliveryRow} :
    ∀ {works : List Work} {s : Drained}, Explained answers pending s →
      (∀ work ∈ works, work.Fits answers.lookup) →
      (∀ work ∈ works, ∀ d ∈ work.deliveries, d ∈ pending) →
      Explained answers pending (drainWork worker answers s works) := by
  intro works
  induction works with
  | nil => intro s h _ _; exact h
  | cons work rest ih =>
      intro s h hfits hworks
      have hstep : Explained answers pending (s.process worker answers work) :=
        h.process (hfits work List.mem_cons_self) (hworks work List.mem_cons_self)
      simp only [WebhookDeliveryWorker.drainWork]
      split
      · exact hstep
      · exact ih hstep (fun w hw => hfits w (List.mem_cons_of_mem _ hw))
          fun w hw => hworks w (List.mem_cons_of_mem _ hw)

/-- **A row that a call stores charges a delivery of the batch only for a failure or for want
of a token.** -/
theorem drainQueue_explained {worker : Worker} {caches : Caches} {pending : List DeliveryRow}
    {answers : DrainAnswers} :
    Explained answers pending (drainQueue worker caches pending answers) := by
  have hstart : ∀ {s : Drained}, s.stored = [] → Explained answers pending s :=
    fun hs row hrow => absurd hrow (by simp [hs])
  unfold drainQueue
  split
  · exact hstart rfl
  · rename_i split hsplit
    obtain ⟨hsorted, hperm⟩ := splitBatch_perm sorted_nil hsplit
    refine Explained.drainWork (hstart rfl) hsorted.work_fits fun work hwork d hd => ?_
    have hmem : d ∈ split.deliveries := by
      rw [← hsorted.work_deliveries]
      exact List.mem_flatMap.mpr ⟨work, hwork, hd⟩
    exact hperm.mem_iff.mp hmem

/-! ### Ticks -/

/-- What is in the table, what the connector has in its caches, and what was recorded. -/
structure QueueRun where
  rows : List DeliveryRow
  caches : Caches
  /-- The failures of deliveries, one for each call in which a delivery failed. -/
  failures : List String
  /-- Deliveries that found no token, with the rows that were stored of them. -/
  refusals : List (DeliveryRow × DeliveryRow)
  /-- The rows that give up, with the answers of the call. -/
  givenUp : List (DeliveryRow × DrainAnswers)

def QueueRun.start (caches : Caches) : QueueRun := ⟨[], caches, [], [], []⟩

inductive QueueAction where
  /-- `enqueueDelivery` -/
  | enqueue (delivery : DeliveryRow)
  | tick (readAt : Int) (pending : List DeliveryRow) (answers : DrainAnswers)

/-- `findReadyDeliveries`: at most fifty current rows that are due. -/
def QueueRun.findsReady (s : QueueRun) (readAt : Int) (pending : List DeliveryRow) : Bool :=
  (pending.all fun d =>
    currentRow (s.rows.filter fun row => row.id = d.id) = some d && d.ready readAt) &&
  (pending.map DeliveryRow.id).Nodup && pending.length ≤ 50

def QueueRun.step (worker : Worker) (s : QueueRun) : QueueAction → Option QueueRun
  | .enqueue delivery =>
      if delivery.attempt = 1 ∧ delivery.status = .pending ∧ ∀ row ∈ s.rows, row.id ≠ delivery.id then
        some { s with rows := s.rows ++ [delivery] }
      else none
  | .tick readAt pending answers =>
      if s.findsReady readAt pending then
        let drained := drainQueue worker s.caches pending answers
        some
          { rows := s.rows ++ drained.stored
            caches := drained.caches
            failures := s.failures ++ (drained.failures answers).dedup
            refusals := s.refusals ++
              (drained.stored.filter fun row => row.id ∈ drained.refused).filterMap fun row =>
                (byId pending row.id).map fun d => (d, row)
            givenUp := s.givenUp ++
              ((drained.stored.filter fun row => row.status = .gaveUp).map fun row => (row, answers)) }
      else none

/-- No delivery is refused a token, neither for the lookup of its Person nor for the batch. -/
def Unrefused (worker : Worker) (s : QueueRun) : QueueAction → Prop
  | .enqueue _ => True
  | .tick _ pending answers => (drainQueue worker s.caches pending answers).refused = []

instance (worker : Worker) (s : QueueRun) (a : QueueAction) : Decidable (Unrefused worker s a) :=
  match a with
  | .enqueue _ => isTrue trivial
  | .tick _ pending answers =>
      inferInstanceAs (Decidable ((drainQueue worker s.caches pending answers).refused = []))

/-- Every attempt but the first was paid for with a failure, and so was every attempt of a
delivery that gave up. -/
structure Paid (s : QueueRun) : Prop where
  attempts : ∀ row ∈ s.rows, row.attempt ≤ 1 + s.failures.count row.id
  refusals : ∀ refusal ∈ s.refusals, refusal.2.attempt = refusal.1.attempt
  givenUp : ∀ gaveUp ∈ s.givenUp, ∃ max, gaveUp.2.maxAttempts gaveUp.1 = some max ∧
    max ≤ s.failures.count gaveUp.1.id

theorem RowOf.maxAttempts_eq {answers : DrainAnswers} {maxAttempts : Option Int} {failed : Prop}
    {delivery row : DeliveryRow} (h : RowOf maxAttempts failed delivery row) :
    answers.maxAttempts row = answers.maxAttempts delivery := by
  unfold DrainAnswers.maxAttempts
  rw [h.id, h.webhookId]

theorem findsReady_mem {s : QueueRun} {readAt : Int} {pending : List DeliveryRow}
    (h : s.findsReady readAt pending = true) : ∀ d ∈ pending, d ∈ s.rows := by
  intro d hd
  simp only [QueueRun.findsReady, Bool.and_eq_true, List.all_eq_true, decide_eq_true_eq] at h
  exact List.mem_of_mem_filter (Replacing.newest_mem _ (h.1.1 d hd).1)

/-- **A step that refuses no token keeps everything paid.** -/
theorem Paid.step {worker : Worker} {s s' : QueueRun} {a : QueueAction} (h : Paid s)
    (hunrefused : Unrefused worker s a) (hstep : s.step worker a = some s') : Paid s' := by
  cases a with
  | enqueue delivery =>
      simp only [QueueRun.step] at hstep
      split at hstep
      · rename_i hnew
        obtain rfl := Option.some.inj hstep
        refine ⟨fun row hrow => ?_, h.refusals, h.givenUp⟩
        rcases List.mem_append.mp hrow with hrow | hrow
        · exact h.attempts row hrow
        · rw [List.mem_singleton.mp hrow, hnew.1]
          exact Nat.le_add_right _ _
      · exact absurd hstep (by simp)
  | tick readAt pending answers =>
      simp only [QueueRun.step] at hstep
      split at hstep
      · rename_i hready
        obtain rfl := Option.some.inj hstep
        have hrefused : (drainQueue worker s.caches pending answers).refused = [] := hunrefused
        -- What is stored is paid for by the failure it follows.
        have hrows : ∀ row ∈ (drainQueue worker s.caches pending answers).stored,
            row.attempt ≤ 1 + (s.failures.count row.id + ((drainQueue worker s.caches pending
              answers).failures answers).dedup.count row.id) ∧
            (row.status = .gaveUp → ∃ max, answers.maxAttempts row = some max ∧
              max ≤ ((s.failures.count row.id + ((drainQueue worker s.caches pending
                answers).failures answers).dedup.count row.id : Nat) : Int)) := by
          intro row hrow
          obtain ⟨d, hd, hrowOf⟩ := drainQueue_explained row hrow
          have hattempts := h.attempts d (findsReady_mem hready d hd)
          have hcount : (d.id ∈ (drainQueue worker s.caches pending answers).failures answers ∨
              d.id ∈ (drainQueue worker s.caches pending answers).refused) →
              0 < ((drainQueue worker s.caches pending answers).failures answers).dedup.count
                d.id := by
            intro hfailed
            rw [hrefused] at hfailed
            exact List.count_pos_iff.mpr (List.mem_dedup.mpr (hfailed.resolve_right (by simp)))
          rw [hrowOf.maxAttempts_eq, hrowOf.id]
          rcases hrowOf.charged with ⟨hstatus, hattempt⟩ | ⟨hstatus, hattempt, hfailed⟩ |
            ⟨hstatus, hattempt, ⟨max, hmax, hle⟩, hfailed⟩
          · refine ⟨by omega, fun hgaveUp => ?_⟩
            rcases hstatus with hs | hs <;> exact absurd (hs.symm.trans hgaveUp) (by simp)
          · have hpos := hcount hfailed
            exact ⟨by omega, fun hgaveUp => absurd (hstatus.symm.trans hgaveUp) (by simp)⟩
          · have hpos := hcount hfailed
            exact ⟨by omega, fun _ => ⟨max, hmax, by omega⟩⟩
        refine ⟨fun row hrow => ?_, fun refusal hrefusal => ?_, fun gaveUp hgaveUp => ?_⟩
        · rw [List.count_append]
          rcases List.mem_append.mp hrow with hold | hnew
          · have hattempts := h.attempts row hold
            omega
          · exact (hrows row hnew).1
        · rcases List.mem_append.mp hrefusal with hold | hnew
          · exact h.refusals refusal hold
          · obtain ⟨row, hrow, -⟩ := List.mem_filterMap.mp hnew
            have hmem := (List.mem_filter.mp hrow).2
            rw [hrefused] at hmem
            exact absurd hmem (by simp)
        · rw [List.count_append]
          rcases List.mem_append.mp hgaveUp with hold | hnew
          · obtain ⟨max, hmax, hle⟩ := h.givenUp gaveUp hold
            exact ⟨max, hmax, by omega⟩
          · obtain ⟨row, hrow, rfl⟩ := List.mem_map.mp hnew
            obtain ⟨hstored, hstatus⟩ := List.mem_filter.mp hrow
            exact (hrows row hstored).2 (of_decide_eq_true hstatus)
      · exact absurd hstep (by simp)

/--
**Attempts are for failures.**

In every run of ticks, over whatever is enqueued, that refuses no delivery a token: a
delivery that found no token keeps its attempt, and a delivery that gives up has had as
many failures of its own as its webhook allows attempts.
-/
theorem attempts_paid_of_unrefused {worker : Worker} {caches : Caches} {as : List QueueAction}
    {s : QueueRun} (h : Machine.exec (QueueRun.step worker) (.start caches) as = some s)
    (hmeets : Machine.Meets (QueueRun.step worker) (Unrefused worker) (.start caches) as) :
    (∀ refusal ∈ s.refusals, refusal.2.attempt = refusal.1.attempt) ∧
      ∀ gaveUp ∈ s.givenUp, ∃ max, gaveUp.2.maxAttempts gaveUp.1 = some max ∧
        max ≤ s.failures.count gaveUp.1.id := by
  have hstart : Paid (.start caches) :=
    ⟨fun row hrow => absurd hrow (by simp [QueueRun.start]),
      fun refusal hrefusal => absurd hrefusal (by simp [QueueRun.start]),
      fun gaveUp hgaveUp => absurd hgaveUp (by simp [QueueRun.start])⟩
  have hpaid := Machine.exec_invariant_of_meets (C := Unrefused worker) (P := Paid)
    (fun _ _ _ hs hC hstep => hs.step hC hstep) hstart hmeets h
  exact ⟨hpaid.refusals, hpaid.givenUp⟩

namespace ShortageExample

/-- Every body is of a signup of the user it names. -/
def worker : Worker where
  clockwork := RetryExample.clockwork
  host := .bare
  parseBody := fun body => ⟨some body, "signup", "/merci", none, none, none, ""⟩
  dryRun := false

def delivery (id webhookId : String) : DeliveryRow :=
  { RetryExample.delivery with id := id, webhookId := webhookId, requestBody := id }

/-- A call at `now`.  The webhook `p` has one attempt. -/
def answers (now : Int) (person : String → TwentyConnector.PersonAnswer) : DrainAnswers where
  lookup := fun id => some (some
    { RetryExample.webhook (if id = "p" then ⟨1, [.number 60_000]⟩ else DEFAULT_RETRY_CONFIG) with
      id := id, transform := some (.twenty false) })
  deliver := fun _ =>
    { webhook := some none, ssrf := none, render := .ok "", secret := none
      fetch := .aborted, latencyMs := 0, sentAt := now, now := now, insert := ⟨now, true, true⟩ }
  group := fun _ =>
    { secret := none, ssrf := none, crmConfig := none
      look := fun id => ⟨some ⟨"ads", "paid_search", ""⟩, now, now, now, person id⟩
      batch := ⟨now, .answered 201 "", fun _ => ⟨now, some true⟩⟩
      sentAt := now, row := fun _ => ⟨now, now, ⟨now, true, true⟩⟩ }

/-- Three signups for each of fifteen webhooks, and one for `p`.  Fourteen flushes of three
lookups, a batch and three patches leave two tokens. -/
def batch : List DeliveryRow :=
  ("abcdefghijklmno".toList.flatMap fun w =>
    ['1', '2', '3'].map fun n => delivery (String.ofList [w, n]) (String.singleton w)) ++
    [delivery "p1" "p"]

def shortage : List QueueAction :=
  batch.map .enqueue ++ [.tick 1_700_000_010_000 batch (answers 1_700_000_010_000 .found)]

/-- A Person that is never found, by the webhook with one attempt. -/
def orphaned : List QueueAction :=
  [.enqueue (delivery "p1" "p"),
    .tick 1_700_000_010_000 [delivery "p1" "p"] (answers 1_700_000_010_000 fun _ => .missing)]

def caches : Caches := ⟨[], [], 1⟩

end ShortageExample

/-- A lookup that finds nobody: the delivery gives up, after the failure it is allowed. -/
theorem attempts_paid_orphaned :
    ∃ s, Machine.exec (QueueRun.step ShortageExample.worker) (.start ShortageExample.caches)
        ShortageExample.orphaned = some s ∧ s.givenUp.length = 1 ∧
      (∀ refusal ∈ s.refusals, refusal.2.attempt = refusal.1.attempt) ∧
      ∀ gaveUp ∈ s.givenUp, ∃ max, gaveUp.2.maxAttempts gaveUp.1 = some max ∧
        max ≤ s.failures.count gaveUp.1.id := by
  have hrun : (Machine.exec (QueueRun.step ShortageExample.worker) (.start ShortageExample.caches)
      ShortageExample.orphaned).any (fun s => s.givenUp.length = 1) = true := by decide +kernel
  obtain ⟨s, hs, hone⟩ := (Option.any_eq_true _ _).mp hrun
  exact ⟨s, hs, of_decide_eq_true hone, attempts_paid_of_unrefused hs (by decide +kernel)⟩

/-- Four deliveries that found no token: three have used an attempt, the fourth has given up,
and none has failed. -/
theorem shortage_charged :
    ∃ s, Machine.exec (QueueRun.step ShortageExample.worker) (.start ShortageExample.caches)
        ShortageExample.shortage = some s ∧ s.failures = [] ∧
      s.refusals.map (fun refusal => (refusal.1.attempt, refusal.2.attempt)) =
        [(1, 2), (1, 2), (1, 2), (1, 1)] ∧
      s.givenUp.map (fun gaveUp => (gaveUp.1.id, gaveUp.2.maxAttempts gaveUp.1)) =
        [("p1", some 1)] := by
  have hrun : (Machine.exec (QueueRun.step ShortageExample.worker) (.start ShortageExample.caches)
      ShortageExample.shortage).any (fun s => s.failures = [] ∧
        s.refusals.map (fun refusal => (refusal.1.attempt, refusal.2.attempt)) =
          [(1, 2), (1, 2), (1, 2), (1, 1)] ∧
        s.givenUp.map (fun gaveUp => (gaveUp.1.id, gaveUp.2.maxAttempts gaveUp.1)) =
          [("p1", some 1)]) = true := by decide +kernel
  obtain ⟨s, hs, hall⟩ := (Option.any_eq_true _ _).mp hrun
  exact ⟨s, hs, of_decide_eq_true hall⟩

end Veridian.WebhookDeliveryWorker
