/-
How a flush classifies its deliveries.

A turn of the loop that goes on puts its delivery into one of the three lists or among the
collected ones; a turn that does not leaves everything from its delivery on unclassified.
The collected ones follow into one of the lists when the batch has ended.  A delivery that
alone maps to more than sixty milestones can never be collected.
-/
import Mathlib.Data.List.Nodup
import Mathlib.Data.List.Perm.Basic
import Veridian.Webhooks.TwentyConnector

namespace Veridian.TwentyConnector

open WebhookDeliveryWorker (DeliveryRow)
open TwentyEventMapper (TrackedPayload CrmGoalMapping MappedTimelineEvent)

/-! ### One turn of the loop -/

/-- What one turn does with its delivery. -/
inductive Turned (ctx : FlushContext) (s : Flush) (delivery : DeliveryRow)
    (answers : DeliveryAnswers) : Flush → Bool → Prop
  | skipped (hmapped : mapDelivery ctx delivery = []) :
      Turned ctx s delivery answers
        { s with outcome := { s.outcome with skipped := s.outcome.skipped ++ [delivery.id] } } true
  | failed (caches : Caches) (meter : Meter) (refused : List String) :
      Turned ctx s delivery answers
        { s with
          caches := caches
          meter := meter
          outcome := { s.outcome with failed := s.outcome.failed ++ [delivery.id] }
          refused := refused } true
  | orphan (caches : Caches) (meter : Meter) :
      Turned ctx s delivery answers
        { s with
          caches := caches
          meter := meter
          outcome := { s.outcome with orphans := s.outcome.orphans ++ [delivery.id] } } true
  | collected (caches : Caches) (meter : Meter) (personId : String)
      (patches : List (String × AcquisitionPatch)) (hmapped : mapDelivery ctx delivery ≠ [])
      (hsize : s.activities.length + (mapDelivery ctx delivery).length ≤ BATCH_SIZE) :
      Turned ctx s delivery answers
        { s with
          caches := caches
          meter := meter
          activities := s.activities ++
            (mapDelivery ctx delivery).map fun mapped => ⟨delivery.id, mapped, personId⟩
          acquisitionPatches := patches } true
  | full (caches : Caches) (meter : Meter)
      (hsize : BATCH_SIZE < s.activities.length + (mapDelivery ctx delivery).length) :
      Turned ctx s delivery answers { s with caches := caches, meter := meter } false

theorem turned_of_flushStep {ctx : FlushContext} {s s' : Flush} {delivery : DeliveryRow}
    {answers : DeliveryAnswers} {goesOn : Bool}
    (h : flushStep ctx s delivery answers = (s', goesOn)) :
    Turned ctx s delivery answers s' goesOn := by
  unfold flushStep at h
  split at h
  · rename_i hmapped
    obtain ⟨rfl, rfl⟩ := Prod.mk.inj h
    exact .skipped hmapped
  · rename_i first more hmapped
    generalize resolvePersonId s.caches s.meter ctx.workspaceId first answers = resolved at h
    obtain ⟨resolution, caches, meter⟩ := resolved
    cases resolution with
    | threw =>
        obtain ⟨rfl, rfl⟩ := Prod.mk.inj h
        exact .failed caches meter s.refused
    | noBudget =>
        obtain ⟨rfl, rfl⟩ := Prod.mk.inj h
        exact .failed caches meter (s.refused ++ [delivery.id])
    | notFound =>
        obtain ⟨rfl, rfl⟩ := Prod.mk.inj h
        exact .orphan caches meter
    | found personId =>
        simp only [Flush.place] at h
        rw [← hmapped] at h
        split at h
        · rename_i hsize
          obtain ⟨rfl, rfl⟩ := Prod.mk.inj h
          exact .full caches meter hsize
        · rename_i hsize
          obtain ⟨rfl, rfl⟩ := Prod.mk.inj h
          exact .collected caches meter personId _ (by rw [hmapped]; simp) (not_lt.mp hsize)

/-! ### What the loop holds -/

/-- The ids of the deliveries that the loop has dealt with, in its lists and its batch. -/
def Flush.classified (s : Flush) : List String :=
  s.outcome.written ++ s.outcome.orphans ++ s.outcome.failed ++ s.outcome.skipped

theorem deliveryIds_append {activities : List TimelineActivity} {delivery : String}
    {mapped : List MappedTimelineEvent} {personId : String} (hmapped : mapped ≠ [])
    (hnew : delivery ∉ activities.map TimelineActivity.deliveryId) :
    deliveryIds (activities ++ mapped.map fun m => ⟨delivery, m, personId⟩) =
      deliveryIds activities ++ [delivery] := by
  have hids : (mapped.map fun m => TimelineActivity.mk delivery m personId).map
      TimelineActivity.deliveryId = List.replicate mapped.length delivery := by
    rw [List.map_map]
    exact List.map_const' ..
  have hone : ∀ n, (List.replicate (n + 1) delivery).eraseDups = [delivery] := by
    intro n
    rw [List.replicate_succ, List.eraseDups_cons]
    simp
  unfold deliveryIds
  rw [List.map_append, hids, List.eraseDups_append]
  have hremove : (List.replicate mapped.length delivery).removeAll
      (activities.map TimelineActivity.deliveryId) = List.replicate mapped.length delivery := by
    unfold List.removeAll
    rw [List.filter_eq_self]
    intro a ha
    rw [List.eq_of_mem_replicate ha]
    simpa using hnew
  rw [hremove]
  obtain ⟨n, hn⟩ := Nat.exists_eq_succ_of_ne_zero (mt List.length_eq_zero_iff.mp hmapped)
  rw [hn, hone n]

/-- The deliveries that are classified, or will be when the batch ends. -/
def Flush.dealt (s : Flush) : List String := s.classified ++ deliveryIds s.activities

/-- What the loop holds when it has dealt with the deliveries `ids`. -/
structure Holds (s : Flush) (ids : List String) : Prop where
  dealt : s.dealt.Perm ids
  size : s.activities.length ≤ BATCH_SIZE

theorem mem_deliveryIds {activities : List TimelineActivity} {id : String} :
    id ∈ deliveryIds activities ↔ id ∈ activities.map TimelineActivity.deliveryId :=
  List.mem_eraseDups

/-- A turn that goes on deals with one more delivery. -/
theorem Turned.holds {ctx : FlushContext} {s s' : Flush} {delivery : DeliveryRow}
    {answers : DeliveryAnswers} (h : Turned ctx s delivery answers s' true) {ids : List String}
    (hs : Holds s ids) (hnew : delivery.id ∉ ids) : Holds s' (ids ++ [delivery.id]) := by
  have hlists : ∀ {w o f k a w' o' f' k' a' : List String},
      (∀ x, (w' ++ o' ++ f' ++ k' ++ a').count x =
        (w ++ o ++ f ++ k ++ a ++ [delivery.id]).count x) →
      (w ++ o ++ f ++ k ++ a).Perm ids → (w' ++ o' ++ f' ++ k' ++ a').Perm (ids ++ [delivery.id]) :=
    fun hcount hperm => (List.perm_iff_count.mpr hcount).trans (hperm.append_right _)
  cases h with
  | skipped _ =>
      refine ⟨hlists (fun x => ?_) hs.dealt, hs.size⟩
      simp only [List.count_append]
      omega
  | failed caches meter refused =>
      refine ⟨hlists (fun x => ?_) hs.dealt, hs.size⟩
      simp only [List.count_append]
      omega
  | orphan caches meter =>
      refine ⟨hlists (fun x => ?_) hs.dealt, hs.size⟩
      simp only [List.count_append]
      omega
  | collected caches meter personId patches hmapped hsize =>
      have hfresh : delivery.id ∉ s.activities.map TimelineActivity.deliveryId := by
        intro hmem
        refine hnew (hs.dealt.mem_iff.mp ?_)
        exact List.mem_append_right _ (mem_deliveryIds.mpr hmem)
      refine ⟨hlists (fun x => ?_) hs.dealt, ?_⟩
      · rw [deliveryIds_append hmapped hfresh, ← List.append_assoc]
      · rw [List.length_append, List.length_map]
        exact hsize

theorem Turned.holds_full {ctx : FlushContext} {s s' : Flush} {delivery : DeliveryRow}
    {answers : DeliveryAnswers} (h : Turned ctx s delivery answers s' false) {ids : List String}
    (hs : Holds s ids) : Holds s' ids := by
  cases h with
  | full caches meter _ => exact ⟨hs.dealt, hs.size⟩

/-- The loop deals with a prefix of the deliveries. -/
theorem flushLoop_holds {ctx : FlushContext} :
    ∀ {deliveries : List Incoming} {s : Flush} {ids : List String},
      (ids ++ deliveries.map fun d => d.1.id).Nodup → Holds s ids →
      ∃ pre post, deliveries = pre ++ post ∧
        Holds (flushLoop ctx s deliveries) (ids ++ pre.map fun d => d.1.id) := by
  intro deliveries
  induction deliveries with
  | nil =>
      intro s ids _ hs
      exact ⟨[], [], rfl, by simpa [flushLoop] using hs⟩
  | cons incoming rest ih =>
      intro s ids hnodup hs
      obtain ⟨delivery, answers⟩ := incoming
      rw [flushLoop]
      split
      · rename_i s' hstep
        have hnew : delivery.id ∉ ids := fun hmem =>
          List.disjoint_of_nodup_append hnodup hmem List.mem_cons_self
        have hnodup' : (ids ++ [delivery.id] ++ rest.map fun d => d.1.id).Nodup := by
          simpa using hnodup
        obtain ⟨pre, post, hrest, hholds⟩ :=
          ih hnodup' ((turned_of_flushStep hstep).holds hs hnew)
        exact ⟨(delivery, answers) :: pre, post, by rw [hrest]; rfl, by simpa using hholds⟩
      · rename_i s' hstep
        exact ⟨[], _, rfl, by simpa using (turned_of_flushStep hstep).holds_full hs⟩

/-- What was collected is classified at the end. -/
theorem send_classified {ctx : FlushContext} {answers : BatchAnswers} {s : Flush} :
    (s.send ctx answers).classified.Perm s.dealt ∧
      (s.send ctx answers).activities = s.activities := by
  have hperm : ∀ w o f k a : List String, (w ++ o ++ (f ++ a) ++ k).Perm (w ++ o ++ f ++ k ++ a) ∧
      (w ++ a ++ o ++ f ++ k).Perm (w ++ o ++ f ++ k ++ a) := by
    intro w o f k a
    refine ⟨List.perm_iff_count.mpr fun x => ?_, List.perm_iff_count.mpr fun x => ?_⟩ <;>
      simp only [List.count_append] <;> omega
  unfold Flush.send
  split
  · rename_i hempty
    refine ⟨?_, rfl⟩
    unfold Flush.dealt
    rw [List.isEmpty_iff.mp hempty]
    simp [deliveryIds]
  · split
    · exact ⟨(hperm _ _ _ _ _).1, rfl⟩
    · split
      · exact ⟨(hperm _ _ _ _ _).2, rfl⟩
      · exact ⟨(hperm _ _ _ _ _).1, rfl⟩

/-! ### Progress -/

/-- The delivery finds its Person, and has more milestones than a batch has room for. -/
def Oversized (ctx : FlushContext) (caches : Caches) (meter : Meter) (incoming : Incoming) : Prop :=
  BATCH_SIZE < (mapDelivery ctx incoming.1).length ∧
    ∃ first personId, (mapDelivery ctx incoming.1).head? = some first ∧
      (resolvePersonId caches meter ctx.workspaceId first incoming.2).1 = .found personId

theorem place_stops_iff {ctx : FlushContext} {s : Flush} {delivery : DeliveryRow}
    {answers : DeliveryAnswers} {mapped : List MappedTimelineEvent}
    {resolution : PersonResolution} :
    (s.place ctx delivery answers mapped resolution).2 = false ↔
      BATCH_SIZE < s.activities.length + mapped.length ∧
        ∃ personId, resolution = .found personId := by
  cases resolution with
  | threw => simp [Flush.place]
  | noBudget => simp [Flush.place]
  | notFound => simp [Flush.place]
  | found personId =>
      unfold Flush.place
      by_cases hsize : BATCH_SIZE < s.activities.length + mapped.length
      · simp [hsize]
      · simp [hsize]

/-- The loop stops at the first delivery only when that is oversized. -/
theorem flushStep_stops_iff {ctx : FlushContext} {caches : Caches} {meter : Meter}
    {delivery : DeliveryRow} {answers : DeliveryAnswers} :
    (flushStep ctx (.start caches meter) delivery answers).2 = false ↔
      Oversized ctx caches meter (delivery, answers) := by
  unfold flushStep Oversized
  split
  · rename_i hmapped
    simp [hmapped]
  · rename_i first more hmapped
    rw [hmapped, place_stops_iff]
    simp [Flush.start]

theorem holds_start (caches : Caches) (meter : Meter) : Holds (.start caches meter) [] :=
  ⟨List.Perm.refl _, Nat.zero_le _⟩

theorem flushLoop_dealt_eq_nil_iff {ctx : FlushContext} {caches : Caches} {meter : Meter}
    {incoming : Incoming} {rest : List Incoming}
    (hnodup : ((incoming :: rest).map fun d => d.1.id).Nodup) :
    (flushLoop ctx (.start caches meter) (incoming :: rest)).dealt = [] ↔
      Oversized ctx caches meter incoming := by
  obtain ⟨delivery, answers⟩ := incoming
  rw [← flushStep_stops_iff, flushLoop]
  split
  · rename_i s' hstep
    have hholds := (turned_of_flushStep hstep).holds (holds_start caches meter) (by simp)
    obtain ⟨pre, post, -, hall⟩ := flushLoop_holds (by simpa using hnodup) hholds
    rw [hstep]
    refine ⟨fun hnil => ?_, fun h => absurd h (by simp)⟩
    have hperm := hall.dealt
    rw [hnil] at hperm
    exact absurd hperm.symm.eq_nil (by simp)
  · rename_i s' hstep
    rw [hstep]
    refine iff_of_true ?_ rfl
    exact ((turned_of_flushStep hstep).holds_full (holds_start caches meter)).dealt.eq_nil

namespace FlushExample

def signup : TrackedPayload where
  userId := some "lea@example.com"
  goalName := "signup"
  path := "/merci"
  maxScroll := none
  scroll := none
  depth := none
  app := ""

/-- A workspace with the given rules, all of whose events are signups. -/
def context (rules : List CrmGoalMapping) : FlushContext where
  host := .bare
  parseBody := fun _ => signup
  workspaceId := "w"
  crmConfig := some ⟨none, none, some rules, none, none⟩
  dryRun := false

def rule (timelineName : String) : CrmGoalMapping := ⟨"goal:signup", timelineName, none⟩

def caches : Caches := ⟨[], [], DEFAULT_PERSON_CACHE_MAX_SIZE⟩

def meter : Meter := ⟨.new 100, []⟩

/-- A delivery of the event, whose Person is found. -/
def incoming (id eventId : String) : Incoming :=
  ({ id := id, webhookId := "wh", workspaceId := "w", eventId := eventId, eventType := "goal"
     attempt := 1, scheduledAt := 0, sentAt := none, status := .pending, httpStatus := none
     latencyMs := none, requestUrl := "https://crm.example.com", requestBody := "", responseBody := ""
     errorMessage := "", createdAt := 0, updatedAt := 0 },
    ⟨none, 100_000, 100_000, 100_000, .found "p1"⟩)

def accepted : BatchAnswers := ⟨100_001, .answered 201 "", fun _ => ⟨100_002, some true⟩⟩

end FlushExample

/--
**The classification of a flush.**

Whatever the mapping, the caches, the budget and the answers: the four lists have no id
twice and only ids of the input, at most sixty activities are posted, and what is left
unclassified is a suffix of the input.  Something is classified in every batch if and only
if its first delivery is not oversized.
-/
theorem flush_classification_iff (ctx : FlushContext) (caches : Caches) (meter : Meter)
    (deliveries : List Incoming) (answers : BatchAnswers)
    (hids : (deliveries.map fun d => d.1.id).Nodup) :
    (let s := flushBatch ctx caches meter deliveries answers
      let classified :=
        s.outcome.written ++ s.outcome.orphans ++ s.outcome.failed ++ s.outcome.skipped
      classified.Nodup ∧ (∀ id ∈ classified, id ∈ deliveries.map fun d => d.1.id) ∧
        s.activities.length ≤ 60 ∧
        (∃ pre post, deliveries = pre ++ post ∧ classified.Perm (pre.map fun d => d.1.id)) ∧
        (deliveries ≠ [] → classified ≠ [])) ↔
    ∀ incoming rest, deliveries = incoming :: rest → ¬Oversized ctx caches meter incoming := by
  obtain ⟨hperm, hactivities⟩ := send_classified
    (s := flushLoop ctx (.start caches meter) deliveries)
  obtain ⟨pre, post, hsplit, hholds⟩ :=
    flushLoop_holds hids (holds_start caches meter)
  have hpre := hperm.trans hholds.dealt
  rw [List.nil_append] at hpre
  have hstart : (pre.map fun d => d.1.id).Sublist (deliveries.map fun d => d.1.id) := by
    rw [hsplit, List.map_append]
    exact List.sublist_append_left _ _
  constructor
  · rintro ⟨-, -, -, -, hprogress⟩ incoming rest rfl hoversized
    refine hprogress (by simp) ?_
    have hnil := (flushLoop_dealt_eq_nil_iff hids).mpr hoversized
    rw [hnil] at hperm
    exact hperm.eq_nil
  · intro hfirst
    refine ⟨hpre.nodup_iff.mpr (hids.sublist hstart), fun id hid => ?_, ?_, ⟨pre, post, hsplit,
      hpre⟩, fun hne hnil => ?_⟩
    · exact hstart.subset (hpre.mem_iff.mp hid)
    · show (Flush.send ctx answers _).activities.length ≤ 60
      rw [hactivities]
      exact hholds.size
    · obtain ⟨incoming, rest, rfl⟩ := List.exists_cons_of_ne_nil hne
      refine hfirst incoming rest rfl ((flushLoop_dealt_eq_nil_iff hids).mp ?_)
      have hnil : (Flush.send ctx answers _).classified = [] := hnil
      rw [hnil] at hperm
      exact hperm.symm.eq_nil

open FlushExample

/-- Two deliveries of one rule each are both written. -/
theorem flush_classification_two :
    (let s := flushBatch (context [rule "inscription"]) caches meter
        [incoming "d1" "e1", incoming "d2" "e2"] accepted
      let classified :=
        s.outcome.written ++ s.outcome.orphans ++ s.outcome.failed ++ s.outcome.skipped
      classified.Nodup ∧
        (∀ id ∈ classified, id ∈ [incoming "d1" "e1", incoming "d2" "e2"].map fun d => d.1.id) ∧
        s.activities.length ≤ 60 ∧
        (∃ pre post, [incoming "d1" "e1", incoming "d2" "e2"] = pre ++ post ∧
          classified.Perm (pre.map fun d => d.1.id)) ∧
        ([incoming "d1" "e1", incoming "d2" "e2"] ≠ [] → classified ≠ [])) := by
  refine (flush_classification_iff _ _ _ _ _ (by decide)).mpr fun first rest hfirst => ?_
  obtain ⟨rfl, -⟩ := List.cons.inj hfirst
  have hsmall : (mapDelivery (context [rule "inscription"]) (incoming "d1" "e1").1).length = 1 := by
    decide
  intro h
  have hsize := h.1
  rw [hsmall] at hsize
  exact absurd hsize (by decide)

/-- A workspace with sixty-one rules for one goal: nothing is ever classified. -/
theorem flush_stuck :
    let s := flushBatch (context (List.replicate 61 (rule "inscription"))) caches meter
      [incoming "d1" "e1"] accepted
    s.outcome.written ++ s.outcome.orphans ++ s.outcome.failed ++ s.outcome.skipped = [] := by
  decide

end Veridian.TwentyConnector
