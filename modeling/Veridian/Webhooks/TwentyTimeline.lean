/-
What Twenty holds of a delivery that was reported as written.

The id of an activity is a digest of the Person, the event and the name, so a replay
carries the ids it had before.  The endpoint takes a batch as a whole, or refuses it
because one id is already there or occurs twice; `batchTimeline` takes the refusal for a
replay of the whole batch.
-/
import Veridian.Webhooks.TwentyFlush

namespace Veridian.TwentyConnector

open WebhookDeliveryWorker (DeliveryRow)
open TwentyEventMapper (MappedTimelineEvent)

/-! ### The id of an activity -/

def TIMELINE_NAMESPACE : String := "b7e3c1a4-9f2d-5e6b-8c0a-1d2e3f405162"

def hexValue (c : Char) : Nat :=
  if c.isDigit then c.toNat - '0'.toNat else c.toNat - 'a'.toNat + 10

def bytesOfHex : List Char → List Nat
  | a :: b :: rest => (16 * hexValue a + hexValue b) :: bytesOfHex rest
  | _ => []

def uuidToBytes (uuid : String) : List Nat := bytesOfHex (uuid.toList.filter (· != '-'))

def hexOfBytes (bytes : List Nat) : List Char :=
  bytes.flatMap fun b => [Nat.digitChar (b / 16), Nat.digitChar (b % 16)]

def bytesToUuid (bytes : List Nat) : String :=
  let hex := hexOfBytes bytes
  String.ofList ("-".toList.intercalate [hex.take 8, (hex.drop 8).take 4, (hex.drop 12).take 4,
    (hex.drop 16).take 4, (hex.drop 20).take 12])

example : bytesToUuid (uuidToBytes TIMELINE_NAMESPACE) = TIMELINE_NAMESPACE := by
  decide +kernel

/-- UUIDv5 within the namespace, over a SHA-1 that is given. -/
def uuidv5 (sha1 : List Nat → List Nat) (name : String) : String :=
  let bytes := (sha1 (uuidToBytes TIMELINE_NAMESPACE ++
    name.toUTF8.toList.map UInt8.toNat)).take 16
  bytesToUuid ((bytes.modify 6 fun b => b % 16 + 0x50).modify 8 fun b => b % 64 + 0x80)

def deterministicTimelineId (sha1 : List Nat → List Nat) (targetPersonId eventId name : String) :
    String :=
  uuidv5 sha1 ("timeline:" ++ targetPersonId ++ ":" ++ eventId ++ ":" ++ name)

def TimelineActivity.id (sha1 : List Nat → List Nat) (a : TimelineActivity) : String :=
  deterministicTimelineId sha1 a.personId a.mapped.eventId a.mapped.name

/-! ### The endpoint -/

/-- No id of the batch is stored or occurs twice. -/
def Fresh (stored ids : List String) : Prop := ids.Nodup ∧ ∀ id ∈ ids, id ∉ stored

/-- What a batch does to the stored ids and what is heard of it, when it is sent. -/
inductive Received (stored ids : List String) : Bool → BatchResponse → List String → Prop
  | notSent (response : BatchResponse) : Received stored ids false response stored
  | stored (hfresh : Fresh stored ids) (status : Nat) (body : String)
      (hstatus : 200 ≤ status ∧ status < 300) :
      Received stored ids true (.answered status body) (stored ++ ids)
  | duplicate (hold : ¬Fresh stored ids) (body : String) (hbody : mentionsDuplicate body = true) :
      Received stored ids true (.answered 400 body) stored
  /-- Another error, or no answer: all of the batch is stored or nothing. -/
  | failed (response : BatchResponse) (herror : response.ok = false) (stored' : List String)
      (hall : stored' = stored ∨ Fresh stored ids ∧ stored' = stored ++ ids) :
      Received stored ids true response stored'

/-- The batch of the flush goes out. -/
def Flush.sends (ctx : FlushContext) (answers : BatchAnswers) (s : Flush) : Bool :=
  !s.activities.isEmpty && (s.meter.take answers.takenAt).1 && !ctx.dryRun

/-- The batch gets its token, and `batchTimeline` returns. -/
def Flush.accepted (ctx : FlushContext) (answers : BatchAnswers) (s : Flush) : Bool :=
  !s.activities.isEmpty && (s.meter.take answers.takenAt).1 &&
    batchTimeline ctx.dryRun s.activities.length answers.response

/-! ### The batch has the milestones of its deliveries -/

/-- Of each of the deliveries the batch has all milestones, for one Person, or none. -/
structure Batched (ctx : FlushContext) (s : Flush) (deliveries : List Incoming) : Prop where
  whole : ∀ d ∈ deliveries, d.1.id ∈ s.activities.map TimelineActivity.deliveryId →
    ∃ personId, (s.activities.filter fun a => a.deliveryId = d.1.id) =
      (mapDelivery ctx d.1).map fun m => ⟨d.1.id, m, personId⟩
  known : ∀ a ∈ s.activities, a.deliveryId ∈ deliveries.map fun d => d.1.id
  unwritten : s.outcome.written = []

theorem Batched.of_same {ctx : FlushContext} {s s' : Flush} {deliveries : List Incoming}
    (h : Batched ctx s deliveries) {incoming : Incoming}
    (hnew : incoming.1.id ∉ deliveries.map fun d => d.1.id)
    (hactivities : s'.activities = s.activities)
    (hwritten : s'.outcome.written = s.outcome.written) :
    Batched ctx s' (deliveries ++ [incoming]) := by
  refine ⟨fun d hd hmem => ?_, fun a ha => ?_, hwritten.trans h.unwritten⟩
  · rw [hactivities] at hmem ⊢
    rcases List.mem_append.mp hd with hold | hone
    · exact h.whole d hold hmem
    · rw [List.mem_singleton.mp hone] at hmem
      obtain ⟨a, ha, heq⟩ := List.mem_map.mp hmem
      exact absurd (heq ▸ h.known a ha) hnew
  · rw [hactivities] at ha
    rw [List.map_append]
    exact List.mem_append_left _ (h.known a ha)

/-- A turn that goes on keeps the batch whole. -/
theorem Turned.batched {ctx : FlushContext} {s s' : Flush} {delivery : DeliveryRow}
    {answers : DeliveryAnswers} (h : Turned ctx s delivery answers s' true)
    {deliveries : List Incoming} (hs : Batched ctx s deliveries)
    (hnew : delivery.id ∉ deliveries.map fun d => d.1.id) :
    Batched ctx s' (deliveries ++ [(delivery, answers)]) := by
  cases h with
  | skipped _ => exact hs.of_same hnew rfl rfl
  | failed caches meter refused => exact hs.of_same hnew rfl rfl
  | orphan caches meter => exact hs.of_same hnew rfl rfl
  | collected caches meter personId patches hmapped hsize =>
      have hnone : ∀ a ∈ s.activities, a.deliveryId ≠ delivery.id := fun a ha heq =>
        hnew (heq ▸ hs.known a ha)
      refine ⟨fun d hd hmem => ?_, fun a ha => ?_, hs.unwritten⟩
      · simp only [List.filter_append]
        rcases List.mem_append.mp hd with hold | hone
        · have hne : d.1.id ≠ delivery.id := fun heq =>
            hnew (List.mem_map.mpr ⟨d, hold, heq⟩)
          have hmem' : d.1.id ∈ s.activities.map TimelineActivity.deliveryId := by
            rw [List.map_append] at hmem
            refine (List.mem_append.mp hmem).resolve_right fun hc => ?_
            obtain ⟨a, ha, heq⟩ := List.mem_map.mp hc
            obtain ⟨m, -, rfl⟩ := List.mem_map.mp ha
            exact hne heq.symm
          obtain ⟨p, hp⟩ := hs.whole d hold hmem'
          refine ⟨p, ?_⟩
          rw [hp, List.filter_eq_nil_iff.mpr, List.append_nil]
          intro a ha
          obtain ⟨m, -, rfl⟩ := List.mem_map.mp ha
          simpa using hne.symm
        · rw [List.mem_singleton.mp hone]
          refine ⟨personId, ?_⟩
          rw [List.filter_eq_nil_iff.mpr fun a ha => by simpa using hnone a ha, List.nil_append,
            List.filter_eq_self.mpr]
          intro a ha
          obtain ⟨m, -, rfl⟩ := List.mem_map.mp ha
          simp
      · rw [List.map_append]
        rcases List.mem_append.mp ha with hold | hone
        · exact List.mem_append_left _ (hs.known a hold)
        · obtain ⟨m, -, rfl⟩ := List.mem_map.mp hone
          simp

theorem flushLoop_batched {ctx : FlushContext} :
    ∀ {deliveries : List Incoming} {s : Flush} (done : List Incoming),
      ((done ++ deliveries).map fun d => d.1.id).Nodup → Batched ctx s done →
      ∃ pre post, deliveries = pre ++ post ∧ Batched ctx (flushLoop ctx s deliveries) (done ++ pre) := by
  intro deliveries
  induction deliveries with
  | nil =>
      intro s done _ hs
      exact ⟨[], [], rfl, by simpa [flushLoop] using hs⟩
  | cons incoming rest ih =>
      intro s done hnodup hs
      obtain ⟨delivery, answers⟩ := incoming
      rw [flushLoop]
      split
      · rename_i s' hstep
        have hnew : delivery.id ∉ done.map fun d => d.1.id := by
          intro hmem
          rw [List.map_append] at hnodup
          exact List.disjoint_of_nodup_append hnodup hmem List.mem_cons_self
        obtain ⟨pre, post, hrest, hbatched⟩ := ih (done ++ [(delivery, answers)])
          (by simpa using hnodup) ((turned_of_flushStep hstep).batched hs hnew)
        exact ⟨(delivery, answers) :: pre, post, by rw [hrest]; rfl, by simpa using hbatched⟩
      · rename_i s' hstep
        refine ⟨[], _, rfl, ?_⟩
        cases turned_of_flushStep hstep with
        | full caches meter _ => simpa using ⟨hs.whole, hs.known, hs.unwritten⟩

/-! ### Written and stored -/

/-- What a flush reports as written is the batch, if it was accepted. -/
theorem send_written {ctx : FlushContext} {answers : BatchAnswers} {s : Flush}
    (hwritten : s.outcome.written = []) :
    (s.send ctx answers).outcome.written =
      if s.accepted ctx answers then deliveryIds s.activities else [] := by
  unfold Flush.send Flush.accepted
  by_cases hempty : s.activities.isEmpty = true
  · simp [hempty, hwritten]
  · simp only [hempty, Bool.not_false, Bool.true_and, if_false, Bool.false_eq_true]
    generalize s.meter.take answers.takenAt = taken
    obtain ⟨token, meter⟩ := taken
    cases token with
    | false => simp [hwritten]
    | true =>
        by_cases hok : batchTimeline ctx.dryRun s.activities.length answers.response = true
        · simp [hok, hwritten]
        · simp [hok, hwritten]

theorem batched_start (ctx : FlushContext) (caches : Caches) (meter : Meter) :
    Batched ctx (.start caches meter) [] :=
  ⟨fun d hd => absurd hd (by simp), fun a ha => absurd ha (by simp [Flush.start]), rfl⟩

/-- An accepted batch is stored as a whole, unless it was sent as a duplicate or not at all. -/
theorem Received.stored_iff {stored ids stored' : List String} {sent : Bool}
    {response : BatchResponse} (h : Received stored ids sent response stored')
    (hok : sent = true → response.ok = true) :
    (∀ id ∈ ids, id ∈ stored') ↔ (sent = true ∧ Fresh stored ids) ∨ ∀ id ∈ ids, id ∈ stored := by
  cases h with
  | notSent _ => simp
  | stored hfresh status body _ =>
      exact iff_of_true (fun id hid => List.mem_append_right _ hid) (Or.inl ⟨rfl, hfresh⟩)
  | duplicate hold body _ => simp [hold]
  | failed response herror stored' _ =>
      rw [hok rfl] at herror
      exact absurd herror (by simp)

/--
**No activity is lost.**

Every delivery that a flush reports as written had all its milestones in the batch.  They
are all stored afterwards if and only if the accepted batch went out with ids that were
all new and distinct, or all its ids were stored before.
-/
theorem written_stored_iff (ctx : FlushContext) (caches : Caches) (meter : Meter)
    (deliveries : List Incoming) (answers : BatchAnswers) (sha1 : List Nat → List Nat)
    (stored stored' : List String) (hids : (deliveries.map fun d => d.1.id).Nodup)
    (hserver : Received stored
      ((flushLoop ctx (.start caches meter) deliveries).activities.map fun a => a.id sha1)
      ((flushLoop ctx (.start caches meter) deliveries).sends ctx answers) answers.response
      stored') :
    (let batch := flushLoop ctx (.start caches meter) deliveries
      let written := (flushBatch ctx caches meter deliveries answers).outcome.written
      (∀ d ∈ deliveries, d.1.id ∈ written →
        ∃ personId, (batch.activities.filter fun a => a.deliveryId = d.1.id) =
          (mapDelivery ctx d.1).map fun m => ⟨d.1.id, m, personId⟩) ∧
      ((∀ d ∈ deliveries, d.1.id ∈ written →
        ∀ a ∈ batch.activities, a.deliveryId = d.1.id → a.id sha1 ∈ stored') ↔
      (batch.accepted ctx answers = true →
        (ctx.dryRun = false ∧ Fresh stored (batch.activities.map fun a => a.id sha1)) ∨
          ∀ id ∈ batch.activities.map fun a => a.id sha1, id ∈ stored))) := by
  obtain ⟨pre, post, hsplit, hbatched⟩ := flushLoop_batched [] hids
    (batched_start ctx caches meter)
  rw [List.nil_append] at hbatched
  have hsub : ∀ d ∈ pre, d ∈ deliveries := fun d hd => hsplit ▸ List.mem_append_left _ hd
  intro batch written
  have hwritten : (batch.send ctx answers).outcome.written =
      if batch.accepted ctx answers then deliveryIds batch.activities else [] :=
    send_written hbatched.unwritten
  have hwritten' : ∀ id, id ∈ written ↔
      batch.accepted ctx answers = true ∧ id ∈ batch.activities.map TimelineActivity.deliveryId := by
    intro id
    show id ∈ (batch.send ctx answers).outcome.written ↔ _
    rw [hwritten, ← mem_deliveryIds]
    by_cases haccepted : batch.accepted ctx answers = true
    · rw [if_pos haccepted]
      exact (and_iff_right haccepted).symm
    · rw [if_neg haccepted]
      exact iff_of_false (by simp) fun h => haccepted h.1
  refine ⟨fun d hd hmem => ?_, ?_⟩
  · obtain ⟨-, hin⟩ := (hwritten' _).mp hmem
    obtain ⟨a, ha, heq⟩ := List.mem_map.mp hin
    obtain ⟨d', hd', hid⟩ := List.mem_map.mp (hbatched.known a ha)
    have hsame : d' = d := List.inj_on_of_nodup_map hids (hsub d' hd') hd (hid.trans heq)
    exact hbatched.whole d (hsame ▸ hd') hin
  · by_cases haccepted : batch.accepted ctx answers = true
    · have hsent : (batch.sends ctx answers = true ↔ ctx.dryRun = false) ∧
          (batch.sends ctx answers = true → answers.response.ok = true) := by
        simp only [Flush.accepted, Bool.and_eq_true, batchTimeline] at haccepted
        obtain ⟨⟨hne, htoken⟩, hok⟩ := haccepted
        simp only [Flush.sends, hne, htoken, Bool.true_and, Bool.not_eq_true']
        refine ⟨trivial, fun hdry => ?_⟩
        have hlength : batch.activities.length ≠ 0 := by
          simpa [List.isEmpty_iff, List.length_eq_zero_iff] using hne
        rw [if_neg hlength] at hok
        split at hok
        · exact absurd hok (by simp)
        · simpa [hdry] using hok
      have hall : (∀ d ∈ deliveries, d.1.id ∈ written →
          ∀ a ∈ batch.activities, a.deliveryId = d.1.id → a.id sha1 ∈ stored') ↔
          ∀ id ∈ batch.activities.map fun a => a.id sha1, id ∈ stored' := by
        refine ⟨fun h id hid => ?_, fun h d _ _ a ha _ => h _ (List.mem_map.mpr ⟨a, ha, rfl⟩)⟩
        obtain ⟨a, ha, rfl⟩ := List.mem_map.mp hid
        obtain ⟨d, hd, heq⟩ := List.mem_map.mp (hbatched.known a ha)
        refine h d (hsub d hd) ((hwritten' _).mpr ⟨haccepted, ?_⟩) a ha heq.symm
        exact List.mem_map.mpr ⟨a, ha, heq.symm⟩
      rw [hall, hserver.stored_iff hsent.2, hsent.1]
      exact ⟨fun h _ => h, fun h => h haccepted⟩
    · refine iff_of_true (fun d _ hmem => ?_) fun h => absurd h haccepted
      exact absurd ((hwritten' _).mp hmem).1 haccepted

/-! ### Two runs of a flush -/

open FlushExample

/-- A digest, for want of a shorter one. -/
def FlushExample.digest (bytes : List Nat) : List Nat :=
  (List.range 20).map fun i => (bytes.drop i).sum % 256

/-- Two deliveries of two events, with a rule for each of two milestones. -/
theorem written_stored_two :
    (let batch := flushLoop (context [rule "inscription", rule "client"]) (.start caches meter)
        [incoming "d1" "e1", incoming "d2" "e2"]
      let ids := batch.activities.map fun a => a.id digest
      Fresh [] ids ∧
        ∀ d ∈ [incoming "d1" "e1", incoming "d2" "e2"],
          d.1.id ∈ (flushBatch (context [rule "inscription", rule "client"]) caches meter
            [incoming "d1" "e1", incoming "d2" "e2"] accepted).outcome.written →
          ∀ a ∈ batch.activities, a.deliveryId = d.1.id → a.id digest ∈ ids) := by
  have hfresh : Fresh [] ((flushLoop (context [rule "inscription", rule "client"])
      (.start caches meter) [incoming "d1" "e1", incoming "d2" "e2"]).activities.map
        fun a => a.id digest) := by
    refine ⟨?_, fun id _ => by simp⟩
    decide +kernel
  have hsends : (flushLoop (context [rule "inscription", rule "client"])
      (.start caches meter) [incoming "d1" "e1", incoming "d2" "e2"]).sends
        (context [rule "inscription", rule "client"]) accepted = true := by decide +kernel
  refine ⟨hfresh, ((written_stored_iff _ _ _ _ _ digest [] _ (by decide) ?_).2.mpr
    fun _ => Or.inl ⟨rfl, hfresh⟩)⟩
  rw [hsends]
  exact .stored hfresh 201 "" (by decide)

/-- Twenty refuses the batch as a duplicate. -/
def FlushExample.refused : BatchAnswers :=
  { accepted with response := .answered 400 "A duplicate entry was detected" }

/-- Two rules of a workspace name the same milestone: the batch has an id twice, nothing of
it is stored, and the delivery is reported as written. -/
theorem written_not_stored :
    (let ctx := context [rule "inscription", rule "inscription"]
      let batch := flushLoop ctx (.start caches meter) [incoming "d1" "e1"]
      (∀ sha1, Received [] (batch.activities.map fun a => a.id sha1) (batch.sends ctx refused)
        refused.response []) ∧
      (flushBatch ctx caches meter [incoming "d1" "e1"] refused).outcome.written = ["d1"] ∧
      ∃ a ∈ batch.activities, a.deliveryId = "d1") := by
  have hsends : (flushLoop (context [rule "inscription", rule "inscription"])
      (.start caches meter) [incoming "d1" "e1"]).sends
        (context [rule "inscription", rule "inscription"]) refused = true := by decide +kernel
  have hbatch : (flushLoop (context [rule "inscription", rule "inscription"])
      (.start caches meter) [incoming "d1" "e1"]).activities =
        List.replicate 2 ⟨"d1", ⟨"inscription", ⟨"lea@example.com", .email, none⟩, "e1"⟩, "p1"⟩ := by
    decide +kernel
  intro ctx batch
  refine ⟨fun sha1 => ?_, by decide +kernel, ?_⟩
  · rw [hsends, hbatch]
    refine .duplicate (fun h => ?_) _ (by decide +kernel)
    simpa using h.1
  · rw [hbatch]
    exact ⟨_, List.mem_cons_self, rfl⟩

end Veridian.TwentyConnector
