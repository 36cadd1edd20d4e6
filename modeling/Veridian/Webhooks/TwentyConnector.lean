/-
The flush of a batch of deliveries to Twenty.

`flushBatch` maps the deliveries one after the other, resolves the Person of each, and
collects their milestones until the next delivery would take them past sixty.  What was
collected goes out in one POST, and how that ends is how it ends for all of them.

The outside answers every lookup and every request in some way, and the clock is read
where the service reads it.  Two things are recorded that the service does not keep: the
deliveries that found no token, and every call of `take`.
-/
import Veridian.Lib.Assoc
import Veridian.Webhooks.DeliveryWorker
import Veridian.Webhooks.TwentyBudget
import Veridian.Webhooks.TwentyEventMapper

namespace Veridian.TwentyConnector

open WebhookDeliveryWorker (DeliveryRow takeUnits)
open TwentyEventMapper (TrackedPayload TrackedEventContext WorkspaceCrmMapping MappedTimelineEvent
  FirstTouchAttribution IdentityKind mapAll acquisitionFromFirstTouch)

def BATCH_SIZE : Nat := 60
def PERSON_CACHE_TTL_MS : Int := 24 * 60 * 60 * 1000
def DEFAULT_PERSON_CACHE_MAX_SIZE : Nat := 50_000

/-! ### The caches of the service -/

structure CachedPerson where
  id : String
  resolvedAt : Int

structure Caches where
  personCache : List (String × CachedPerson)
  acquisitionPatched : List (String × String)
  personCacheMaxSize : Nat

/-- `cachePerson` and `cacheBounded`: the oldest entry makes room for a new key. -/
def cacheBounded {α : Type} (maxSize : Nat) (map : List (String × α)) (key : String) (value : α) :
    List (String × α) :=
  Assoc.set (if maxSize ≤ map.length ∧ (map.lookup key).isNone then map.drop 1 else map) key value

/-! ### Resolving a Person -/

/-- How `client.resolvePerson` ends. -/
inductive PersonAnswer where
  | found (id : String)
  | missing
  | error

inductive PersonResolution where
  | found (personId : String)
  | notFound
  | noBudget
  | threw
deriving DecidableEq

/-- What the outside answers while one delivery is looked at. -/
structure DeliveryAnswers where
  /-- `getFirstTouch`, asked when the payload has a user. -/
  firstTouch : Option FirstTouchAttribution
  /-- The clock at the test of the cache, at `take`, and when the Person is cached. -/
  testedAt : Int
  takenAt : Int
  cachedAt : Int
  person : PersonAnswer

def IdentityKind.text : IdentityKind → String
  | .email => "email"
  | .slug => "slug"
  | .field => "field"

def personKey (workspaceId : String) (mapped : MappedTimelineEvent) : String :=
  workspaceId ++ ":" ++ IdentityKind.text mapped.identity.identityKind ++ ":" ++
    mapped.identity.identityField.getD "" ++ ":" ++ mapped.identity.identity

def cachedPersonId (caches : Caches) (key : String) (now : Int) : Option String :=
  ((caches.personCache.lookup key).filter fun cached =>
    now - cached.resolvedAt < PERSON_CACHE_TTL_MS).map CachedPerson.id

def resolvePersonId (caches : Caches) (meter : Meter) (workspaceId : String)
    (mapped : MappedTimelineEvent) (answers : DeliveryAnswers) :
    PersonResolution × Caches × Meter :=
  let key := personKey workspaceId mapped
  match cachedPersonId caches key answers.testedAt with
  | some id => (.found id, caches, meter)
  | none =>
      match meter.take answers.takenAt with
      | (false, meter) => (.noBudget, caches, meter)
      | (true, meter) =>
          match answers.person with
          | .error => (.threw, caches, meter)
          | .missing => (.notFound, caches, meter)
          | .found id =>
              (.found id,
                { caches with
                  personCache := cacheBounded caches.personCacheMaxSize caches.personCache key
                    ⟨id, answers.cachedAt⟩ },
                meter)

/-! ### The batch request -/

structure TimelineActivity where
  deliveryId : String
  mapped : MappedTimelineEvent
  personId : String
deriving DecidableEq

/-- The answer to `POST /rest/batch/timelineActivities`, if there is one. -/
inductive BatchResponse where
  | answered (status : Nat) (body : String)
  | noAnswer

/-- `(await res.text()).slice(0, 500)` contains `duplicate` in any case. -/
def mentionsDuplicate (body : String) : Bool :=
  Text.includes (Text.asciiLower (String.ofList (takeUnits 500 body.toList))) "duplicate"

/-- A success, or a duplicate taken for a replay. -/
def BatchResponse.ok : BatchResponse → Bool
  | .noAnswer => false
  | .answered status body =>
      (200 ≤ status && status < 300) || status = 409 || (status = 400 && mentionsDuplicate body)

/-- `batchTimeline` returns; otherwise it throws. -/
def batchTimeline (dryRun : Bool) (size : Nat) (response : BatchResponse) : Bool :=
  if size = 0 then true
  else if 60 < size then false
  else dryRun || response.ok

/-! ### Collecting -/

structure ConnectorOutcome where
  written : List String
  orphans : List String
  failed : List String
  skipped : List String

/-- What the first-touch patch of a Person needs. -/
structure AcquisitionPatch where
  userId : String
  firstTouch : FirstTouchAttribution

structure Flush where
  caches : Caches
  meter : Meter
  outcome : ConnectorOutcome
  activities : List TimelineActivity
  acquisitionPatches : List (String × AcquisitionPatch)
  /-- The deliveries that found no token. -/
  refused : List String

/-- What stays the same during a flush. -/
structure FlushContext where
  host : Host
  /-- `parseBody`, as far as it is read. -/
  parseBody : String → TrackedPayload
  workspaceId : String
  crmConfig : Option WorkspaceCrmMapping
  dryRun : Bool

def mapDelivery (ctx : FlushContext) (delivery : DeliveryRow) : List MappedTimelineEvent :=
  mapAll ctx.host
    { workspaceId := ctx.workspaceId
      eventType := delivery.eventType
      eventId := delivery.eventId
      payload := ctx.parseBody delivery.requestBody }
    ctx.crmConfig

/-- The user's first touch, if the payload has a user and is of a signup. -/
def signupPatch (ctx : FlushContext) (delivery : DeliveryRow) (answers : DeliveryAnswers) :
    Option AcquisitionPatch :=
  let payload := ctx.parseBody delivery.requestBody
  let userId := (payload.userId.map Text.trim).getD ""
  if userId = "" ∨ payload.goalName ≠ "signup" then none
  else answers.firstTouch.map fun firstTouch => ⟨userId, firstTouch⟩

/-- What the loop does with a delivery once its Person was looked for, and whether it goes
on. -/
def Flush.place (ctx : FlushContext) (s : Flush) (delivery : DeliveryRow)
    (answers : DeliveryAnswers) (mapped : List MappedTimelineEvent) :
    PersonResolution → Flush × Bool
  | .threw =>
      ({ s with outcome := { s.outcome with failed := s.outcome.failed ++ [delivery.id] } }, true)
  | .noBudget =>
      ({ s with
          outcome := { s.outcome with failed := s.outcome.failed ++ [delivery.id] }
          refused := s.refused ++ [delivery.id] }, true)
  | .notFound =>
      ({ s with outcome := { s.outcome with orphans := s.outcome.orphans ++ [delivery.id] } }, true)
  | .found personId =>
      if BATCH_SIZE < s.activities.length + mapped.length then (s, false)
      else
        ({ s with
            activities := s.activities ++ mapped.map fun m => ⟨delivery.id, m, personId⟩
            acquisitionPatches :=
              match signupPatch ctx delivery answers with
              | none => s.acquisitionPatches
              | some patch => Assoc.set s.acquisitionPatches personId patch }, true)

/-- One turn of the loop. -/
def flushStep (ctx : FlushContext) (s : Flush) (delivery : DeliveryRow)
    (answers : DeliveryAnswers) : Flush × Bool :=
  match mapDelivery ctx delivery with
  | [] =>
      ({ s with outcome := { s.outcome with skipped := s.outcome.skipped ++ [delivery.id] } }, true)
  | first :: more =>
      -- All milestones of one delivery share the same identity.
      let resolved := resolvePersonId s.caches s.meter ctx.workspaceId first answers
      { s with caches := resolved.2.1, meter := resolved.2.2 }.place ctx delivery answers
        (first :: more) resolved.1

/-- A delivery that is ready, and what answers it. -/
abbrev Incoming := DeliveryRow × DeliveryAnswers

def flushLoop (ctx : FlushContext) : Flush → List Incoming → Flush
  | s, [] => s
  | s, (delivery, answers) :: rest =>
      match flushStep ctx s delivery answers with
      | (s, true) => flushLoop ctx s rest
      | (s, false) => s

/-! ### The patches of Persons -/

structure PatchAnswer where
  takenAt : Int
  /-- What `patchPersonAcquisition` returns: `none` when it throws. -/
  patched : Option Bool

/-- `${fields.firstTouchChannel ?? ''}|${fields.referralCode ?? ''}`, if there is a field. -/
def patchSignature (host : Host) (firstTouch : FirstTouchAttribution) : Option String :=
  let acquisition := acquisitionFromFirstTouch host firstTouch
  if acquisition = "" ∧ firstTouch.referralCode = "" then none
  else some (acquisition ++ "|" ++ firstTouch.referralCode)

def patchAcquisitions (ctx : FlushContext) (answers : String → PatchAnswer) :
    Caches → Meter → List (String × AcquisitionPatch) → Caches × Meter
  | caches, meter, [] => (caches, meter)
  | caches, meter, (personId, patch) :: rest =>
      match patchSignature ctx.host patch.firstTouch with
      | none => patchAcquisitions ctx answers caches meter rest
      | some signature =>
          let markerKey := ctx.workspaceId ++ ":" ++ personId
          if caches.acquisitionPatched.lookup markerKey = some signature then
            patchAcquisitions ctx answers caches meter rest
          else
            match meter.take (answers personId).takenAt with
            | (false, meter) => (caches, meter)
            | (true, meter) =>
                let caches :=
                  if (answers personId).patched = some true then
                    { caches with
                      acquisitionPatched := cacheBounded caches.personCacheMaxSize
                        caches.acquisitionPatched markerKey signature }
                  else caches
                patchAcquisitions ctx answers caches meter rest

/-! ### The flush -/

/-- What answers the end of a flush. -/
structure BatchAnswers where
  takenAt : Int
  response : BatchResponse
  patch : String → PatchAnswer

/-- `new Set(activities.map((a) => a.deliveryId))` -/
def deliveryIds (activities : List TimelineActivity) : List String :=
  (activities.map TimelineActivity.deliveryId).eraseDups

def Flush.start (caches : Caches) (meter : Meter) : Flush where
  caches := caches
  meter := meter
  outcome := ⟨[], [], [], []⟩
  activities := []
  acquisitionPatches := []
  refused := []

/-- What follows the loop. -/
def Flush.send (ctx : FlushContext) (answers : BatchAnswers) (s : Flush) : Flush :=
  if s.activities.isEmpty then s
  else
    let ids := deliveryIds s.activities
    let failed : ConnectorOutcome := { s.outcome with failed := s.outcome.failed ++ ids }
    match s.meter.take answers.takenAt with
    | (false, meter) => { s with meter := meter, outcome := failed, refused := s.refused ++ ids }
    | (true, meter) =>
        if batchTimeline ctx.dryRun s.activities.length answers.response then
          let patched := patchAcquisitions ctx answers.patch s.caches meter s.acquisitionPatches
          { s with
            caches := patched.1
            meter := patched.2
            outcome := { s.outcome with written := s.outcome.written ++ ids } }
        else { s with meter := meter, outcome := failed }

def flushBatch (ctx : FlushContext) (caches : Caches) (meter : Meter) (deliveries : List Incoming)
    (answers : BatchAnswers) : Flush :=
  (flushLoop ctx (.start caches meter) deliveries).send ctx answers

end Veridian.TwentyConnector
