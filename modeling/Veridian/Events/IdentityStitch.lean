/-
The stitching of identified users to their first touch.

`stitch` takes the user's most recent session, looks for the earliest session with a real
channel under three keys, and inserts a row of `user_attribution`.  Every query and the
insert is awaited, and nothing keeps two calls apart, so an action below is a session
that arrives or becomes identified, or one query or insert of one call.

`sessions` is read with `FINAL`: a session is one row here.  Of rows with one
`created_at` the server may return any, so a query is given the order it reads them in.
`user_attribution` is a `ReplacingMergeTree(updated_at)` ordered by `identity_key`.
-/
import Veridian.Lib.Machine
import Veridian.Lib.Replacing
import Veridian.Lib.Sorting

namespace Veridian.IdentityStitch

/-- How far back a fingerprint match may reach before the identified session. -/
def FINGERPRINT_LOOKBACK_SECONDS : Int := 60 * 60

/-- A session row as needed for stitching; `createdAt` in milliseconds. -/
structure SessionRow where
  id : String
  userId : Option String
  visitorId : String
  fingerprint : String
  createdAt : Int
  channel : String
  channelGroup : String
  referrer : String
  referrerDomain : String
  landingPage : String
  landingDomain : String
  utmSource : String
  utmMedium : String
  utmCampaign : String
  utmContent : String
deriving DecidableEq

inductive StitchMethod where
  | sessionId
  | visitorId
  | fingerprint
deriving DecidableEq

/-- The column a key compares. -/
def StitchMethod.column : StitchMethod → SessionRow → String
  | .sessionId => SessionRow.id
  | .visitorId => SessionRow.visitorId
  | .fingerprint => SessionRow.fingerprint

/-! ### The queries -/

/-- The user's most recent session row. -/
def getIdentifiedSession (sessions : List SessionRow) (userId : String) : Option SessionRow :=
  Sorting.latest SessionRow.createdAt (sessions.filter fun s => s.userId = some userId)

/-- The channel groups that add no acquisition information. -/
def SessionRow.real (s : SessionRow) : Bool :=
  s.channelGroup != "" && s.channelGroup != "direct" && s.channelGroup != "not-mapped"

/-- The earliest session matching `whereClause` that carries a real channel group. -/
def firstChainSession (sessions : List SessionRow) (whereClause : SessionRow → Bool) :
    Option SessionRow :=
  Sorting.earliest SessionRow.createdAt (sessions.filter fun s => whereClause s && s.real)

def StitchMethod.whereClause (identified : SessionRow) (method : StitchMethod)
    (s : SessionRow) : Bool :=
  method.column s = method.column identified && s.createdAt ≤ identified.createdAt &&
    match method with
    | .fingerprint => identified.createdAt - FINGERPRINT_LOOKBACK_SECONDS * 1000 ≤ s.createdAt
    | _ => true

/-- One of the three lookups of `findFirstTouch`, left out when the key is empty. -/
def findByKey (identified : SessionRow) (method : StitchMethod) (sessions : List SessionRow) :
    Option SessionRow :=
  if method.column identified = "" then none
  else firstChainSession sessions (method.whereClause identified)

/-! ### The row -/

structure AttributionRow where
  identityKey : String
  userId : String
  firstTouchChannel : String
  firstTouchChannelGroup : String
  firstTouchReferrer : String
  firstTouchReferrerDomain : String
  firstTouchLandingPage : String
  firstTouchLandingDomain : String
  firstTouchUtmSource : String
  firstTouchUtmMedium : String
  firstTouchUtmCampaign : String
  firstTouchUtmContent : String
  firstTouchAt : Int
  firstTouchSessionId : String
  firstTouchMethod : StitchMethod
  lastTouchChannel : String
  lastTouchChannelGroup : String
  lastTouchReferrer : String
  lastTouchLandingPage : String
  lastTouchUtmSource : String
  lastTouchUtmMedium : String
  lastTouchAt : Int
  lastTouchSessionId : String
  referralCode : String
  visitorId : String
  fingerprint : String
  firstSeenAt : Int
  updatedAt : Int

/-- `a || b` on strings. -/
def orOther (a b : String) : String := if a = "" then b else a

def attributionRow (userId : String) (identified first : SessionRow) (method : StitchMethod)
    (now : Int) : AttributionRow where
  identityKey := userId
  userId := userId
  firstTouchChannel := first.channel
  firstTouchChannelGroup := first.channelGroup
  firstTouchReferrer := first.referrer
  firstTouchReferrerDomain := first.referrerDomain
  firstTouchLandingPage := first.landingPage
  firstTouchLandingDomain := first.landingDomain
  firstTouchUtmSource := first.utmSource
  firstTouchUtmMedium := first.utmMedium
  firstTouchUtmCampaign := first.utmCampaign
  firstTouchUtmContent := first.utmContent
  firstTouchAt := first.createdAt
  firstTouchSessionId := first.id
  firstTouchMethod := method
  lastTouchChannel := identified.channel
  lastTouchChannelGroup := identified.channelGroup
  lastTouchReferrer := identified.referrer
  lastTouchLandingPage := identified.landingPage
  lastTouchUtmSource := identified.utmSource
  lastTouchUtmMedium := identified.utmMedium
  lastTouchAt := identified.createdAt
  lastTouchSessionId := identified.id
  -- The stored row is not read, so a code that it has is not carried over.
  referralCode := orOther first.utmContent ""
  visitorId := orOther identified.visitorId first.visitorId
  fingerprint := orOther identified.fingerprint first.fingerprint
  firstSeenAt := first.createdAt
  updatedAt := now

/-- The row a read of the user with `FINAL` sees. -/
def currentRow (userId : String) (rows : List AttributionRow) : Option AttributionRow :=
  Replacing.survivor AttributionRow.identityKey AttributionRow.updatedAt userId rows

/-! ### Calls in progress -/

/-- What a call is about to await. -/
inductive StitchPhase where
  | getIdentifiedSession
  | findFirstTouch (identified : SessionRow) (methods : List StitchMethod)
  | upsertAttribution (identified first : SessionRow) (method : StitchMethod)
  | ended

structure StitchCall where
  userId : String
  phase : StitchPhase

/-- The query a call awaits answers. -/
def StitchPhase.answer (userId : String) (sessions : List SessionRow) :
    StitchPhase → Option StitchPhase
  | .getIdentifiedSession =>
      match IdentityStitch.getIdentifiedSession sessions userId with
      | none => some .ended
      | some identified =>
          some (.findFirstTouch identified [.sessionId, .visitorId, .fingerprint])
  | .findFirstTouch _ [] => some .ended
  | .findFirstTouch identified (method :: methods) =>
      match findByKey identified method sessions with
      | some first => some (.upsertAttribution identified first method)
      | none => some (.findFirstTouch identified methods)
  | _ => none

structure Attribution where
  sessions : List SessionRow
  attribution : List AttributionRow
  calls : List StitchCall

namespace Attribution

def init : Attribution := ⟨[], [], []⟩

inductive Action where
  | arrive (session : SessionRow)
  | identify (i : Nat) (userId : String)
  | stitch (userId : String)
  /-- The query of the `i`-th call reads the sessions in the order `read`. -/
  | query (i : Nat) (read : List SessionRow)
  | insert (i : Nat) (now : Int)
  | fail (i : Nat)

def step (s : Attribution) : Action → Option Attribution
  | .arrive session =>
      if s.sessions.all fun earlier => earlier.createdAt ≤ session.createdAt then
        some { s with sessions := s.sessions ++ [session] }
      else none
  | .identify i userId =>
      match s.sessions[i]? with
      | none => none
      | some session =>
          if session.userId = none then
            some { s with sessions := s.sessions.set i { session with userId := some userId } }
          else none
  | .stitch userId => some { s with calls := s.calls ++ [⟨userId, .getIdentifiedSession⟩] }
  | .query i read =>
      match s.calls[i]? with
      | none => none
      | some call =>
          if read.Perm s.sessions then
            (call.phase.answer call.userId read).map fun phase =>
              { s with calls := s.calls.set i ⟨call.userId, phase⟩ }
          else none
  | .insert i now =>
      match s.calls[i]? with
      | some ⟨userId, .upsertAttribution identified first method⟩ =>
          some { s with
            attribution := s.attribution ++ [attributionRow userId identified first method now]
            calls := s.calls.set i ⟨userId, .ended⟩ }
      | _ => none
  | .fail i =>
      match s.calls[i]? with
      | none => none
      | some call => some { s with calls := s.calls.set i ⟨call.userId, .ended⟩ }

inductive Stepped (s : Attribution) : Action → Attribution → Prop
  | arrived (session : SessionRow)
      (h : ∀ earlier ∈ s.sessions, earlier.createdAt ≤ session.createdAt) :
      Stepped s (.arrive session) { s with sessions := s.sessions ++ [session] }
  | identified (i : Nat) (userId : String) (session : SessionRow)
      (h : s.sessions[i]? = some session) (hanon : session.userId = none) :
      Stepped s (.identify i userId)
        { s with sessions := s.sessions.set i { session with userId := some userId } }
  | begun (userId : String) :
      Stepped s (.stitch userId)
        { s with calls := s.calls ++ [⟨userId, .getIdentifiedSession⟩] }
  | answered (i : Nat) (read : List SessionRow) (call : StitchCall) (phase : StitchPhase)
      (h : s.calls[i]? = some call) (hread : read.Perm s.sessions)
      (hphase : call.phase.answer call.userId read = some phase) :
      Stepped s (.query i read) { s with calls := s.calls.set i ⟨call.userId, phase⟩ }
  | inserted (i : Nat) (now : Int) (userId : String) (identified first : SessionRow)
      (method : StitchMethod)
      (h : s.calls[i]? = some ⟨userId, .upsertAttribution identified first method⟩) :
      Stepped s (.insert i now)
        { s with
          attribution := s.attribution ++ [attributionRow userId identified first method now]
          calls := s.calls.set i ⟨userId, .ended⟩ }
  | failed (i : Nat) (call : StitchCall) (h : s.calls[i]? = some call) :
      Stepped s (.fail i) { s with calls := s.calls.set i ⟨call.userId, .ended⟩ }

theorem stepped_of_step {s s' : Attribution} {a : Action} (h : s.step a = some s') :
    Stepped s a s' := by
  unfold step at h
  split at h
  · split at h
    · rename_i hall
      obtain rfl := Option.some.inj h
      exact .arrived _ (by simpa using hall)
    · exact absurd h (by simp)
  · split at h
    · exact absurd h (by simp)
    · rename_i session hsession
      split at h
      · rename_i hanon
        obtain rfl := Option.some.inj h
        exact .identified _ _ session hsession hanon
      · exact absurd h (by simp)
  · obtain rfl := Option.some.inj h
    exact .begun _
  · split at h
    · exact absurd h (by simp)
    · rename_i call hcall
      split at h
      · rename_i hread
        obtain ⟨phase, hphase, rfl⟩ := Option.map_eq_some_iff.mp h
        exact .answered _ _ call phase hcall hread hphase
      · exact absurd h (by simp)
  · split at h
    · rename_i userId identified first method hcall
      obtain rfl := Option.some.inj h
      exact .inserted _ _ userId identified first method hcall
    · exact absurd h (by simp)
  · split at h
    · exact absurd h (by simp)
    · rename_i call hcall
      obtain rfl := Option.some.inj h
      exact .failed _ call hcall

end Attribution

end Veridian.IdentityStitch
