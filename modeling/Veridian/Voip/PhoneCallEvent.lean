/-
The event a phone call is stored as.

A call becomes one `phone_call` goal.  It has no web signals: its channel comes from
the source the called number is attributed to, and its referrer is `voip://` and the
provider.
-/
import Veridian.Events.Event
import Veridian.Events.DeriveChannel

namespace Veridian

inductive VoipProvider where
  | ovh | telnyx
  deriving DecidableEq, Repr

def VoipProvider.text : VoipProvider → String
  | .ovh => "ovh"
  | .telnyx => "telnyx"

inductive CallDirection where
  | inbound | outbound
  deriving DecidableEq, Repr

def CallDirection.text : CallDirection → String
  | .inbound => "inbound"
  | .outbound => "outbound"

inductive CallStatus where
  | answered | missed | busy | failed
  deriving DecidableEq, Repr

def CallStatus.text : CallStatus → String
  | .answered => "answered"
  | .missed => "missed"
  | .busy => "busy"
  | .failed => "failed"

structure NormalizedCall where
  externalId : String
  direction : CallDirection
  fromNumber : String
  toNumber : String
  durationSec : Nat
  status : CallStatus
  recordingUrl : Option String
  startedAt : Int
  deriving DecidableEq, Repr

/-- `PHONE_NUMBER_SOURCES` -/
inductive PhoneSource where
  | seo | ads | direct | email | social | print | other
  deriving DecidableEq, Repr

def PhoneSource.text : PhoneSource → String
  | .seo => "seo"
  | .ads => "ads"
  | .direct => "direct"
  | .email => "email"
  | .social => "social"
  | .print => "print"
  | .other => "other"

structure SourceMatch where
  source : PhoneSource
  id : String
  label : String
  deriving DecidableEq, Repr

def phoneSourceToChannel : PhoneSource → ChannelResult
  | .ads => ⟨.paidSearch, .ads⟩
  | .seo => ⟨.organicSearch, .seo⟩
  | .social => ⟨.organicSocial, .social⟩
  | .email => ⟨.email, .email⟩
  | .direct => ⟨.direct, .direct⟩
  | .print | .other => ⟨.other, .other⟩

/-- The source of a call, `direct` for a number that is not attributed to any. -/
def callSource (sourceMatch : Option SourceMatch) : PhoneSource :=
  match sourceMatch with
  | some m => m.source
  | none => .direct

def callProperties (provider : VoipProvider) (call : NormalizedCall)
    (sourceMatch : Option SourceMatch) : List (String × String) :=
  [("direction", call.direction.text), ("duration_sec", toString call.durationSec),
    ("status", call.status.text), ("from_number", call.fromNumber), ("to_number", call.toNumber),
    ("provider", provider.text), ("external_id", call.externalId),
    ("source", (callSource sourceMatch).text),
    ("source_attributed", if sourceMatch.isSome then "true" else "false")] ++
  (match sourceMatch with
    | some m =>
        ("tracked_number_id", m.id) ::
          (if m.label ≠ "" then [("tracked_number_label", m.label)] else [])
    | none => []) ++
  (if call.recordingUrl.getD "" ≠ "" then [("recording_url", call.recordingUrl.getD "")] else [])

def buildPhoneCallEvent (workspaceId : String) (provider : VoipProvider) (call : NormalizedCall)
    (sourceMatch : Option SourceMatch) : TrackingEvent :=
  let sessionId := "voip:" ++ provider.text ++ ":" ++ call.externalId
  let derived := phoneSourceToChannel (callSource sourceMatch)
  { sessionId := sessionId
    workspaceId := workspaceId
    receivedAt := call.startedAt
    createdAt := call.startedAt
    updatedAt := call.startedAt
    name := .goal
    path := "/voip"
    duration := 0
    pageDuration := 0
    previousPath := ""
    referrer := "voip://" ++ provider.text
    referrerDomain := some ""
    referrerPath := ""
    isDirect := false
    landingPage := "/voip"
    landingDomain := ""
    landingPath := "/voip"
    utmSource := some ""
    utmMedium := some ""
    utmCampaign := some ""
    utmTerm := some ""
    utmContent := some ""
    utmId := ""
    utmIdFrom := ""
    channel := some derived.channel.text
    channelGroup := some derived.channelGroup.text
    stm := fun _ => some ""
    screenWidth := 0
    screenHeight := 0
    viewportWidth := 0
    viewportHeight := 0
    device := ""
    browser := ""
    browserType := ""
    os := ""
    userAgent := ""
    connectionType := ""
    language := "fr-FR"
    timezone := "Europe/Paris"
    country := "FR"
    region := ""
    city := ""
    latitude := none
    longitude := none
    visitorId := ""
    fingerprint := ""
    ip := ""
    userId := none
    maxScroll := 0
    sdkVersion := "voip-sync-1.0"
    properties := callProperties provider call sourceMatch
    dedupToken := s!"{sessionId}_goal_phone_call_{call.startedAt}"
    pageNumber := 1
    version := call.startedAt
    goalName := "phone_call"
    goalValue := call.durationSec
    enteredAt := call.startedAt
    exitedAt := call.startedAt
    goalTimestamp := some call.startedAt }

/-- The channels of phone numbers follow the groups of the web, and a referral is not among
them. -/
theorem phoneSourceToChannel_eq_finalize (source : PhoneSource) :
    ∃ channel, channel ≠ .referral ∧ phoneSourceToChannel source = finalize channel := by
  cases source
  · exact ⟨.organicSearch, by decide, rfl⟩
  · exact ⟨.paidSearch, by decide, rfl⟩
  · exact ⟨.direct, by decide, rfl⟩
  · exact ⟨.email, by decide, rfl⟩
  · exact ⟨.organicSocial, by decide, rfl⟩
  · exact ⟨.other, by decide, rfl⟩
  · exact ⟨.other, by decide, rfl⟩

/-- The referrer of a call reads as the page of some other site. -/
theorem channelOfDomain_voip (provider : VoipProvider) :
    channelOfDomain ("voip://" ++ provider.text) = some .referral := by
  have hne : "voip://" ++ provider.text ≠ "" := by cases provider <;> decide
  have hdot : '.' ∉ ("voip://" ++ provider.text).toList := by cases provider <;> decide
  have hslash : '/' ∈ ("voip://" ++ provider.text).toList := by cases provider <;> decide
  have hemail : isEmailDomain ("voip://" ++ provider.text) = false :=
    domainMatches_of_no_dot hdot hslash (by decide)
  have hsearch : isSearchEngineDomain ("voip://" ++ provider.text) = false :=
    domainMatches_of_no_dot hdot hslash (by decide)
  have hsocial : isSocialDomain ("voip://" ++ provider.text) = false :=
    domainMatches_of_no_dot hdot hslash (by decide)
  simp [channelOfDomain, hne, hemail, hsearch, hsocial]

end Veridian
