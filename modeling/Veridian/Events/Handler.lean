/-
`SessionPayloadHandler`: from a payload to the events handed to the buffer.

`handle` drops the payload of a switched-off workspace or of a domain that is not
allowed; otherwise it builds one base event from the session attributes, one event
per action on top of it, and runs the workspace's filters over each.  The channel
is derived while the base event is built, so the filters see and may overwrite it.
-/
import Veridian.Events.Payload
import Veridian.Events.DeriveChannel
import Veridian.Filters.Evaluator

namespace Veridian

/-! ### Clock skew -/

def CLOCK_SKEW_THRESHOLD_MS : Int := 5000

/-- The skew in milliseconds, and whether it needs correction. -/
def calculateClockSkew (sentAt : Option Int) (receivedAtMs : Int) : Int × Bool :=
  match sentAt with
  | none => (0, false)
  | some sentAt =>
      let skewMs := receivedAtMs - sentAt
      if skewMs < -CLOCK_SKEW_THRESHOLD_MS then (skewMs, true)
      else if CLOCK_SKEW_THRESHOLD_MS < skewMs then (skewMs, true)
      else (skewMs, false)

def correctTimestamp (timestampMs skewMs : Int) : Int := timestampMs + skewMs

/-- `skewMs ? correctTimestamp(t, skewMs) : t`. -/
def corrected (t skewMs : Int) : Int :=
  if skewMs ≠ 0 then correctTimestamp t skewMs else t

/-- The skew `handle` passes on: zero unless it needs correction. -/
def appliedSkew (payload : SessionPayload) (arrival : Arrival) : Int :=
  let (skewMs, needsCorrection) := calculateClockSkew payload.sentAt arrival.version
  if needsCorrection then skewMs else 0

/-! ### Parsing -/

def parseUrl (host : Host) (urlString : Option String) : Option String × Option String :=
  match urlString with
  | none => (none, none)
  | some s =>
      if s = "" then (none, none)
      else
        match host.parseUrl s with
        | some url => (some url.hostname, some url.pathname)
        | none => (none, none)

def extractReferralCode (host : Host) (landingPage : Option String)
    (referralParam : ReferralParam) : String :=
  match referralParam with
  | .null => ""
  | .name "" => ""
  | referralParam =>
      let param := Text.trim (match referralParam with | .name p => p | _ => "ref")
      if param = "" then ""
      else if landingPage.getD "" = "" then ""
      else
        match host.parseUrl (landingPage.getD "") with
        | some url => Text.trim ((url.searchParam param).getD "")
        | none => ""

/-- `!attrs?.referrer`. -/
def SessionAttributes.noReferrer (attrs : SessionAttributes) : Bool :=
  attrs.referrer.getD "" == ""

/-- The signals `buildBaseEvent` hands to `deriveChannel`. -/
def ingestionSignals (host : Host) (attrs : SessionAttributes) (referralParam : ReferralParam) :
    ChannelSignals :=
  { referrerDomain := (parseUrl host attrs.referrer).1
    referrer := attrs.referrer
    utmSource := attrs.utmSource
    utmMedium := attrs.utmMedium
    utmIdFrom := attrs.utmIdFrom
    isDirect := some attrs.noReferrer
    referralCode := some (extractReferralCode host attrs.landingPage referralParam) }

/-! ### Building the events -/

/-- The session columns; the per-action ones are filled in by `deserializeAction`. -/
def buildBaseEvent (host : Host) (payload : SessionPayload) (arrival : Arrival) (skewMs : Int)
    (workspace : Workspace) : TrackingEvent :=
  let attrs := payload.attributes
  let referrerParsed := parseUrl host attrs.referrer
  let landingParsed := parseUrl host attrs.landingPage
  let referralCode := extractReferralCode host attrs.landingPage workspace.settings.referralParam
  let derived := deriveChannel host (ingestionSignals host attrs workspace.settings.referralParam)
  { sessionId := payload.sessionId
    workspaceId := payload.workspaceId
    receivedAt := arrival.now
    createdAt := corrected payload.createdAt skewMs
    updatedAt := corrected payload.updatedAt skewMs
    version := arrival.version
    referrer := attrs.referrer.getD ""
    referrerDomain := some (referrerParsed.1.getD "")
    referrerPath := referrerParsed.2.getD ""
    isDirect := attrs.noReferrer
    landingPage := attrs.landingPage.getD ""
    landingDomain := landingParsed.1.getD ""
    landingPath := landingParsed.2.getD ""
    utmSource := some (attrs.utmSource.getD "")
    utmMedium := some (attrs.utmMedium.getD "")
    utmCampaign := some (attrs.utmCampaign.getD "")
    utmTerm := some (attrs.utmTerm.getD "")
    -- the referral code first, the SDK's own utm_content for want of one
    utmContent := some (if referralCode ≠ "" then referralCode else attrs.utmContent.getD "")
    utmId := attrs.utmId.getD ""
    utmIdFrom := attrs.utmIdFrom.getD ""
    screenWidth := attrs.screenWidth.getD 0
    screenHeight := attrs.screenHeight.getD 0
    viewportWidth := attrs.viewportWidth.getD 0
    viewportHeight := attrs.viewportHeight.getD 0
    device := attrs.device.getD ""
    browser := attrs.browser.getD ""
    browserType := attrs.browserType.getD ""
    os := attrs.os.getD ""
    userAgent := attrs.userAgent.getD ""
    connectionType := attrs.connectionType.getD ""
    language := attrs.language.getD ""
    timezone := attrs.timezone.getD ""
    country := arrival.geo.country.getD ""
    region := arrival.geo.region.getD ""
    city := arrival.geo.city.getD ""
    latitude := arrival.geo.latitude
    longitude := arrival.geo.longitude
    sdkVersion := payload.sdkVersion.getD ""
    channel := some derived.channel.text
    channelGroup := some derived.channelGroup.text
    stm := fun k => some ((payload.dimensions.lookup s!"stm_{k.val + 1}").getD "")
    userId := payload.userId
    visitorId := payload.visitorId.getD ""
    fingerprint := attrs.fingerprint.getD ""
    ip := arrival.clientIp.getD ""
    -- set by deserializeAction for every event
    name := .screenView
    path := ""
    duration := 0
    pageDuration := 0
    previousPath := ""
    maxScroll := 0
    properties := []
    dedupToken := ""
    pageNumber := 0
    goalName := ""
    goalValue := 0
    enteredAt := 0
    exitedAt := 0
    goalTimestamp := none }

def PageviewAction.dedupToken (sessionId : String) (action : PageviewAction) : String :=
  s!"{sessionId}_pv_{action.pageNumber}"

/-- The original timestamp, so that retries agree. -/
def GoalAction.dedupToken (sessionId : String) (action : GoalAction) : String :=
  s!"{sessionId}_goal_{action.name}_{action.timestamp}"

def Action.dedupToken (sessionId : String) : Action → String
  | .pageview a => a.dedupToken sessionId
  | .goal a => a.dedupToken sessionId

def deserializePageview (action : PageviewAction) (baseEvent : TrackingEvent)
    (sessionId previousPath : String) (skewMs : Int) : TrackingEvent :=
  { baseEvent with
    dedupToken := action.dedupToken sessionId
    name := .screenView
    path := action.path
    pageNumber := action.pageNumber
    duration := action.duration
    pageDuration := action.duration
    maxScroll := action.scroll
    previousPath := previousPath
    goalName := ""
    goalValue := 0
    properties := []
    enteredAt := corrected action.enteredAt skewMs
    exitedAt := corrected action.exitedAt skewMs
    goalTimestamp := none }

def deserializeGoal (action : GoalAction) (baseEvent : TrackingEvent) (sessionId : String)
    (skewMs : Int) : TrackingEvent :=
  let correctedTimestamp := corrected action.timestamp skewMs
  { baseEvent with
    dedupToken := action.dedupToken sessionId
    name := .goal
    path := action.path
    pageNumber := action.pageNumber
    duration := 0
    pageDuration := 0
    maxScroll := 0
    previousPath := ""
    goalName := action.name
    goalValue := action.value.getD 0
    properties := action.properties.getD []
    enteredAt := correctedTimestamp
    exitedAt := correctedTimestamp
    goalTimestamp := some correctedTimestamp }

def deserializeAction (action : Action) (baseEvent : TrackingEvent)
    (sessionId previousPath : String) (skewMs : Int) : TrackingEvent :=
  match action with
  | .pageview a => deserializePageview a baseEvent sessionId previousPath skewMs
  | .goal a => deserializeGoal a baseEvent sessionId skewMs

/-- The loop over the actions, carrying the path of the last pageview. -/
def deserializeActions (baseEvent : TrackingEvent) (sessionId : String) (skewMs : Int) :
    String → List Action → List TrackingEvent
  | _, [] => []
  | previousPath, action :: rest =>
      let previousPath' := match action with | .pageview a => a.path | .goal _ => previousPath
      deserializeAction action baseEvent sessionId previousPath skewMs ::
        deserializeActions baseEvent sessionId skewMs previousPath' rest

/-- What no action writes is the same in all events of a payload. -/
theorem mem_deserializeActions_view {β : Type*} (view : TrackingEvent → β)
    (hview : ∀ action baseEvent sessionId previousPath skewMs,
      view (deserializeAction action baseEvent sessionId previousPath skewMs) = view baseEvent)
    {baseEvent event : TrackingEvent} {sessionId : String} {skewMs : Int} :
    ∀ {previousPath : String} {actions : List Action},
      event ∈ deserializeActions baseEvent sessionId skewMs previousPath actions →
      view event = view baseEvent := by
  intro previousPath actions
  induction actions generalizing previousPath with
  | nil => intro h; simp [deserializeActions] at h
  | cons action rest ih =>
      intro h
      rcases List.mem_cons.mp h with rfl | hrest
      · exact hview action baseEvent sessionId previousPath skewMs
      · exact ih hrest

/-- The events of a payload before any filter. -/
def buildEvents (host : Host) (payload : SessionPayload) (arrival : Arrival)
    (workspace : Workspace) : List TrackingEvent :=
  let skewMs := appliedSkew payload arrival
  deserializeActions (buildBaseEvent host payload arrival skewMs workspace) payload.sessionId
    skewMs "" payload.actions

/-! ### Filters -/

/-- `Object.assign(event, customDimensions)`. -/
def TrackingEvent.assignCustom (event : TrackingEvent) (values : CustomDimensionValues) :
    TrackingEvent :=
  { event with
    channel := values.channel
    channelGroup := values.channelGroup
    stm := values.stm }

def applyFilters (host : Host) (event : TrackingEvent) (filters : List FilterDefinition) :
    TrackingEvent :=
  if filters = [] then event
  else
    let fieldValues := extractFieldValues event
    let (customDimensions, modifiedFields) := applyFilterResults host filters fieldValues
    modifiedFields.entries.foldl (fun e entry => e.assign entry.1 entry.2)
      (event.assignCustom customDimensions)

/-! ### The handler -/

def extractRequestDomain (host : Host) (origin referer : Option String) : String :=
  match (parseUrl host origin).1 with
  | some hostname => hostname
  | none => ((parseUrl host referer).1).getD ""

def isDomainAllowed (host : Host) (domain : String) (allowedDomains : List String) : Bool :=
  if allowedDomains = [] then true
  else if domain = "" then false
  else
    let normalized := host.toLowerCase domain
    allowedDomains.any fun allowed =>
      let pattern := Text.trim (host.toLowerCase allowed)
      if Text.startsWith pattern "*." then
        let base := String.ofList (pattern.toList.drop 2)
        normalized == base || Text.endsWith normalized ("." ++ base)
      else normalized == pattern

/-- The events `handle` passes to `buffer.addBatch`; none for a payload it skips. -/
def handle (host : Host) (workspace : Workspace) (payload : SessionPayload) (arrival : Arrival) :
    List TrackingEvent :=
  if workspace.status = .inactive ∨ workspace.status = .error then []
  else if workspace.settings.allowedDomains ≠ [] ∧
      isDomainAllowed host (extractRequestDomain host arrival.origin arrival.referer)
        workspace.settings.allowedDomains = false then []
  else
    (buildEvents host payload arrival workspace).map fun e =>
      applyFilters host e workspace.settings.filters

end Veridian
