/-
From a tracked event to the milestones of a Twenty timeline.

The rules of the workspace decide, in their order and all of them that match; without
rules the built-in prospection mapping does.  The milestones of one event share its
identity.  What a milestone says besides its name (the time, the properties) decides
nothing here and is left out.
-/
import Mathlib.Algebra.Order.Field.Rat
import Veridian.Host

namespace Veridian.TwentyEventMapper

/-! ### The event -/

/-- What the mapper reads of a payload.  Of a number it reads whether there is a value at
all, and what `coerceNumber` makes of it. -/
structure TrackedPayload where
  /-- `user_id`, when it is a string. -/
  userId : Option String
  /-- `String(p.goal_name ?? '')` -/
  goalName : String
  /-- `String(p.path ?? '')` -/
  path : String
  maxScroll : Option (Option ℚ)
  scroll : Option (Option ℚ)
  /-- `p.properties?.depth` -/
  depth : Option (Option ℚ)
  /-- `String(p.properties?.app ?? '')` -/
  app : String

structure TrackedEventContext where
  workspaceId : String
  eventType : String
  eventId : String
  payload : TrackedPayload

/-! ### The configuration -/

structure CrmGoalMapping where
  match' : String
  timelineName : String
  minScroll : Option ℚ

inductive IdentityResolver where
  | auto
  | email
  | field
deriving DecidableEq

structure WorkspaceCrmMapping where
  identityResolver : Option IdentityResolver
  identityField : Option String
  goals : Option (List CrmGoalMapping)
  mapPhoneCalls : Option Bool
  phoneCallTimelineName : Option String

/-! ### Identity -/

inductive IdentityKind where
  | email
  | slug
  | field
deriving DecidableEq

structure Identity where
  identity : String
  identityKind : IdentityKind
  identityField : Option String
deriving DecidableEq

structure MappedTimelineEvent where
  name : String
  identity : Identity
  eventId : String
deriving DecidableEq

/-- `none` when `identity` is null. -/
def resolveIdentity (host : Host) (userId : Option String)
    (config : Option WorkspaceCrmMapping) : Option Identity :=
  match userId.map Text.trim with
  | none => none
  | some trimmed =>
      if trimmed = "" then none
      else
        let email : Identity := ⟨host.toLowerCase trimmed, .email, none⟩
        match ((config.bind (·.identityResolver)).getD .auto) with
        | .field =>
            match (config.bind (·.identityField)).map Text.trim with
            | none => none
            | some field => if field = "" then none else some ⟨trimmed, .field, some field⟩
        | .email => some email
        | .auto => if Text.includes trimmed "@" then some email else some ⟨trimmed, .slug, none⟩

/-! ### The rules of a workspace -/

/-- `rule.match.split(':')`: what is in front of the first colon, and the rest. -/
def splitMatch (s : String) : String × String :=
  let chars := s.toList
  (String.ofList (chars.takeWhile (· != ':')), String.ofList ((chars.dropWhile (· != ':')).drop 1))

/-- `a ?? b` -/
def orNullish {α : Type} (a b : Option α) : Option α := a <|> b

def scrollOk (p : TrackedPayload) : Option ℚ → Bool
  | none => true
  | some min =>
      match orNullish (orNullish p.maxScroll p.scroll) p.depth with
      | some (some scroll) => min ≤ scroll
      | _ => false

def CrmGoalMapping.fires (eventType : String) (p : TrackedPayload) (rule : CrmGoalMapping) :
    Bool :=
  let (kind, target) := splitMatch rule.match'
  ((eventType = "goal" && kind = "goal" && p.goalName = target) ||
    (eventType = "screen_view" && kind = "screen_view" &&
      (target = "" || Text.startsWith p.path target))) &&
  scrollOk p rule.minScroll

def resolveNamesFromConfig (eventType : String) (p : TrackedPayload)
    (rules : List CrmGoalMapping) : List String :=
  (rules.filter fun rule => rule.fires eventType p).map CrmGoalMapping.timelineName

/-! ### The built-in mapping -/

def AUDIT_SCROLL_THRESHOLD : ℚ := 75

def reaches : Option (Option ℚ) → Bool
  | some (some scroll) => AUDIT_SCROLL_THRESHOLD ≤ scroll
  | _ => false

def resolveNamesBuiltin (eventType : String) (p : TrackedPayload) : List String :=
  if eventType = "screen_view" then
    if Text.startsWith p.path "/audit/" then
      "audit.page_view" :: if reaches (orNullish p.maxScroll p.scroll) then ["audit.scroll"] else []
    else []
  else if eventType = "goal" then
    if p.goalName ∈ ["audit_view", "audit_page_view"] then ["audit.page_view"]
    else if p.goalName ∈ ["audit_scroll", "scroll_depth"] then
      if reaches p.depth then ["audit.scroll"] else []
    else if p.goalName ∈ ["audit_cta_rdv", "appointment_click", "roi_lead_click", "cta_click"] then
      ["audit.cta_click"]
    else if p.goalName = "rdv_booked" then ["audit.rdv"]
    else if p.goalName = "signup" then ["signup"]
    else if p.goalName = "app_started" then
      if p.app ∈ ["notifuse", "prospection"] then ["app.started"] else []
    else []
  else []

/-! ### All milestones -/

/-- `config?.goals`, of which a missing list and an empty one do the same. -/
def rulesOf (config : Option WorkspaceCrmMapping) : List CrmGoalMapping :=
  (config.bind fun c => c.goals).getD []

/-- The milestone that a call gets unless the workspace maps calls itself. -/
def phoneCallNames (event : TrackedEventContext) (config : Option WorkspaceCrmMapping) :
    List String :=
  let configMatchedPhoneCall : Bool :=
    (rulesOf config).any fun rule => rule.match' = "goal:phone_call"
  if event.eventType = "goal" ∧ event.payload.goalName = "phone_call" ∧
      configMatchedPhoneCall = false ∧ (config.bind (·.mapPhoneCalls)).getD true = true then
    match config.bind (·.phoneCallTimelineName) with
    | none => ["appel"]
    | some name => [if name = "" then "appel" else name]
  else []

def milestoneNames (event : TrackedEventContext) (config : Option WorkspaceCrmMapping) :
    List String :=
  (match rulesOf config with
    | [] => resolveNamesBuiltin event.eventType event.payload
    | rules => resolveNamesFromConfig event.eventType event.payload rules) ++
  phoneCallNames event config

def mapAll (host : Host) (event : TrackedEventContext) (config : Option WorkspaceCrmMapping) :
    List MappedTimelineEvent :=
  match resolveIdentity host event.payload.userId config with
  | none => []
  | some identity =>
      (milestoneNames event config).map fun name =>
        { name := name, identity := identity, eventId := event.eventId }

/-! ### First touch -/

/-- What `user_attribution` says of the acquisition of a user. -/
structure FirstTouchAttribution where
  channelGroup : String
  channel : String
  referralCode : String

/-- The stitched channel group in the vocabulary of the CRM, if it has a word for it. -/
def acquisitionFromFirstTouch (host : Host) (firstTouch : FirstTouchAttribution) : String :=
  match host.toLowerCase firstTouch.channelGroup with
  | "ads" => "google_ads"
  | "seo" => "organic_seo"
  | "social" => "social"
  | "email" => "email"
  | "referral" => "referral"
  | _ => ""

/-! ### The size of a mapping -/

theorem resolveNamesBuiltin_length_le (eventType : String) (p : TrackedPayload) :
    (resolveNamesBuiltin eventType p).length ≤ 2 := by
  unfold resolveNamesBuiltin
  split
  · split
    · split <;> simp
    · simp
  · split
    · repeat' split
      all_goals simp
    · simp

theorem phoneCallNames_length_le (event : TrackedEventContext)
    (config : Option WorkspaceCrmMapping) : (phoneCallNames event config).length ≤ 1 := by
  simp only [phoneCallNames]
  by_cases h : event.eventType = "goal" ∧ event.payload.goalName = "phone_call" ∧
      ((rulesOf config).any fun rule => rule.match' = "goal:phone_call") = false ∧
      (config.bind (·.mapPhoneCalls)).getD true = true
  · rw [if_pos h]
    split <;> exact le_refl _
  · rw [if_neg h]
    exact Nat.zero_le _

/-- An event has at most one milestone more than the workspace has rules, and at most three
without any. -/
theorem mapAll_length_le (host : Host) (event : TrackedEventContext)
    (config : Option WorkspaceCrmMapping) :
    (mapAll host event config).length ≤ max 3 ((rulesOf config).length + 1) := by
  unfold mapAll
  split
  · simp
  · rw [List.length_map, milestoneNames, List.length_append]
    have hphone := phoneCallNames_length_le event config
    cases hrules : rulesOf config with
    | nil =>
        have hbuiltin := resolveNamesBuiltin_length_le event.eventType event.payload
        show (resolveNamesBuiltin event.eventType event.payload).length + _ ≤ max 3 (0 + 1)
        omega
    | cons rule rules =>
        have hrule : (resolveNamesFromConfig event.eventType event.payload
            (rule :: rules)).length ≤ (rule :: rules).length := by
          unfold resolveNamesFromConfig
          rw [List.length_map]
          exact List.length_filter_le _ _
        show (resolveNamesFromConfig event.eventType event.payload (rule :: rules)).length + _ ≤ _
        omega

end Veridian.TwentyEventMapper
