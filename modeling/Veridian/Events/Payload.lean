/-
What the tracking endpoint receives, and what a workspace's settings say about it.

A payload repeats every action of its session so far.  Optional JSON fields are
`Option`, absent and `null` being read alike by the handler (`??`, `?.`, `!`).
Instants are the integer milliseconds of `Date.now()`, and page numbers count from
one as the SDK assigns them.  The cap on the number of actions is a field of the
structure: the DTO rejects a longer list.
-/
import Veridian.Filters.Entity

namespace Veridian

structure PageviewAction where
  path : String
  pageNumber : Nat
  duration : ℚ
  scroll : ℚ
  enteredAt : Int
  exitedAt : Int
  deriving DecidableEq, Repr

structure GoalAction where
  name : String
  path : String
  pageNumber : Nat
  timestamp : Int
  value : Option ℚ
  properties : Option (List (String × String))
  deriving DecidableEq, Repr

inductive Action where
  | pageview (a : PageviewAction)
  | goal (a : GoalAction)
  deriving DecidableEq, Repr

structure SessionAttributes where
  referrer : Option String := none
  landingPage : Option String := none
  utmSource : Option String := none
  utmMedium : Option String := none
  utmCampaign : Option String := none
  utmTerm : Option String := none
  utmContent : Option String := none
  utmId : Option String := none
  utmIdFrom : Option String := none
  screenWidth : Option ℚ := none
  screenHeight : Option ℚ := none
  viewportWidth : Option ℚ := none
  viewportHeight : Option ℚ := none
  device : Option String := none
  browser : Option String := none
  browserType : Option String := none
  os : Option String := none
  userAgent : Option String := none
  connectionType : Option String := none
  language : Option String := none
  timezone : Option String := none
  fingerprint : Option String := none
  deriving DecidableEq, Repr

def MAX_ACTIONS : Nat := 1000

structure SessionPayload where
  workspaceId : String
  sessionId : String
  actions : List Action
  attributes : SessionAttributes := {}
  createdAt : Int
  updatedAt : Int
  sdkVersion : Option String := none
  sentAt : Option Int := none
  userId : Option String := none
  visitorId : Option String := none
  dimensions : List (String × String) := []
  actions_le : actions.length ≤ MAX_ACTIONS := by decide

/-! ### The side of the server -/

/-- `settings.referral_param`: absent means the default, `null` and `''` switch the
feature off. -/
inductive ReferralParam where
  | absent
  | null
  | name (param : String)
  deriving DecidableEq, Repr

inductive WorkspaceStatus where
  | initializing | active | inactive | error
  deriving DecidableEq, Repr

structure WorkspaceSettings where
  filters : List FilterDefinition := []
  referralParam : ReferralParam := .absent
  allowedDomains : List String := []

structure Workspace where
  id : String
  status : WorkspaceStatus
  settings : WorkspaceSettings

structure GeoLocation where
  country : Option String := none
  region : Option String := none
  city : Option String := none
  latitude : Option ℚ := none
  longitude : Option ℚ := none
  deriving DecidableEq, Repr

/-- What one call of the handler takes from outside the payload: the headers, the
geo lookup of the client address, and its two readings of the clock. -/
structure Arrival where
  clientIp : Option String := none
  origin : Option String := none
  referer : Option String := none
  geo : GeoLocation := {}
  /-- `Date.now()`, the `_version` of every event of the payload. -/
  version : Int
  /-- `toClickHouseDateTime()` in `buildBaseEvent`. -/
  now : Int
  deriving DecidableEq, Repr

end Veridian
