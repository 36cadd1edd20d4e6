/-
One row of the `events` table on its way from the tracking endpoint to storage.

Instants are milliseconds since the epoch, the precision of `DateTime64(3)`.
The columns a filter may write hold `Option String`: the type says `string`, but
filter results put `null` there, and `none` is that `null`.  ClickHouse stores a
`null` in a non-nullable column as its default, the empty string, which is what
`DimensionValue.stored` says.
-/
import Mathlib.Data.Fintype.Basic
import Veridian.Lib.Sql
import Veridian.Filters.Entity

namespace Veridian

inductive EventName where
  | screenView | scroll | click | ping | goal
  deriving DecidableEq, Repr, Inhabited

structure TrackingEvent where
  sessionId : String
  workspaceId : String
  receivedAt : Int
  createdAt : Int
  updatedAt : Int
  name : EventName
  path : String
  duration : ℚ
  pageDuration : ℚ
  previousPath : String
  -- traffic source
  referrer : String
  referrerDomain : Option String
  referrerPath : String
  isDirect : Bool
  -- landing page
  landingPage : String
  landingDomain : String
  landingPath : String
  -- UTM parameters
  utmSource : Option String
  utmMedium : Option String
  utmCampaign : Option String
  utmTerm : Option String
  utmContent : Option String
  utmId : String
  utmIdFrom : String
  -- channel classification and custom dimensions
  channel : Option String
  channelGroup : Option String
  stm : Fin 10 → Option String
  -- device and browser
  screenWidth : ℚ
  screenHeight : ℚ
  viewportWidth : ℚ
  viewportHeight : ℚ
  device : String
  browser : String
  browserType : String
  os : String
  userAgent : String
  connectionType : String
  language : String
  timezone : String
  -- geo location
  country : String
  region : String
  city : String
  latitude : Option ℚ
  longitude : Option ℚ
  -- identification
  visitorId : String
  fingerprint : String
  ip : String
  userId : Option String
  -- engagement and SDK
  maxScroll : ℚ
  sdkVersion : String
  properties : List (String × String)
  -- session payload fields
  dedupToken : String
  pageNumber : Nat
  version : Int
  goalName : String
  goalValue : ℚ
  enteredAt : Int
  exitedAt : Int
  goalTimestamp : Option Int
  deriving Inhabited

/-! ### The writable dimensions as values -/

inductive DimensionValue where
  | text (v : Option String)
  | flag (b : Bool)
  deriving DecidableEq, Repr

/-- What the column holds after the insert, a `null` being the column's default. -/
def DimensionValue.stored : DimensionValue → Sql.Value
  | .text v => .text (v.getD "")
  | .flag b => .num (if b then 1 else 0)

namespace TrackingEvent

/-- `event[dimension]`. -/
def dimension (e : TrackingEvent) : WritableDimension → DimensionValue
  | .channel => .text e.channel
  | .channelGroup => .text e.channelGroup
  | .stm k => .text (e.stm k)
  | .utmSource => .text e.utmSource
  | .utmMedium => .text e.utmMedium
  | .utmCampaign => .text e.utmCampaign
  | .utmTerm => .text e.utmTerm
  | .utmContent => .text e.utmContent
  | .referrerDomain => .text e.referrerDomain
  | .isDirect => .flag e.isDirect

/-- `event[field] = value`, with the one field that is a boolean set to
`value === 'true'`. -/
def assign (e : TrackingEvent) : WritableDimension → Option String → TrackingEvent
  | .channel, v => { e with channel := v }
  | .channelGroup, v => { e with channelGroup := v }
  | .stm k, v => { e with stm := Function.update e.stm k v }
  | .utmSource, v => { e with utmSource := v }
  | .utmMedium, v => { e with utmMedium := v }
  | .utmCampaign, v => { e with utmCampaign := v }
  | .utmTerm, v => { e with utmTerm := v }
  | .utmContent, v => { e with utmContent := v }
  | .referrerDomain, v => { e with referrerDomain := v }
  | .isDirect, v => { e with isDirect := v == some "true" }

/-- What an assignment of `v` to the dimension leaves there. -/
def assigned (d : WritableDimension) (v : Option String) : DimensionValue :=
  if d = .isDirect then .flag (v == some "true") else .text v

theorem dimension_assign_self (e : TrackingEvent) (d : WritableDimension) (v : Option String) :
    (e.assign d v).dimension d = assigned d v := by
  cases d <;> simp [assign, dimension, assigned]

theorem dimension_assign_ne (e : TrackingEvent) {d d' : WritableDimension} (v : Option String)
    (h : d' ≠ d) : (e.assign d v).dimension d' = e.dimension d' := by
  cases d <;> cases d' <;> first
    | rfl
    | exact absurd rfl h
    | (rename_i k k'
       have hk : k' ≠ k := fun hc => h (by rw [hc])
       simp [assign, dimension, Function.update_of_ne hk])

end TrackingEvent

end Veridian
