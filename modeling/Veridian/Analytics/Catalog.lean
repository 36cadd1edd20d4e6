/-
What can be asked of the analytics tables.

A dimension is a name that a request uses and a column expression that goes into the SQL.
Most columns carry the dimension's own name; the others are a renamed column or one key of
the `properties` map of a goal.
-/
import Veridian.Common.DashboardWidget

namespace Veridian.Analytics

/-- `WidgetTable` is declared as this type. -/
abbrev AnalyticsTable := WidgetTable

/-! ### Tables -/

structure TableConfig where
  name : String
  dateColumn : String
  finalModifier : Bool

def TABLE_CONFIGS : AnalyticsTable → TableConfig
  | .sessions => ⟨"sessions", "created_at", true⟩
  | .pages => ⟨"pages", "entered_at", true⟩
  | .goals => ⟨"goals", "goal_timestamp", true⟩

/-! ### Columns and dimensions -/

/-- A column expression: a column, or one entry of a map column. -/
inductive Column where
  | named (name : String)
  | entry (map key : String)
  deriving DecidableEq

def Column.sql : Column → String
  | .named name => name
  | .entry map key => map ++ "['" ++ key ++ "']"

inductive DimensionType where
  | string | number | boolean
  deriving DecidableEq

structure DimensionDefinition where
  name : String
  column : Column
  type : DimensionType
  tables : List AnalyticsTable
  deriving DecidableEq

/-- The tables of what goals copy from their session. -/
def bySession : List AnalyticsTable := [.sessions, .goals]

def DIMENSIONS : List DimensionDefinition :=
  [⟨"referrer", .named "referrer", .string, bySession⟩,
   ⟨"referrer_domain", .named "referrer_domain", .string, bySession⟩,
   ⟨"referrer_path", .named "referrer_path", .string, bySession⟩,
   ⟨"is_direct", .named "is_direct", .boolean, bySession⟩,
   ⟨"utm_source", .named "utm_source", .string, bySession⟩,
   ⟨"utm_medium", .named "utm_medium", .string, bySession⟩,
   ⟨"utm_campaign", .named "utm_campaign", .string, bySession⟩,
   ⟨"utm_term", .named "utm_term", .string, bySession⟩,
   ⟨"utm_content", .named "utm_content", .string, bySession⟩,
   ⟨"channel", .named "channel", .string, bySession⟩,
   ⟨"channel_group", .named "channel_group", .string, bySession⟩,
   ⟨"first_touch_channel", .named "first_touch_channel", .string, bySession⟩,
   ⟨"first_touch_channel_group", .named "first_touch_channel_group", .string, bySession⟩,
   ⟨"landing_page", .named "landing_page", .string, bySession⟩,
   ⟨"landing_domain", .named "landing_domain", .string, bySession⟩,
   ⟨"landing_path", .named "landing_path", .string, bySession⟩,
   ⟨"exit_path", .named "exit_path", .string, [.sessions]⟩,
   ⟨"page_path", .named "path", .string, [.pages]⟩,
   ⟨"page_number", .named "page_number", .number, [.pages]⟩,
   ⟨"is_landing_page", .named "is_landing", .boolean, [.pages]⟩,
   ⟨"is_exit_page", .named "is_exit", .boolean, [.pages]⟩,
   ⟨"page_entry_type", .named "entry_type", .string, [.pages]⟩,
   ⟨"device", .named "device", .string, bySession⟩,
   ⟨"browser", .named "browser", .string, bySession⟩,
   ⟨"browser_type", .named "browser_type", .string, bySession⟩,
   ⟨"os", .named "os", .string, bySession⟩,
   ⟨"screen_width", .named "screen_width", .number, bySession⟩,
   ⟨"screen_height", .named "screen_height", .number, bySession⟩,
   ⟨"viewport_width", .named "viewport_width", .number, bySession⟩,
   ⟨"viewport_height", .named "viewport_height", .number, bySession⟩,
   ⟨"connection_type", .named "connection_type", .string, bySession⟩,
   ⟨"duration", .named "duration", .number, [.sessions]⟩,
   ⟨"pageview_count", .named "pageview_count", .number, [.sessions]⟩,
   ⟨"sdk_version", .named "sdk_version", .string, [.sessions]⟩,
   ⟨"year", .named "year", .number, bySession⟩,
   ⟨"month", .named "month", .number, bySession⟩,
   ⟨"day", .named "day", .number, bySession⟩,
   ⟨"day_of_week", .named "day_of_week", .number, bySession⟩,
   ⟨"week_number", .named "week_number", .number, bySession⟩,
   ⟨"hour", .named "hour", .number, bySession⟩,
   ⟨"is_weekend", .named "is_weekend", .boolean, bySession⟩,
   ⟨"country", .named "country", .string, bySession⟩,
   ⟨"region", .named "region", .string, bySession⟩,
   ⟨"city", .named "city", .string, bySession⟩,
   ⟨"latitude", .named "latitude", .number, bySession⟩,
   ⟨"longitude", .named "longitude", .number, bySession⟩,
   ⟨"language", .named "language", .string, bySession⟩,
   ⟨"timezone", .named "timezone", .string, bySession⟩,
   ⟨"stm_1", .named "stm_1", .string, bySession⟩,
   ⟨"stm_2", .named "stm_2", .string, bySession⟩,
   ⟨"stm_3", .named "stm_3", .string, bySession⟩,
   ⟨"stm_4", .named "stm_4", .string, bySession⟩,
   ⟨"stm_5", .named "stm_5", .string, bySession⟩,
   ⟨"stm_6", .named "stm_6", .string, bySession⟩,
   ⟨"stm_7", .named "stm_7", .string, bySession⟩,
   ⟨"stm_8", .named "stm_8", .string, bySession⟩,
   ⟨"stm_9", .named "stm_9", .string, bySession⟩,
   ⟨"stm_10", .named "stm_10", .string, bySession⟩,
   ⟨"goal_name", .named "goal_name", .string, [.goals]⟩,
   ⟨"goal_path", .named "path", .string, [.goals]⟩,
   ⟨"phone_source", .entry "properties" "source", .string, [.goals]⟩,
   ⟨"phone_direction", .entry "properties" "direction", .string, [.goals]⟩,
   ⟨"phone_status", .entry "properties" "status", .string, [.goals]⟩,
   ⟨"variant", .entry "properties" "variant", .string, [.goals]⟩,
   ⟨"user_id", .named "user_id", .string, [.sessions, .pages, .goals]⟩]

/-- `DIMENSIONS[name]` -/
def dimension? (name : String) : Option DimensionDefinition :=
  DIMENSIONS.find? (·.name = name)

end Veridian.Analytics
