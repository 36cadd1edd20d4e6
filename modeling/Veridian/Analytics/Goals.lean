/-
The table `goals`.

It is a replacing table: the row of the greatest `_version` survives under a timestamp,
session and goal name, but only once a merge has run or where a query says FINAL.
-/
import Veridian.Analytics.FilterBuilder
import Veridian.Lib.Replacing
import Mathlib.Data.NNRat.BigOperators

namespace Veridian.Analytics

/-- A row of `goals`.  Whoever writes one has checked that the value is not negative. -/
structure Goal where
  goalTimestamp : Int
  sessionId : String
  goalName : String
  goalValue : ℚ≥0
  visitorId : String
  channelGroup : String
  properties : List (String × String)
  columns : List (String × Cell)
  version : Nat
  deriving DecidableEq

namespace Goal

/-- An entry that a map does not have is empty. -/
def property (g : Goal) (key : String) : String := (g.properties.lookup key).getD ""

def cell (g : Goal) : Column → Cell
  | .entry _ key => .text (g.property key)
  | .named name =>
      if name = "goal_name" then .text g.goalName
      else if name = "channel_group" then .text g.channelGroup
      else (g.columns.lookup name).getD (.text "")

/-- `toDateTime(goal_timestamp)`, in seconds. -/
def seconds (g : Goal) : Int := g.goalTimestamp / 1000

/-- `ORDER BY (goal_timestamp, session_id, goal_name)` -/
def key (g : Goal) : Int × String × String := (g.goalTimestamp, g.sessionId, g.goalName)

end Goal

/-- `goals FINAL` -/
def goalsFinal (table : List Goal) : List Goal := Replacing.final Goal.key Goal.version table

/-- The versions that FINAL leaves out. -/
def outdatedGoals (table : List Goal) : List Goal :=
  Replacing.outdated Goal.key Goal.version table

theorem goalsFinal_subset (table : List Goal) : goalsFinal table ⊆ table :=
  Replacing.final_subset Goal.key Goal.version table

theorem goalsFinal_append_perm (table : List Goal) :
    (goalsFinal table ++ outdatedGoals table).Perm table :=
  Replacing.final_append_outdated_perm Goal.key Goal.version table

end Veridian.Analytics
