/-
Conversions by channel.

A conversion is a session that triggered one of the conversion goals, counted once for
each channel group and app that its goals carry.
-/
import Veridian.Analytics.Goals
import Veridian.Lib.Grouping
import Mathlib.Algebra.Order.Floor.Ring
import Mathlib.Data.Rat.Floor

namespace Veridian.Analytics

structure ConversionsQuery where
  start : Int
  stop : Int
  conversionGoals : List String

/-- An empty or missing list of goals stands for the two inscription goals. -/
def conversionGoals (given : Option (List String)) : List String :=
  match given with
  | none | some [] => ["signup", "app_started"]
  | some goals => goals

/-- A row of the query on `goals`. -/
structure ConversionCount where
  channelGroup : String
  app : String
  conversions : Nat
  deriving DecidableEq

namespace ConversionsQuery

variable (c : ConversionsQuery)

/-- The WHERE clause. -/
def selects (g : Goal) : Bool :=
  decide (c.start ≤ g.goalTimestamp ∧ g.goalTimestamp ≤ c.stop ∧
    g.goalName ∈ c.conversionGoals ∧ g.sessionId ≠ "")

/-- `GROUP BY channel_group, app` -/
def group (g : Goal) : String × String := (g.channelGroup, g.property "app")

/-- The sessions that converted in one group. -/
def sessionsOf (table : List Goal) (k : String × String) : List String :=
  ((table.filter c.selects).filter fun g => group g = k).map (·.sessionId)

def row (table : List Goal) (k : String × String) : ConversionCount where
  channelGroup := k.1
  app := k.2
  conversions := Grouping.uniqExact (c.sessionsOf table k)

def groups (table : List Goal) : List (String × String) :=
  ((table.filter c.selects).map group).dedup

def rows (table : List Goal) : List ConversionCount := (c.groups table).map (c.row table)

variable {c} {table : List Goal} {k : String × String}

theorem mem_sessionsOf {session : String} : session ∈ c.sessionsOf table k ↔
    ∃ g ∈ table, c.selects g = true ∧ group g = k ∧ g.sessionId = session := by
  simp only [sessionsOf, List.mem_map, List.mem_filter, decide_eq_true_iff, and_assoc]

theorem mem_groups : k ∈ c.groups table ↔ ∃ session, session ∈ c.sessionsOf table k := by
  simp only [groups, List.mem_dedup, List.mem_map, List.mem_filter, mem_sessionsOf, and_assoc]
  constructor
  · rintro ⟨g, hmem, hselects, hk⟩
    exact ⟨g.sessionId, g, hmem, hselects, hk, rfl⟩
  · rintro ⟨-, g, hmem, hselects, hk, -⟩
    exact ⟨g, hmem, hselects, hk⟩

end ConversionsQuery

/-! ### The response -/

/-- Two decimals, halves upwards. -/
def round2 (x : ℚ) : ℚ := (⌊x * 100 + 1 / 2⌋ : ℤ) / 100

structure ConversionRate where
  channelGroup : String
  app : String
  conversions : Nat
  sessions : Nat
  conversionRate : ℚ

/-- A row with the sessions of its channel, which a query of its own has counted. -/
def conversionRate (sessionsByChannel : String → Nat) (r : ConversionCount) : ConversionRate where
  channelGroup := r.channelGroup
  app := if r.app = "" then "(non renseigné)" else r.app
  conversions := r.conversions
  sessions := sessionsByChannel r.channelGroup
  conversionRate :=
    if 0 < sessionsByChannel r.channelGroup then
      min (round2 ((r.conversions : ℚ) / sessionsByChannel r.channelGroup * 100)) 100
    else 0

def conversionsByChannel (sessionsByChannel : String → Nat) (c : ConversionsQuery)
    (table : List Goal) : List ConversionRate :=
  (c.rows table).map (conversionRate sessionsByChannel)

end Veridian.Analytics
