/-
The conversions that are attributed to Google Ads.

`getAdsConversions` reads the `events` table as it is stored, without `FINAL`.  A payload
repeats the goals of its session, so the table holds a goal once for every delivery until the
database merges the rows, and the rows of different days are never merged.  Each row that is
read is a conversion of its own.
-/
import Veridian.Admin.Provisioning
import Veridian.Events.Ingestion
import Veridian.Events.EventsTable

namespace Veridian

open EventStore WorkspacesService

/-! ### The query -/

def ADS_CLICK_ID_TYPES : List String := ["gclid", "gbraid", "wbraid"]

def ADS_DEFAULT_LOOKBACK_DAYS : Int := 28

def ADS_DEFAULT_LIMIT : Nat := 1000

def ADS_MAX_LIMIT : Nat := 10000

/-- The range is given by its instants; `limit` is at least `1` and at most the cap. -/
structure AdsConversionsDto where
  workspaceId : String
  fromTime : Option Int
  toTime : Option Int
  limit : Option Nat

/-- `properties[name]` of a `Map(String, String)`. -/
def TrackingEvent.property (e : TrackingEvent) (name : String) : String :=
  (e.properties.lookup name).getD ""

def TrackingEvent.hasAdsClick (e : TrackingEvent) : Bool := ADS_CLICK_ID_TYPES.contains e.utmIdFrom

def TrackingEvent.isAdsCall (e : TrackingEvent) : Bool :=
  e.goalName = "phone_call" && e.property "source" = "ads"

def TrackingEvent.isAdsGoal (e : TrackingEvent) : Bool :=
  e.name = .goal && e.goalName ≠ "" && (e.hasAdsClick || e.isAdsCall)

/-- What the query selects of a row. -/
structure AdsRow where
  clickIdSource : String
  clickId : String
  conversionType : String
  timestamp : String
  value : ℚ
  userId : Option String
  path : String
  phoneNumber : String

def TrackingEvent.adsRow (e : TrackingEvent) : AdsRow where
  clickIdSource := if e.isAdsCall then "phone_source_ads" else e.utmIdFrom
  clickId := if e.hasAdsClick then e.utmId else ""
  conversionType := e.goalName
  timestamp := toClickHouseDateTime (e.goalTimestamp.getD e.receivedAt)
  value := e.goalValue
  userId := e.userId
  path := e.path
  phoneNumber := e.property "to_number"

structure AdsConversion where
  clickIdSource : String
  clickId : Option String
  conversionType : String
  timestamp : String
  value : ℚ
  userId : Option String
  path : String
  phoneNumber : Option String
  deriving DecidableEq

/-- `s || null` -/
def orNull (s : String) : Option String := if s = "" then none else some s

def AdsRow.conversion (r : AdsRow) : AdsConversion where
  clickIdSource := r.clickIdSource
  clickId := orNull r.clickId
  conversionType := r.conversionType
  timestamp := r.timestamp
  value := r.value
  userId := r.userId
  path := r.path
  phoneNumber := if r.clickIdSource = "phone_source_ads" then orNull r.phoneNumber else none

structure AdsConversionsResponse where
  workspaceId : String
  fromTime : Int
  toTime : Int
  limit : Nat
  count : Nat
  truncated : Bool
  conversions : List AdsConversion

/-- The rows of the range that the query matches, newest first. -/
def adsRows (events : List TrackingEvent) (fromTime toTime : Int) : List TrackingEvent :=
  (events.filter fun e => e.isAdsGoal && (fromTime ≤ e.receivedAt && e.receivedAt ≤ toTime))
    |>.insertionSort fun a b => b.receivedAt ≤ a.receivedAt

def getAdsConversions (workspaces : List WorkspaceRow) (events : List TrackingEvent)
    (dto : AdsConversionsDto) (now : Int) : Except ServiceError AdsConversionsResponse :=
  if workspaceExists workspaces dto.workspaceId then
    let toTime := dto.toTime.getD now
    let fromTime := dto.fromTime.getD (toTime - ADS_DEFAULT_LOOKBACK_DAYS * 86400000)
    let limit := min (dto.limit.getD ADS_DEFAULT_LIMIT) ADS_MAX_LIMIT
    -- One row cap covers both branches; +1 to detect truncation.
    let rows := ((adsRows events fromTime toTime).take (limit + 1)).map (·.adsRow)
    let conversions := (rows.take limit).map (·.conversion)
    .ok
      { workspaceId := dto.workspaceId
        fromTime := fromTime
        toTime := toTime
        limit := limit
        count := conversions.length
        truncated := decide (limit < rows.length)
        conversions := conversions }
  else .error (.notFound ("Workspace " ++ dto.workspaceId ++ " does not exist."))

/-! ### Counting a goal once -/

/-- The conversions are those of rows of different goals, and more goals than these are in the
range when it says so. -/
structure CountedOnce (events : List TrackingEvent) (response : AdsConversionsResponse) :
    Prop where
  conversions : response.conversions = ((adsRows events response.fromTime response.toTime).take
    response.limit).map (·.adsRow.conversion)
  once : (((adsRows events response.fromTime response.toTime).take response.limit).map
    (·.sortKey)).Nodup
  truncated : response.truncated = true → response.limit <
    ((adsRows events response.fromTime response.toTime).map (·.sortKey)).dedup.length

/-- No two rows are versions of one Ads goal. -/
def DistinctAdsGoals (events : List TrackingEvent) : Prop :=
  ((events.filter (·.isAdsGoal)).map (·.sortKey)).Nodup

instance (events : List TrackingEvent) : Decidable (DistinctAdsGoals events) :=
  inferInstanceAs (Decidable (List.Nodup _))

theorem getAdsConversions_cases {workspaces : List WorkspaceRow} {events : List TrackingEvent}
    {dto : AdsConversionsDto} {now : Int} {response : AdsConversionsResponse}
    (h : getAdsConversions workspaces events dto now = .ok response) :
    response.conversions = ((adsRows events response.fromTime response.toTime).take
        response.limit).map (·.adsRow.conversion) ∧
      (response.truncated = true ↔
        response.limit < (adsRows events response.fromTime response.toTime).length) := by
  have hlength : ∀ (rows : List TrackingEvent) (n : Nat),
      n < ((rows.take (n + 1)).map (·.adsRow)).length ↔ n < rows.length := by
    intro rows n
    rw [List.length_map, List.length_take, lt_min_iff]
    exact and_iff_right (Nat.lt_succ_self n)
  dsimp only [getAdsConversions] at h
  split at h
  · obtain rfl := Except.ok.inj h
    refine ⟨?_, ?_⟩
    · show (List.take _ (List.map _ (List.take _ _))).map _ = _
      rw [← List.map_take, List.take_take, List.map_map, min_eq_left (Nat.le_succ _)]
      rfl
    · exact decide_eq_true_iff.trans (hlength _ _)
  · exact absurd h (by simp)

theorem adsRows_perm (events : List TrackingEvent) (fromTime toTime : Int) :
    (adsRows events fromTime toTime).Perm (events.filter fun e =>
      e.isAdsGoal && (fromTime ≤ e.receivedAt && e.receivedAt ≤ toTime)) :=
  List.perm_insertionSort _ _

/-- **One row for each goal is one conversion for each goal.** -/
theorem countedOnce_of_distinct {workspaces : List WorkspaceRow} {events : List TrackingEvent}
    {dto : AdsConversionsDto} {now : Int} {response : AdsConversionsResponse}
    (hdistinct : DistinctAdsGoals events)
    (h : getAdsConversions workspaces events dto now = .ok response) :
    CountedOnce events response := by
  obtain ⟨hconversions, htruncated⟩ := getAdsConversions_cases h
  have hnodup : ((adsRows events response.fromTime response.toTime).map (·.sortKey)).Nodup := by
    refine ((adsRows_perm events _ _).map _).nodup_iff.mpr (hdistinct.sublist ?_)
    exact (List.monotone_filter_right _ fun e he => (Bool.and_eq_true_iff.mp he).1).map _
  refine ⟨hconversions, hnodup.sublist ((List.take_sublist _ _).map _), fun ht => ?_⟩
  rw [hnodup.dedup, List.length_map]
  exact htruncated.mp ht

/-- Read as merged, the table counts every goal once. -/
theorem countedOnce_final {workspaces : List WorkspaceRow} {events : List TrackingEvent}
    {dto : AdsConversionsDto} {now : Int} {response : AdsConversionsResponse}
    (h : getAdsConversions workspaces
      (Replacing.final TrackingEvent.sortKey TrackingEvent.version events) dto now =
        .ok response) :
    CountedOnce (Replacing.final TrackingEvent.sortKey TrackingEvent.version events) response := by
  refine countedOnce_of_distinct (List.Nodup.sublist (List.filter_sublist.map _) ?_) h
  rw [Replacing.final_map_key]
  exact List.nodup_dedup _

theorem exists_bound (f : TrackingEvent → Int) :
    ∀ events : List TrackingEvent, ∃ b, ∀ e ∈ events, f e ≤ b := by
  intro events
  induction events with
  | nil => exact ⟨0, fun _ he => absurd he List.not_mem_nil⟩
  | cons e rest ih =>
      obtain ⟨b, hb⟩ := ih
      refine ⟨max (f e) b, fun x hx => ?_⟩
      rcases List.mem_cons.mp hx with rfl | hx
      · exact le_max_left _ _
      · exact (hb x hx).trans (le_max_right _ _)

/-- **As long as the Ads goals fit into one response, nothing less will do.** -/
theorem countedOnce_iff {workspaces : List WorkspaceRow} {events : List TrackingEvent}
    {workspaceId : String} (hworkspace : workspaceExists workspaces workspaceId = true)
    (hfit : (events.filter (·.isAdsGoal)).length ≤ ADS_MAX_LIMIT) :
    (∀ dto now response, getAdsConversions workspaces events dto now = .ok response →
      CountedOnce events response) ↔ DistinctAdsGoals events := by
  refine ⟨fun h => ?_, fun hdistinct dto now response => countedOnce_of_distinct hdistinct⟩
  obtain ⟨latest, hlatest⟩ := exists_bound TrackingEvent.receivedAt events
  obtain ⟨earliest, hearliest⟩ := exists_bound (fun e => -e.receivedAt) events
  obtain ⟨response, hresponse, hfrom, hto, hlimit⟩ : ∃ response,
      getAdsConversions workspaces events
        ⟨workspaceId, some (-earliest), some latest, some ADS_MAX_LIMIT⟩ 0 = .ok response ∧
      response.fromTime = -earliest ∧ response.toTime = latest ∧
      response.limit = ADS_MAX_LIMIT := ⟨_, if_pos hworkspace, rfl, rfl, rfl⟩
  have hall : (events.filter fun e => e.isAdsGoal &&
      (-earliest ≤ e.receivedAt && e.receivedAt ≤ latest)) = events.filter (·.isAdsGoal) := by
    refine List.filter_congr fun e he => ?_
    have hlow : -earliest ≤ e.receivedAt := by
      have := hearliest e he
      omega
    rw [decide_eq_true hlow, decide_eq_true (hlatest e he), Bool.and_true, Bool.and_true]
  have hperm := adsRows_perm events (-earliest) latest
  rw [hall] at hperm
  have honce := (h _ _ response hresponse).once
  rw [hfrom, hto, hlimit, List.take_of_length_le (hperm.length_eq ▸ hfit)] at honce
  exact (hperm.map _).nodup_iff.mp honce

/-! ### Ingestion -/

/-- An insert brings no Ads goal that is stored, nor one twice. -/
def FreshGoals (w : String) (s : EventStore) (a : TableAction) : Prop :=
  DistinctAdsGoals (s.added w a) ∧ ∀ e ∈ s.added w a, e.isAdsGoal = true →
    ∀ row ∈ s.rows, row.isAdsGoal = true → row.sortKey ≠ e.sortKey

instance (w : String) (s : EventStore) (a : TableAction) : Decidable (FreshGoals w s a) :=
  inferInstanceAs (Decidable (_ ∧ _))

theorem DistinctAdsGoals.append_iff {rows new : List TrackingEvent} (h : DistinctAdsGoals rows) :
    DistinctAdsGoals (rows ++ new) ↔ DistinctAdsGoals new ∧ ∀ e ∈ new, e.isAdsGoal = true →
      ∀ row ∈ rows, row.isAdsGoal = true → row.sortKey ≠ e.sortKey := by
  unfold DistinctAdsGoals
  rw [List.filter_append, List.map_append, List.nodup_append]
  constructor
  · rintro ⟨-, hnew, hdisjoint⟩
    refine ⟨hnew, fun e he hads row hrow hrowAds hkey => ?_⟩
    exact hdisjoint _ (List.mem_map_of_mem (List.mem_filter.mpr ⟨hrow, hrowAds⟩)) _
      (List.mem_map_of_mem (List.mem_filter.mpr ⟨he, hads⟩)) hkey
  · rintro ⟨hnew, hfresh⟩
    refine ⟨h, hnew, fun key hkey key' hkey' => ?_⟩
    obtain ⟨row, hrow, rfl⟩ := List.mem_map.mp hkey
    obtain ⟨e, he, rfl⟩ := List.mem_map.mp hkey'
    obtain ⟨hrow, hrowAds⟩ := List.mem_filter.mp hrow
    obtain ⟨he, hads⟩ := List.mem_filter.mp he
    exact hfresh e he hads row hrow hrowAds

theorem DistinctAdsGoals.step {cap : Nat} {w : String} {s t : EventStore} {a : TableAction}
    (hs : DistinctAdsGoals s.rows) (hfresh : FreshGoals w s a)
    (hstep : EventStore.step cap w s a = some t) : DistinctAdsGoals t.rows := by
  rcases EventStore.step_rows hstep with hrows | ⟨-, hsublist⟩
  · rw [hrows]
    exact hs.append_iff.mpr hfresh
  · exact hs.sublist ((hsublist.filter _).map _)

/-- **Where no Ads goal is inserted while it is stored, every response counts every goal
once.** -/
theorem ads_conversions_counted_once {cap : Nat} {w : String} {as : List TableAction}
    {t : EventStore} (hrun : Machine.exec (EventStore.step cap w) EventStore.init as = some t)
    (hfresh : Machine.Meets (EventStore.step cap w) (FreshGoals w) EventStore.init as)
    (workspaces : List WorkspaceRow) (dto : AdsConversionsDto) (now : Int)
    {response : AdsConversionsResponse}
    (hresponse : getAdsConversions workspaces t.rows dto now = .ok response) :
    CountedOnce t.rows response := by
  have hempty : DistinctAdsGoals EventStore.init.rows := List.nodup_nil
  have hdistinct : DistinctAdsGoals t.rows := Machine.exec_invariant_of_meets
    (P := fun s : EventStore => DistinctAdsGoals s.rows)
    (fun _ _ _ hs hC hstep => hs.step hC hstep) hempty hfresh hrun
  exact countedOnce_of_distinct hdistinct hresponse

/-- A step after which every response counts every goal once is one that meets this. -/
theorem step_countedOnce_iff {cap : Nat} {w : String} {s t : EventStore} {a : TableAction}
    {workspaces : List WorkspaceRow} {workspaceId : String}
    (hworkspace : workspaceExists workspaces workspaceId = true)
    (hs : DistinctAdsGoals s.rows) (hstep : EventStore.step cap w s a = some t)
    (hfit : (t.rows.filter (·.isAdsGoal)).length ≤ ADS_MAX_LIMIT) :
    (∀ dto now response, getAdsConversions workspaces t.rows dto now = .ok response →
      CountedOnce t.rows response) ↔ FreshGoals w s a := by
  rw [countedOnce_iff hworkspace hfit]
  refine ⟨fun ht => ?_, fun hfresh => hs.step hfresh hstep⟩
  rcases EventStore.step_rows hstep with hrows | ⟨hnone, -⟩
  · rw [hrows] at ht
    exact hs.append_iff.mp ht
  · unfold FreshGoals
    rw [hnone]
    exact ⟨List.nodup_nil, fun e he => absurd he List.not_mem_nil⟩

/-! ### A goal that is sent twice -/

namespace AdsExample

def acme : WorkspaceRow where
  id := "w"
  name := "Acme"
  website := "https://acme.io"
  timezone := "Europe/Paris"
  currency := "EUR"
  logoUrl := none
  status := .active
  createdAt := "1970-01-01 00:00:00.000"
  updatedAt := "1970-01-01 00:00:00.000"
  settings := ⟨none, none, fun _ => none⟩

theorem one_le_max : 1 ≤ MAX_ACTIONS := by decide

def purchase : GoalAction := ⟨"purchase", "/", 1, 60000, some 49, none⟩

def signup : GoalAction := ⟨"signup", "/", 1, 70000, none, none⟩

/-- A delivery of a session that came by an ad. -/
def delivery (goal : GoalAction) (seenAt : Int) : Request where
  workspace := ⟨"w", .active, {}⟩
  payload :=
    { workspaceId := "w"
      sessionId := "s"
      actions := [.goal goal]
      attributes := { utmId := some "EAIaIQ", utmIdFrom := some "gclid" }
      createdAt := 0
      updatedAt := seenAt
      actions_le := one_le_max }
  arrival := { version := seenAt, now := seenAt }

/-- The `i`-th delivery is taken in, flushed and inserted. -/
def ingest (i : Nat) (r : Request) : List TableAction :=
  [.service (.addBatch (r.events Host.bare)) false, .service (.resume i) false,
    .service (.flush "w") false, .service (.insertSucceeded "w" 0) false]

/-- The same goal in two heartbeats. -/
def resent : List TableAction :=
  ingest 0 (delivery purchase 61000) ++ ingest 1 (delivery purchase 71000)

/-- Two goals. -/
def distinct : List TableAction :=
  ingest 0 (delivery purchase 61000) ++ ingest 1 (delivery signup 71000)

def run (as : List TableAction) : Option EventStore :=
  Machine.exec (EventStore.step 50000 "w") EventStore.init as

def request (limit : Nat) : AdsConversionsDto := ⟨"w", some 0, some 90000, some limit⟩

end AdsExample

open AdsExample in
/-- One goal is two conversions, and more than a limit of one. -/
theorem ads_conversion_counted_twice :
    ∃ t, run resent = some t ∧
      ((t.rows.filter (·.isAdsGoal)).map (·.sortKey)).dedup = [("s", "s_goal_purchase_60000")] ∧
      (∃ response, getAdsConversions [acme] t.rows (request 1000) 90000 = .ok response ∧
        response.count = 2 ∧ ¬CountedOnce t.rows response) ∧
      ∃ response, getAdsConversions [acme] t.rows (request 1) 90000 = .ok response ∧
        response.truncated = true ∧ ¬CountedOnce t.rows response := by
  refine ⟨_, rfl, by decide, ⟨_, rfl, by decide, fun h => ?_⟩, _, rfl, by decide, fun h => ?_⟩
  · exact absurd h.once (by decide)
  · exact absurd (h.truncated (by decide)) (by decide)

open AdsExample in
theorem ads_conversions_counted_once_distinct :
    ∃ t response, run distinct = some t ∧
      getAdsConversions [acme] t.rows (request 1000) 90000 = .ok response ∧ response.count = 2 ∧
      CountedOnce t.rows response := by
  obtain ⟨t, ht, response, hresponse, hcount⟩ : ∃ t, run distinct = some t ∧ ∃ response,
      getAdsConversions [acme] t.rows (request 1000) 90000 = .ok response ∧ response.count = 2 :=
    ⟨_, rfl, _, rfl, by decide⟩
  have hfresh : Machine.Meets (EventStore.step 50000 "w") (FreshGoals "w") EventStore.init
      distinct := by decide
  exact ⟨t, response, ht, hresponse, hcount,
    ads_conversions_counted_once ht hfresh [acme] (request 1000) 90000 hresponse⟩

end Veridian
