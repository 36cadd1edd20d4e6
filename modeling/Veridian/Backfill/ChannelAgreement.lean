/-
What the channel backfill does to rows that ingestion wrote.

Three things stand between the two.  Ingestion also reads the referral code and
`is_direct`, which the backfill leaves out; filters write the channel columns after the
channel is derived; and a phone call has the channel of its number, while its stored
`voip://` referrer reads as a referral.  `EventOrigin.Keeps` is the condition under
which none of them shows, and `channelBackfill_keeps_iff` says that it is exact.
-/
import Veridian.Backfill.ChannelBackfill
import Veridian.Voip.PhoneCallEvent
import Veridian.Events.Frame
import Veridian.Events.SessionsView

namespace Veridian

/-! ### From events to rows -/

def TrackingEvent.storedSignals (e : TrackingEvent) : StoredSignals where
  utmMedium := e.utmMedium.getD ""
  utmSource := e.utmSource.getD ""
  utmIdFrom := e.utmIdFrom
  referrerDomain := e.referrerDomain.getD ""
  referrer := e.referrer

/-- The attribution columns of an event, a `null` stored as `''`. -/
def TrackingEvent.attributed {ρ : Type*} (e : TrackingEvent) (rest : ρ) : AttributedRow ρ where
  signals := e.storedSignals
  isDirect := e.isDirect
  channel := e.channel.getD ""
  channelGroup := e.channelGroup.getD ""
  rest := rest

/-- The two columns the backfill may write. -/
def AttributedRow.attribution {ρ : Type*} (r : AttributedRow ρ) : String × String :=
  (r.channel, r.channelGroup)

/-- `sessions_mv` takes the attribution columns with `any`. -/
def SessionRow.attributed (row : SessionRow) : AttributedRow SessionRow := row.any.attributed row

/-- `goals_mv`: the goal events of a block, column by column. -/
def goalsMv (block : List TrackingEvent) : List (AttributedRow TrackingEvent) :=
  (block.filter (·.name = .goal)).map fun e => e.attributed e

theorem mem_sessionsMv_any {block : List TrackingEvent} {row : SessionRow}
    (h : row ∈ sessionsMv block) : row.any ∈ block := by
  obtain ⟨events, hevents, hrow⟩ := exists_of_mem_sessionsMv h
  cases events with
  | nil => simp [aggregateSession] at hrow
  | cons e rest =>
      obtain rfl := Option.some.inj hrow
      exact hevents e List.mem_cons_self

/-! ### Where an event comes from -/

inductive EventOrigin where
  /-- An event of a payload, as it was before the filters. -/
  | web (workspace : Workspace) (payload : SessionPayload) (arrival : Arrival)
      (before : TrackingEvent)
  | phone (workspaceId : String) (provider : VoipProvider) (call : NormalizedCall)
      (sourceMatch : Option SourceMatch)

namespace EventOrigin

def event (host : Host) : EventOrigin → TrackingEvent
  | web workspace _ _ before => applyFilters host before workspace.settings.filters
  | phone workspaceId provider call sourceMatch =>
      buildPhoneCallEvent workspaceId provider call sourceMatch

def Valid (host : Host) : EventOrigin → Prop
  | web workspace payload arrival before => before ∈ buildEvents host payload arrival workspace
  | phone .. => True

end EventOrigin

/-- Whatever the handler passes to the buffer has such an origin. -/
theorem exists_origin_of_mem_handle {host : Host} {workspace : Workspace} {payload : SessionPayload}
    {arrival : Arrival} {e : TrackingEvent} (h : e ∈ handle host workspace payload arrival) :
    ∃ before, (EventOrigin.web workspace payload arrival before).Valid host ∧
      (EventOrigin.web workspace payload arrival before).event host = e := by
  unfold handle at h
  split at h
  · exact absurd h List.not_mem_nil
  split at h
  · exact absurd h List.not_mem_nil
  obtain ⟨before, hbefore, rfl⟩ := List.mem_map.mp h
  exact ⟨before, hbefore, rfl⟩

/-! ### When the two derivations agree -/

/-- Without filters: the branches before the last three settle the signals, or there is no
referral code, and a direct visit has no medium. -/
def IngestionSettles (host : Host) (signals : ChannelSignals) : Prop :=
  signals.fallsThrough host = false ∨
    norm host signals.referralCode = "" ∧
      (signals.isDirect = some true → norm host signals.utmMedium = "")

/-- With filters: they themselves set both columns to the channel of the signals as they
leave them. -/
def FiltersSettle (host : Host) (filters : List FilterDefinition) (before : TrackingEvent) : Prop :=
  let stored := deriveChannel host (applyFilters host before filters).storedSignals.tuple
  let result := evaluateFilters host filters (extractFieldValues before)
  result .channel = some (some stored.channel.text) ∧
    result .channelGroup = some (some stored.channelGroup.text)

/-- The backfill leaves the channel of the event's rows alone. -/
def EventOrigin.Keeps (host : Host) : EventOrigin → Prop
  | web workspace payload _ before =>
      if workspace.settings.filters = [] then
        IngestionSettles host
          (ingestionSignals host payload.attributes workspace.settings.referralParam)
      else FiltersSettle host workspace.settings.filters before
  | phone .. => False

section

variable {host : Host} {ρ : Type*}

/-- Leaving out both of the last signals is no loss exactly when ingestion settles. -/
theorem deriveChannel_core_iff (signals : ChannelSignals) :
    deriveChannel host signals.core = deriveChannel host signals ↔
      IngestionSettles host signals := by
  cases hfalls : signals.fallsThrough host with
  | false => exact iff_of_true (deriveChannel_of_settled host hfalls).symm (Or.inl hfalls)
  | true =>
      have hcore : signals.core.fallsThrough host = true := by rw [fallsThrough_core, hfalls]
      have hnone : norm host signals.core.referralCode = "" := norm_of_empty host rfl
      have hmedium : signals.core.utmMedium = signals.utmMedium := rfl
      have hdirect : signals.core.isDirect ≠ some true := by simp [ChannelSignals.core]
      rw [deriveChannel_of_fallsThrough host hfalls, deriveChannel_of_fallsThrough host hcore,
        if_neg (not_not.mpr hnone), hmedium]
      simp only [IngestionSettles, hfalls, Bool.true_eq_false, false_or, hdirect]
      by_cases href : norm host signals.referralCode = ""
      · by_cases hmed : norm host signals.utmMedium = ""
        · simp [href, hmed]
        · by_cases hdir : signals.isDirect = some true <;> simp [href, hmed, hdir, finalize]
      · by_cases hmed : norm host signals.utmMedium = "" <;> simp [href, hmed, finalize]

/-- The event's rows are settled exactly when its stored channel is the derived one. -/
theorem attributed_settled_iff (e : TrackingEvent) (rest : ρ) :
    (e.attributed rest).stale host = false ↔
      e.channel.getD "" = (deriveChannel host e.storedSignals.tuple).channel.text ∧
        e.channelGroup.getD "" = (deriveChannel host e.storedSignals.tuple).channelGroup.text := by
  rw [AttributedRow.stale_eq_false_iff]
  exact and_congr eq_comm eq_comm

/-- A built event stores the channel of its ingestion signals, and the backfill reads the
same signals without the last two. -/
theorem mem_buildEvents_attribution {payload : SessionPayload} {arrival : Arrival}
    {workspace : Workspace} {e : TrackingEvent}
    (h : e ∈ buildEvents host payload arrival workspace) :
    let signals := ingestionSignals host payload.attributes workspace.settings.referralParam
    e.channel = some (deriveChannel host signals).channel.text ∧
      e.channelGroup = some (deriveChannel host signals).channelGroup.text ∧
      deriveChannel host e.storedSignals.tuple = deriveChannel host signals.core := by
  have hview := mem_deserializeActions_view (fun e => (e.channel, e.channelGroup, e.storedSignals))
    (fun action _ _ _ _ => by cases action <;> rfl) h
  simp only [Prod.mk.injEq] at hview
  obtain ⟨hchannel, hgroup, hsignals⟩ := hview
  refine ⟨hchannel, hgroup, ?_⟩
  rw [hsignals]
  rfl

/-- With filters in place the two columns hold what they set, and nothing else. -/
theorem applyFilters_channel (host : Host) {filters : List FilterDefinition} (hne : filters ≠ [])
    (before : TrackingEvent) :
    (applyFilters host before filters).channel =
        (evaluateFilters host filters (extractFieldValues before) .channel).join ∧
      (applyFilters host before filters).channelGroup =
        (evaluateFilters host filters (extractFieldValues before) .channelGroup).join := by
  have hchannel := applyFilters_dimension host before hne .channel
  have hgroup := applyFilters_dimension host before hne .channelGroup
  constructor
  · cases hresult : evaluateFilters host filters (extractFieldValues before) .channel with
    | none =>
        rw [hresult] at hchannel
        exact DimensionValue.text.inj hchannel
    | some v =>
        rw [hresult] at hchannel
        exact DimensionValue.text.inj hchannel
  · cases hresult : evaluateFilters host filters (extractFieldValues before) .channelGroup with
    | none =>
        rw [hresult] at hgroup
        exact DimensionValue.text.inj hgroup
    | some v =>
        rw [hresult] at hgroup
        exact DimensionValue.text.inj hgroup

/-- A text that is not empty is stored only by setting it. -/
theorem join_getD_eq_iff {v : Option (Option String)} {s : String} (hs : s ≠ "") :
    v.join.getD "" = s ↔ v = some (some s) := by
  rcases v with _ | _ | t
  · exact iff_of_false (fun h => hs h.symm) (by simp)
  · exact iff_of_false (fun h => hs h.symm) (by simp)
  · simp

theorem web_settled_iff {workspace : Workspace} {payload : SessionPayload} {arrival : Arrival}
    {before : TrackingEvent} (rest : ρ)
    (hvalid : before ∈ buildEvents host payload arrival workspace) :
    (((EventOrigin.web workspace payload arrival before).event host).attributed rest).stale host =
        false ↔
      (EventOrigin.web workspace payload arrival before).Keeps host := by
  rw [attributed_settled_iff]
  unfold EventOrigin.Keeps EventOrigin.event
  simp only
  split
  · rename_i hnil
    obtain ⟨hchannel, hgroup, hderived⟩ := mem_buildEvents_attribution hvalid
    rw [hnil, applyFilters, if_pos rfl, hchannel, hgroup, hderived, ← deriveChannel_core_iff]
    constructor
    · rintro ⟨hc, hg⟩
      exact (ChannelResult.eq_of_text hc hg).symm
    · intro heq
      rw [heq]
      exact ⟨rfl, rfl⟩
  · rename_i hne
    obtain ⟨hchannel, hgroup⟩ := applyFilters_channel host hne before
    rw [hchannel, hgroup, join_getD_eq_iff (Channel.text_ne_empty _),
      join_getD_eq_iff (ChannelGroup.text_ne_empty _)]
    rfl

/-- Normalising leaves lower-case ASCII text alone. -/
theorem norm_of_ascii {s : String} (hascii : Text.isAscii s = true) (htrim : Text.trim s = s)
    (hlower : Text.asciiLower s = s) : norm host (some s) = s := by
  show host.toLowerCase (Text.trim s) = s
  rw [htrim, host.toLowerCase_ascii s hascii, hlower]

/-- The `voip://` referrer of a phone call reads as a referral. -/
theorem deriveChannel_phone (host : Host) (workspaceId : String) (provider : VoipProvider)
    (call : NormalizedCall) (sourceMatch : Option SourceMatch) :
    deriveChannel host (buildPhoneCallEvent workspaceId provider call
      sourceMatch).storedSignals.tuple = finalize .referral := by
  have hempty : norm host (some "") = "" := norm_of_empty host rfl
  have hreferrer : norm host (some ("voip://" ++ provider.text)) = "voip://" ++ provider.text := by
    cases provider <;> exact norm_of_ascii (by decide) (by decide) (by decide)
  have hdomain : signalDomain host (buildPhoneCallEvent workspaceId provider call
      sourceMatch).storedSignals.tuple = "voip://" ++ provider.text := by
    show (if norm host (some "") = "" then norm host (some ("voip://" ++ provider.text))
      else norm host (some "")) = _
    rw [if_pos hempty, hreferrer]
  have hmedium : channelOfMedium host (buildPhoneCallEvent workspaceId provider call
      sourceMatch).storedSignals.tuple = none := if_pos hempty
  have hclick : PAID_SEARCH_CLICK_IDS.contains (norm host (buildPhoneCallEvent workspaceId provider
      call sourceMatch).storedSignals.tuple.utmIdFrom) = false := by
    show PAID_SEARCH_CLICK_IDS.contains (norm host (some "")) = false
    rw [hempty]
    decide
  unfold deriveChannel
  simp only [hclick, hmedium, hdomain, channelOfDomain_voip, Bool.false_eq_true, if_false]

/-- **The backfill rewrites every phone call.** -/
theorem phone_stale (rest : ρ) (workspaceId : String) (provider : VoipProvider)
    (call : NormalizedCall) (sourceMatch : Option SourceMatch) :
    ((buildPhoneCallEvent workspaceId provider call sourceMatch).attributed rest).stale host =
      true := by
  refine eq_true_of_ne_false fun hsettled => ?_
  obtain ⟨hchannel, -⟩ := (attributed_settled_iff _ rest).mp hsettled
  obtain ⟨channel, hne, hphone⟩ := phoneSourceToChannel_eq_finalize (callSource sourceMatch)
  rw [deriveChannel_phone] at hchannel
  have hstored : (phoneSourceToChannel (callSource sourceMatch)).channel.text =
      (finalize .referral).channel.text := hchannel
  rw [hphone] at hstored
  exact hne (Channel.text_injective hstored)

theorem settled_iff {o : EventOrigin} (rest : ρ) (hvalid : o.Valid host) :
    ((o.event host).attributed rest).stale host = false ↔ o.Keeps host := by
  cases o with
  | web workspace payload arrival before => exact web_settled_iff rest hvalid
  | phone workspaceId provider call sourceMatch =>
      refine iff_of_false (fun h => ?_) id
      exact Bool.noConfusion ((phone_stale rest workspaceId provider call sourceMatch).symm.trans h)

/-- What a run leaves in the place of one row. -/
theorem getElem?_rederived {before after : List (AttributedRow ρ)} {i : Nat} {r : AttributedRow ρ}
    (hafter : after = before.map (·.rederived host)) (hrow : before[i]? = some r) :
    after[i]? = some (r.rederived host) := by
  rw [hafter, List.getElem?_map, hrow]
  rfl

theorem rederived_attribution_iff (r : AttributedRow ρ) :
    (r.rederived host).attribution = r.attribution ↔ r.stale host = false := by
  rw [AttributedRow.stale_eq_false_iff]
  exact Prod.mk_inj

/-- Every row of `sessions_mv` takes its attribution from an event of the block. -/
theorem exists_origin_of_mem_sessionsMv {block : List EventOrigin} {session : SessionRow}
    (h : session ∈ sessionsMv (block.map (·.event host))) :
    ∃ o ∈ block, o.event host = session.any :=
  List.mem_map.mp (mem_sessionsMv_any h)

end

/-! ### A whole run -/

/--
**The backfill agrees with ingestion exactly where `EventOrigin.Keeps` says so.**

Take any tables, and in them any row that came from events the code writes: of a session,
through the view, or of a goal.  A run leaves the two channel columns of the row as they
were if and only if the event it got them from is one that keeps its channel.
-/
theorem channelBackfill_keeps_iff (host : Host) (order : GroupOrder) (known : Bool)
    (workspaceId : String) (tables : AnalyticsTables SessionRow TrackingEvent)
    (result : ChannelBackfillResult SessionRow TrackingEvent)
    (h : backfillChannel host order known workspaceId tables = .ok result) :
    ∀ block : List EventOrigin, (∀ o ∈ block, o.Valid host) →
      (∀ session ∈ sessionsMv (block.map (·.event host)),
        ∃ o ∈ block, o.event host = session.any ∧
          ∀ i : Nat, tables.sessions[i]? = some session.attributed →
            (result.tables.sessions[i]?.map AttributedRow.attribution =
              some session.attributed.attribution ↔ o.Keeps host)) ∧
      ∀ goal ∈ goalsMv (block.map (·.event host)),
        ∃ o ∈ block, o.event host = goal.rest ∧
          ∀ i : Nat, tables.goals[i]? = some goal →
            (result.tables.goals[i]?.map AttributedRow.attribution = some goal.attribution ↔
              o.Keeps host) := by
  obtain ⟨hsessions, hgoals, -, -⟩ := backfillChannel_cases h
  intro block hvalid
  constructor
  · intro session hsession
    obtain ⟨o, ho, hevent⟩ := exists_origin_of_mem_sessionsMv hsession
    refine ⟨o, ho, hevent, fun i hrow => ?_⟩
    rw [getElem?_rederived hsessions hrow, Option.map_some, Option.some_inj,
      rederived_attribution_iff, SessionRow.attributed, ← hevent]
    exact settled_iff session (hvalid o ho)
  · intro goal hgoal
    obtain ⟨e, he, rfl⟩ := List.mem_map.mp hgoal
    obtain ⟨o, ho, rfl⟩ := List.mem_map.mp (List.mem_of_mem_filter he)
    refine ⟨o, ho, rfl, fun i hrow => ?_⟩
    rw [getElem?_rederived hgoals hrow, Option.map_some, Option.some_inj,
      rederived_attribution_iff]
    exact settled_iff (o.event host) (hvalid o ho)

/-! ### A visit that keeps its channel, and a call that does not -/

namespace KeepsExample

open ChannelBackfillExample

/-- A visit to `/` from a newsletter, no filters. -/
def workspace : Workspace where
  id := "w"
  status := .active
  settings := { filters := [] }

def payload : SessionPayload where
  workspaceId := "w"
  sessionId := "s"
  actions := [.pageview ⟨"/", 1, 10, 50, 0, 10⟩]
  createdAt := 0
  updatedAt := 10
  attributes := { utmMedium := some "email" }

def arrival : Arrival where
  version := 20
  now := 20

def visit : EventOrigin :=
  .web workspace payload arrival
    (deserializeAction (.pageview ⟨"/", 1, 10, 50, 0, 10⟩)
      (buildBaseEvent Host.bare payload arrival 0 workspace) "s" "" 0)

def call : NormalizedCall :=
  ⟨"1", .inbound, "+33600000000", "+33100000000", 60, .answered, none, 1000⟩

/-- A call to a number that is printed on an ad. -/
def adsCall : EventOrigin := .phone "w" .ovh call (some ⟨.ads, "n", ""⟩)

/-- The tables of a block with one event. -/
def tables (o : EventOrigin) : AnalyticsTables SessionRow TrackingEvent where
  sessions := (sessionsMv [o.event Host.bare]).map (·.attributed)
  goals := goalsMv [o.event Host.bare]

theorem visit_valid : visit.Valid Host.bare := List.mem_singleton.mpr rfl

theorem visit_keeps : visit.Keeps Host.bare := by
  have hsettled : (ingestionSignals Host.bare payload.attributes
      workspace.settings.referralParam).fallsThrough Host.bare = false := by decide
  exact Or.inl hsettled

/-- What a visit with `?ref=` feeds into the derivation. -/
def referred : ChannelSignals where
  referrerDomain := none
  referrer := none
  utmSource := none
  utmMedium := none
  utmIdFrom := none
  isDirect := some true
  referralCode := some "ANNA"

end KeepsExample

open ChannelBackfillExample KeepsExample in
theorem channelBackfill_keeps_iff_newsletter :
    ∃ result, backfillChannel Host.bare asFound true "w" (KeepsExample.tables visit) =
        .ok result ∧
      ∃ session, sessionsMv [visit.event Host.bare] = [session] ∧
        result.tables.sessions[0]?.map AttributedRow.attribution =
          some session.attributed.attribution ∧
        session.attributed.attribution = ("email", "email") := by
  refine ⟨_, rfl, _, rfl, ?_, by decide⟩
  have hrun := channelBackfill_keeps_iff Host.bare asFound true "w"
    (KeepsExample.tables visit) _ rfl [visit]
    (fun o ho => List.mem_singleton.mp ho ▸ visit_valid)
  obtain ⟨o, ho, -, hkeeps⟩ := hrun.1 _ (List.mem_singleton.mpr rfl)
  obtain rfl := List.mem_singleton.mp ho
  exact (hkeeps 0 rfl).mpr visit_keeps

open ChannelBackfillExample KeepsExample in
/-- The call was stored as `paid_search` and becomes a `referral`; nor is leaving out the
referral code without effect. -/
theorem channelBackfill_rewrites_calls :
    ((KeepsExample.tables adsCall).goals.map AttributedRow.attribution =
        [("paid_search", "ads")] ∧
      ∃ result, backfillChannel Host.bare asFound true "w" (KeepsExample.tables adsCall) =
          .ok result ∧
        result.tables.goals.map AttributedRow.attribution = [("referral", "referral")]) ∧
    deriveChannel Host.bare referred.core ≠ deriveChannel Host.bare referred ∧
    ¬∀ (host : Host) (order : GroupOrder) (known : Bool) (workspaceId : String)
      (tables : AnalyticsTables SessionRow TrackingEvent)
      (result : ChannelBackfillResult SessionRow TrackingEvent),
      backfillChannel host order known workspaceId tables = .ok result →
      ∀ o : EventOrigin, o.Valid host → ∀ goal ∈ goalsMv [o.event host],
      ∀ i : Nat, tables.goals[i]? = some goal →
        result.tables.goals[i]?.map AttributedRow.attribution = some goal.attribution := by
  have hstored : (KeepsExample.tables adsCall).goals.map AttributedRow.attribution =
      [("paid_search", "ads")] := rfl
  have hrewritten : ((KeepsExample.tables adsCall).goals.map
      (·.rederived Host.bare)).map AttributedRow.attribution = [("referral", "referral")] := by
    have hgoals : (KeepsExample.tables adsCall).goals =
        [(adsCall.event Host.bare).attributed (adsCall.event Host.bare)] := rfl
    have hcall : deriveChannel Host.bare (adsCall.event Host.bare).storedSignals.tuple =
        finalize .referral := deriveChannel_phone Host.bare "w" .ovh call (some ⟨.ads, "n", ""⟩)
    simp only [hgoals, List.map_cons, List.map_nil, AttributedRow.rederived,
      AttributedRow.attribution, TrackingEvent.attributed, hcall]
    rfl
  obtain ⟨-, hgoals, -, -⟩ := backfillChannel_cases
    (rfl : backfillChannel Host.bare asFound true "w" (KeepsExample.tables adsCall) = .ok _)
  refine ⟨⟨hstored, _, rfl, ?_⟩, by decide, fun hall => ?_⟩
  · rw [hgoals]
    exact hrewritten
  · have hsame := hall Host.bare asFound true "w" (KeepsExample.tables adsCall) _ rfl adsCall
      trivial _ (List.mem_singleton.mpr rfl) 0 rfl
    rw [← List.getElem?_map, hgoals, hrewritten] at hsame
    exact absurd (Option.some.inj hsame) (by decide)

end Veridian
