/-
`ChannelBackfillService`: the channel of historical rows, derived again.

The service groups a table by the five signals it reads and the channel it finds
there, derives the channel of each group, and issues one UPDATE for each group whose
channel differs.  The old channel is part of the WHERE, so a row that was rewritten is
in another group from then on, and that one is never changed again: its channel is
the derived one (`rederived_settled`).  The statements together rewrite the table row
by row (`backfillTable_rows`), whatever order the groups came in.

The five signals leave out `is_direct`.  That is no loss except for a medium the
cascade does not know (`deriveChannel_own_iff`).
-/
import Veridian.Lib.Rewrite
import Veridian.Access.WorkspaceGuard
import Veridian.Events.DeriveChannel

namespace Veridian

/-! ### The tables -/

structure StoredSignals where
  utmMedium : String
  utmSource : String
  utmIdFrom : String
  referrerDomain : String
  referrer : String
  deriving DecidableEq, Repr

/-- A row of `sessions` or `goals`: the columns the service reads or writes, `is_direct`,
and all the others. -/
structure AttributedRow (ρ : Type*) where
  signals : StoredSignals
  isDirect : Bool
  channel : String
  channelGroup : String
  rest : ρ

/-- What a table is grouped by. -/
structure SignalKey where
  signals : StoredSignals
  channel : String
  channelGroup : String
  deriving DecidableEq, Repr

structure SignalRow extends SignalKey where
  rows : Nat
  deriving DecidableEq, Repr

inductive AttributionTable where
  | sessions | goals
  deriving DecidableEq, Repr

structure ChannelBackfillTuple where
  signals : StoredSignals
  storedChannel : String
  storedChannelGroup : String
  derivedChannel : String
  derivedChannelGroup : String
  rows : Nat
  table : AttributionTable
  changed : Bool
  deriving DecidableEq, Repr

/-- The order in which the database returns the groups, which no `ORDER BY` settles. -/
structure GroupOrder where
  arrange : List SignalRow → List SignalRow
  perm : ∀ groups, (arrange groups).Perm groups

variable {ρ σ γ : Type*}

namespace AttributedRow

def key (r : AttributedRow ρ) : SignalKey := ⟨r.signals, r.channel, r.channelGroup⟩

end AttributedRow

/-- The signals as the service passes them to `deriveChannel`. -/
def StoredSignals.tuple (s : StoredSignals) : ChannelSignals where
  referrerDomain := some s.referrerDomain
  referrer := some s.referrer
  utmSource := some s.utmSource
  utmMedium := some s.utmMedium
  utmIdFrom := some s.utmIdFrom
  isDirect := none
  referralCode := none

/-! ### The service -/

/-- `count()` with `GROUP BY` on the five signals and the two channel columns. -/
def groupSignals (rows : List (AttributedRow ρ)) : List SignalRow :=
  (rows.map (·.key)).dedup.map fun k => ⟨k, rows.countP fun r => r.key = k⟩

def channelBackfillTuple (host : Host) (table : AttributionTable) (r : SignalRow) :
    ChannelBackfillTuple :=
  let derived := deriveChannel host r.signals.tuple
  { signals := r.signals
    storedChannel := r.channel
    storedChannelGroup := r.channelGroup
    derivedChannel := derived.channel.text
    derivedChannelGroup := derived.channelGroup.text
    rows := r.rows
    table := table
    changed := derived.channel.text ≠ r.channel || derived.channelGroup.text ≠ r.channelGroup }

def readSignalTuples (host : Host) (order : GroupOrder) (table : AttributionTable)
    (rows : List (AttributedRow ρ)) : List ChannelBackfillTuple :=
  (order.arrange (groupSignals rows)).map (channelBackfillTuple host table)

/-- `ALTER TABLE … UPDATE channel, channel_group WHERE` all seven columns match. -/
def applyTuple (rows : List (AttributedRow ρ)) (t : ChannelBackfillTuple) :
    List (AttributedRow ρ) :=
  rows.map fun r =>
    if r.key = ⟨t.signals, t.storedChannel, t.storedChannelGroup⟩ then
      { r with channel := t.derivedChannel, channelGroup := t.derivedChannelGroup }
    else r

structure ChannelChange where
  table : AttributionTable
  fromChannel : String × String
  toChannel : String × String
  rows : Nat
  deriving DecidableEq, Repr

def channelChange (t : ChannelBackfillTuple) : ChannelChange where
  table := t.table
  fromChannel := (t.storedChannel, t.storedChannelGroup)
  toChannel := (t.derivedChannel, t.derivedChannelGroup)
  rows := t.rows

/-- The loop over the tuples of one table, with the statements it has sent. -/
structure TableRun (ρ : Type*) where
  rows : List (AttributedRow ρ)
  mutations : List ChannelBackfillTuple
  scanned : Nat
  updated : Nat
  changes : List ChannelChange

def runTuple (run : TableRun ρ) (t : ChannelBackfillTuple) : TableRun ρ :=
  if t.changed then
    { rows := applyTuple run.rows t
      mutations := run.mutations ++ [t]
      scanned := run.scanned + t.rows
      updated := run.updated + t.rows
      changes := run.changes ++ [channelChange t] }
  else { run with scanned := run.scanned + t.rows }

def backfillTable (host : Host) (order : GroupOrder) (table : AttributionTable)
    (rows : List (AttributedRow ρ)) : TableRun ρ :=
  (readSignalTuples host order table rows).foldl runTuple
    { rows := rows, mutations := [], scanned := 0, updated := 0, changes := [] }

structure ChannelBackfillSummary where
  workspaceId : String
  sessionsScanned : Nat
  goalsScanned : Nat
  sessionsUpdated : Nat
  goalsUpdated : Nat
  changes : List ChannelChange
  deriving DecidableEq, Repr

/-- The two tables of a workspace. -/
structure AnalyticsTables (σ γ : Type*) where
  sessions : List (AttributedRow σ)
  goals : List (AttributedRow γ)

/-- What a run leaves behind. -/
structure ChannelBackfillResult (σ γ : Type*) where
  summary : ChannelBackfillSummary
  tables : AnalyticsTables σ γ
  mutations : List ChannelBackfillTuple

/-- `backfillChannel`; `known` says whether the workspace exists. -/
def backfillChannel (host : Host) (order : GroupOrder) (known : Bool) (workspaceId : String)
    (tables : AnalyticsTables σ γ) : Except HttpException (ChannelBackfillResult σ γ) :=
  if known = false then .error (.notFound ("Workspace " ++ workspaceId ++ " not found"))
  else
    let sessions := backfillTable host order .sessions tables.sessions
    let goals := backfillTable host order .goals tables.goals
    .ok
      { summary :=
          { workspaceId := workspaceId
            sessionsScanned := sessions.scanned
            goalsScanned := goals.scanned
            sessionsUpdated := sessions.updated
            goalsUpdated := goals.updated
            changes := sessions.changes ++ goals.changes }
        tables := { sessions := sessions.rows, goals := goals.rows }
        mutations := sessions.mutations ++ goals.mutations }

/-! ### One row -/

namespace AttributedRow

/-- The row with the channel of its five signals. -/
def rederived (host : Host) (r : AttributedRow ρ) : AttributedRow ρ :=
  { r with
    channel := (deriveChannel host r.signals.tuple).channel.text
    channelGroup := (deriveChannel host r.signals.tuple).channelGroup.text }

/-- The row holds another channel than the derived one. -/
def stale (host : Host) (r : AttributedRow ρ) : Bool :=
  (deriveChannel host r.signals.tuple).channel.text ≠ r.channel ||
    (deriveChannel host r.signals.tuple).channelGroup.text ≠ r.channelGroup

theorem stale_eq_false_iff {host : Host} {r : AttributedRow ρ} :
    r.stale host = false ↔ (deriveChannel host r.signals.tuple).channel.text = r.channel ∧
      (deriveChannel host r.signals.tuple).channelGroup.text = r.channelGroup := by
  simp [stale]

theorem rederived_of_not_stale {host : Host} {r : AttributedRow ρ} (h : r.stale host = false) :
    r.rederived host = r := by
  obtain ⟨hchannel, hgroup⟩ := stale_eq_false_iff.mp h
  unfold rederived
  rw [hchannel, hgroup]

/-- A row that was rewritten is settled. -/
theorem rederived_settled (host : Host) (r : AttributedRow ρ) :
    (r.rederived host).stale host = false :=
  stale_eq_false_iff.mpr ⟨rfl, rfl⟩

end AttributedRow

/-! ### One table -/

section

variable {host : Host} {order : GroupOrder} {table : AttributionTable}
  {rows : List (AttributedRow ρ)}

theorem foldl_runTuple :
    ∀ (ts : List ChannelBackfillTuple) (run : TableRun ρ),
      ts.foldl runTuple run =
        { rows := (ts.filter (·.changed)).foldl applyTuple run.rows
          mutations := run.mutations ++ ts.filter (·.changed)
          scanned := run.scanned + (ts.map (·.rows)).sum
          updated := run.updated + ((ts.filter (·.changed)).map (·.rows)).sum
          changes := run.changes ++ (ts.filter (·.changed)).map channelChange } := by
  intro ts
  induction ts with
  | nil => intro run; simp
  | cons t rest ih =>
      intro run
      rw [List.foldl_cons, ih]
      cases hchanged : t.changed with
      | true => simp [runTuple, hchanged, Nat.add_assoc]
      | false => simp [runTuple, hchanged, Nat.add_assoc]

/-- The key of a group is stale when its rows are. -/
def SignalKey.stale (host : Host) (k : SignalKey) : Bool :=
  (deriveChannel host k.signals.tuple).channel.text ≠ k.channel ||
    (deriveChannel host k.signals.tuple).channelGroup.text ≠ k.channelGroup

/-- The stale groups, in the order of the read. -/
def staleGroups (host : Host) (order : GroupOrder) (rows : List (AttributedRow ρ)) :
    List SignalRow :=
  (order.arrange (groupSignals rows)).filter fun g => g.toSignalKey.stale host

theorem readSignalTuples_changed :
    (readSignalTuples host order table rows).filter (·.changed) =
      (staleGroups host order rows).map (channelBackfillTuple host table) := by
  rw [readSignalTuples, staleGroups, List.filter_map]
  rfl

/-- The statement of a group rewrites the rows of its key. -/
theorem applyTuple_eq_rewriteClass (g : SignalRow) (current : List (AttributedRow ρ)) :
    applyTuple current (channelBackfillTuple host table g) =
      Rewrite.rewriteClass AttributedRow.key (AttributedRow.rederived host) current
        g.toSignalKey := by
  refine List.map_congr_left fun r _ => ?_
  show (if r.key = g.toSignalKey then _ else r) = if r.key = g.toSignalKey then _ else r
  split
  · rename_i hkey
    have hsignals : r.signals = g.signals := congrArg SignalKey.signals hkey
    rw [AttributedRow.rederived, hsignals]
    rfl
  · rfl

theorem mem_groupSignals_key {k : SignalKey} :
    k ∈ (groupSignals rows).map (·.toSignalKey) ↔ ∃ r ∈ rows, r.key = k := by
  rw [groupSignals, List.map_map]
  show k ∈ (rows.map (·.key)).dedup.map (fun k => k) ↔ _
  rw [List.map_id', List.mem_dedup, List.mem_map]

theorem groupSignals_nodup : ((groupSignals rows).map (·.toSignalKey)).Nodup := by
  rw [groupSignals, List.map_map]
  show ((rows.map (·.key)).dedup.map fun k => k).Nodup
  rw [List.map_id']
  exact List.nodup_dedup _

theorem staleGroups_nodup : ((staleGroups host order rows).map (·.toSignalKey)).Nodup := by
  have harranged := ((order.perm (groupSignals rows)).map (·.toSignalKey)).nodup_iff.mpr
    groupSignals_nodup
  exact harranged.sublist (List.filter_sublist.map _)

/-- A row is in a stale group exactly when it is stale. -/
theorem key_mem_staleGroups {r : AttributedRow ρ} (hr : r ∈ rows) :
    r.key ∈ (staleGroups host order rows).map (·.toSignalKey) ↔ r.stale host = true := by
  constructor
  · intro hmem
    obtain ⟨g, hg, hkey⟩ := List.mem_map.mp hmem
    have hstale := (List.mem_filter.mp hg).2
    rw [hkey] at hstale
    exact hstale
  · intro hstale
    obtain ⟨g, hg, hkey⟩ := List.mem_map.mp (mem_groupSignals_key.mpr ⟨r, hr, rfl⟩)
    refine List.mem_map.mpr ⟨g, List.mem_filter.mpr ⟨(order.perm _).mem_iff.mpr hg, ?_⟩, hkey⟩
    rw [hkey]
    exact hstale

/-- **The backfill of a table rewrites it row by row.** -/
theorem backfillTable_rows (host : Host) (order : GroupOrder) (table : AttributionTable)
    (rows : List (AttributedRow ρ)) :
    (backfillTable host order table rows).rows = rows.map (·.rederived host) := by
  have hstatements : ∀ (gs : List SignalRow) (current : List (AttributedRow ρ)),
      (gs.map (channelBackfillTuple host table)).foldl applyTuple current =
        Rewrite.rewriteClasses AttributedRow.key (AttributedRow.rederived host)
          (gs.map (·.toSignalKey)) current := by
    intro gs
    induction gs with
    | nil => intro current; rfl
    | cons g rest ih =>
        intro current
        rw [List.map_cons, List.foldl_cons, applyTuple_eq_rewriteClass, ih]
        rfl
  have hsettled : ∀ r : AttributedRow ρ, r.key ∈ (staleGroups host order rows).map (·.toSignalKey) →
      (r.rederived host).key ∉ (staleGroups host order rows).map (·.toSignalKey) := by
    intro r _ hmem
    obtain ⟨g, hg, hkey⟩ := List.mem_map.mp hmem
    have hstale : g.toSignalKey.stale host = true := (List.mem_filter.mp hg).2
    rw [hkey] at hstale
    have hnot := r.rederived_settled host
    exact Bool.noConfusion (hnot.symm.trans hstale)
  rw [backfillTable, foldl_runTuple, readSignalTuples_changed, hstatements,
    Rewrite.rewriteClasses_eq_map hsettled]
  refine List.map_congr_left fun r hr => ?_
  cases hstale : r.stale host with
  | true => rw [if_pos ((key_mem_staleGroups hr).mpr hstale)]
  | false =>
      rw [if_neg, r.rederived_of_not_stale hstale]
      rw [key_mem_staleGroups hr, hstale]
      exact Bool.false_ne_true

/-- The groups of a class list add up to the rows in them. -/
theorem sum_rows_of_groups {gs : List SignalRow}
    (hgs : ∀ g ∈ gs, g ∈ groupSignals rows) (hnodup : (gs.map (·.toSignalKey)).Nodup) :
    (gs.map (·.rows)).sum = rows.countP fun r => r.key ∈ gs.map (·.toSignalKey) := by
  rw [← Rewrite.sum_countP_classes hnodup, List.map_map]
  refine congrArg List.sum (List.map_congr_left fun g hg => ?_)
  obtain ⟨k, -, rfl⟩ := List.mem_map.mp (hgs g hg)
  rfl

/-- The update count is the number of rows whose channel changed. -/
theorem backfillTable_updated (host : Host) (order : GroupOrder) (table : AttributionTable)
    (rows : List (AttributedRow ρ)) :
    (backfillTable host order table rows).updated = rows.countP (·.stale host) := by
  rw [backfillTable, foldl_runTuple, readSignalTuples_changed, List.map_map]
  show 0 + ((staleGroups host order rows).map (·.rows)).sum = _
  have hgroups : ∀ g ∈ staleGroups host order rows, g ∈ groupSignals rows :=
    fun g hg => (order.perm _).mem_iff.mp (List.mem_of_mem_filter hg)
  rw [Nat.zero_add, sum_rows_of_groups hgroups staleGroups_nodup]
  refine List.countP_congr fun r hr => ?_
  rw [decide_eq_true_iff, key_mem_staleGroups hr]

/-- The scan count is the number of rows. -/
theorem backfillTable_scanned (host : Host) (order : GroupOrder) (table : AttributionTable)
    (rows : List (AttributedRow ρ)) :
    (backfillTable host order table rows).scanned = rows.length := by
  rw [backfillTable, foldl_runTuple, readSignalTuples, List.map_map]
  show 0 + ((order.arrange (groupSignals rows)).map (·.rows)).sum = _
  rw [Nat.zero_add, ((order.perm _).map _).sum_eq,
    sum_rows_of_groups (fun _ h => h) groupSignals_nodup, List.countP_eq_length]
  exact fun r hr => decide_eq_true (mem_groupSignals_key.mpr ⟨r, hr, rfl⟩)

theorem backfillTable_mutations (host : Host) (order : GroupOrder) (table : AttributionTable)
    (rows : List (AttributedRow ρ)) :
    (backfillTable host order table rows).mutations =
      (staleGroups host order rows).map (channelBackfillTuple host table) := by
  rw [backfillTable, foldl_runTuple, readSignalTuples_changed]
  rfl

/-- A table whose rows are settled is left alone. -/
theorem backfillTable_mutations_of_settled (h : ∀ r ∈ rows, r.stale host = false) :
    (backfillTable host order table rows).mutations = [] := by
  rw [backfillTable_mutations, List.map_eq_nil_iff, List.eq_nil_iff_forall_not_mem]
  intro g hg
  obtain ⟨r, hr, hkey⟩ := mem_groupSignals_key.mp (List.mem_map.mpr
    ⟨g, (order.perm _).mem_iff.mp (List.mem_of_mem_filter hg), rfl⟩)
  have hstale : r.stale host = true := by
    rw [← key_mem_staleGroups hr, hkey]
    exact List.mem_map.mpr ⟨g, hg, rfl⟩
  rw [h r hr] at hstale
  exact Bool.noConfusion hstale

/-- The changes reported are those of the statements sent. -/
theorem backfillTable_changes (host : Host) (order : GroupOrder) (table : AttributionTable)
    (rows : List (AttributedRow ρ)) :
    (backfillTable host order table rows).changes =
      (backfillTable host order table rows).mutations.map channelChange := by
  rw [backfillTable, foldl_runTuple]
  rfl

end

/-! ### The signals the service leaves out -/

/-- All signals a row stores, `is_direct` included. -/
def AttributedRow.ownSignals (r : AttributedRow ρ) : ChannelSignals :=
  { r.signals.tuple with isDirect := some r.isDirect }

/-- Nothing but a medium the cascade does not know, on a direct visit. -/
def AttributedRow.unknownMediumDirect (host : Host) (r : AttributedRow ρ) : Bool :=
  r.signals.tuple.fallsThrough host && r.isDirect && norm host (some r.signals.utmMedium) ≠ ""

/-- Leaving out `is_direct` changes the result for an unknown medium on a direct visit, and
for nothing else. -/
theorem deriveChannel_own_iff (host : Host) (r : AttributedRow ρ) :
    deriveChannel host r.signals.tuple = deriveChannel host r.ownSignals ↔
      r.unknownMediumDirect host = false := by
  have hsame : r.ownSignals.fallsThrough host = r.signals.tuple.fallsThrough host := rfl
  cases hfalls : r.signals.tuple.fallsThrough host with
  | false =>
      refine iff_of_true ?_ ?_
      · rw [deriveChannel_of_settled host hfalls,
          deriveChannel_of_settled host (hsame.trans hfalls)]
        rfl
      · rw [AttributedRow.unknownMediumDirect, hfalls]
        rfl
  | true =>
      have hreferral : norm host (none : Option String) = "" := norm_of_empty host rfl
      rw [deriveChannel_of_fallsThrough host hfalls,
        deriveChannel_of_fallsThrough host (hsame.trans hfalls)]
      have hleft : r.signals.tuple.referralCode = none := rfl
      have hright : r.ownSignals.referralCode = none := rfl
      rw [hleft, hright, if_neg (not_not.mpr hreferral), if_neg (not_not.mpr hreferral)]
      rw [AttributedRow.unknownMediumDirect, hfalls, Bool.true_and]
      show (if (none : Option Bool) = some true ∨ norm host (some r.signals.utmMedium) = "" then
          finalize .direct else finalize .other) =
        (if some r.isDirect = some true ∨ norm host (some r.signals.utmMedium) = "" then
          finalize .direct else finalize .other) ↔ _
      by_cases hmedium : norm host (some r.signals.utmMedium) = ""
      · simp [hmedium]
      · cases r.isDirect <;> simp [hmedium, finalize]

/-! ### A whole run -/

/-- Every row has the channel of its own stored signals. -/
def Exact (host : Host) (rows : List (AttributedRow ρ)) : Prop :=
  ∀ r ∈ rows, r.channel = (deriveChannel host r.ownSignals).channel.text ∧
    r.channelGroup = (deriveChannel host r.ownSignals).channelGroup.text

/-- The rows before and after, one by one: nothing but the channel columns differs. -/
def OnlyChannels (before after : List (AttributedRow ρ)) : Prop :=
  List.Forall₂ (fun r r' => r'.signals = r.signals ∧ r'.isDirect = r.isDirect ∧ r'.rest = r.rest)
    before after

/-- The number of rows whose channel columns differ. -/
def rewrittenCount (before after : List (AttributedRow ρ)) : Nat :=
  (before.zip after).countP fun p =>
    p.2.channel ≠ p.1.channel || p.2.channelGroup ≠ p.1.channelGroup

theorem onlyChannels_rederived (host : Host) (rows : List (AttributedRow ρ)) :
    OnlyChannels rows (rows.map (·.rederived host)) := by
  induction rows with
  | nil => exact List.Forall₂.nil
  | cons r rest ih => exact List.Forall₂.cons ⟨rfl, rfl, rfl⟩ ih

theorem rewrittenCount_rederived (host : Host) (rows : List (AttributedRow ρ)) :
    rewrittenCount rows (rows.map (·.rederived host)) = rows.countP (·.stale host) := by
  unfold rewrittenCount
  induction rows with
  | nil => rfl
  | cons r rest ih =>
      rw [List.map_cons, List.zip_cons_cons, List.countP_cons, List.countP_cons, ih]
      rfl

/-- A rewritten table is exact when no row has an unknown medium on a direct visit. -/
theorem exact_rederived_iff (host : Host) (rows : List (AttributedRow ρ)) :
    Exact host (rows.map (·.rederived host)) ↔
      ∀ r ∈ rows, r.unknownMediumDirect host = false := by
  unfold Exact
  rw [List.forall_mem_map]
  refine forall₂_congr fun r _ => ?_
  have hown : (r.rederived host).ownSignals = r.ownSignals := rfl
  rw [← deriveChannel_own_iff, hown]
  constructor
  · rintro ⟨hchannel, hgroup⟩
    exact ChannelResult.eq_of_text hchannel hgroup
  · intro heq
    show (deriveChannel host r.signals.tuple).channel.text = _ ∧
      (deriveChannel host r.signals.tuple).channelGroup.text = _
    rw [heq]
    exact ⟨rfl, rfl⟩

/-- What a run that returns leaves behind. -/
theorem backfillChannel_cases {host : Host} {order : GroupOrder} {known : Bool}
    {workspaceId : String} {tables : AnalyticsTables σ γ} {result : ChannelBackfillResult σ γ}
    (h : backfillChannel host order known workspaceId tables = .ok result) :
    result.tables.sessions = tables.sessions.map (·.rederived host) ∧
      result.tables.goals = tables.goals.map (·.rederived host) ∧
      result.mutations = (backfillTable host order .sessions tables.sessions).mutations ++
        (backfillTable host order .goals tables.goals).mutations ∧
      result.summary =
        { workspaceId := workspaceId
          sessionsScanned := tables.sessions.length
          goalsScanned := tables.goals.length
          sessionsUpdated := tables.sessions.countP (·.stale host)
          goalsUpdated := tables.goals.countP (·.stale host)
          changes := result.mutations.map channelChange } := by
  unfold backfillChannel at h
  split at h
  · exact absurd h (by simp)
  obtain rfl := Except.ok.inj h
  refine ⟨backfillTable_rows host order _ _, backfillTable_rows host order _ _, rfl, ?_⟩
  simp only [backfillTable_updated, backfillTable_scanned, backfillTable_changes, List.map_append]

theorem settled_of_rederived (host : Host) (rows : List (AttributedRow ρ)) :
    ∀ r ∈ rows.map (·.rederived host), r.stale host = false := by
  intro r hr
  obtain ⟨q, -, rfl⟩ := List.mem_map.mp hr
  exact q.rederived_settled host

theorem rederived_rederived (host : Host) (rows : List (AttributedRow ρ)) :
    (rows.map (·.rederived host)).map (·.rederived host) = rows.map (·.rederived host) := by
  have hfixed : (rows.map (·.rederived host)).map (·.rederived host) =
      (rows.map (·.rederived host)).map fun r => r :=
    List.map_congr_left fun r hr =>
      r.rederived_of_not_stale (settled_of_rederived host rows r hr)
  rw [hfixed, List.map_id']

/--
**The channel backfill is exact, but for what `is_direct` decides.**

Whatever the two tables hold and in whatever order the groups come: every row gets the
channel of its five signals, only the channel columns are written, the summary counts the
rows scanned and the rows whose channel changed, and a second run sends no statement.
Every row then has the channel of all its own stored signals if and only if no row is a
direct visit with a medium the cascade does not know.
-/
theorem backfillChannel_exact_iff (host : Host) (order : GroupOrder) (known : Bool)
    (workspaceId : String) (tables : AnalyticsTables σ γ) (result : ChannelBackfillResult σ γ)
    (h : backfillChannel host order known workspaceId tables = .ok result) :
    (result.tables.sessions = tables.sessions.map (·.rederived host) ∧
      result.tables.goals = tables.goals.map (·.rederived host)) ∧
    (OnlyChannels tables.sessions result.tables.sessions ∧
      OnlyChannels tables.goals result.tables.goals) ∧
    (result.summary.sessionsScanned = tables.sessions.length ∧
      result.summary.goalsScanned = tables.goals.length ∧
      result.summary.sessionsUpdated = rewrittenCount tables.sessions result.tables.sessions ∧
      result.summary.goalsUpdated = rewrittenCount tables.goals result.tables.goals ∧
      result.summary.changes = result.mutations.map channelChange) ∧
    (∀ order' second, backfillChannel host order' known workspaceId result.tables = .ok second →
      second.mutations = [] ∧ second.tables = result.tables) ∧
    ((Exact host result.tables.sessions ∧ Exact host result.tables.goals) ↔
      (∀ r ∈ tables.sessions, r.unknownMediumDirect host = false) ∧
        ∀ r ∈ tables.goals, r.unknownMediumDirect host = false) := by
  obtain ⟨hsessions, hgoals, -, hsummary⟩ := backfillChannel_cases h
  refine ⟨⟨hsessions, hgoals⟩, ⟨?_, ?_⟩, ⟨?_, ?_, ?_, ?_, ?_⟩, ?_, ?_⟩
  · rw [hsessions]
    exact onlyChannels_rederived host _
  · rw [hgoals]
    exact onlyChannels_rederived host _
  · rw [hsummary]
  · rw [hsummary]
  · rw [hsummary, hsessions, rewrittenCount_rederived]
  · rw [hsummary, hgoals, rewrittenCount_rederived]
  · rw [hsummary]
  · intro order' second hsecond
    obtain ⟨hsessions', hgoals', hmutations', -⟩ := backfillChannel_cases hsecond
    rw [hsessions] at hsessions' hmutations'
    rw [hgoals] at hgoals' hmutations'
    refine ⟨?_, ?_⟩
    · rw [hmutations', backfillTable_mutations_of_settled (settled_of_rederived host _),
        backfillTable_mutations_of_settled (settled_of_rederived host _)]
      rfl
    · rw [rederived_rederived] at hsessions' hgoals'
      show second.tables = ⟨result.tables.sessions, result.tables.goals⟩
      rw [hsessions, hgoals, ← hsessions', ← hgoals']
  · rw [hsessions, hgoals, exact_rederived_iff, exact_rederived_iff]

/-! ### A medium nobody knows -/

namespace ChannelBackfillExample

/-- The groups in the order they were found. -/
def asFound : GroupOrder where
  arrange := fun groups => groups
  perm := fun _ => List.Perm.refl _

/-- A direct visit tagged `utm_medium=flyer`, as ingestion stores it. -/
def flyer : AttributedRow Unit where
  signals := ⟨"flyer", "", "", "", ""⟩
  isDirect := true
  channel := "direct"
  channelGroup := "direct"
  rest := ()

/-- A row from before channels were stored. -/
def historical : AttributedRow Unit where
  signals := ⟨"email", "", "", "", ""⟩
  isDirect := true
  channel := ""
  channelGroup := ""
  rest := ()

/-- One session row, twice. -/
def tables (row : AttributedRow Unit) : AnalyticsTables Unit Unit where
  sessions := [row, row]
  goals := []

end ChannelBackfillExample

open ChannelBackfillExample in
/-- The flyer's rows read `other` after the run, where their own signals say `direct`. -/
theorem backfillChannel_inexact :
    (∃ result, backfillChannel Host.bare asFound true "w" (tables flyer) = .ok result ∧
      result.tables.sessions.map (·.channel) = ["other", "other"] ∧
      (deriveChannel Host.bare flyer.ownSignals).channel.text = "direct") ∧
    ¬∀ (host : Host) (order : GroupOrder) (known : Bool) (workspaceId : String)
      (tables : AnalyticsTables Unit Unit) (result : ChannelBackfillResult Unit Unit),
      backfillChannel host order known workspaceId tables = .ok result →
        Exact host result.tables.sessions := by
  have hother : (flyer.rederived Host.bare).channel = "other" := by decide
  have hdirect : (deriveChannel Host.bare flyer.ownSignals).channel.text = "direct" := by
    decide
  refine ⟨⟨_, rfl, by decide, hdirect⟩, fun hall => ?_⟩
  have hexact := hall Host.bare asFound true "w" (tables flyer) _ rfl
  obtain ⟨hsessions, -⟩ := backfillChannel_cases
    (rfl : backfillChannel Host.bare asFound true "w" (tables flyer) = .ok _)
  obtain ⟨hchannel, -⟩ := hexact (flyer.rederived Host.bare) (hsessions ▸ List.mem_cons_self)
  exact absurd (hother.symm.trans (hchannel.trans hdirect)) (by decide)

open ChannelBackfillExample in
theorem backfillChannel_exact_iff_historical :
    ∃ result, backfillChannel Host.bare asFound true "w" (tables historical) = .ok result ∧
      Exact Host.bare result.tables.sessions := by
  refine ⟨_, rfl, ((backfillChannel_exact_iff Host.bare asFound true "w" (tables historical) _
    rfl).2.2.2.2.mpr ⟨?_, List.forall_mem_nil _⟩).1⟩
  have hknown : historical.unknownMediumDirect Host.bare = false := by decide
  intro r hr
  rcases List.mem_cons.mp hr with rfl | hr
  · exact hknown
  · rw [List.mem_singleton.mp hr]
    exact hknown

end Veridian
