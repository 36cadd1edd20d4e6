/-
Whether two requests with one key have the same answers.

Metrics, dimensions and totals are the same up to their order, and everything else the
builder reads is the same, so the groups and their columns are.  The order of the groups is
the same unless it is that of the first metric.
-/
import Mathlib.Data.List.Permutation
import Veridian.Analytics.KeyParts

namespace Veridian.Analytics

variable {N : Type} {ns : Numbers N} {e : Engine N} {ctx : MetricContext}

/-! ### Requests that differ in the order of their names -/

/-- What the builder reads is the same, up to the order of metrics and dimensions. -/
structure Agree (ns : Numbers N) (d d' : AnalyticsQueryDto N) : Prop where
  table : d.table.getD .sessions = d'.table.getD .sessions
  metrics : d.metrics.Perm d'.metrics
  dimensions : (d.dimensions.getD []).Perm (d'.dimensions.getD [])
  totalsGroupBy : sortedJoin (d.totalsGroupBy.getD []) = sortedJoin (d'.totalsGroupBy.getD [])
  start : d.dateRange.start.getD "" = d'.dateRange.start.getD ""
  stop : d.dateRange.stop.getD "" = d'.dateRange.stop.getD ""
  granularity : d.dateRange.granularity = d'.dateRange.granularity
  limit : orLiteral ns d.limit 1000 = orLiteral ns d'.limit 1000
  filters : d.filters.getD [] = d'.filters.getD []
  metricFilters : d.metricFilters.getD [] = d'.metricFilters.getD []
  order : d.order.getD [] = d'.order.getD []
  havingMinSessions : orLiteral ns d.havingMinSessions 0 = orLiteral ns d'.havingMinSessions 0

/-- Checked lists are in the order of their names. -/
theorem mapM_perm {α β : Type} {f : α → Except String β} {l l' : List α} {out out' : List β}
    (hperm : l.Perm l') (h : l.mapM f = .ok out) (h' : l'.mapM f = .ok out') :
    out.Perm out' := by
  have values : ∀ {l : List α} {out : List β}, l.mapM f = .ok out →
      out = l.filterMap fun a => (f a).toOption := by
    intro l out h
    have hall := Checked.mapM_eq_ok_iff.mp h
    clear h
    induction hall with
    | nil => rfl
    | cons hb _ ih => rw [List.filterMap_cons, hb, ih]; rfl
  rw [values h, values h']
  exact hperm.filterMap _

/-! ### Clauses -/

/-- Clauses that select and keep the same. -/
structure SameClauses (ns : Numbers N) (c c' : Clauses N) : Prop where
  table : c.table = c'.table
  start : c.start.getD "" = c'.start.getD ""
  stop : c.stop.getD "" = c'.stop.getD ""
  conditions : c.conditions = c'.conditions
  metricConditions : c.metricConditions = c'.metricConditions
  havingMinSessions : orLiteral ns c.havingMinSessions 0 = orLiteral ns c'.havingMinSessions 0

theorem any_readable (date : Option String) : date.any e.readable = e.readable (date.getD "") := by
  cases date with
  | none => exact e.unreadable_empty.symm
  | some s => rfl

theorem SameClauses.readable {c c' : Clauses N} (h : SameClauses ns c c') :
    c.readable e = c'.readable e := by
  simp only [Clauses.readable, any_readable, h.start, h.stop]

/-- A date that is read is given. -/
theorem date_eq {date date' : Option String} (h : date.getD "" = date'.getD "")
    (hread : date.any e.readable = true) : date = date' := by
  obtain ⟨s, rfl, hs⟩ := (Option.any_eq_true _ _).mp hread
  cases date' with
  | some s' => exact congrArg some h
  | none =>
      have hempty : s = "" := h
      rw [hempty, e.unreadable_empty] at hs
      exact absurd hs (by simp)

theorem SameClauses.selects {c c' : Clauses N} (h : SameClauses ns c c')
    (hread : c.readable e = true) :
    c.selects e.toClickHouse = c'.selects e.toClickHouse := by
  rw [Clauses.readable, Bool.and_eq_true] at hread
  funext r
  simp only [Clauses.selects, h.table, h.conditions, date_eq h.start hread.1,
    date_eq h.stop hread.2]

/-- No least number of sessions is a least number of none. -/
theorem having_sessions (hnumber : e.number = ns.number) (n : Option N) (k : Nat) :
    (n.all fun n => decide (e.number n ≤ k)) = decide (ns.number (orLiteral ns n 0) ≤ k) := by
  have hzero : ns.number (ns.literal 0) ≤ k := by
    rw [ns.number_literal]
    exact_mod_cast Nat.zero_le k
  cases n with
  | none => exact (decide_eq_true hzero).symm
  | some n =>
      by_cases hn : ns.number n = 0
      · have hle : ns.number n ≤ k := by
          rw [hn]
          exact_mod_cast Nat.zero_le k
        simp [orLiteral, Option.filter, hn, hnumber, hzero]
      · simp [orLiteral, Option.filter, hn, hnumber]

theorem SameClauses.having {c c' : Clauses N} (hnumber : e.number = ns.number)
    (h : SameClauses ns c c') (ctx : MetricContext) :
    c.having e.toClickHouse ctx = c'.having e.toClickHouse ctx := by
  funext rows
  simp only [Clauses.having, having_sessions hnumber, h.havingMinSessions, h.metricConditions]

/-! ### Queries that differ in the order of their columns -/

namespace GroupedQuery

structure Alike (ns : Numbers N) (q q' : GroupedQuery N) : Prop where
  clauses : SameClauses ns q.toClauses q'.toClauses
  granularity : q.granularity = q'.granularity
  timezone : q.timezone = q'.timezone
  dimensions : q.dimensions.Perm q'.dimensions
  metrics : q.metrics.Perm q'.metrics
  limit : q.limit = q'.limit
  order : q.hasGroups = true → q.order = q'.order
  directions : q.order.map (·.direction) = q'.order.map (·.direction)

namespace Alike

variable {q q' : GroupedQuery N} {table : List Row} {answer : List ResultRow}

theorem hasGroups (h : Alike ns q q') : q.hasGroups = q'.hasGroups := by
  have hempty : q.dimensions.isEmpty = q'.dimensions.isEmpty := by
    rw [Bool.eq_iff_iff, List.isEmpty_iff, List.isEmpty_iff]
    exact ⟨fun hn => (hn ▸ h.dimensions).nil_eq.symm, fun hn => (hn ▸ h.dimensions).eq_nil⟩
  rw [GroupedQuery.hasGroups, GroupedQuery.hasGroups, h.granularity, hempty]

theorem symm (h : Alike ns q q') : Alike ns q' q where
  clauses := {
    table := h.clauses.table.symm
    start := h.clauses.start.symm
    stop := h.clauses.stop.symm
    conditions := h.clauses.conditions.symm
    metricConditions := h.clauses.metricConditions.symm
    havingMinSessions := h.clauses.havingMinSessions.symm }
  granularity := h.granularity.symm
  timezone := h.timezone.symm
  dimensions := h.dimensions.symm
  metrics := h.metrics.symm
  limit := h.limit.symm
  order hgroups := (h.order (h.hasGroups.trans hgroups)).symm
  directions := h.directions.symm

theorem bucketOf (h : Alike ns q q') : q.bucketOf e = q'.bucketOf e := by
  funext g r
  rw [GroupedQuery.bucketOf, GroupedQuery.bucketOf, h.timezone, h.clauses.table]

/-- The same rows are in one group. -/
theorem key_eq_iff (h : Alike ns q q') (r s : Row) : q.key e r = q.key e s ↔
    q'.key e r = q'.key e s := by
  simp only [GroupedQuery.key, Prod.mk.injEq, h.bucketOf, h.granularity, List.map_inj_left]
  exact and_congr_right fun _ => forall_congr' fun d => imp_congr_left h.dimensions.mem_iff

theorem groups (hnumber : e.number = ns.number) (h : Alike ns q q')
    (hread : q.toClauses.readable e = true) : q.groups e ctx table = q'.groups e ctx table := by
  simp only [GroupedQuery.groups, h.hasGroups, h.clauses.selects hread,
    h.clauses.having hnumber ctx, Grouping.groupBy_congr (h.key_eq_iff (e := e))]

/-- A group has the same columns in both. -/
theorem row (h : Alike ns q q') (group : List Row) :
    (q.row e ctx group).toFinset = (q'.row e ctx group).toFinset := by
  refine List.toFinset_eq_of_perm _ _ ?_
  rw [GroupedQuery.row, GroupedQuery.row, h.granularity, h.bucketOf]
  exact ((List.Perm.refl _).append (h.dimensions.map _)).append (h.metrics.map _)

theorem precedes (h : Alike ns q q') : ∀ order g g', q.precedes e ctx order g g' =
    q'.precedes e ctx order g g' := by
  have hcell : ∀ g field, q.sortCell e ctx g field = q'.sortCell e ctx g field := by
    intro g field
    cases field with
    | granularity => simp only [GroupedQuery.sortCell, h.granularity, h.bucketOf]
    | metric name => rfl
    | column c => rfl
  intro order
  induction order with
  | nil => intro g g'; rfl
  | cons item rest ih =>
      intro g g'
      simp only [GroupedQuery.precedes, hcell, ih]

theorem accepted (h : Alike ns q q') : q.accepted e = q'.accepted e := by
  have hall : ∀ order : List OrderItem,
      (order.all fun item => ["ASC", "DESC"].contains item.direction) =
        (order.map (·.direction)).all fun direction => ["ASC", "DESC"].contains direction := by
    intro order
    rw [List.all_map]
    rfl
  rw [GroupedQuery.accepted, GroupedQuery.accepted, h.clauses.readable, hall, hall, h.directions]

/-- **What one may answer, the other may answer too.** -/
theorem exists_answer (hnumber : e.number = ns.number) (h : Alike ns q q')
    (hanswer : q.Answer e ctx table answer) :
    ∃ answer', q'.Answer e ctx table answer' ∧
      answer.map List.toFinset = answer'.map List.toFinset := by
  obtain ⟨haccepted, ranked, hperm, hsorted, rfl⟩ := hanswer
  have hread : q.toClauses.readable e = true := (Bool.and_eq_true _ _ ▸ haccepted).1
  refine ⟨(ranked.take ⌊q'.limit⌋₊).map (q'.row e ctx),
    ⟨h.accepted ▸ haccepted, ranked, h.groups hnumber hread ▸ hperm, ?_, rfl⟩, ?_⟩
  · cases hgroups : q.hasGroups with
    | true =>
        rw [← h.order hgroups]
        exact hsorted.imp fun hle => by rwa [← h.precedes]
    | false =>
        have hone : q.groups e ctx table =
            [table.filter (q.toClauses.selects e.toClickHouse)] := by
          simp [GroupedQuery.groups, hgroups]
        rw [hone] at hperm
        rw [List.perm_singleton.mp hperm]
        exact List.pairwise_singleton _ _
  · rw [List.map_map, List.map_map, h.limit]
    exact List.map_congr_left fun group _ => h.row group

end Alike

end GroupedQuery

/-! ### Built queries -/

theorem limitOf_eq (limit : Option N) :
    limitOf ns.number limit = min (ns.number (orLiteral ns limit 1000)) 10000 := by
  cases limit with
  | none => simp [limitOf, orLiteral, ns.number_literal]
  | some n =>
      by_cases hn : ns.number n = 0
      · simp [limitOf, orLiteral, Option.filter, hn, ns.number_literal]
      · simp [limitOf, orLiteral, Option.filter, hn]

variable {d d' : AnalyticsQueryDto N}

theorem contains_perm {l l' : List String} (h : l.Perm l') (a : String) :
    l.contains a = l'.contains a := by
  rw [Bool.eq_iff_iff, List.contains_iff_mem, List.contains_iff_mem]
  exact h.mem_iff

theorem Agree.projectedOrderEntries (h : Agree ns d d') :
    projectedOrderEntries d = projectedOrderEntries d' := by
  unfold Analytics.projectedOrderEntries
  rw [h.order]
  refine List.filter_congr fun entry _ => ?_
  simp only [keepsField, contains_perm h.metrics, contains_perm h.dimensions]

/-- The order is one of the projected fields, or of the first metric. -/
theorem orderBy_eq_ok {order : List OrderItem} (h : orderBy d = .ok order) :
    ∃ items, ((projectedOrderEntries d).mapM fun entry => orderClauseFor entry.1 entry.2) =
        .ok items ∧
      order = if d.dateRange.granularity.isSome then ⟨.granularity, "ASC"⟩ :: items
        else if items.isEmpty then d.metrics.head?.toList.map fun metric => ⟨.metric metric, "DESC"⟩
        else items := by
  obtain ⟨items, hitems, hreturn⟩ := Checked.bind_eq_ok_iff.mp h
  refine ⟨items, hitems, ?_⟩
  cases hg : d.dateRange.granularity.isSome with
  | true =>
      rw [hg] at hreturn
      exact (Except.ok.inj hreturn).symm
  | false =>
      rw [hg] at hreturn
      cases hempty : items.isEmpty with
      | true =>
          rw [hempty] at hreturn
          exact (Except.ok.inj hreturn).symm
      | false =>
          rw [hempty] at hreturn
          exact (Except.ok.inj hreturn).symm

theorem entries_nil_of_items {entries : List (String × String)} {items : List OrderItem}
    (h : (entries.mapM fun entry => orderClauseFor entry.1 entry.2) = .ok items)
    (hempty : items.isEmpty = true) : entries = [] := by
  have hlength := (Checked.mapM_eq_ok_iff.mp h).length_eq
  rw [List.isEmpty_iff.mp hempty] at hlength
  exact List.length_eq_zero_iff.mp hlength

/-- The first metric matters for the order of groups, and never for the directions. -/
theorem Agree.order_eq {order order' : List OrderItem} (h : Agree ns d d')
    (ho : orderBy d = .ok order) (ho' : orderBy d' = .ok order') :
    ((d.dateRange.granularity = none → Analytics.projectedOrderEntries d = [] →
      d.metrics.head? = d'.metrics.head?) → order = order') ∧
    order.map (·.direction) = order'.map (·.direction) := by
  obtain ⟨items, hitems, rfl⟩ := orderBy_eq_ok ho
  obtain ⟨items', hitems', rfl⟩ := orderBy_eq_ok ho'
  rw [← h.projectedOrderEntries, hitems] at hitems'
  obtain rfl := Except.ok.inj hitems'
  rw [← h.granularity]
  cases hg : d.dateRange.granularity with
  | some g => exact ⟨fun _ => rfl, rfl⟩
  | none =>
      cases hempty : items.isEmpty with
      | false => exact ⟨fun _ => rfl, rfl⟩
      | true =>
          have hentries := entries_nil_of_items hitems hempty
          refine ⟨fun hfirst => ?_, ?_⟩
          · simp [hfirst rfl hentries]
          · have hlength := h.metrics.length_eq
            cases hm : d.metrics with
            | nil =>
                rw [hm] at hlength
                simp [List.length_eq_zero_iff.mp hlength.symm]
            | cons m rest =>
                rw [hm] at hlength
                obtain ⟨m', rest', hm'⟩ := List.exists_cons_of_length_eq_add_one hlength.symm
                simp [hm']

/-- **Queries of requests that agree are alike**, when the first metric is the same wherever
groups are ordered by it alone. -/
theorem alike_of_builtFrom {validTimezone : String → Bool} {tz : String} {q q' : GroupedQuery N}
    (h : Agree ns d d') (hq : q.BuiltFrom ns.number validTimezone d tz)
    (hq' : q'.BuiltFrom ns.number validTimezone d' tz)
    (hfirst : d.dateRange.granularity = none → projectedOrderEntries d = [] →
      d.dimensions.getD [] ≠ [] → d.metrics.head? = d'.metrics.head?) :
    GroupedQuery.Alike ns q q' := by
  have hdirections := (h.order_eq hq.order hq'.order).2
  have htable := hq'.metrics
  have hdimensions := hq'.dimensions
  have hconditions := hq'.conditions
  have hmetricConditions := hq'.metricConditions
  have htimezone := hq'.timezone
  rw [← h.table] at htable hdimensions hconditions hmetricConditions
  rw [← h.filters, hq.conditions] at hconditions
  rw [← h.metricFilters, hq.metricConditions] at hmetricConditions
  rw [← h.granularity, hq.timezone] at htimezone
  exact {
    clauses := {
      table := by rw [hq.table, hq'.table, h.table]
      start := by rw [hq.start, hq'.start, h.start]
      stop := by rw [hq.stop, hq'.stop, h.stop]
      conditions := Except.ok.inj hconditions
      metricConditions := Except.ok.inj hmetricConditions
      havingMinSessions := by
        rw [hq.havingMinSessions, hq'.havingMinSessions, h.havingMinSessions] }
    granularity := by rw [hq.granularity, hq'.granularity, h.granularity]
    timezone := Except.ok.inj htimezone
    dimensions := mapM_perm h.dimensions hq.dimensions hdimensions
    metrics := mapM_perm h.metrics hq.metrics htable
    limit := by rw [hq.limit, hq'.limit, limitOf_eq, limitOf_eq, h.limit]
    order := fun hgroups => (h.order_eq hq.order hq'.order).1 fun hnone hentries => by
      refine hfirst hnone hentries fun hempty => ?_
      have hdims := hq.dimensions
      rw [hempty] at hdims
      rw [GroupedQuery.hasGroups, hq.granularity, hnone,
        ← Except.ok.inj (hdims : Except.ok [] = Except.ok q.dimensions)] at hgroups
      exact absurd hgroups (by decide)
    directions := hdirections }

theorem Agree.symm (h : Agree ns d d') : Agree ns d' d where
  table := h.table.symm
  metrics := h.metrics.symm
  dimensions := h.dimensions.symm
  totalsGroupBy := h.totalsGroupBy.symm
  start := h.start.symm
  stop := h.stop.symm
  granularity := h.granularity.symm
  limit := h.limit.symm
  filters := h.filters.symm
  metricFilters := h.metricFilters.symm
  order := h.order.symm
  havingMinSessions := h.havingMinSessions.symm

/-! ### Totals -/

open FilteredTotals (TotalsQuery buildFilteredTotalsQuery)

/-- What a totals query has of its request. -/
theorem totals_eq_ok {t : TotalsQuery N} (h : buildFilteredTotalsQuery d = .ok t) :
    (d.totalsGroupBy.getD []).mapM (columnOn (d.table.getD .sessions)) = .ok t.groupBy ∧
      buildFilters (d.filters.getD []) (d.table.getD .sessions) = .ok t.conditions ∧
      buildMetricFilters (d.metricFilters.getD []) (d.table.getD .sessions) =
        .ok t.metricConditions ∧
      d.metrics.mapM knownMetric = .ok t.metrics ∧
      t.table = d.table.getD .sessions ∧ t.start = d.dateRange.start ∧
      t.stop = d.dateRange.stop ∧ t.havingMinSessions = d.havingMinSessions := by
  simp only [buildFilteredTotalsQuery, Checked.bind_eq_ok_iff] at h
  obtain ⟨groupBy, hg, conditions, hc, metricConditions, hmc, metrics, hm, hreturn⟩ := h
  obtain rfl := Except.ok.inj hreturn
  exact ⟨hg, hc, hmc, hm, rfl, rfl, rfl, rfl⟩

theorem Agree.totals {t t' : TotalsQuery N} (h : Agree ns d d')
    (ht : buildFilteredTotalsQuery d = .ok t) (ht' : buildFilteredTotalsQuery d' = .ok t') :
    SameClauses ns t.toClauses t'.toClauses ∧ t.metrics.Perm t'.metrics ∧
      t.groupBy.Perm t'.groupBy := by
  obtain ⟨hg, hc, hmc, hm, htable, hstart, hstop, hhaving⟩ := totals_eq_ok ht
  obtain ⟨hg', hc', hmc', hm', htable', hstart', hstop', hhaving'⟩ := totals_eq_ok ht'
  have hgroups : (d.totalsGroupBy.getD []).Perm (d'.totalsGroupBy.getD []) :=
    perm_of_sortedJoin (plain_of_mapM (fun _ _ => plain_of_columnOn) hg)
      (plain_of_mapM (fun _ _ => plain_of_columnOn) hg') h.totalsGroupBy
  rw [← h.table] at hg' hc' hmc'
  rw [← h.filters, hc] at hc'
  rw [← h.metricFilters, hmc] at hmc'
  refine ⟨?_, mapM_perm h.metrics hm hm', mapM_perm hgroups hg hg'⟩
  exact {
    table := by rw [htable, htable', h.table]
    start := by rw [hstart, hstart', h.start]
    stop := by rw [hstop, hstop', h.stop]
    conditions := Except.ok.inj hc'
    metricConditions := Except.ok.inj hmc'
    havingMinSessions := by rw [hhaving, hhaving', h.havingMinSessions] }

/-- The one row of the totals has the same columns. -/
theorem totals_answer {t t' : TotalsQuery N} {table : List Row} {answer : List ResultRow}
    (hnumber : e.number = ns.number) (hclauses : SameClauses ns t.toClauses t'.toClauses)
    (hmetrics : t.metrics.Perm t'.metrics) (hgroupBy : t.groupBy.Perm t'.groupBy)
    (hanswer : (BuiltQuery.totals t).Answer e ctx table answer) :
    ∃ answer', (BuiltQuery.totals t').Answer e ctx table answer' ∧
      answer.map List.toFinset = answer'.map List.toFinset := by
  obtain ⟨hread, rfl⟩ := hanswer
  have hkey : ∀ r s : Row, t.key r = t.key s ↔ t'.key r = t'.key s := by
    intro r s
    simp only [TotalsQuery.key, List.map_inj_left]
    exact forall_congr' fun c => imp_congr_left hgroupBy.mem_iff
  have hgroups : t.groups e.toClickHouse ctx table = t'.groups e.toClickHouse ctx table := by
    simp only [TotalsQuery.groups, hclauses.selects hread, hclauses.having hnumber ctx,
      Grouping.groupBy_congr hkey]
  refine ⟨_, ⟨hclauses.readable ▸ hread, rfl⟩, ?_⟩
  rw [List.map_singleton, List.map_singleton]
  refine congrArg (fun row => [row]) (List.toFinset_eq_of_perm _ _ ?_)
  rw [TotalsQuery.row, TotalsQuery.row, hgroups]
  exact (hmetrics.map _).map _

/-! ### Both requests -/

theorem SameRows.of_map_eq {answer answer' : List ResultRow}
    (h : answer.map List.toFinset = answer'.map List.toFinset) : SameRows answer answer' := by
  intro r
  rw [h]

theorem SameRows.symm {answer answer' : List ResultRow} (h : SameRows answer answer') :
    SameRows answer' answer := fun r => (h r).symm

/-- The totals of one are asked for where those of the other are. -/
theorem Agree.isFilteredTotals {t : TotalsQuery N} (h : Agree ns d d')
    (ht : buildFilteredTotalsQuery d = .ok t) (htotals : isFilteredTotals d = true) :
    Analytics.isFilteredTotals d' = true := by
  simp only [Analytics.isFilteredTotals, Bool.and_eq_true, Bool.not_eq_true', List.isEmpty_iff,
    List.isEmpty_eq_false_iff] at htotals ⊢
  obtain ⟨⟨hgroups, hdims⟩, hmetricFilters⟩ := htotals
  refine ⟨⟨fun hnil => ?_, ?_⟩, h.metricFilters ▸ hmetricFilters⟩
  · have hplain := plain_of_mapM (fun _ _ => plain_of_columnOn) (totals_eq_ok ht).1
    have heq := h.totalsGroupBy
    rw [hnil] at heq
    have hperm := perm_of_sortedJoin hplain (fun _ hn => absurd hn List.not_mem_nil) heq
    exact hgroups hperm.eq_nil
  · exact (hdims ▸ h.dimensions).nil_eq.symm

/-- What is built is a totals query or a grouped one. -/
theorem build_eq_ok {number : N → ℚ} {validTimezone : String → Bool} {tz : String}
    {q : BuiltQuery N} (h : buildAnalyticsQuery number validTimezone d tz = .ok q) :
    (isFilteredTotals d = true ∧ ∃ t, buildFilteredTotalsQuery d = .ok t ∧ q = .totals t) ∨
      isFilteredTotals d = false ∧
        ∃ g : GroupedQuery N, g.BuiltFrom number validTimezone d tz ∧ q = .grouped g := by
  unfold buildAnalyticsQuery at h
  cases htotals : isFilteredTotals d with
  | true =>
      rw [if_pos htotals] at h
      obtain ⟨t, ht, rfl⟩ := Checked.map_eq_ok_iff.mp h
      exact Or.inl ⟨rfl, t, ht, rfl⟩
  | false =>
      rw [if_neg (by simp [htotals])] at h
      obtain ⟨g, hg, rfl⟩ := Checked.map_eq_ok_iff.mp h
      exact Or.inr ⟨rfl, g, buildGroupedQuery_eq_ok_iff.mp hg, rfl⟩

/-- **Requests that agree, and in their first metric where it counts, have the same answers.** -/
theorem sameAnswers_of_agree {validTimezone : String → Bool} {tz : String} {q q' : BuiltQuery N}
    (hnumber : e.number = ns.number) (h : Agree ns d d')
    (hfirst : d.dateRange.granularity = none → projectedOrderEntries d = [] →
      d.dimensions.getD [] ≠ [] → d.metrics.head? = d'.metrics.head?)
    (hq : buildAnalyticsQuery ns.number validTimezone d tz = .ok q)
    (hq' : buildAnalyticsQuery ns.number validTimezone d' tz = .ok q') :
    SameAnswers e ctx q q' := by
  intro table
  rcases build_eq_ok hq with ⟨htotals, t, ht, rfl⟩ | ⟨hgrouped, g, hg, rfl⟩
  · rcases build_eq_ok hq' with ⟨-, t', ht', rfl⟩ | ⟨hgrouped', g', hg', rfl⟩
    · obtain ⟨hclauses, hmetrics, hgroupBy⟩ := h.totals ht ht'
      obtain ⟨hclauses', hmetrics', hgroupBy'⟩ := h.symm.totals ht' ht
      constructor
      · intro answer hanswer
        obtain ⟨answer', hanswer', hrows⟩ :=
          totals_answer hnumber hclauses hmetrics hgroupBy hanswer
        exact ⟨answer', hanswer', SameRows.of_map_eq hrows⟩
      · intro answer hanswer
        obtain ⟨answer', hanswer', hrows⟩ :=
          totals_answer hnumber hclauses' hmetrics' hgroupBy' hanswer
        exact ⟨answer', hanswer', (SameRows.of_map_eq hrows).symm⟩
    · rw [h.isFilteredTotals ht htotals] at hgrouped'
      exact absurd hgrouped' (by decide)
  · rcases build_eq_ok hq' with ⟨htotals', t', ht', rfl⟩ | ⟨-, g', hg', rfl⟩
    · rw [h.symm.isFilteredTotals ht' htotals'] at hgrouped
      exact absurd hgrouped (by decide)
    · have halike := alike_of_builtFrom h hg hg' hfirst
      constructor
      · intro answer hanswer
        obtain ⟨answer', hanswer', hrows⟩ := halike.exists_answer hnumber hanswer
        exact ⟨answer', hanswer', SameRows.of_map_eq hrows⟩
      · intro answer hanswer
        obtain ⟨answer', hanswer', hrows⟩ := halike.symm.exists_answer hnumber hanswer
        exact ⟨answer', hanswer', (SameRows.of_map_eq hrows).symm⟩

/-! ### One key, one answer -/

section Requests

variable {dates : DateLibrary} {tz : String}

/-- A request with the dates that its query has. -/
def ranged (d : AnalyticsQueryDto N) (range : ResolvedDates) : AnalyticsQueryDto N :=
  { d with dateRange := { d.dateRange with start := range.start, stop := range.stop } }

theorem buildPeriod_eq_ok {number : N → ℚ} {range : ResolvedDates} {p : Period N}
    (h : buildPeriod dates number d tz range = .ok p) :
    buildAnalyticsQuery number dates.validTimezone (ranged d range) tz = .ok p.query := by
  have hmap : (buildAnalyticsQuery number dates.validTimezone (ranged d range) tz).map
      (fun query => (⟨query, range⟩ : Period N)) = .ok p := h
  obtain ⟨q, hq, rfl⟩ := Checked.map_eq_ok_iff.mp hmap
  exact hq

/-- What an execution has been checked for, and what it was built from. -/
structure Executed (dates : DateLibrary) (number : N → ℚ) (d : AnalyticsQueryDto N) (tz : String)
    (range : ResolvedDates) (x : Execution N) : Prop where
  metrics : ∀ name ∈ d.metrics, Plain name
  dimensions : ∀ name ∈ d.dimensions.getD [], Plain name
  current : buildAnalyticsQuery number dates.validTimezone (ranged d range.toClickHouse) tz =
    .ok x.current.query
  withoutPrevious : d.compareDateRange = none → x.previous = none
  previous : ∀ compare, d.compareDateRange = some compare → ∃ range p,
    compareDates dates d.dateRange compare tz = .ok range ∧ x.previous = some p ∧
    buildAnalyticsQuery number dates.validTimezone (ranged d range.toClickHouse) tz = .ok p.query

theorem executed {number : N → ℚ} {range : ResolvedDates} {x : Execution N}
    (hrange : resolvedDates dates d.dateRange tz = .ok range)
    (h : executeQueryInternal dates number d tz = .ok x) : Executed dates number d tz range x := by
  simp only [executeQueryInternal, Checked.bind_eq_ok_iff] at h
  obtain ⟨metrics, hm, dimensions, hdims, metricFilters, -, range', hrange', compared, hcompared,
    current, hcurrent, previous, hprevious, hreturn⟩ := h
  obtain rfl := Except.ok.inj (hrange.symm.trans hrange')
  obtain rfl := Except.ok.inj hreturn
  refine ⟨plain_of_mapM (fun _ _ => plain_of_metricOn) hm,
    plain_of_mapM (fun _ _ => plain_of_dimensionOn) hdims, buildPeriod_eq_ok hcurrent, ?_, ?_⟩
  · intro hnone
    rw [hnone] at hcompared
    obtain rfl := Except.ok.inj (hcompared : Except.ok none = Except.ok compared)
    exact (Except.ok.inj (hprevious : Except.ok none = Except.ok previous)).symm
  · intro compare hsome
    rw [hsome] at hcompared
    have hmap : (compareDates dates d.dateRange compare tz).map some = .ok compared := hcompared
    obtain ⟨r, hr, rfl⟩ := Checked.map_eq_ok_iff.mp hmap
    have hperiod : (buildPeriod dates number d tz r.toClickHouse).map some = .ok previous :=
      hprevious
    obtain ⟨p, hp, rfl⟩ := Checked.map_eq_ok_iff.mp hperiod
    exact ⟨r, p, hr, rfl, buildPeriod_eq_ok hp⟩

/-- Requests with one key agree once they have the same dates. -/
theorem agree_of_sameKey {range range' r r' : ResolvedDates} {tz' : String}
    (h : SameKey ns d d' range range' tz tz') (hmetrics : d.metrics.Perm d'.metrics)
    (hdimensions : (d.dimensions.getD []).Perm (d'.dimensions.getD []))
    (hstart : r.start.getD "" = r'.start.getD "") (hstop : r.stop.getD "" = r'.stop.getD "") :
    Agree ns (ranged d r) (ranged d' r') where
  table := h.table
  metrics := hmetrics
  dimensions := hdimensions
  totalsGroupBy := h.totalsGroupBy
  start := hstart
  stop := hstop
  granularity := h.granularity
  limit := h.limit
  filters := h.filters
  metricFilters := h.metricFilters
  order := h.order
  havingMinSessions := h.havingMinSessions

/-- No date stays no date. -/
theorem toClickHouse_getD (date : Option String) :
    (date.map toClickHouseDate).getD "" = toClickHouseDate (date.getD "") := by
  cases date with
  | none => decide
  | some s => rfl

theorem separate_of_noSeparator {workspaceTimezone : Option String} {range : ResolvedDates}
    {number : N → ℚ} {x : Execution N} (h : NoSeparator dates workspaceTimezone d)
    (hrange : resolvedDates dates d.dateRange (timezoneOf d.timezone workspaceTimezone) = .ok range)
    (hx : Executed dates number d (timezoneOf d.timezone workspaceTimezone) range x) :
    Separate ns d range (timezoneOf d.timezone workspaceTimezone) where
  workspaceId := h.workspaceId
  metrics := not_mem_sortedJoin fun name hn => (hx.metrics name hn).2.2
  dimensions := not_mem_sortedJoin fun name hn => (hx.dimensions name hn).2.2
  totalsGroupBy := not_mem_sortedJoin h.totalsGroupBy
  start := (h.dates range hrange).1
  stop := (h.dates range hrange).2
  timezone := h.timezone

end Requests

/-- **Requests that the key tells enough of are never confused.** -/
theorem never_confused (hnumber : e.number = ns.number) {dates : DateLibrary}
    {workspaceTimezone : Option String} (h : Told dates workspaceTimezone d d') :
    NeverConfused ns e ctx dates workspaceTimezone d d' := by
  intro range range' x x' hrange hrange' hkey hx hx'
  have hexec := executed hrange hx
  have hexec' := executed hrange' hx'
  have hsame := sameKey_of_hashedText (separate_of_noSeparator h.noSeparator hrange hexec)
    (separate_of_noSeparator h.noSeparator' hrange' hexec') hkey
  have hmetrics := perm_of_sortedJoin hexec.metrics hexec'.metrics hsame.metrics
  have hdimensions := perm_of_sortedJoin hexec.dimensions hexec'.dimensions hsame.dimensions
  have hcurrent := hexec'.current
  rw [← hsame.timezone] at hcurrent
  constructor
  · refine sameAnswers_of_agree hnumber (agree_of_sameKey hsame hmetrics hdimensions ?_ ?_)
      h.firstMetric hexec.current hcurrent
    · show (range.start.map toClickHouseDate).getD "" = (range'.start.map toClickHouseDate).getD ""
      rw [toClickHouse_getD, toClickHouse_getD, String.toList_injective hsame.start]
    · show (range.stop.map toClickHouseDate).getD "" = (range'.stop.map toClickHouseDate).getD ""
      rw [toClickHouse_getD, toClickHouse_getD, String.toList_injective hsame.stop]
  · cases hcompare : d.compareDateRange with
    | none =>
        rw [hexec.withoutPrevious hcompare,
          hexec'.withoutPrevious (hsame.compareDateRange ▸ hcompare)]
        exact Option.Rel.none
    | some compare =>
        obtain ⟨r, p, hr, hp, hbuilt⟩ := hexec.previous compare hcompare
        obtain ⟨r', p', hr', hp', hbuilt'⟩ :=
          hexec'.previous compare (hsame.compareDateRange ▸ hcompare)
        rw [← hsame.timezone] at hr' hbuilt'
        have hdates : ∀ tz, compareDates dates d.dateRange compare tz =
            compareDates dates d'.dateRange compare tz := by
          intro tz
          unfold compareDates
          cases hpreset : truthy compare.preset with
          | none => rfl
          | some preset =>
              have hiff := h.preset compare hcompare preset hpreset
              simp only [hiff]
        obtain rfl : r = r' := Except.ok.inj (hr.symm.trans ((hdates _).trans hr'))
        rw [hp, hp']
        exact Option.Rel.some (sameAnswers_of_agree hnumber
          (agree_of_sameKey hsame hmetrics hdimensions rfl rfl) h.firstMetric hbuilt hbuilt')

/-! ### The order of the metrics -/

namespace OrderExample

theorem digits_plain (n : ℕ) : ∀ c ∈ Nat.toDigits 10 n, Json.isNumeral c = true := by
  intro c hc
  simp [Json.isNumeral, Nat.isDigit_of_mem_toDigits (by omega) (by omega) hc]

def numbers : Numbers ℕ where
  numeral := Nat.toDigits 10
  injective _ _ := Text.toDigits_inj
  nonempty _ := Nat.toDigits_ne_nil
  plain := digits_plain
  number n := n
  literal n := n
  number_literal _ := rfl

def engine : Engine ℕ where
  holds _ _ _ := true
  metricHolds _ _ _ := true
  number n := n
  toDateTime64
    | some "2026-03-01 00:00:00" => 1772323200000
    | _ => 1772409600000
  bucket _ _ ms := .number ms
  le
    | .number x, .number y => x ≤ y
    | .text s, .text t => s ≤ t
    | _, _ => true
  readable s := ["2026-03-01 00:00:00", "2026-03-02 00:00:00"].contains s
  unreadable_empty := rfl

def context : MetricContext := ⟨10⟩

def dates : DateLibrary where
  validTimezone tz := tz = "UTC"
  resolve _ _ := ("2026-03-01T00:00:00.000Z", "2026-03-02T00:00:00.000Z")
  shift _ _ := ("2026-02-28T00:00:00.000Z", "2026-03-01T00:00:00.000Z")
  allDates _ _ _ _ := ["2026-03-01"]
  dateKey
    | _, .text s => s
    | _, _ => "Invalid Date"

/-- The device with the highest metrics. -/
def request (metrics : List String) (granularity : Option Granularity) : AnalyticsQueryDto ℕ where
  workspaceId := "ws_1"
  metrics := metrics
  dimensions := some ["device"]
  filters := none
  metricFilters := none
  dateRange := ⟨some "2026-03-01 00:00:00", some "2026-03-02 00:00:00", none, granularity⟩
  compareDateRange := none
  timezone := none
  order := none
  limit := some 1
  havingMinSessions := none
  table := none
  totalsGroupBy := none

def metrics : List String := ["sessions", "unique_visitors"]

theorem noSeparator (metrics : List String) (granularity : Option Granularity) :
    NoSeparator dates none (request metrics granularity) := by
  refine ⟨?_, fun name hn => absurd hn List.not_mem_nil, ?_, fun range h => ?_⟩
  · show '|' ∉ "ws_1".toList
    decide
  · show '|' ∉ "UTC".toList
    decide
  · obtain rfl := Except.ok.inj h
    show '|' ∉ "2026-03-01 00:00:00".toList ∧ '|' ∉ "2026-03-02 00:00:00".toList
    decide

theorem never_confused_by_day : NeverConfused numbers engine context dates none
    (request metrics (some .day)) (request metrics.reverse (some .day)) := by
  refine never_confused rfl ⟨noSeparator _ _, noSeparator _ _, fun h => ?_, fun _ h => ?_⟩
  · exact nomatch h
  · exact nomatch h

def session (id visitor device : String) : Row
  | .named "id" => .text id
  | .named "visitor_id" => .text visitor
  | .named "device" => .text device
  | .named "created_at" => .number 1772323260000
  | _ => .text ""

def desktops : List Row :=
  [session "s1" "v1" "desktop", session "s2" "v1" "desktop", session "s3" "v1" "desktop"]

def mobiles : List Row := [session "s4" "v2" "mobile", session "s5" "v3" "mobile"]

/-- What is built of the request. -/
def built (first second : MetricDefinition) : GroupedQuery ℕ where
  table := .sessions
  start := some "2026-03-01 00:00:00"
  stop := some "2026-03-02 00:00:00"
  conditions := []
  havingMinSessions := none
  metricConditions := []
  granularity := none
  timezone := none
  dimensions := [⟨"device", .named "device", .string, bySession⟩]
  metrics := [first, second]
  order := [⟨.metric first.name, "DESC"⟩]
  limit := limitOf numbers.number (some 1)

def sessions : MetricDefinition := ⟨"sessions", .uniqExact "id", [.sessions]⟩

def visitors : MetricDefinition := ⟨"unique_visitors", .uniqExact "visitor_id", [.sessions]⟩

/-- A group's row, with what it is ordered by. -/
def ranking (q : GroupedQuery ℕ) (first : MetricDefinition) (g : List Row) : ResultRow × Cell :=
  (q.row engine context g, q.sortCell engine context g (.metric first.name))

theorem precedes_built (first second : MetricDefinition) (g h : List Row) :
    (built first second).precedes engine context (built first second).order g h =
      engine.le (ranking (built first second) first h).2
        (ranking (built first second) first g).2 := by
  simp [built, GroupedQuery.precedes, ranking]

theorem limit_built (first second : MetricDefinition) : ⌊(built first second).limit⌋₊ = 1 := by
  have hlimit : (built first second).limit = 1 := by
    show limitOf numbers.number (some 1) = 1
    decide +kernel
  rw [hlimit]
  exact Nat.floor_one

/-- Of two groups the one that does not come second is the answer. -/
theorem answer_eq {first second : MetricDefinition} {x y : ResultRow × Cell}
    {table : List Row} {answer : List ResultRow}
    (hgroups : (((built first second).groups engine context table).map
      (ranking (built first second) first)).Perm [x, y])
    (hlt : engine.le x.2 y.2 = false)
    (h : (built first second).Answer engine context table answer) : answer = [x.1] := by
  obtain ⟨-, ranked, hranked, hsorted, rfl⟩ := h
  have hpairs : (ranked.map (ranking (built first second) first)).Pairwise
      fun g h => engine.le h.2 g.2 = true := by
    refine List.pairwise_map.mpr (hsorted.imp fun {g h} hle => ?_)
    rwa [← precedes_built]
  have hanswer : (ranked.take 1).map ((built first second).row engine context) =
      ((ranked.map (ranking (built first second) first)).take 1).map Prod.fst := by
    rw [← List.map_take, List.map_map]
    rfl
  rw [limit_built, hanswer]
  rcases List.perm_pair.mp ((hranked.map (ranking (built first second) first)).trans hgroups)
    with htwo | htwo
  · rw [htwo]
    rfl
  · rw [htwo] at hpairs
    have hle := List.rel_of_pairwise_cons hpairs (List.mem_singleton.mpr rfl)
    rw [hlt] at hle
    exact absurd hle (by simp)

theorem answer_of_groups {first second : MetricDefinition} {x y : ResultRow × Cell}
    {table : List Row} (haccepted : (built first second).accepted engine = true)
    (hgroups : ((built first second).groups engine context table).map
      (ranking (built first second) first) = [x, y])
    (hle : engine.le y.2 x.2 = true) : (built first second).Answer engine context table [x.1] := by
  refine ⟨haccepted, _, List.Perm.refl _, ?_, ?_⟩
  · simp only [precedes_built]
    refine (List.pairwise_map (R := fun g h : ResultRow × Cell => engine.le h.2 g.2 = true)).mp ?_
    rw [hgroups]
    exact List.pairwise_cons.mpr ⟨fun z hz => (List.mem_singleton.mp hz) ▸ hle,
      List.pairwise_singleton _ _⟩
  · have hmap : ((built first second).groups engine context table).map
        ((built first second).row engine context) = [x.1, y.1] := by
      have hfst := congrArg (List.map Prod.fst) hgroups
      rwa [List.map_map] at hfst
    rw [limit_built, List.map_take, hmap]
    rfl

def desktopRow : ResultRow := [("device", .text "desktop"), ("sessions", .number 3),
  ("unique_visitors", .number 1)]

def mobileRow : ResultRow := [("device", .text "mobile"), ("unique_visitors", .number 2),
  ("sessions", .number 2)]

/-- **The same key, and one answer is the device with the most sessions, the other the device
with the most visitors.** -/
theorem first_metric_not_told : ¬ NeverConfused numbers engine context dates none
    (request metrics none) (request metrics.reverse none) := by
  intro h
  have hsame := h _ _ ⟨metrics, ["device"], none, "UTC",
      ⟨.grouped (built sessions visitors), ⟨some "2026-03-01 00:00:00",
        some "2026-03-02 00:00:00"⟩⟩, none⟩
    ⟨metrics.reverse, ["device"], none, "UTC",
      ⟨.grouped (built visitors sessions), ⟨some "2026-03-01 00:00:00",
        some "2026-03-02 00:00:00"⟩⟩, none⟩ rfl rfl (by decide +kernel) rfl rfl
  have hanswer : (built sessions visitors).Answer engine context (desktops ++ mobiles)
      [desktopRow] :=
    answer_of_groups (x := (desktopRow, .number 3))
      (y := ([("device", .text "mobile"), ("sessions", .number 2),
        ("unique_visitors", .number 2)], .number 2))
      (by decide +kernel) (by decide +kernel) (by decide +kernel)
  obtain ⟨answer', hanswer', hrows⟩ := (hsame.1 (desktops ++ mobiles)).1 _ hanswer
  have hmobile : answer' = [mobileRow] :=
    answer_eq (x := (mobileRow, .number 2))
      (y := ([("device", .text "desktop"), ("unique_visitors", .number 1),
        ("sessions", .number 3)], .number 1))
      ((List.reverse_perm _).symm.trans (by decide +kernel)) (by decide +kernel) hanswer'
  rw [hmobile] at hrows
  exact absurd ((hrows desktopRow.toFinset).mp (List.mem_singleton.mpr rfl)) (by decide +kernel)

end OrderExample

end Veridian.Analytics
