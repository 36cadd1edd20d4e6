/-
What `verifyTracking` leaves in the tables.

The event that is posted goes through the buffer, and nothing ties the clean-up to it: a
flush that comes after the deletes puts the rows back, and so does an insert that ClickHouse
carries out late.  `leaves_no_trace_iff` says of every run whether that happened, from what
each step does to the tables that the clean-up is through with.
-/
import Veridian.Admin.TrackingProbes

namespace Veridian.TrackingVerification

/-! ### A clean end, and timely steps -/

/-- No row of any table has the session id of a probe. -/
def Tables.NoProbeRows (workspaceId : String) (tables : Tables) : Prop :=
  ∀ (probe : Probe) (table : Table), probe.sessionId workspaceId ∉ tables.sessionIds table

instance (workspaceId : String) (tables : Tables) : Decidable (tables.NoProbeRows workspaceId) :=
  inferInstanceAs (Decidable (∀ (probe : Probe) (table : Table),
    probe.sessionId workspaceId ∉ tables.sessionIds table))

def HttpProbe.cleared : HttpProbe → Table → Bool
  | .purging _ done, table => table ∈ targets.take done
  | .waitingForPurge, _ | .returned, _ => true
  | _, _ => false

def LowLevelProbe.cleared : LowLevelProbe → Table → Bool
  | .purging done, table => table ∈ targets.take done
  | .returned, _ => true
  | _, _ => false

namespace VerifyState

/-- The clean-up of a probe is through with a table. -/
def cleared (s : VerifyState) : Probe → Table → Bool
  | .http => s.http.cleared
  | .lowLevel => s.lowLevel.cleared

/-- `verifyTracking` has returned, and the buffer of the workspace is flushed. -/
structure Settled (workspaceId : String) (s : VerifyState) : Prop where
  http : s.http = .returned
  lowLevel : s.lowLevel = .returned
  buffer : (s.service.workspaces workspaceId).buffer = []
  inFlight : (s.service.workspaces workspaceId).inFlight = []

/-- No row that can be read has the session id of a probe. -/
structure LeavesNoTrace (workspaceId : String) (s : VerifyState) : Prop where
  tables : s.tables.NoProbeRows workspaceId
  lingering : s.lingering.NoProbeRows workspaceId

end VerifyState

/-- An insert brings no event of a probe into a table that its clean-up is through with, and a
delete that fails has nothing to delete. -/
def Effect.Timely (workspaceId : String) (s : VerifyState) : Effect → Prop
  | .keeps => True
  | .inserts landed block => ∀ (probe : Probe) (table : Table), landed table = true →
      s.cleared probe table = true →
      ∀ e ∈ block, table.takes e = true → e.sessionId ≠ probe.sessionId workspaceId
  | .deletes probe table carriedOut =>
      carriedOut = true ∨ probe.sessionId workspaceId ∉ s.tables.sessionIds table

/-- For a workspace that is not found nothing is deleted. -/
def Timely (workspaceId : String) (s : VerifyState) : VerifyAction → Prop
  | .checked found _ => found = false → s.tables.NoProbeRows workspaceId
  | a => (s.effect workspaceId a).Timely workspaceId s

instance (workspaceId : String) (s : VerifyState) :
    ∀ effect : Effect, Decidable (effect.Timely workspaceId s)
  | .keeps => isTrue trivial
  | .inserts landed block => inferInstanceAs (Decidable (∀ (probe : Probe) (table : Table),
      landed table = true → s.cleared probe table = true →
      ∀ e ∈ block, table.takes e = true → e.sessionId ≠ probe.sessionId workspaceId))
  | .deletes probe table carriedOut => inferInstanceAs (Decidable
      (carriedOut = true ∨ probe.sessionId workspaceId ∉ s.tables.sessionIds table))

instance (workspaceId : String) (s : VerifyState) :
    ∀ a : VerifyAction, Decidable (Timely workspaceId s a)
  | .checked found _ =>
      inferInstanceAs (Decidable (found = false → s.tables.NoProbeRows workspaceId))
  | .http answer expired =>
      inferInstanceAs (Decidable ((s.effect workspaceId (.http answer expired)).Timely _ s))
  | .lowLevel answer expired =>
      inferInstanceAs (Decidable ((s.effect workspaceId (.lowLevel answer expired)).Timely _ s))
  | .received _ _ | .refused | .removed _ => isTrue trivial
  | .service a => inferInstanceAs (Decidable ((s.effect workspaceId (.service a)).Timely _ s))
  | .lands i landed =>
      inferInstanceAs (Decidable ((s.effect workspaceId (.lands i landed)).Timely _ s))

/-! ### The tables after an effect -/

theorem Probe.sessionId_injective (workspaceId : String) :
    Function.Injective (Probe.sessionId workspaceId) := by
  -- the two prefixes differ in length
  have hne : "__veridian_verify_http__" ++ workspaceId ≠ "__veridian_verify__" ++ workspaceId := by
    intro h
    have hlength := congrArg String.length h
    rw [String.length_append, String.length_append] at hlength
    exact absurd (Nat.add_right_cancel hlength) (by decide)
  intro p q h
  cases p <;> cases q
  · rfl
  · exact absurd h hne
  · exact absurd h.symm hne
  · rfl

/-- The view has a row for every session of the block, and for no other. -/
theorem mem_sessionsMv_id {block : List TrackingEvent} {sid : String} :
    sid ∈ (sessionsMv block).map (·.id) ↔ ∃ e ∈ block, e.sessionId = sid := by
  rw [List.mem_map]
  constructor
  · rintro ⟨row, hrow, rfl⟩
    obtain ⟨events, hevents, hagg⟩ := exists_of_mem_sessionsMv hrow
    obtain ⟨e, he, hid, -, -⟩ := aggregateSession_envelope hagg
    exact ⟨e, hevents e he, hid.symm⟩
  · rintro ⟨e, he, rfl⟩
    set key := fun e : TrackingEvent => (e.sessionId, e.workspaceId)
    have hin : e ∈ block.filter fun x => key x = key e := List.mem_filter.mpr ⟨he, by simp⟩
    obtain ⟨first, rest, hgroup⟩ := List.exists_cons_of_ne_nil (List.ne_nil_of_mem hin)
    obtain ⟨row, hrow⟩ : ∃ row, aggregateSession (block.filter fun x => key x = key e) =
        some row := by
      rw [hgroup]
      exact ⟨_, rfl⟩
    obtain ⟨x, hx, hid, -, -⟩ := aggregateSession_envelope hrow
    refine ⟨row, List.mem_filterMap.mpr ⟨_, List.mem_map.mpr ⟨key e, ?_, rfl⟩, hrow⟩, ?_⟩
    · exact List.mem_dedup.mpr (List.mem_map_of_mem he)
    · rw [hid]
      exact congrArg Prod.fst (of_decide_eq_true (List.mem_filter.mp hx).2)

/-- Which sessions an insert brings into a table. -/
theorem Tables.mem_sessionIds_insert (tables : Tables) (landed : Table → Bool)
    (block : List TrackingEvent) (table : Table) (sid : String) :
    sid ∈ (tables.insert landed block).sessionIds table ↔ sid ∈ tables.sessionIds table ∨
      landed table = true ∧ ∃ e ∈ block, table.takes e = true ∧ e.sessionId = sid := by
  have hview := @mem_sessionsMv_id block sid
  cases table <;> cases hlanded : landed _ <;>
    simp [insert, sessionIds, hlanded, Table.takes, hview, and_assoc]

theorem Tables.mem_sessionIds_select (tables : Tables) (kept : Table → String → Bool)
    (table : Table) (sid : String) :
    sid ∈ (tables.select kept).sessionIds table ↔
      sid ∈ tables.sessionIds table ∧ kept table sid = true := by
  cases table <;> simp only [select, sessionIds, List.mem_map, List.mem_filter]
  all_goals
    constructor
    · rintro ⟨row, ⟨hrow, hkept⟩, rfl⟩
      exact ⟨⟨row, hrow, rfl⟩, hkept⟩
    · rintro ⟨⟨row, hrow, rfl⟩, hkept⟩
      exact ⟨row, ⟨hrow, hkept⟩, rfl⟩

theorem Tables.mem_sessionIds_delete (tables : Tables) (sid sid' : String) (table table' : Table) :
    sid' ∈ (tables.delete sid table).sessionIds table' ↔
      sid' ∈ tables.sessionIds table' ∧ (table' = table → sid' ≠ sid) := by
  rw [delete, mem_sessionIds_select, decide_eq_true_iff, not_and]

/-! ### The clean-up of a probe -/

theorem mem_take_succ (done : Nat) (table : Table) : table ∈ targets.take (done + 1) ↔
    table ∈ targets.take done ∨ targets[done]? = some table := by
  rw [List.take_add_one, List.mem_append, Option.mem_toList]

/-- Every table is a target, and none is one twice. -/
theorem mem_targets (table : Table) : table ∈ targets := by cases table <;> decide

theorem not_mem_take {done : Nat} {table : Table} (h : targets[done]? = some table) :
    table ∉ targets.take done := by
  have hnodup : targets.Nodup := by decide
  obtain ⟨hlt, rfl⟩ := List.getElem?_eq_some_iff.mp h
  rw [List.mem_take_iff_getElem]
  rintro ⟨i, hi, hsame⟩
  have := (List.Nodup.getElem_inj_iff hnodup).mp hsame
  omega

/-- A round of the clean-up is through with one more table. -/
theorem purgeSyntheticEvent_cleared {ψ : Type*} {again : Nat → ψ} {finished p' : ψ}
    {cleared : ψ → Table → Bool} (hagain : ∀ n t, cleared (again n) t = decide (t ∈ targets.take n))
    (hfinished : ∀ t, cleared finished t = true) {done : Nat} {answer : Answer}
    (h : purgeSyntheticEvent again finished done answer = some p') (table : Table) :
    cleared p' table = true ↔ table ∈ targets.take done ∨ targets[done]? = some table := by
  have hround : (targets[done]?).map (fun _ =>
      if done + 1 = targets.length then finished else again (done + 1)) = some p' := by
    cases answer with
    | status code => exact nomatch h
    | resolved => exact h
    | rejected => exact h
  obtain ⟨-, -, rfl⟩ := Option.map_eq_some_iff.mp hround
  rw [← mem_take_succ]
  split
  · rename_i hlast
    rw [hlast, List.take_length, hfinished]
    exact iff_of_true rfl (mem_targets table)
  · rw [hagain, decide_eq_true_iff]

theorem HttpProbe.next_cleared {visible purged expired : Bool} {answer : Answer}
    {p p' : HttpProbe} (h : p.next visible purged expired answer = some p') (table : Table) :
    p'.cleared table = true ↔ p.cleared table = true ∨
      ∃ seen done, p = .purging seen done ∧ targets[done]? = some table := by
  unfold next at h
  split at h
  case h_7 seen done _ =>
    refine (purgeSyntheticEvent_cleared (fun _ _ => rfl) (fun _ => ?_) h table).trans ?_
    · split <;> rfl
    · simp [cleared]
  all_goals (repeat' split at h) <;> cases h <;> simp [cleared]

theorem LowLevelProbe.next_cleared {visible expired : Bool} {answer : Answer}
    {p p' : LowLevelProbe} (h : p.next visible expired answer = some p') (table : Table) :
    p'.cleared table = true ↔ p.cleared table = true ∨
      ∃ done, p = .purging done ∧ targets[done]? = some table := by
  unfold next at h
  split at h
  case h_5 done _ =>
    refine (purgeSyntheticEvent_cleared (fun _ _ => rfl) (fun _ => rfl) h table).trans ?_
    simp [cleared]
  all_goals (repeat' split at h) <;> cases h <;> simp [cleared]

/-! ### One step -/

namespace VerifyState

variable {host : Host} {maxRetainedEvents : Nat} {workspaceId : String}

/-- No table that the clean-up of a probe is through with has a row of it. -/
def Swept (workspaceId : String) (s : VerifyState) : Prop :=
  ∀ (probe : Probe) (table : Table), s.cleared probe table = true →
    probe.sessionId workspaceId ∉ s.tables.sessionIds table

theorem swept_of_not_cleared {s : VerifyState} (h : ∀ probe table, s.cleared probe table = false) :
    s.Swept workspaceId := by
  intro probe table hcleared
  rw [h probe table] at hcleared
  exact Bool.noConfusion hcleared

theorem swept_iff_of_cleared {s : VerifyState} (h : ∀ probe table, s.cleared probe table = true) :
    s.Swept workspaceId ↔ s.tables.NoProbeRows workspaceId :=
  ⟨fun hs probe table => hs probe table (h probe table), fun hs probe table _ => hs probe table⟩

/-- An effect on the tables, next to the tables that are cleared after it. -/
theorem swept_apply {s s' : VerifyState} {effect : Effect}
    (htables : s'.tables = effect.apply workspaceId s.tables)
    (hcleared : ∀ probe table, s'.cleared probe table = true ↔
      s.cleared probe table = true ∨ ∃ carriedOut, effect = .deletes probe table carriedOut)
    (hnew : ∀ probe table carriedOut, effect = .deletes probe table carriedOut →
      s.cleared probe table = false) :
    s'.Swept workspaceId ↔ s.Swept workspaceId ∧ effect.Timely workspaceId s := by
  cases effect with
  | keeps =>
      have hsame : ∀ probe table, s'.cleared probe table = true ↔ s.cleared probe table = true :=
        fun probe table => by simpa using hcleared probe table
      unfold Swept
      rw [htables]
      simp [hsame, Effect.apply, Effect.Timely]
  | inserts landed block =>
      have hsame : ∀ probe table, s'.cleared probe table = true ↔ s.cleared probe table = true :=
        fun probe table => by simpa using hcleared probe table
      unfold Swept
      rw [htables]
      simp only [hsame, Effect.apply, Effect.Timely, Tables.mem_sessionIds_insert]
      constructor
      · intro h
        refine ⟨fun probe table hc hin => h probe table hc (Or.inl hin), ?_⟩
        intro probe table hlanded hc e he htakes hid
        exact h probe table hc (Or.inr ⟨hlanded, e, he, htakes, hid⟩)
      · rintro ⟨hbefore, htimely⟩ probe table hc (hin | ⟨hlanded, e, he, htakes, hid⟩)
        · exact hbefore probe table hc hin
        · exact htimely probe table hlanded hc e he htakes hid
  | deletes probe table carriedOut =>
      have hfresh := hnew probe table carriedOut rfl
      -- a table already cleared of this probe is another one
      have hother : ∀ probe' table', s.cleared probe' table' = true → table' = table →
          probe'.sessionId workspaceId ≠ probe.sessionId workspaceId := by
        rintro probe' table' hc rfl hid
        obtain rfl := Probe.sessionId_injective workspaceId hid
        rw [hfresh] at hc
        exact Bool.noConfusion hc
      unfold Swept
      rw [htables]
      cases carriedOut with
      | true =>
          simp only [hcleared, Effect.apply, Effect.Timely, if_true, Tables.mem_sessionIds_delete]
          constructor
          · intro h
            refine ⟨fun probe' table' hc hin => ?_, Or.inl trivial⟩
            exact h probe' table' (Or.inl hc) ⟨hin, hother probe' table' hc⟩
          · rintro ⟨hbefore, -⟩ probe' table' (hc | ⟨_, heq⟩) ⟨hin, hne⟩
            · exact hbefore probe' table' hc hin
            · cases heq
              exact hne rfl rfl
      | false =>
          simp only [hcleared, Effect.apply, Effect.Timely, Bool.false_eq_true, if_false, false_or]
          constructor
          · intro h
            refine ⟨fun probe' table' hc => h probe' table' (Or.inl hc), ?_⟩
            exact h probe table (Or.inr ⟨false, rfl⟩)
          · rintro ⟨hbefore, hnone⟩ probe' table' (hc | ⟨_, heq⟩)
            · exact hbefore probe' table' hc
            · cases heq
              exact hnone

theorem purgeEffect_deletes {probe probe' : Probe} {done : Nat} {answer : Answer} {table : Table} :
    (∃ carriedOut, purgeEffect probe' done answer = .deletes probe table carriedOut) ↔
      probe = probe' ∧ targets[done]? = some table := by
  unfold purgeEffect
  split
  · rename_i target htarget
    rw [htarget]
    constructor
    · rintro ⟨_, heq⟩
      cases heq
      exact ⟨rfl, rfl⟩
    · rintro ⟨rfl, htable⟩
      cases htable
      exact ⟨_, rfl⟩
  · rename_i hnone
    rw [hnone]
    exact iff_of_false (fun ⟨_, heq⟩ => nomatch heq) fun ⟨_, htable⟩ => nomatch htable

theorem effect_http {s : VerifyState} {answer : Answer} {expired : Bool} {probe : Probe}
    {table : Table} :
    (∃ carriedOut, s.effect workspaceId (.http answer expired) = .deletes probe table carriedOut) ↔
      probe = .http ∧ ∃ seen done, s.http = .purging seen done ∧ targets[done]? = some table := by
  simp only [effect]
  cases hhttp : s.http with
  | purging seen done =>
      refine purgeEffect_deletes.trans (and_congr_right fun _ => ?_)
      exact ⟨fun htable => ⟨seen, done, rfl, htable⟩, fun ⟨_, _, heq, htable⟩ => by
        cases heq
        exact htable⟩
  | _ => exact iff_of_false (fun ⟨_, heq⟩ => nomatch heq) fun ⟨_, _, _, heq, _⟩ => nomatch heq

theorem effect_lowLevel {s : VerifyState} {answer : Answer} {expired : Bool} {probe : Probe}
    {table : Table} :
    (∃ carriedOut,
        s.effect workspaceId (.lowLevel answer expired) = .deletes probe table carriedOut) ↔
      probe = .lowLevel ∧ ∃ done, s.lowLevel = .purging done ∧ targets[done]? = some table := by
  simp only [effect]
  cases hlow : s.lowLevel with
  | purging done =>
      refine purgeEffect_deletes.trans (and_congr_right fun _ => ?_)
      exact ⟨fun htable => ⟨done, rfl, htable⟩, fun ⟨_, heq, htable⟩ => by
        cases heq
        exact htable⟩
  | inserting clock =>
      refine iff_of_false (fun ⟨_, heq⟩ => ?_) fun ⟨_, _, heq, _⟩ => nomatch heq
      cases answer <;> exact nomatch heq
  | _ => exact iff_of_false (fun ⟨_, heq⟩ => nomatch heq) fun ⟨_, _, heq, _⟩ => nomatch heq

theorem not_cleared_of_deletes {s : VerifyState} {a : VerifyAction} {probe : Probe} {table : Table}
    {carriedOut : Bool} (h : s.effect workspaceId a = .deletes probe table carriedOut) :
    s.cleared probe table = false := by
  cases a with
  | http answer expired =>
      obtain ⟨rfl, seen, done, hhttp, htable⟩ := effect_http.mp ⟨carriedOut, h⟩
      simpa [cleared, hhttp, HttpProbe.cleared] using not_mem_take htable
  | lowLevel answer expired =>
      obtain ⟨rfl, done, hlow, htable⟩ := effect_lowLevel.mp ⟨carriedOut, h⟩
      simpa [cleared, hlow, LowLevelProbe.cleared] using not_mem_take htable
  | checked | received | refused | service | lands | removed => exact nomatch h

/-- The probes are where they were. -/
theorem cleared_congr {s s' : VerifyState} (hhttp : s'.http = s.http)
    (hlow : s'.lowLevel = s.lowLevel) (probe : Probe) (table : Table) :
    s'.cleared probe table = s.cleared probe table := by
  cases probe
  · exact congrArg (fun http => HttpProbe.cleared http table) hhttp
  · exact congrArg (fun lowLevel => LowLevelProbe.cleared lowLevel table) hlow

/-- Once the probes have started, a table is cleared by a delete, carried out or not. -/
theorem cleared_step {s s' : VerifyState} {a : VerifyAction}
    (h : verifyStep host maxRetainedEvents workspaceId s a = some s')
    (ha : ∀ found clock, a ≠ .checked found clock) (probe : Probe) (table : Table) :
    s'.cleared probe table = true ↔ s.cleared probe table = true ∨
      ∃ carriedOut, s.effect workspaceId a = .deletes probe table carriedOut := by
  obtain ⟨t, ht, rfl⟩ := Option.map_eq_some_iff.mp h
  have hsame : ∀ t' : VerifyState, t'.http = s.http → t'.lowLevel = s.lowLevel →
      (∀ carriedOut, s.effect workspaceId a ≠ .deletes probe table carriedOut) →
      (t'.cleared probe table = true ↔ s.cleared probe table = true ∨
        ∃ carriedOut, s.effect workspaceId a = .deletes probe table carriedOut) := by
    intro t' hhttp hlow hkeeps
    rw [cleared_congr hhttp hlow]
    exact (or_iff_left fun ⟨carriedOut, heffect⟩ => hkeeps carriedOut heffect).symm
  cases a with
  | checked found clock => exact absurd rfl (ha found clock)
  | http answer expired =>
      obtain ⟨http, hnext, rfl⟩ := Option.map_eq_some_iff.mp ht
      rw [effect_http]
      cases probe with
      | http => simpa [cleared] using HttpProbe.next_cleared hnext table
      | lowLevel => simp [cleared]
  | lowLevel answer expired =>
      obtain ⟨lowLevel, hnext, rfl⟩ := Option.map_eq_some_iff.mp ht
      rw [effect_lowLevel]
      cases probe with
      | http => simp [cleared]
      | lowLevel => simpa [cleared] using LowLevelProbe.next_cleared hnext table
  | received workspace arrival =>
      obtain ⟨payload, -, hmap⟩ := Option.bind_eq_some_iff.mp ht
      obtain ⟨service, -, rfl⟩ := Option.map_eq_some_iff.mp hmap
      exact hsame _ rfl rfl fun _ heffect => nomatch heffect
  | refused =>
      obtain ⟨_, -, rfl⟩ := Option.map_eq_some_iff.mp ht
      exact hsame _ rfl rfl fun _ heffect => nomatch heffect
  | service a =>
      obtain ⟨service, -, rfl⟩ := Option.map_eq_some_iff.mp ht
      exact hsame _ rfl rfl fun _ heffect => nomatch heffect
  | lands i landed =>
      obtain ⟨_, -, rfl⟩ := Option.map_eq_some_iff.mp ht
      exact hsame _ rfl rfl fun _ heffect => nomatch heffect
  | removed kept =>
      obtain rfl := Option.some.inj ht
      exact hsame _ rfl rfl fun _ heffect => nomatch heffect

/-- The probes start, or there is nothing to do. -/
theorem checked_step {s s' : VerifyState} {found : Bool} {clock : Clock}
    (h : verifyStep host maxRetainedEvents workspaceId s (.checked found clock) = some s') :
    s'.tables = s.tables ∧ (∀ probe table, s.cleared probe table = false) ∧
      ∀ probe table, s'.cleared probe table = !found := by
  obtain ⟨t, ht, rfl⟩ := Option.map_eq_some_iff.mp h
  unfold control at ht
  dsimp only at ht
  split at ht
  · rename_i hhttp hlow
    obtain rfl := Option.some.inj ht
    refine ⟨rfl, fun probe table => ?_, fun probe table => ?_⟩
    · cases probe
      · simp [cleared, hhttp, HttpProbe.cleared]
      · simp [cleared, hlow, LowLevelProbe.cleared]
    · cases found <;> cases probe <;> rfl
  · exact nomatch ht

theorem tables_step {s s' : VerifyState} {a : VerifyAction}
    (h : verifyStep host maxRetainedEvents workspaceId s a = some s') :
    s'.tables = (s.effect workspaceId a).apply workspaceId s.tables := by
  obtain ⟨t, -, rfl⟩ := Option.map_eq_some_iff.mp h
  rfl

/-- **A step keeps the cleared tables clean exactly when it is timely.** -/
theorem swept_step {s s' : VerifyState} {a : VerifyAction}
    (h : verifyStep host maxRetainedEvents workspaceId s a = some s') :
    s'.Swept workspaceId ↔ s.Swept workspaceId ∧ Timely workspaceId s a := by
  have hafter : (∀ found clock, a ≠ .checked found clock) → (s'.Swept workspaceId ↔
      s.Swept workspaceId ∧ (s.effect workspaceId a).Timely workspaceId s) := fun ha =>
    swept_apply (tables_step h) (cleared_step h ha) fun _ _ _ => not_cleared_of_deletes
  cases a with
  | checked found clock =>
      obtain ⟨htables, hnone, hcleared⟩ := checked_step h
      rw [and_iff_right (swept_of_not_cleared hnone)]
      cases found with
      | true => exact iff_of_true (swept_of_not_cleared hcleared) fun h => nomatch h
      | false =>
          rw [swept_iff_of_cleared hcleared, htables]
          exact ⟨fun hrows _ => hrows, fun htimely => htimely rfl⟩
  | http | lowLevel | received | refused | service | lands | removed =>
      exact hafter fun _ _ heq => nomatch heq

theorem Settled.cleared {s : VerifyState} (h : s.Settled workspaceId) (probe : Probe)
    (table : Table) : s.cleared probe table = true := by
  cases probe with
  | http =>
      unfold VerifyState.cleared
      rw [h.http]
      rfl
  | lowLevel =>
      unfold VerifyState.cleared
      rw [h.lowLevel]
      rfl

end VerifyState

open VerifyState in
/--
**A verification leaves no trace exactly when its clean-up comes last.**

In every run, whatever was in the buffer and the tables before: once both probes have
returned and the buffer is flushed, no row has the session id of a probe exactly when every
insert and every delete was timely and ClickHouse has removed what the deletes took on.
-/
theorem leaves_no_trace_iff (host : Host) (maxRetainedEvents : Nat) (workspaceId : String)
    (service : EventBuffer) (tables lingering : Tables) (as : List VerifyAction) (s : VerifyState)
    (h : Machine.exec (verifyStep host maxRetainedEvents workspaceId)
      (.init service tables lingering) as = some s)
    (hsettled : s.Settled workspaceId) :
    s.LeavesNoTrace workspaceId ↔
      Machine.Meets (verifyStep host maxRetainedEvents workspaceId) (Timely workspaceId)
          (.init service tables lingering) as ∧
        s.lingering.NoProbeRows workspaceId := by
  have hinit : (VerifyState.init service tables lingering).Swept workspaceId :=
    swept_of_not_cleared fun probe table => by cases probe <;> rfl
  have htables : s.tables.NoProbeRows workspaceId ↔
      Machine.Meets (verifyStep host maxRetainedEvents workspaceId) (Timely workspaceId)
        (.init service tables lingering) as := by
    rw [← swept_iff_of_cleared hsettled.cleared]
    refine (Machine.exec_iff_meets (I := fun _ => True) (fun _ _ _ _ _ => trivial)
      (fun _ _ _ _ hstep => swept_step hstep) trivial h).trans ?_
    exact and_iff_right hinit
  rw [← htables]
  exact ⟨fun hnone => ⟨hnone.tables, hnone.lingering⟩, fun hnone => ⟨hnone.1, hnone.2⟩⟩

namespace VerificationExample

def workspace : Workspace := ⟨"acme", .active, {}⟩

def arrival : Arrival := { version := 1000, now := 1000 }

/-- Nothing is buffered or stored yet. -/
def before : VerifyState := .init EventBuffer.init {} {}

/-- The request is taken in and answered, and the low-level probe does all it has to do. -/
def posted : List VerifyAction :=
  [.checked true ⟨1000, 1000, 1000⟩, .http .resolved false, .received workspace arrival,
    .service (.resume 0), .http (.status 200) false] ++
    List.replicate 6 (.lowLevel .resolved false)

def prompt : List VerifyAction :=
  posted ++ [.service (.timer "acme"), .service (.insertSucceeded "acme" 0)] ++
    List.replicate 5 (.http .resolved false) ++
    [.removed fun _ _ => false, .http .resolved false]

/-- The first flush fails, and the next one succeeds when the clean-up is over; every query
and every delete succeeds. -/
def late : List VerifyAction :=
  posted ++ [.service (.timer "acme"), .service (.insertFailed "acme" 0), .http .resolved true] ++
    List.replicate 5 (.http .resolved false) ++
    [.service (.timer "acme"), .service (.insertSucceeded "acme" 0), .removed fun _ _ => false]

theorem prompt_flush_leaves_no_trace :
    ∃ s, Machine.exec (verifyStep Host.bare 50000 "acme") before prompt = some s ∧
      s.Settled "acme" ∧ s.LeavesNoTrace "acme" := by
  have hrun : ∃ s, Machine.exec (verifyStep Host.bare 50000 "acme") before prompt = some s ∧
      s.Settled "acme" ∧ s.lingering.NoProbeRows "acme" :=
    ⟨_, rfl, ⟨rfl, rfl, rfl, rfl⟩, by decide⟩
  obtain ⟨s, hs, hsettled, hlingering⟩ := hrun
  refine ⟨s, hs, hsettled, ?_⟩
  exact (leaves_no_trace_iff Host.bare 50000 "acme" EventBuffer.init {} {} prompt s hs
    hsettled).mpr ⟨by decide, hlingering⟩

theorem late_flush_leaves_a_trace :
    ¬∀ (host : Host) (maxRetainedEvents : Nat) (workspaceId : String) (service : EventBuffer)
      (tables lingering : Tables) (as : List VerifyAction) (s : VerifyState),
      (VerifyState.init service tables lingering).LeavesNoTrace workspaceId →
      Machine.exec (verifyStep host maxRetainedEvents workspaceId)
        (.init service tables lingering) as = some s →
      s.Settled workspaceId → s.lingering.NoProbeRows workspaceId →
      s.LeavesNoTrace workspaceId := by
  have hrun : ∃ s, Machine.exec (verifyStep Host.bare 50000 "acme") before late = some s ∧
      s.Settled "acme" ∧ s.lingering.NoProbeRows "acme" ∧
      Probe.http.sessionId "acme" ∈ s.tables.sessionIds .sessions :=
    ⟨_, rfl, ⟨rfl, rfl, rfl, rfl⟩, by decide, by decide⟩
  obtain ⟨s, hs, hsettled, hlingering, hrow⟩ := hrun
  intro h
  exact (h _ _ _ _ _ _ _ s ⟨by decide, by decide⟩ hs hsettled hlingering).tables .http .sessions hrow

end VerificationExample

end Veridian.TrackingVerification
