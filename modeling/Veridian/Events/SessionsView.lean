/-
`sessions_mv` and the `sessions` table behind it.

The view aggregates every inserted block on its own, and the table keeps one row per
(created_at, id), the one with the greatest `updated_at`.  Payloads repeat all earlier
actions of their session, so the surviving row is right only if the block it comes from
holds, of that session, exactly the last payload.  The buffer cuts by size and by timer
and knows nothing of payloads; `session_aggregates` says what follows.
-/
import Veridian.Lib.Replacing
import Veridian.Events.BufferRuns
import Veridian.Events.Emitted

namespace Veridian

open EventBuffer

/-! ### The view -/

/-- A row of `sessions`.  The columns the view takes with `any` are those of the first
event of the group. -/
structure SessionRow where
  id : String
  workspaceId : String
  createdAt : Int
  updatedAt : Int
  duration : ℚ
  pageviewCount : Nat
  exitPath : String
  maxScroll : ℚ
  goalCount : Nat
  goalValue : ℚ
  any : TrackingEvent

/-- A count in a `UInt16` column. -/
def UINT16 : Nat := 65536

/-- `argMax(path, updated_at)`. -/
def argMaxPath (first : TrackingEvent) (rest : List TrackingEvent) : String :=
  (rest.foldl (fun m e => if m.updatedAt < e.updatedAt then e else m) first).path

/-- The SELECT of `sessions_mv` on one group; an empty group gives no row. -/
def aggregateSession : List TrackingEvent → Option SessionRow
  | [] => none
  | e :: rest => some
      { id := e.sessionId
        workspaceId := e.workspaceId
        createdAt := e.createdAt
        updatedAt := Replacing.greatest (·.updatedAt) e rest
        duration := Replacing.greatest (·.duration) e rest
        pageviewCount := countNamed .screenView (e :: rest) % UINT16
        exitPath := argMaxPath e rest
        maxScroll := Replacing.greatest (·.maxScroll) e rest
        goalCount := countNamed .goal (e :: rest) % UINT16
        goalValue := sumGoals (e :: rest)
        any := e }

/-- `GROUP BY session_id, workspace_id` over one inserted block. -/
def sessionsMv (block : List TrackingEvent) : List SessionRow :=
  (Replacing.groupBy (fun e : TrackingEvent => (e.sessionId, e.workspaceId)) block).filterMap
    aggregateSession

/-- `ReplacingMergeTree(updated_at) ORDER BY (created_at, id)`. -/
def sessionsFinal (rows : List SessionRow) : List SessionRow :=
  Replacing.final (fun r => (r.createdAt, r.id)) (·.updatedAt) rows

/-- The rows of one session in the merged table. -/
def sessionRows (session : String) (blocks : List (List TrackingEvent)) : List SessionRow :=
  (sessionsFinal (blocks.flatMap sessionsMv)).filter (·.id = session)

/-! ### The blocks, seen from one session -/

/-- What the blocks hold of a session, without those that hold nothing of it. -/
def sessionParts (session : String) (blocks : List (List TrackingEvent)) :
    List (List TrackingEvent) :=
  (blocks.map fun block => block.filter (·.sessionId = session)).filter (· ≠ [])

theorem sessionParts_flatten (session : String) (blocks : List (List TrackingEvent)) :
    (sessionParts session blocks).flatten = blocks.flatten.filter (·.sessionId = session) := by
  unfold sessionParts
  induction blocks with
  | nil => rfl
  | cons block rest ih =>
      rw [List.map_cons, List.filter_cons, List.flatten_cons, List.filter_append, ← ih]
      split
      · rfl
      · rename_i h
        have hnil : block.filter (·.sessionId = session) = [] := by simpa using h
        rw [hnil]
        rfl

theorem aggregateSession_envelope {events : List TrackingEvent} {row : SessionRow}
    (h : aggregateSession events = some row) :
    ∃ e ∈ events, row.id = e.sessionId ∧ row.workspaceId = e.workspaceId ∧
      row.createdAt = e.createdAt := by
  cases events with
  | nil => simp [aggregateSession] at h
  | cons e rest =>
      obtain rfl := Option.some.inj h
      exact ⟨e, by simp, rfl, rfl, rfl⟩

/-- A row of the view aggregates events of the block. -/
theorem exists_of_mem_sessionsMv {block : List TrackingEvent} {row : SessionRow}
    (h : row ∈ sessionsMv block) :
    ∃ events, (∀ e ∈ events, e ∈ block) ∧ aggregateSession events = some row := by
  obtain ⟨group, hgroup, hrow⟩ := List.mem_filterMap.mp h
  obtain ⟨k, -, rfl⟩ := List.mem_map.mp hgroup
  exact ⟨_, fun e he => List.mem_of_mem_filter he, hrow⟩

/-- The row of a session in the view of one block. -/
theorem sessionsMv_filter {w session : String} {block : List TrackingEvent}
    (hw : ∀ e ∈ block, e.workspaceId = w) :
    (sessionsMv block).filter (·.id = session) =
      (aggregateSession (block.filter (·.sessionId = session))).toList := by
  have hgroup : (block.filter fun e => (e.sessionId, e.workspaceId) = (session, w)) =
      block.filter (·.sessionId = session) := by
    refine List.filter_congr fun e he => ?_
    simp [hw e he]
  rw [← hgroup]
  refine Replacing.filterMap_groupBy _ _ ?_ rfl
  intro k row hrow
  obtain ⟨e, he, hid, -, -⟩ := aggregateSession_envelope hrow
  obtain ⟨hin, hk⟩ := List.mem_filter.mp he
  have hkey : (e.sessionId, e.workspaceId) = k := by simpa using hk
  rw [decide_eq_true_iff, hid, ← hkey, hw e hin]
  simp

/-- One row of the session for each block that holds something of it. -/
theorem flatMap_sessionsMv_filter {w session : String} {blocks : List (List TrackingEvent)}
    (hw : ∀ e ∈ blocks.flatten, e.workspaceId = w) :
    (blocks.flatMap sessionsMv).filter (·.id = session) =
      (sessionParts session blocks).filterMap aggregateSession := by
  induction blocks with
  | nil => rfl
  | cons block rest ih =>
      rw [List.flatMap_cons, List.filter_append,
        sessionsMv_filter fun e he => hw e (by simp [he]),
        ih fun e he => hw e (by rw [List.flatten_cons]; exact List.mem_append_right _ he)]
      unfold sessionParts
      rw [List.map_cons, List.filter_cons]
      split
      · rename_i hne
        rw [List.filterMap_cons]
        cases hrow : aggregateSession (block.filter (·.sessionId = session)) with
        | none => rfl
        | some row => rfl
      · rename_i h
        have hnil : block.filter (·.sessionId = session) = [] := by simpa using h
        rw [hnil]
        rfl

/-! ### The row that survives -/

/-- A later stretch of a session is not older than an earlier one. -/
theorem aggregateSession_updatedAt_le {part last : List TrackingEvent} {row final : SessionRow}
    (hrow : aggregateSession part = some row) (hfinal : aggregateSession last = some final)
    (hle : ∀ x ∈ part, ∀ y ∈ last, x.updatedAt ≤ y.updatedAt) :
    row.updatedAt ≤ final.updatedAt := by
  cases part with
  | nil => simp [aggregateSession] at hrow
  | cons x xs =>
      cases last with
      | nil => simp [aggregateSession] at hfinal
      | cons y ys =>
          obtain rfl := Option.some.inj hrow
          obtain rfl := Option.some.inj hfinal
          have hmax : y.updatedAt ≤ Replacing.greatest TrackingEvent.updatedAt y ys :=
            Replacing.le_greatest List.mem_cons_self
          refine Replacing.greatest_le_iff.mpr fun z hz => ?_
          exact (hle z hz y List.mem_cons_self).trans hmax

/-- The rows of a session are those under its one key. -/
theorem mem_sessionsMv_key {session : String} {created : Int} {blocks : List (List TrackingEvent)}
    (hcreated : ∀ e ∈ blocks.flatten, e.sessionId = session → e.createdAt = created)
    {row : SessionRow} (hrow : row ∈ blocks.flatMap sessionsMv) :
    row.id = session ↔ (row.createdAt, row.id) = (created, session) := by
  obtain ⟨block, hblock, hmv⟩ := List.mem_flatMap.mp hrow
  obtain ⟨events, hevents, hagg⟩ := exists_of_mem_sessionsMv hmv
  obtain ⟨e, he, hid, -, hcr⟩ := aggregateSession_envelope hagg
  constructor
  · intro hs
    have hin : e ∈ blocks.flatten := List.mem_flatten.mpr ⟨block, hblock, hevents e he⟩
    rw [hcr, hs, hcreated e hin (hid ▸ hs)]
  · intro hpair
    exact (Prod.mk.inj hpair).2

/-- **The last block decides.**  The events of a session come with one `created_at` and
with `updated_at` that does not decrease; then the row of the last block that holds any
of them is the one that survives. -/
theorem sessionRows_eq_last {w session : String} {created : Int}
    {blocks init : List (List TrackingEvent)} {last : List TrackingEvent}
    (hw : ∀ e ∈ blocks.flatten, e.workspaceId = w)
    (hcreated : ∀ e ∈ blocks.flatten, e.sessionId = session → e.createdAt = created)
    (hupdated : (blocks.flatten.filter (·.sessionId = session)).Pairwise
      fun x y => x.updatedAt ≤ y.updatedAt)
    (hparts : sessionParts session blocks = init ++ [last]) :
    sessionRows session blocks = (aggregateSession last).toList := by
  have hrows : (blocks.flatMap sessionsMv).filter (·.id = session) =
      init.filterMap aggregateSession ++ [last].filterMap aggregateSession := by
    rw [flatMap_sessionsMv_filter hw, hparts, List.filterMap_append]
  have hkey : ∀ r ∈ blocks.flatMap sessionsMv,
      decide (r.id = session) = true ↔ (r.createdAt, r.id) = (created, session) := by
    intro r hr
    rw [decide_eq_true_iff]
    exact mem_sessionsMv_key hcreated hr
  unfold sessionRows sessionsFinal
  rw [Replacing.final_filter_eq_survivor _ _ hkey, Replacing.survivor]
  have hfilter : ((blocks.flatMap sessionsMv).filter
      fun r => (r.createdAt, r.id) = (created, session)) =
      (blocks.flatMap sessionsMv).filter (·.id = session) := by
    refine List.filter_congr fun r hr => ?_
    rw [Bool.eq_iff_iff, decide_eq_true_iff]
    exact (hkey r hr).symm
  rw [hfilter, hrows]
  cases hlast : aggregateSession last with
  | none =>
      -- a part is never empty
      have hmem : last ∈ sessionParts session blocks := by rw [hparts]; simp
      have hne : last ≠ [] := by simpa using (List.mem_filter.mp hmem).2
      cases last with
      | nil => exact absurd rfl hne
      | cons e rest => simp [aggregateSession] at hlast
  | some final =>
      have hone : [last].filterMap aggregateSession = [final] := by
        rw [List.filterMap_cons_some hlast]
        rfl
      have holder : ∀ row ∈ init.filterMap aggregateSession, row.updatedAt ≤ final.updatedAt := by
        intro row hrow
        obtain ⟨part, hpart, hagg⟩ := List.mem_filterMap.mp hrow
        refine aggregateSession_updatedAt_le hagg hlast fun x hx y hy => ?_
        rw [← sessionParts_flatten, hparts, List.pairwise_flatten] at hupdated
        exact (List.pairwise_append.mp hupdated.2).2.2 part hpart last (by simp) x hx y hy
      rw [hone, Replacing.newest_append_singleton _ holder]

end Veridian
