/-
Migration V11, stopped anywhere and started again.

The migration builds `workspaces_v11`, copies the freshest row of every workspace into it,
swaps the two names and drops what is then called `workspaces_v11`.  A run that stops
between the swap and the drop leaves the old table under the new name, where the next run
finds it: `CREATE TABLE IF NOT EXISTS` does nothing, so the rows are copied into the old
`MergeTree` table and the second swap puts it back in its place.

A run that stops is a prefix of the script, and runs one after the other are a run of the
catalog.  What matters between two runs is which of three phases the tables are in.
-/
import Mathlib.Algebra.Ring.Parity
import Mathlib.Data.List.Sort
import Veridian.Lib.Machine
import Veridian.Lib.Replacing
import Veridian.Lib.Sorting

namespace Veridian.WorkspacesMigration

/-! ### Tables -/

inductive WorkspaceStatus where
  | initializing | active | inactive | error
  deriving DecidableEq

structure WorkspaceRow where
  id : String
  name : String
  website : String
  timezone : String
  currency : String
  logoUrl : Option String
  settings : String
  status : WorkspaceStatus
  createdAt : Int
  updatedAt : Int
  deriving DecidableEq

/-- `replacing` is `ReplacingMergeTree(updated_at)`. -/
inductive Engine where
  | mergeTree | replacing
  deriving DecidableEq

structure Table where
  engine : Engine
  rows : List WorkspaceRow
  deriving DecidableEq

/-- The tables of the system database, by their names. -/
abbrev Catalog := String → Option Table

/-- How the server orders by `updated_at DESC`; what it does with ties is its own. -/
structure Server where
  orderByUpdatedAtDesc : List WorkspaceRow → List WorkspaceRow
  perm : ∀ rows, (orderByUpdatedAtDesc rows).Perm rows
  sorted : ∀ rows, (orderByUpdatedAtDesc rows).Pairwise fun a b => b.updatedAt ≤ a.updatedAt

/-! ### Statements -/

inductive Statement where
  | createTableIfNotExists (name : String) (engine : Engine)
  | truncateTableIfExists (name : String)
  /-- `INSERT INTO name SELECT … FROM (SELECT * FROM source ORDER BY updated_at DESC LIMIT 1 BY id)` -/
  | insertFreshest (name source : String)
  | exchangeTables (name name' : String)
  | dropTableIfExists (name : String)

/-- `SELECT * FROM … ORDER BY updated_at DESC LIMIT 1 BY id` -/
def freshest (server : Server) (rows : List WorkspaceRow) : List WorkspaceRow :=
  Replacing.limitOneBy WorkspaceRow.id [] (server.orderByUpdatedAtDesc rows)

/-- A statement on a table that is not there fails, unless it says `IF EXISTS`. -/
def Statement.run (server : Server) (c : Catalog) : Statement → Option Catalog
  | .createTableIfNotExists name engine =>
      match c name with
      | some _ => some c
      | none => some (Function.update c name (some ⟨engine, []⟩))
  | .truncateTableIfExists name =>
      some (Function.update c name ((c name).map fun t => { t with rows := [] }))
  | .insertFreshest name source =>
      match c name, c source with
      | some t, some t' =>
          some (Function.update c name (some { t with rows := t.rows ++ freshest server t'.rows }))
      | _, _ => none
  | .exchangeTables name name' =>
      match c name, c name' with
      | some t, some t' => some (Function.update (Function.update c name (some t')) name' (some t))
      | _, _ => none
  | .dropTableIfExists name => some (Function.update c name none)

/-- `migrateSystem` -/
def migrateSystem : List Statement :=
  [.createTableIfNotExists "workspaces_v11" .replacing,
    .truncateTableIfExists "workspaces_v11",
    .insertFreshest "workspaces_v11" "workspaces",
    .exchangeTables "workspaces" "workspaces_v11",
    .dropTableIfExists "workspaces_v11"]

/-- The catalog after runs of the migration, each of which stops after so many statements;
five are all of them.  The version is stored after a run has completed, so until then every
start of the runner runs the migration. -/
def afterRuns (server : Server) (c : Catalog) (stops : List Nat) : Option Catalog :=
  Machine.exec (Statement.run server) c (stops.flatMap migrateSystem.take)

/-- An installation on version 10. -/
def version10 (rows : List WorkspaceRow) : Catalog := fun name =>
  if name = "workspaces" then some ⟨.mergeTree, rows⟩ else none

/-- `workspaces` is what the migration is to make of these rows. -/
def Migrated (rows : List WorkspaceRow) (c : Catalog) : Prop :=
  ∃ fresh, c "workspaces" = some ⟨.replacing, fresh⟩ ∧
    Replacing.FreshestOf WorkspaceRow.id WorkspaceRow.updatedAt rows fresh

/-! ### What a run does to the two tables -/

/-- The two tables of the migration. -/
structure Tables where
  workspaces : Table
  v11 : Option Table

/-- The catalog holds these two. -/
def Tables.In (t : Tables) (c : Catalog) : Prop :=
  c "workspaces" = some t.workspaces ∧ c "workspaces_v11" = t.v11

/-- The tables after so many statements. -/
def Tables.after (server : Server) (t : Tables) : Nat → Tables
  | 0 => t
  | 1 => { t with v11 := some (t.v11.getD ⟨.replacing, []⟩) }
  | 2 => { t with v11 := some ⟨(t.v11.getD ⟨.replacing, []⟩).engine, []⟩ }
  | 3 => { t with
      v11 := some ⟨(t.v11.getD ⟨.replacing, []⟩).engine, freshest server t.workspaces.rows⟩ }
  | 4 =>
      { workspaces := ⟨(t.v11.getD ⟨.replacing, []⟩).engine, freshest server t.workspaces.rows⟩
        v11 := some t.workspaces }
  | _ =>
      { workspaces := ⟨(t.v11.getD ⟨.replacing, []⟩).engine, freshest server t.workspaces.rows⟩
        v11 := none }

section

variable (server : Server) {t : Tables} {c : Catalog}

theorem Tables.In.setV11 (h : t.In c) (v11 : Option Table) :
    Tables.In ⟨t.workspaces, v11⟩ (Function.update c "workspaces_v11" v11) := by
  refine ⟨?_, Function.update_self _ _ _⟩
  rw [Function.update_of_ne (by decide)]
  exact h.1

theorem run_create (h : t.In c) : ∃ c',
    Statement.run server c (.createTableIfNotExists "workspaces_v11" .replacing) = some c' ∧
      (t.after server 1).In c' := by
  unfold Statement.run
  simp only [h.2]
  cases hv11 : t.v11 with
  | none =>
      refine ⟨_, rfl, ?_⟩
      rw [Tables.after, hv11]
      exact h.setV11 _
  | some t' =>
      refine ⟨c, rfl, h.1, ?_⟩
      rw [h.2, hv11, Tables.after, hv11]
      rfl

theorem run_truncate (h : (t.after server 1).In c) : ∃ c',
    Statement.run server c (.truncateTableIfExists "workspaces_v11") = some c' ∧
      (t.after server 2).In c' := by
  refine ⟨_, rfl, ?_⟩
  rw [h.2]
  exact h.setV11 _

theorem run_insert (h : (t.after server 2).In c) : ∃ c',
    Statement.run server c (.insertFreshest "workspaces_v11" "workspaces") = some c' ∧
      (t.after server 3).In c' := by
  refine ⟨_, ?_, h.setV11 _⟩
  unfold Statement.run
  simp only [h.1, h.2]
  rfl

theorem run_exchange (h : (t.after server 3).In c) : ∃ c',
    Statement.run server c (.exchangeTables "workspaces" "workspaces_v11") = some c' ∧
      (t.after server 4).In c' := by
  unfold Statement.run
  simp only [h.1, h.2]
  refine ⟨_, rfl, ?_, Function.update_self _ _ _⟩
  rw [Function.update_of_ne (by decide), Function.update_self]
  rfl

theorem run_drop (h : (t.after server 4).In c) (k : Nat) : ∃ c',
    Statement.run server c (.dropTableIfExists "workspaces_v11") = some c' ∧
      (t.after server (k + 5)).In c' :=
  ⟨_, rfl, h.setV11 none⟩

/-- **A run that stops after so many statements.** -/
theorem run_stopped (h : t.In c) (k : Nat) : ∃ c',
    Machine.exec (Statement.run server) c (migrateSystem.take k) = some c' ∧
      (t.after server k).In c' := by
  obtain ⟨c₁, h₁, hin₁⟩ := run_create server h
  obtain ⟨c₂, h₂, hin₂⟩ := run_truncate server hin₁
  obtain ⟨c₃, h₃, hin₃⟩ := run_insert server hin₂
  obtain ⟨c₄, h₄, hin₄⟩ := run_exchange server hin₃
  match k with
  | 0 => exact ⟨c, rfl, h⟩
  | 1 => exact ⟨c₁, by simp [migrateSystem, Machine.exec, h₁], hin₁⟩
  | 2 => exact ⟨c₂, by simp [migrateSystem, Machine.exec, h₁, h₂], hin₂⟩
  | 3 => exact ⟨c₃, by simp [migrateSystem, Machine.exec, h₁, h₂, h₃], hin₃⟩
  | 4 => exact ⟨c₄, by simp [migrateSystem, Machine.exec, h₁, h₂, h₃, h₄], hin₄⟩
  | k + 5 =>
      obtain ⟨c₅, h₅, hin₅⟩ := run_drop server hin₄ k
      exact ⟨c₅, by simp [migrateSystem, Machine.exec, h₁, h₂, h₃, h₄, h₅], hin₅⟩

end

/-! ### Phases -/

/-- Where the tables are between two runs. -/
inductive Phase where
  /-- The old table has its name, and the new one is not there or is still to be swapped in. -/
  | plain
  /-- The old table has the name of the new one. -/
  | swapped
  /-- There is no `MergeTree` table any more. -/
  | converted
  deriving DecidableEq

/-- A run that stops after so many statements. -/
def Phase.after : Phase → Nat → Phase
  | .plain, stop => if stop < 4 then .plain else if stop = 4 then .swapped else .converted
  | .swapped, stop => if stop < 4 then .swapped else .plain
  | .converted, _ => .converted

/-- The engines in a phase. -/
def Phase.Engines (t : Tables) : Phase → Prop
  | .plain => t.workspaces.engine = .mergeTree ∧ ∀ v11 ∈ t.v11, v11.engine = .replacing
  | .swapped => t.workspaces.engine = .replacing ∧ ∃ v11, t.v11 = some v11 ∧ v11.engine = .mergeTree
  | .converted => t.workspaces.engine = .replacing ∧ ∀ v11 ∈ t.v11, v11.engine = .replacing

/-- The tables stand for a phase, and no freshest row has been lost. -/
structure Phase.Holds (rows : List WorkspaceRow) (t : Tables) (phase : Phase) : Prop where
  engines : phase.Engines t
  keeps : Replacing.KeepsNewest WorkspaceRow.id WorkspaceRow.updatedAt rows t.workspaces.rows

theorem freshest_spec (server : Server) (rows : List WorkspaceRow) :
    Replacing.FreshestOf WorkspaceRow.id WorkspaceRow.updatedAt rows (freshest server rows) :=
  Replacing.freshestOf_limitOneBy _ _ (server.perm rows) (server.sorted rows)

/-- No run loses a freshest row. -/
theorem keepsNewest_after (server : Server) {rows : List WorkspaceRow} {t : Tables}
    (h : Replacing.KeepsNewest WorkspaceRow.id WorkspaceRow.updatedAt rows t.workspaces.rows)
    (stop : Nat) :
    Replacing.KeepsNewest WorkspaceRow.id WorkspaceRow.updatedAt rows
      (t.after server stop).workspaces.rows := by
  have hfresh := (h.freshestOf (freshest_spec server t.workspaces.rows)).keepsNewest
  match stop with
  | 0 | 1 | 2 | 3 => exact h
  | 4 => exact hfresh
  | _ + 5 => exact hfresh

theorem engine_getD {v11 : Option Table} (h : ∀ t ∈ v11, t.engine = .replacing) :
    (v11.getD ⟨.replacing, []⟩).engine = .replacing := by
  cases v11 with
  | none => rfl
  | some t => exact h t rfl

/-- A table of the new engine, whatever its rows. -/
theorem engine_of_some {engine : Engine} (h : engine = .replacing) (rows : List WorkspaceRow) :
    ∀ v ∈ some (⟨engine, rows⟩ : Table), v.engine = .replacing := by
  intro v hv
  obtain rfl := Option.some.inj hv
  exact h

/-- **A run takes a phase to the next.** -/
theorem Phase.Holds.after (server : Server) {rows : List WorkspaceRow} {t : Tables} {phase : Phase}
    (h : phase.Holds rows t) (stop : Nat) :
    (phase.after stop).Holds rows (t.after server stop) := by
  refine ⟨?_, keepsNewest_after server h.keeps stop⟩
  have hengines := h.engines
  cases phase with
  | plain =>
      obtain ⟨hold, hnew⟩ := hengines
      have hengine := engine_getD hnew
      match stop with
      | 0 => exact ⟨hold, hnew⟩
      | 1 => exact ⟨hold, engine_of_some hengine _⟩
      | 2 => exact ⟨hold, engine_of_some hengine _⟩
      | 3 => exact ⟨hold, engine_of_some hengine _⟩
      | 4 => exact ⟨hengine, t.workspaces, rfl, hold⟩
      | _ + 5 => exact ⟨hengine, fun v hv => nomatch hv⟩
  | swapped =>
      obtain ⟨hold, v11, hv11, hengine⟩ := hengines
      match stop with
      | 0 => exact ⟨hold, v11, hv11, hengine⟩
      | 1 => exact ⟨hold, v11, by simp [Tables.after, hv11], hengine⟩
      | 2 => exact ⟨hold, _, rfl, by simp [hv11, hengine]⟩
      | 3 => exact ⟨hold, _, rfl, by simp [hv11, hengine]⟩
      | 4 =>
          refine ⟨by simp [Tables.after, hv11, hengine], fun v hv => ?_⟩
          obtain rfl := Option.some.inj hv
          exact hold
      | _ + 5 =>
          exact ⟨by simp [Tables.after, hv11, hengine], fun v hv => nomatch hv⟩
  | converted =>
      obtain ⟨hold, hnew⟩ := hengines
      have hengine := engine_getD hnew
      match stop with
      | 0 => exact ⟨hold, hnew⟩
      | 1 => exact ⟨hold, engine_of_some hengine _⟩
      | 2 => exact ⟨hold, engine_of_some hengine _⟩
      | 3 => exact ⟨hold, engine_of_some hengine _⟩
      | 4 => exact ⟨hengine, engine_of_some hold _⟩
      | _ + 5 => exact ⟨hengine, fun v hv => nomatch hv⟩

/-- **Runs one after the other.** -/
theorem exists_afterRuns (server : Server) {rows : List WorkspaceRow} (stops : List Nat) :
    ∀ {c : Catalog} {t : Tables} {phase : Phase}, t.In c → phase.Holds rows t →
    ∃ c' t', afterRuns server c stops = some c' ∧ t'.In c' ∧
      (stops.foldl Phase.after phase).Holds rows t' := by
  induction stops with
  | nil =>
      intro c t phase hin hholds
      exact ⟨c, t, rfl, hin, hholds⟩
  | cons stop rest ih =>
      intro c t phase hin hholds
      obtain ⟨c₁, h₁, hin₁⟩ := run_stopped server hin stop
      obtain ⟨c', t', hrest, hin', hholds'⟩ := ih hin₁ (hholds.after server stop)
      exact ⟨c', t', Machine.exec_append h₁ hrest, hin', hholds'⟩

/-- A run that completes leaves the freshest rows, in a table of the engine that it finds. -/
theorem migrated_iff {server : Server} {rows : List WorkspaceRow} {t : Tables} {phase : Phase}
    {c : Catalog} (h : phase.Holds rows t) (hin : (t.after server 5).In c) :
    Migrated rows c ↔ phase ≠ .swapped := by
  have hafter := h.after server 5
  constructor
  · rintro ⟨fresh, hfresh, -⟩ rfl
    have hengine := hafter.engines.1
    have htable := Option.some.inj (hin.1.symm.trans hfresh)
    rw [htable] at hengine
    exact nomatch hengine
  · intro hphase
    have hengine : (t.after server 5).workspaces.engine = .replacing := by
      cases phase with
      | plain => exact hafter.engines.1
      | swapped => exact absurd rfl hphase
      | converted => exact hafter.engines.1
    refine ⟨freshest server t.workspaces.rows, ?_,
      h.keeps.freshestOf (freshest_spec server t.workspaces.rows)⟩
    rw [hin.1]
    exact congrArg (fun e => some (⟨e, _⟩ : Table)) hengine

/-- Among runs none of which completes, every stop between the swap and the drop swaps. -/
theorem swapped_iff_odd {stops : List Nat} (h : ∀ stop ∈ stops, stop < 5) :
    stops.foldl Phase.after .plain = .swapped ↔ Odd (stops.count 4) := by
  have hboth : (stops.foldl Phase.after .plain = .swapped ↔ Odd (stops.count 4)) ∧
      (stops.foldl Phase.after .swapped = .swapped ↔ Even (stops.count 4)) := by
    induction stops with
    | nil => simp
    | cons stop rest ih =>
        obtain ⟨hplain, hswapped⟩ := ih fun s hs => h s (List.mem_cons_of_mem _ hs)
        have hstop := h stop List.mem_cons_self
        rw [List.foldl_cons, List.foldl_cons, List.count_cons]
        by_cases hfour : stop = 4
        · subst hfour
          show (List.foldl Phase.after .swapped rest = .swapped ↔ _) ∧
            (List.foldl Phase.after .plain rest = .swapped ↔ _)
          rw [hplain, hswapped]
          simp [Nat.odd_add_one, Nat.even_add_one]
        · have hless : stop < 4 := by omega
          simp only [Phase.after, if_pos hless]
          rw [hplain, hswapped]
          simp [hfour]
  exact hboth.1

/--
**Migration V11 is crash-restartable** as long as it does not start from swapped names.

From any rows on version 10, and whatever runs have stopped after whatever statements, a
run that completes does complete, and leaves `workspaces` a `ReplacingMergeTree(updated_at)`
with exactly the freshest row of every workspace if and only if it did not start with the
old table under the new name.
-/
theorem v11_restartable_iff (server : Server) (rows : List WorkspaceRow) (stops : List Nat) :
    ∃ c, afterRuns server (version10 rows) (stops ++ [5]) = some c ∧
      (Migrated rows c ↔ stops.foldl Phase.after .plain ≠ .swapped) := by
  have hin : Tables.In ⟨⟨.mergeTree, rows⟩, none⟩ (version10 rows) := ⟨rfl, rfl⟩
  have hplain : Phase.plain.Holds rows ⟨⟨.mergeTree, rows⟩, none⟩ :=
    ⟨⟨rfl, fun v hv => nomatch hv⟩, .refl _ _ rows⟩
  obtain ⟨c, t, hruns, hin', hholds⟩ := exists_afterRuns server stops hin hplain
  obtain ⟨c', hlast, hin''⟩ := run_stopped server hin' 5
  refine ⟨c', ?_, migrated_iff hholds hin''⟩
  unfold afterRuns at hruns ⊢
  rw [List.flatMap_append]
  refine Machine.exec_append hruns ?_
  rw [List.flatMap_singleton]
  exact hlast

/-! ### A stop between the swap and the drop -/

namespace SwapExample

/-- A server that keeps ties in their order. -/
def server : Server where
  orderByUpdatedAtDesc := List.insertionSort (Sorting.Descending WorkspaceRow.updatedAt)
  perm := List.perm_insertionSort _
  sorted := List.pairwise_insertionSort _

def row : WorkspaceRow :=
  ⟨"w", "Shop", "https://shop.example", "Europe/Paris", "EUR", none, "", .active, 0, 1⟩

end SwapExample

open SwapExample in
/-- The second run completes, and `workspaces` is a `MergeTree` again. -/
theorem restart_restores_merge_tree :
    ¬∀ (server : Server) (rows : List WorkspaceRow) (stops : List Nat) (c : Catalog),
      afterRuns server (version10 rows) (stops ++ [5]) = some c → Migrated rows c := by
  intro hall
  have hrun : (afterRuns server (version10 [row]) ([4] ++ [5])).any (fun c =>
      c "workspaces" = some ⟨.mergeTree, [row]⟩) = true := by decide +kernel
  obtain ⟨c, hc, htable⟩ := (Option.any_eq_true _ _).mp hrun
  obtain ⟨fresh, hfresh, -⟩ := hall server [row] [4] c hc
  have hsame := (of_decide_eq_true htable).symm.trans hfresh
  exact nomatch congrArg Table.engine (Option.some.inj hsame)

end Veridian.WorkspacesMigration
