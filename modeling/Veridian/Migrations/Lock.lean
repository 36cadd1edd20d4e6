/-
The lock of `MigrationsRunner.run`.

A runner reads the lock, and when there is none, or one that is five minutes old, inserts a
row of its own; at the end it deletes the rows of that key, whoever inserted them.  Nothing
keeps two runners from reading before either inserts, and nothing renews the lock of a
migration that takes longer.

A `DELETE` takes its effect later and row by row, as the merges of the table do: both are
the background here.  The lock in force is the row that `FINAL` finds.
-/
import Veridian.Lib.Interleave
import Veridian.Lib.Replacing
import Veridian.Lib.Text

namespace Veridian.MigrationsRunner

open Machine Replacing

/-! ### `system_settings` -/

structure SettingsRow where
  key : String
  value : String
  updatedAt : Int
  deriving DecidableEq

abbrev StoredSetting := Stored SettingsRow

/-- `SELECT … FROM system_settings FINAL WHERE key = '${key}'` -/
def selectFinal (key : String) (settings : List StoredSetting) : Option StoredSetting :=
  storedSurvivor SettingsRow.key SettingsRow.updatedAt key settings

def insertSetting (row : SettingsRow) (settings : List StoredSetting) : List StoredSetting :=
  settings ++ [⟨row, false⟩]

/-- `parseInt(value, 10)`, where `none` is `NaN`. -/
def parseInt (value : String) : Option Int :=
  match (Text.trim value).toList with
  | '-' :: rest => (digits rest).map fun n => -n
  | '+' :: rest => digits rest
  | rest => digits rest
where
  digits (cs : List Char) : Option Int :=
    match cs.takeWhile Char.isDigit with
    | [] => none
    | ds => some (ds.foldl (fun n c => n * 10 + (c.toNat - '0'.toNat : Nat)) 0)

example : parseInt "12" = some 12 ∧ parseInt " -3.5" = some (-3) ∧ parseInt "v12" = none := by
  decide +kernel

/-! ### Migrations -/

def APP_MAJOR_VERSION : Int := 12

structure MajorMigration where
  majorVersion : Int
  hasSystemMigration : Bool
  hasWorkspaceMigration : Bool
  /-- `migrateSystem` deletes every setting but the lock. -/
  clearsSettings : Bool := false

def V4ResetMigration : MajorMigration := ⟨4, true, true, true⟩
def V5SubscriptionsMigration : MajorMigration := ⟨5, true, false, false⟩
def V6UserIdMigration : MajorMigration := ⟨6, false, true, false⟩
def V7WebhooksMigration : MajorMigration := ⟨7, true, false, false⟩
def V8VoipMigration : MajorMigration := ⟨8, true, false, false⟩
def V9GscMigration : MajorMigration := ⟨9, true, false, false⟩
def V10VisitorIdMigration : MajorMigration := ⟨10, false, true, false⟩
def V11WorkspacesReplacingMigration : MajorMigration := ⟨11, true, false, false⟩
def V12IdentityAttributionMigration : MajorMigration := ⟨12, false, true, false⟩
def V13SsoTokensMigration : MajorMigration := ⟨13, true, false, false⟩

def MIGRATIONS : List MajorMigration :=
  [V4ResetMigration, V5SubscriptionsMigration, V6UserIdMigration, V7WebhooksMigration,
    V8VoipMigration, V9GscMigration, V10VisitorIdMigration, V11WorkspacesReplacingMigration,
    V12IdentityAttributionMigration, V13SsoTokensMigration]

def getMigration (version : Int) : Option MajorMigration :=
  MIGRATIONS.find? fun m => m.majorVersion = version

/-! ### Runners -/

/-- The process that makes a runner. -/
structure Instance where
  hostname : String
  pid : Nat
  startupRetryAttempts : Nat
  deriving DecidableEq

def Instance.lockId (self : Instance) : String := self.hostname ++ "-" ++ toString self.pid

/-- The lock an instance inserts. -/
def Instance.lock (self : Instance) (now : Int) : SettingsRow :=
  ⟨"migration_lock", self.lockId, now⟩

/-- Milliseconds, as the clock counts. -/
def lockTimeout : Int := 300 * 1000

/-- What a runner does next under its lock. -/
inductive Task where
  | getDbVersion
  | migrateSystem (m : MajorMigration)
  | getWorkspaces (m : MajorMigration)
  /-- The workspaces that are left, the next one first. -/
  | migrateWorkspaces (m : MajorMigration) (workspaces : List String)
  | setDbVersion (version : Int) (result : Bool)

/-- How far `run` has come. -/
inductive Phase where
  | ensureSystemDatabase (attempt : Nat)
  | readLock
  | insertLock
  | working (lock : SettingsRow) (task : Task)
  /-- `finally`, with what `run` then returns; `none` when it throws. -/
  | releaseLock (lock : SettingsRow) (result : Option Bool)
  | returned (restart : Bool)
  | threw
  | killed

/-- What a step takes from outside. -/
inductive Answer where
  /-- The request is carried out; `now` is what the clock says. -/
  | done (now : Int)
  /-- The answer of `getWorkspaces`. -/
  | workspaces (ids : List String)
  | failed
  /-- The instance is gone. -/
  | killed
  /-- The `i`-th row goes. -/
  | vanishes (i : Nat)

def migrateWorkspaces (lock : SettingsRow) (m : MajorMigration) : List String → Phase
  | [] => .working lock (.setDbVersion m.majorVersion true)
  | workspaces => .working lock (.migrateWorkspaces m workspaces)

def afterSystem (lock : SettingsRow) (m : MajorMigration) : Phase :=
  if m.hasWorkspaceMigration then .working lock (.getWorkspaces m)
  else .working lock (.setDbVersion m.majorVersion true)

def executeMigration (lock : SettingsRow) (m : MajorMigration) : Phase :=
  if m.hasSystemMigration then .working lock (.migrateSystem m) else afterSystem lock m

/-- What follows from the answer to `getDbVersion`. -/
def afterVersion (lock : SettingsRow) : Option (Option Int) → Phase
  | none => .working lock (.setDbVersion APP_MAJOR_VERSION false)
  -- `NaN` compares with nothing and has no migration.
  | some none => .releaseLock lock none
  | some (some dbVersion) =>
      if dbVersion > APP_MAJOR_VERSION then .releaseLock lock none
      else if dbVersion = APP_MAJOR_VERSION then .releaseLock lock (some false)
      else
        match getMigration (dbVersion + 1) with
        | none => .releaseLock lock none
        | some m => executeMigration lock m

def getDbVersion (settings : List StoredSetting) : Option (Option Int) :=
  (selectFinal "db_major_version" settings).map fun r => parseInt r.row.value

def taskStep (lock : SettingsRow) (settings : List StoredSetting) :
    Task → Answer → Option (List StoredSetting × Phase)
  | .getDbVersion, .done _ => some (settings, afterVersion lock (getDbVersion settings))
  | .migrateSystem m, .done _ =>
      some (if m.clearsSettings then deleteWhere (fun r => r.key ≠ "migration_lock") settings
        else settings, afterSystem lock m)
  | .getWorkspaces m, .workspaces ids => some (settings, migrateWorkspaces lock m ids)
  | .migrateWorkspaces m workspaces, .done _ =>
      some (settings, migrateWorkspaces lock m workspaces.tail)
  | .setDbVersion version result, .done now =>
      some (insertSetting ⟨"db_major_version", toString version, now⟩ settings,
        .releaseLock lock (some result))
  | _, .failed => some (settings, .releaseLock lock none)
  | _, .killed => some (settings, .killed)
  | _, _ => none

/-- `acquireLock` gives up when there is a lock that is younger than `lockTimeout`. -/
def afterRead (now : Int) : Option StoredSetting → Phase
  | none => .insertLock
  | some lock => if now - lock.row.updatedAt < lockTimeout then .returned true else .insertLock

def runStep (self : Instance) (settings : List StoredSetting) :
    Phase → Answer → Option (List StoredSetting × Phase)
  | .ensureSystemDatabase _, .done _ => some (settings, .readLock)
  | .ensureSystemDatabase attempt, .failed =>
      some (settings, if attempt = self.startupRetryAttempts then .threw
        else .ensureSystemDatabase (attempt + 1))
  | .ensureSystemDatabase _, .killed => some (settings, .killed)
  | .readLock, .done now => some (settings, afterRead now (selectFinal "migration_lock" settings))
  | .readLock, .failed => some (settings, .threw)
  | .readLock, .killed => some (settings, .killed)
  | .insertLock, .done now =>
      some (insertSetting (self.lock now) settings, .working (self.lock now) .getDbVersion)
  | .insertLock, .failed => some (settings, .threw)
  | .insertLock, .killed => some (settings, .killed)
  | .working lock task, answer => taskStep lock settings task answer
  | .releaseLock _ result, .done _ =>
      some (deleteWhere (fun r => r.key = "migration_lock") settings,
        match result with
        | none => .threw
        | some restart => .returned restart)
  | .releaseLock _ _, .failed => some (settings, .threw)
  | .releaseLock _ _, .killed => some (settings, .killed)
  | _, _ => none

inductive Process where
  | run (self : Instance) (phase : Phase)
  /-- The mutations and merges of the database. -/
  | background

inductive ProcessOp where
  | run (self : Instance)
  | background

def Process.start : ProcessOp → Process
  | .run self => .run self (.ensureSystemDatabase 1)
  | .background => .background

def processStep (settings : List StoredSetting) :
    Process → Answer → Option (List StoredSetting × Process)
  | .run self phase, answer =>
      (runStep self settings phase answer).map fun (settings, phase) => (settings, .run self phase)
  | .background, .vanishes i =>
      if mayVanish SettingsRow.key SettingsRow.updatedAt settings i then
        some (settings.eraseIdx i, .background)
      else none
  | .background, _ => none

abbrev Runners := Interleave.State (List StoredSetting) Process

abbrev RunnersAction := Interleave.Action ProcessOp Answer

def runnersStep : Runners → RunnersAction → Option Runners :=
  Interleave.step Process.start processStep

/-- Any settings, and no instance yet. -/
def Runners.init (settings : List StoredSetting) : Runners := ⟨settings, []⟩

/-! ### The claim and its condition -/

/-- The lock of a runner between `acquireLock` and `releaseLock`. -/
def Phase.held : Phase → Option SettingsRow
  | .working lock _ => some lock
  | .releaseLock lock _ => some lock
  | _ => none

def Process.held : Process → Option SettingsRow
  | .run _ phase => phase.held
  | .background => none

def Process.isWorking (p : Process) : Bool := p.held.isSome

/-- The clock of a step that inserts a lock. -/
def Process.inserts : Process → Answer → Option Int
  | .run _ .insertLock, .done now => some now
  | _, _ => none

/-- The lock of a runner that deletes one in this step. -/
def Process.deletes : Process → Answer → Option SettingsRow
  | .run _ (.releaseLock lock _), .done _ => some lock
  | _, _ => none

def Exclusive (s : Runners) : Prop := s.procs.countP Process.isWorking ≤ 1

instance (s : Runners) : Decidable (Exclusive s) :=
  inferInstanceAs (Decidable (_ ≤ 1))

/-- The lock in force when a runner deletes one is its own. -/
def DeletesOwn (s : Runners) : RunnersAction → Prop
  | .start _ => True
  | .step i answer => ∀ p ∈ s.procs[i]?, ∀ own ∈ p.deletes answer,
      ∀ lock ∈ selectFinal "migration_lock" s.shared, lock.row = own

instance (s : Runners) : ∀ a : RunnersAction, Decidable (DeletesOwn s a)
  | .start _ => isTrue trivial
  | .step i answer => inferInstanceAs (Decidable (∀ p ∈ s.procs[i]?, ∀ own ∈ p.deletes answer,
      ∀ lock ∈ selectFinal "migration_lock" s.shared, lock.row = own))

/-- No two runners are at work at one time, and none deletes the lock of another. -/
structure Excludes (settings : List StoredSetting) (as : List RunnersAction) : Prop where
  exclusive : ∀ before t, before <+: as →
    exec runnersStep (Runners.init settings) before = some t → Exclusive t
  own : Meets runnersStep DeletesOwn (Runners.init settings) as

/-- A lock is inserted when the one in force, if there is one, is not of a runner at work,
and not newer than the clock of the insert. -/
def TakesFreeLock (s : Runners) : RunnersAction → Prop
  | .start _ => True
  | .step i answer => ∀ p ∈ s.procs[i]?, ∀ now ∈ p.inserts answer,
      ∀ lock ∈ selectFinal "migration_lock" s.shared,
        lock.row.updatedAt ≤ now ∧ ∀ q ∈ s.procs, q.held ≠ some lock.row

instance (s : Runners) : ∀ a : RunnersAction, Decidable (TakesFreeLock s a)
  | .start _ => isTrue trivial
  | .step i answer => inferInstanceAs (Decidable (∀ p ∈ s.procs[i]?, ∀ now ∈ p.inserts answer,
      ∀ lock ∈ selectFinal "migration_lock" s.shared,
        lock.row.updatedAt ≤ now ∧ ∀ q ∈ s.procs, q.held ≠ some lock.row))

/-- One runner at most is at work, and the lock in force is the one it inserted. -/
structure Locked (s : Runners) : Prop where
  exclusive : Exclusive s
  inForce : ∀ p ∈ s.procs, ∀ lock, p.held = some lock →
    selectFinal "migration_lock" s.shared = some ⟨lock, false⟩

/-! ### What a statement does to the lock -/

theorem selectFinal_insert_of_ne {key : String} {row : SettingsRow}
    {settings : List StoredSetting} (h : row.key ≠ key) :
    selectFinal key (insertSetting row settings) = selectFinal key settings :=
  survivor_append_of_ne _ _ h

/-- An insert is in force when what was there before is not newer. -/
theorem selectFinal_insert_iff {key : String} {row : SettingsRow}
    {settings : List StoredSetting} (hkey : row.key = key) :
    selectFinal key (insertSetting row settings) = some ⟨row, false⟩ ↔
      ∀ r ∈ selectFinal key settings, r.row.updatedAt ≤ row.updatedAt := by
  cases hold : selectFinal key settings with
  | none =>
      have hnew : selectFinal key (insertSetting row settings) = some ⟨row, false⟩ :=
        survivor_append_of_none _ _ hold hkey
      exact ⟨fun _ r hr => (nomatch hr), fun _ => hnew⟩
  | some r =>
      have hnew : selectFinal key (insertSetting row settings) =
          some (if row.updatedAt < r.row.updatedAt then r else ⟨row, false⟩) :=
        survivor_append_of_some _ _ hold hkey
      rw [hnew]
      by_cases hlt : row.updatedAt < r.row.updatedAt
      · rw [if_pos hlt]
        constructor
        · intro heq
          obtain rfl := Option.some.inj heq
          exact absurd hlt (lt_irrefl _)
        · intro hle
          exact absurd (hle r rfl) (not_le.mpr hlt)
      · rw [if_neg hlt]
        refine ⟨fun _ q hq => ?_, fun _ => rfl⟩
        obtain rfl := Option.some.inj hq
        exact not_lt.mp hlt

/-! ### What a step does to the lock -/

/-- A step inserts a lock, leaves the one in force and the runner's own, or ends the work of
the runner. -/
inductive Moves (settings : List StoredSetting) :
    Process → Answer → List StoredSetting → Process → Prop
  | inserts (self : Instance) (now : Int) :
      Moves settings (.run self .insertLock) (.done now) (insertSetting (self.lock now) settings)
        (.run self (.working (self.lock now) .getDbVersion))
  | keeps {p p' : Process} {answer : Answer} {settings' : List StoredSetting}
      (hinserts : p.inserts answer = none) (hheld : p'.held = p.held)
      (hlock : ∀ lock, selectFinal "migration_lock" settings = some ⟨lock, false⟩ →
        selectFinal "migration_lock" settings' = some ⟨lock, false⟩) :
      Moves settings p answer settings' p'
  | ends {p p' : Process} {answer : Answer} {settings' : List StoredSetting}
      (hinserts : p.inserts answer = none) (hworks : p.isWorking = true) (hends : p'.held = none) :
      Moves settings p answer settings' p'

@[simp] theorem held_migrateWorkspaces (lock : SettingsRow) (m : MajorMigration)
    (workspaces : List String) : (migrateWorkspaces lock m workspaces).held = some lock := by
  cases workspaces <;> rfl

@[simp] theorem held_afterSystem (lock : SettingsRow) (m : MajorMigration) :
    (afterSystem lock m).held = some lock := by
  unfold afterSystem
  split <;> rfl

@[simp] theorem held_executeMigration (lock : SettingsRow) (m : MajorMigration) :
    (executeMigration lock m).held = some lock := by
  unfold executeMigration
  split
  · rfl
  · exact held_afterSystem lock m

@[simp] theorem held_afterVersion (lock : SettingsRow) (dbVersion : Option (Option Int)) :
    (afterVersion lock dbVersion).held = some lock := by
  unfold afterVersion
  split
  · rfl
  · rfl
  · split
    · rfl
    · split
      · rfl
      · split
        · rfl
        · exact held_executeMigration lock _

/-- Under its lock a runner leaves the lock as it is, and gives it up only when it is killed. -/
theorem taskStep_held {lock : SettingsRow} {settings settings' : List StoredSetting}
    {task : Task} {answer : Answer} {phase : Phase}
    (h : taskStep lock settings task answer = some (settings', phase)) :
    selectFinal "migration_lock" settings' = selectFinal "migration_lock" settings ∧
      (phase.held = some lock ∨ phase = .killed) := by
  have hsame : ∀ {phase'}, phase'.held = some lock ∨ phase' = .killed →
      some (settings, phase') = some (settings', phase) →
        selectFinal "migration_lock" settings' = selectFinal "migration_lock" settings ∧
          (phase.held = some lock ∨ phase = .killed) := by
    intro phase' hphase heq
    obtain ⟨rfl, rfl⟩ := Prod.mk.inj (Option.some.inj heq)
    exact ⟨rfl, hphase⟩
  cases answer with
  | done now =>
      cases task with
      | getDbVersion => exact hsame (Or.inl (held_afterVersion lock _)) h
      | migrateSystem m =>
          obtain ⟨rfl, rfl⟩ := Prod.mk.inj (Option.some.inj h)
          refine ⟨?_, Or.inl (held_afterSystem lock m)⟩
          split
          · exact storedSurvivor_deleteWhere _ _ fun row hrow => by simp [hrow]
          · rfl
      | getWorkspaces m => exact nomatch h
      | migrateWorkspaces m workspaces => exact hsame (Or.inl (held_migrateWorkspaces lock m _)) h
      | setDbVersion version result =>
          obtain ⟨rfl, rfl⟩ := Prod.mk.inj (Option.some.inj h)
          have hne : "db_major_version" ≠ "migration_lock" := by decide
          exact ⟨selectFinal_insert_of_ne hne, Or.inl rfl⟩
  | workspaces ids =>
      cases task with
      | getWorkspaces m => exact hsame (Or.inl (held_migrateWorkspaces lock m ids)) h
      | _ => exact nomatch h
  | failed => exact hsame (Or.inl rfl) (by cases task <;> exact h)
  | killed => exact hsame (Or.inr rfl) (by cases task <;> exact h)
  | vanishes i => cases task <;> exact nomatch h

/-- **What a step of a process does to the lock.** -/
theorem moves_of_step {settings settings' : List StoredSetting} {p p' : Process} {answer : Answer}
    (h : processStep settings p answer = some (settings', p')) :
    Moves settings p answer settings' p' := by
  cases p with
  | background =>
      cases answer with
      | vanishes i =>
          by_cases hmay : mayVanish SettingsRow.key SettingsRow.updatedAt settings i = true
          · obtain ⟨rfl, rfl⟩ := Prod.mk.inj (Option.some.inj ((if_pos hmay).symm.trans h))
            exact .keeps rfl rfl fun lock hlock => storedSurvivor_vanish _ _ hlock hmay
          · exact nomatch (if_neg hmay).symm.trans h
      | _ => exact nomatch h
  | run self phase =>
      obtain ⟨⟨settings₁, phase'⟩, hrun, heq⟩ := Option.map_eq_some_iff.mp h
      obtain ⟨rfl, rfl⟩ := Prod.mk.inj heq
      have hidle : ∀ {next}, phase.held = none → (Process.run self phase).inserts answer = none →
          Phase.held next = none → some (settings, next) = some (settings₁, phase') →
            Moves settings (.run self phase) answer settings₁ (.run self phase') := by
        intro next hphase hinserts hnext hsame
        obtain ⟨rfl, rfl⟩ := Prod.mk.inj (Option.some.inj hsame)
        exact .keeps hinserts (hnext.trans hphase.symm) fun lock hlock => hlock
      cases phase with
      | ensureSystemDatabase attempt =>
          cases answer with
          | done now => exact hidle rfl rfl rfl hrun
          | failed =>
              refine hidle rfl rfl ?_ hrun
              split <;> rfl
          | killed => exact hidle rfl rfl rfl hrun
          | _ => exact nomatch hrun
      | readLock =>
          cases answer with
          | done now =>
              refine hidle rfl rfl ?_ hrun
              cases selectFinal "migration_lock" settings with
              | none => rfl
              | some lock =>
                  show Phase.held (if _ then _ else _) = none
                  split <;> rfl
          | failed => exact hidle rfl rfl rfl hrun
          | killed => exact hidle rfl rfl rfl hrun
          | _ => exact nomatch hrun
      | insertLock =>
          cases answer with
          | done now =>
              obtain ⟨rfl, rfl⟩ := Prod.mk.inj (Option.some.inj hrun)
              exact .inserts self now
          | failed => exact hidle rfl rfl rfl hrun
          | killed => exact hidle rfl rfl rfl hrun
          | _ => exact nomatch hrun
      | working lock task =>
          obtain ⟨hlock, hheld | rfl⟩ := taskStep_held hrun
          · exact .keeps rfl hheld fun own hown => hlock.trans hown
          · exact .ends rfl rfl rfl
      | releaseLock lock result =>
          cases answer with
          | done now =>
              obtain ⟨rfl, rfl⟩ := Prod.mk.inj (Option.some.inj hrun)
              refine .ends rfl rfl ?_
              cases result <;> rfl
          | failed =>
              obtain ⟨rfl, rfl⟩ := Prod.mk.inj (Option.some.inj hrun)
              exact .ends rfl rfl rfl
          | killed =>
              obtain ⟨rfl, rfl⟩ := Prod.mk.inj (Option.some.inj hrun)
              exact .ends rfl rfl rfl
          | _ => exact nomatch hrun
      | _ => exact nomatch hrun

/-! ### One step -/

theorem working_set {procs : List Process} {i : Nat} {p : Process} (p' : Process)
    (hp : procs[i]? = some p) :
    (procs.set i p').countP Process.isWorking + p.isWorking.toNat =
      procs.countP Process.isWorking + p'.isWorking.toNat := by
  obtain ⟨hi, rfl⟩ := List.getElem?_eq_some_iff.mp hp
  have hle := List.boole_getElem_le_countP (p := Process.isWorking) hi
  rw [List.countP_set hi]
  cases hworks : procs[i].isWorking <;> cases p'.isWorking <;>
    simp only [hworks, Bool.toNat_true, Bool.toNat_false, if_true, if_false,
      Bool.false_eq_true] at hle ⊢ <;> omega

theorem held_eq_none_of_idle {procs : List Process}
    (h : procs.countP Process.isWorking = 0) : ∀ p ∈ procs, p.held = none := by
  intro p hp
  have hidle : ¬p.isWorking = true := List.countP_eq_zero.mp h p hp
  exact Option.not_isSome_iff_eq_none.mp hidle

/-- A lock that is inserted is the only one at work, and in force, exactly when the one that
was in force is free. -/
theorem locked_insert_iff {s : Runners} {i : Nat} {self : Instance} {now : Int}
    (hlocked : Locked s) (hp : s.procs[i]? = some (.run self .insertLock)) :
    Locked ⟨insertSetting (self.lock now) s.shared,
        s.procs.set i (.run self (.working (self.lock now) .getDbVersion))⟩ ↔
      TakesFreeLock s (.step i (.done now)) := by
  have hcount := working_set (.run self (.working (self.lock now) .getDbVersion)) hp
  have hcount' : (s.procs.set i (.run self (.working (self.lock now) .getDbVersion))).countP
      Process.isWorking = s.procs.countP Process.isWorking + 1 := hcount
  have hi : i < s.procs.length := (List.getElem?_eq_some_iff.mp hp).1
  have hforces : selectFinal "migration_lock" (insertSetting (self.lock now) s.shared) =
      some ⟨self.lock now, false⟩ ↔
        ∀ r ∈ selectFinal "migration_lock" s.shared, r.row.updatedAt ≤ now :=
    selectFinal_insert_iff rfl
  constructor
  · intro hlocked' p hp' now' hnow lock hlock
    obtain rfl := Option.some.inj (hp.symm.trans hp')
    obtain rfl := Option.some.inj hnow
    refine ⟨?_, fun q hq hheld => ?_⟩
    · exact hforces.mp (hlocked'.inForce _ (List.mem_set hi _) (self.lock now) rfl) lock hlock
    · have hexclusive : _ ≤ 1 := hlocked'.exclusive
      rw [hcount'] at hexclusive
      have hidle := held_eq_none_of_idle (Nat.le_zero.mp (Nat.le_of_succ_le_succ hexclusive)) q hq
      exact nomatch hidle.symm.trans hheld
  · intro hfree
    have hidle : ∀ q ∈ s.procs, q.held = none := by
      intro q hq
      cases hheld : q.held with
      | none => rfl
      | some lock =>
          have hforce := hlocked.inForce q hq lock hheld
          exact absurd hheld ((hfree _ hp now rfl _ hforce).2 q hq)
    have hzero : s.procs.countP Process.isWorking = 0 :=
      List.countP_eq_zero.mpr fun q hq => by simp [Process.isWorking, hidle q hq]
    refine ⟨?_, fun q hq lock hheld => ?_⟩
    · show _ ≤ 1
      rw [hcount', hzero]
    · rcases List.mem_or_eq_of_mem_set hq with hq | rfl
      · exact nomatch (hidle q hq).symm.trans hheld
      · obtain rfl := Option.some.inj hheld
        exact hforces.mpr fun r hr => (hfree _ hp now rfl r hr).1

/-- **A step keeps the lock with the runner at work exactly when it takes a free one.** -/
theorem locked_step_iff {s t : Runners} {a : RunnersAction} (hlocked : Locked s)
    (h : runnersStep s a = some t) : Locked t ↔ TakesFreeLock s a := by
  obtain ⟨op, rfl, rfl⟩ | ⟨i, answer, p, settings, p', rfl, hp, hstep, rfl⟩ :=
    Interleave.step_cases h
  · refine ⟨fun _ => trivial, fun _ => ⟨?_, fun p hp => ?_⟩⟩
    · show List.countP _ _ ≤ 1
      rw [List.countP_append]
      have hstart : [Process.start op].countP Process.isWorking = 0 := by cases op <;> rfl
      rw [hstart]
      exact hlocked.exclusive
    · rcases List.mem_append.mp hp with hp | hp
      · exact hlocked.inForce p hp
      · obtain rfl := List.mem_singleton.mp hp
        intro lock hheld
        cases op <;> exact nomatch hheld
  · have hcount := working_set p' hp
    have hexclusive : s.procs.countP Process.isWorking ≤ 1 := hlocked.exclusive
    have hfree : p.inserts answer = none → TakesFreeLock s (.step i answer) := by
      intro hinserts q hq now hnow
      obtain rfl := Option.some.inj (hp.symm.trans hq)
      exact nomatch hinserts.symm.trans hnow
    cases moves_of_step hstep with
    | inserts self now => exact locked_insert_iff hlocked hp
    | keeps hinserts hheld hlock =>
        refine ⟨fun _ => hfree hinserts, fun _ => ⟨?_, fun q hq lock hqheld => ?_⟩⟩
        · have hworks : p'.isWorking = p.isWorking := congrArg Option.isSome hheld
          rw [hworks] at hcount
          exact (Nat.add_right_cancel hcount).trans_le hexclusive
        · rcases List.mem_or_eq_of_mem_set hq with hq | rfl
          · exact hlock lock (hlocked.inForce q hq lock hqheld)
          · exact hlock lock
              (hlocked.inForce p (List.mem_of_getElem? hp) lock (hheld.symm.trans hqheld))
    | ends hinserts hworks hends =>
        have hidle : p'.isWorking = false := congrArg Option.isSome hends
        rw [hworks, hidle] at hcount
        simp only [Bool.toNat_true, Bool.toNat_false] at hcount
        have hzero : (s.procs.set i p').countP Process.isWorking = 0 := by omega
        refine ⟨fun _ => hfree hinserts, fun _ => ⟨?_, fun q hq lock hqheld => ?_⟩⟩
        · exact hzero.trans_le (Nat.zero_le 1)
        · exact nomatch (held_eq_none_of_idle hzero q hq).symm.trans hqheld

/-- A step that cannot be taken takes no lock. -/
theorem free_of_none {s : Runners} {a : RunnersAction} (h : runnersStep s a = none) :
    TakesFreeLock s a := by
  cases a with
  | start op => trivial
  | step i answer =>
      intro p hp now hnow
      have hnone := Interleave.proc_eq_none h hp
      cases p with
      | background => exact nomatch hnow
      | run self phase =>
          cases phase with
          | insertLock =>
              cases answer with
              | done now' => exact nomatch hnone
              | _ => exact nomatch hnow
          | _ => exact nomatch hnow

/-- A runner that finds its own lock in force deletes no other. -/
theorem deletesOwn_of_locked {s : Runners} (hlocked : Locked s) (a : RunnersAction) :
    DeletesOwn s a := by
  cases a with
  | start op => trivial
  | step i answer =>
      intro p hp own hown lock hlock
      have hheld : p.held = some own := by
        cases p with
        | background => exact nomatch hown
        | run self phase =>
            cases phase with
            | releaseLock lock' result =>
                cases answer with
                | done now => exact hown
                | _ => exact nomatch hown
            | _ => exact nomatch hown
      have hforce := hlocked.inForce p (List.mem_of_getElem? hp) own hheld
      obtain rfl := Option.some.inj (hforce.symm.trans hlock)
      rfl

/-! ### Runs -/

theorem locked_init (settings : List StoredSetting) : Locked (Runners.init settings) :=
  ⟨Nat.zero_le 1, fun _ hp => absurd hp List.not_mem_nil⟩

/-- **The lock in force is that of the one runner at work all along a run exactly when every
lock is inserted in place of a free one.** -/
theorem always_locked_iff (settings : List StoredSetting) (as : List RunnersAction) :
    (∀ before t, before <+: as → exec runnersStep (Runners.init settings) before = some t →
        Locked t) ↔
      Meets runnersStep TakesFreeLock (Runners.init settings) as :=
  always_iff_meets (I := fun _ => True) (fun _ _ _ _ _ => trivial)
    (fun _ _ _ _ hlocked h => locked_step_iff hlocked h) (fun _ _ h => free_of_none h) trivial
    (locked_init settings)

/-- **Migrations exclude each other in every run that inserts locks in place of free ones
only.** -/
theorem excludes_of_free {settings : List StoredSetting} {as : List RunnersAction}
    (h : Meets runnersStep TakesFreeLock (Runners.init settings) as) : Excludes settings as where
  exclusive := fun before t hbefore ht =>
    ((always_locked_iff settings as).mpr h before t hbefore ht).exclusive
  own := meets_of_invariant (fun _ _ _ hlocked hfree hs => (locked_step_iff hlocked hs).mpr hfree)
    (fun _ a hlocked _ => deletesOwn_of_locked hlocked a) (locked_init settings) h

namespace TakeoverExample

def settings : List StoredSetting := [⟨⟨"db_major_version", "11", 0⟩, false⟩]

def blue : Instance := ⟨"blue", 1, 12⟩

def green : Instance := ⟨"green", 1, 12⟩

/-- Both read before either inserts. -/
def race : List RunnersAction :=
  [.start (.run blue), .start (.run green), .step 0 (.done 1000), .step 1 (.done 1000),
   .step 0 (.done 1010), .step 1 (.done 1020), .step 0 (.done 1030), .step 1 (.done 1040)]

/-- The first migrates for longer than five minutes.  The second takes over, finds the version
it left, and the first deletes the lock of the second when it is through. -/
def overrun : List RunnersAction :=
  [.start (.run blue), .step 0 (.done 1000), .step 0 (.done 1000), .step 0 (.done 1000),
   .step 0 (.done 1100), .step 0 (.workspaces ["ws_1"]),
   .start (.run green), .step 1 (.done 301000), .step 1 (.done 301000), .step 1 (.done 301010),
   .step 0 (.done 320000), .step 0 (.done 320010), .step 0 (.done 320020)]

/-- **Two runners are at work, and one deletes the lock of the other.** -/
theorem takeover_breaks_exclusion : ¬ Excludes settings race ∧ ¬ Excludes settings overrun ∧
    ¬ Meets runnersStep DeletesOwn (Runners.init settings) overrun := by
  have hboth : ∃ t, exec runnersStep (Runners.init settings) race = some t ∧ ¬ Exclusive t :=
    ⟨_, rfl, by decide +kernel⟩
  have hdeletes : ¬ Meets runnersStep DeletesOwn (Runners.init settings) overrun := by
    decide +kernel
  refine ⟨fun h => ?_, fun h => hdeletes h.own, hdeletes⟩
  obtain ⟨t, ht, hnot⟩ := hboth
  exact hnot (h.exclusive race t (List.prefix_refl _) ht)

/-- The first is killed at work.  The second gives up while that lock is young, and a third
takes it over when it has expired. -/
def recovery : List RunnersAction :=
  [.start (.run blue), .step 0 (.done 1000), .step 0 (.done 1000), .step 0 (.done 1000),
   .step 0 .killed, .start (.run green), .step 1 (.done 2000), .step 1 (.done 2000),
   .start (.run green), .step 2 (.done 301000), .step 2 (.done 301000), .step 2 (.done 301010),
   .step 2 (.done 301100), .step 2 (.workspaces []), .step 2 (.done 301200),
   .step 2 (.done 301300)]

/-- It takes the only lock there is, and deletes its own. -/
theorem excludes_recovery :
    Meets runnersStep TakesFreeLock (Runners.init settings) recovery ∧
      Excludes settings recovery := by
  have hfree : Meets runnersStep TakesFreeLock (Runners.init settings) recovery := by
    decide +kernel
  exact ⟨hfree, excludes_of_free hfree⟩

end TakeoverExample

end Veridian.MigrationsRunner
