/-
The operations on an account, interleaved.

`updateProfile`, `changePassword`, `recordLogin`, `recordFailedLogin` and `delete` all read
the row of a user, think, and insert the row they read with their own columns changed.
Nothing locks the user in between, so an insert carries every other column back to what it
was at the read.  A call is a process with one step for the read, one for the insert, and
for `updateProfile` one more for the query whether the new address is taken.

The store keeps beside the table a log of the calls that have inserted, each with the row
it had read.  What the calls are to leave behind is stated over that log, and `Keeps` is
what an insert has to meet to leave it.
-/
import Veridian.Users.UserRows
import Veridian.Lib.Interleave

namespace Veridian

open UsersService

/-! ### The calls -/

inductive UserOp where
  | updateProfile (userId : String) (dto : UpdateProfileDto)
  | changePassword (userId : String) (dto : ChangePasswordDto)
  | recordLogin (userId : String)
  | recordFailedLogin (email : String)
  | delete (userId deletedBy : String)
  deriving DecidableEq

namespace UserOp

def changesPassword : UserOp → Bool
  | .changePassword _ _ => true
  | _ => false

def deletes : UserOp → Bool
  | .delete _ _ => true
  | _ => false

def logsIn : UserOp → Bool
  | .recordLogin _ => true
  | _ => false

def failsLogin : UserOp → Bool
  | .recordFailedLogin _ => true
  | _ => false

end UserOp

/-- How far a call has come. -/
inductive UserCall where
  | read (op : UserOp)
  /-- `updateProfile` before it asks whether the new address is taken. -/
  | checkEmail (userId : String) (dto : UpdateProfileDto) (user : UserRow)
  | insert (op : UserOp) (user : UserRow)
  /-- The call has inserted and returned; `user` is the row it had read. -/
  | returned (op : UserOp) (user : UserRow)
  /-- The call threw, or had nothing to do. -/
  | ended
  deriving DecidableEq

/-- What a step takes from outside: the clock, and the hash `hashPassword` returns. -/
structure UserInput where
  now : Int
  newHash : String := ""

structure Accounts where
  users : List UserRow
  /-- The calls that have inserted, in that order, each with the row it had read. -/
  log : List (UserOp × UserRow)
  deriving DecidableEq

section Calls

variable (host : Host) (verifyPassword : String → String → Bool)

/-- The read of a call, and the checks on what it finds. -/
def UserOp.read (op : UserOp) (users : List UserRow) : UserCall :=
  match op with
  | .updateProfile userId dto =>
      match findById users userId with
      | none => .ended
      | some user =>
          match dto.email.filter fun email => email ≠ "" with
          | none => .insert op user
          | some email =>
              if host.toLowerCase email ≠ user.email then .checkEmail userId dto user
              else .insert op user
  | .changePassword userId dto =>
      match findById users userId with
      | none => .ended
      | some user =>
          match user.passwordHash.filter fun hash => hash ≠ "" with
          | none => .ended
          | some hash =>
              if verifyPassword dto.currentPassword hash = false then .ended
              else if dto.currentPassword = dto.newPassword then .ended
              else .insert op user
  | .recordLogin userId =>
      match findById users userId with
      | none => .ended
      | some user => .insert op user
  | .recordFailedLogin email =>
      match findByEmail host users email with
      | none => .ended
      | some user => .insert op user
  | .delete userId _ =>
      match findById users userId with
      | none => .ended
      | some user => .insert op user

/-- The row a call inserts, made from the row it had read. -/
def UserOp.row (op : UserOp) (user : UserRow) (input : UserInput) : UserRow :=
  match op with
  | .updateProfile _ dto => updatedProfile host user dto input.now
  | .changePassword _ _ => changedPassword user input.newHash input.now
  | .recordLogin _ => recordedLogin user input.now
  | .recordFailedLogin _ => recordedFailedLogin user input.now
  | .delete _ deletedBy => deleted user deletedBy input.now

/-- bcrypt draws a salt for every hash and puts it in, so what it returns is new. -/
def UserOp.hashIsNew (op : UserOp) (users : List UserRow) (input : UserInput) : Bool :=
  !op.changesPassword || users.all fun row => row.passwordHash ≠ some input.newHash

def userStep (s : Accounts) : UserCall → UserInput → Option (Accounts × UserCall)
  | .read op, _ => some (s, op.read host verifyPassword s.users)
  | .checkEmail userId dto user, _ =>
      if (findByEmail host s.users (dto.email.getD "")).isSome then some (s, .ended)
      else some (s, .insert (.updateProfile userId dto) user)
  | .insert op user, input =>
      if op.hashIsNew s.users input then
        some (⟨s.users ++ [op.row host user input], s.log ++ [(op, user)]⟩, .returned op user)
      else none
  | .returned _ _, _ => none
  | .ended, _ => none

abbrev AccountsAction := Interleave.Action UserOp UserInput

def accountsStep :
    Interleave.State Accounts UserCall → AccountsAction → Option (Interleave.State Accounts UserCall) :=
  Interleave.step UserCall.read (userStep host verifyPassword)

end Calls

/-- Any table of users, and no call yet. -/
def Accounts.init (users : List UserRow) : Interleave.State Accounts UserCall := ⟨⟨users, []⟩, []⟩

/-! ### What the calls are to leave behind -/

namespace Accounts

/-- The hashes that a `changePassword` of the user has replaced. -/
def retired (s : Accounts) (id : String) : List (Option String) :=
  (s.log.filter fun entry => entry.1.changesPassword && entry.2.id = id).map (·.2.passwordHash)

def isDeleted (s : Accounts) (id : String) : Bool :=
  s.log.any fun entry => entry.1.deletes && entry.2.id = id

def countFailure (id : String) (n : Nat) (entry : UserOp × UserRow) : Nat :=
  if entry.2.id ≠ id then n
  else if entry.1.logsIn then 0
  else if entry.1.failsLogin then n + 1
  else n

/-- The failed logins of a user without a success in between. -/
def failures (s : Accounts) (id : String) : Nat := s.log.foldl (countFailure id) 0

/-- The surviving row has what the calls that have inserted were to leave in it. -/
structure Kept (s : Accounts) (id : String) (row : UserRow) : Prop where
  password : row.passwordHash ∉ s.retired id
  deleted : s.isDeleted id = true → row.deletedAt ≠ none
  attempts : s.failures id ≤ row.failedLoginAttempts.toNat

/-- Nothing a call copies has been changed since its read. -/
def UpToDate (s : Accounts) (op : UserOp) (user : UserRow) : Prop :=
  (op.changesPassword = true ∨ user.passwordHash ∉ s.retired user.id) ∧
    (op.deletes = true ∨ s.isDeleted user.id = false) ∧
    (op.logsIn = true ∨ s.failures user.id ≤ user.failedLoginAttempts.toNat) ∧
    (op.failsLogin = true → user.failedLoginAttempts.toNat < 255)

/-- The surviving row `row` has what the call is to change already. -/
def Covered (s : Accounts) (op : UserOp) (user row : UserRow) : Prop :=
  (op.changesPassword = true → row.passwordHash ≠ user.passwordHash) ∧
    (op.deletes = true → row.deletedAt ≠ none) ∧
    (op.failsLogin = true → s.failures user.id < row.failedLoginAttempts.toNat)

/-- What an insert has to meet.  The row it inserts replaces the surviving one unless the
clock is behind that one. -/
def Keeps (s : Accounts) : UserCall → UserInput → Prop
  | .insert op user, input => ∀ row ∈ survivor user.id s.users,
      if input.now < row.updatedAt then s.Covered op user row else s.UpToDate op user
  | _, _ => True

instance (s : Accounts) (op : UserOp) (user : UserRow) : Decidable (s.UpToDate op user) :=
  inferInstanceAs (Decidable (_ ∧ _))

instance (s : Accounts) (op : UserOp) (user row : UserRow) : Decidable (s.Covered op user row) :=
  inferInstanceAs (Decidable (_ ∧ _))

instance (s : Accounts) (input : UserInput) : ∀ p : UserCall, Decidable (s.Keeps p input)
  | .insert _ user => inferInstanceAs (Decidable (∀ row ∈ survivor user.id s.users, _))
  | .read _ => isTrue trivial
  | .checkEmail _ _ _ => isTrue trivial
  | .returned _ _ => isTrue trivial
  | .ended => isTrue trivial

end Accounts

/-! ### One insert -/

section Rows

variable (host : Host) (op : UserOp) (user : UserRow) (input : UserInput)

@[simp] theorem UserOp.row_id : (op.row host user input).id = user.id := by
  cases op <;> rfl

@[simp] theorem UserOp.row_updatedAt : (op.row host user input).updatedAt = input.now := by
  cases op <;> rfl

theorem UserOp.row_passwordHash : (op.row host user input).passwordHash =
    if op.changesPassword then some input.newHash else user.passwordHash := by
  cases op <;> rfl

theorem UserOp.row_deletedAt : (op.row host user input).deletedAt =
    if op.deletes then some input.now else user.deletedAt := by
  cases op <;> rfl

theorem UserOp.row_attempts (h : op.failsLogin = true → user.failedLoginAttempts.toNat < 255) :
    (op.row host user input).failedLoginAttempts.toNat =
      if op.logsIn then 0
      else if op.failsLogin then user.failedLoginAttempts.toNat + 1
      else user.failedLoginAttempts.toNat := by
  cases op with
  | recordFailedLogin email => exact recordedFailedLogin_attempts input.now (h rfl)
  | updateProfile userId dto => rfl
  | changePassword userId dto => rfl
  | recordLogin userId => rfl
  | delete userId deletedBy => rfl

end Rows

namespace Accounts

variable {s : Accounts} {op : UserOp} {user row : UserRow} {id : String}

/-- The store after a call has inserted `row`. -/
def inserted (s : Accounts) (op : UserOp) (user row : UserRow) : Accounts :=
  ⟨s.users ++ [row], s.log ++ [(op, user)]⟩

theorem mem_retired_inserted {hash : Option String} :
    hash ∈ (s.inserted op user row).retired id ↔
      hash ∈ s.retired id ∨ op.changesPassword = true ∧ user.id = id ∧ hash = user.passwordHash := by
  simp only [retired, inserted, List.filter_append, List.map_append, List.mem_append]
  refine or_congr_right ?_
  rw [List.filter_cons]
  by_cases h : op.changesPassword = true ∧ user.id = id
  · simp [h]
  · have hneg : ¬(op.changesPassword && decide (user.id = id)) = true := by simpa using h
    rw [if_neg hneg]
    simp only [List.filter_nil, List.map_nil, List.not_mem_nil, false_iff]
    exact fun hc => h ⟨hc.1, hc.2.1⟩

theorem isDeleted_inserted : (s.inserted op user row).isDeleted id = true ↔
    s.isDeleted id = true ∨ op.deletes = true ∧ user.id = id := by
  simp [isDeleted, inserted, List.any_append]

theorem failures_inserted :
    (s.inserted op user row).failures id = countFailure id (s.failures id) (op, user) := by
  simp only [failures, inserted, List.foldl_append, List.foldl_cons, List.foldl_nil]

/-- An insert says nothing about another user. -/
theorem Kept.inserted_of_ne {x : UserRow} (h : s.Kept id row) (hne : user.id ≠ id) :
    (s.inserted op user x).Kept id row := by
  refine ⟨?_, ?_, ?_⟩
  · rw [mem_retired_inserted]
    exact fun hc => hc.elim h.password fun hnew => hne hnew.2.1
  · rw [isDeleted_inserted]
    exact fun hc => hc.elim h.deleted fun hnew => absurd hnew.2 hne
  · rw [failures_inserted, countFailure, if_pos hne]
    exact h.attempts

/-- A surviving row that has what the call is to change keeps it. -/
theorem Kept.inserted_of_covered {x : UserRow} (h : s.Kept user.id row)
    (hc : s.Covered op user row) : (s.inserted op user x).Kept user.id row := by
  obtain ⟨hpassword, hdeleted, hattempts⟩ := hc
  refine ⟨?_, ?_, ?_⟩
  · rw [mem_retired_inserted]
    exact fun hc => hc.elim h.password fun hnew => hpassword hnew.1 hnew.2.2
  · rw [isDeleted_inserted]
    exact fun hc => hc.elim h.deleted fun hnew => hdeleted hnew.1
  · rw [failures_inserted, countFailure, if_neg (not_not.mpr rfl)]
    split
    · exact Nat.zero_le _
    · split
      · rename_i hfail
        exact hattempts hfail
      · exact h.attempts

/-- A row made from one that is up to date has what all the calls were to leave. -/
theorem Kept.inserted_of_upToDate {host : Host} {input : UserInput} (h : s.UpToDate op user)
    (hlog : ∀ entry ∈ s.log, entry.2 ∈ s.users) (huser : user ∈ s.users)
    (hnew : op.hashIsNew s.users input = true) :
    (s.inserted op user (op.row host user input)).Kept user.id (op.row host user input) := by
  obtain ⟨hpassword, hdeleted, hattempts, hfits⟩ := h
  refine ⟨?_, ?_, ?_⟩
  · rw [mem_retired_inserted, UserOp.row_passwordHash]
    by_cases hop : op.changesPassword = true
    · -- a new hash is none that has ever been stored
      have hstored : ∀ r ∈ s.users, some input.newHash ≠ r.passwordHash := by
        rw [UserOp.hashIsNew, hop] at hnew
        intro r hr heq
        exact of_decide_eq_true (List.all_eq_true.mp hnew r hr) heq.symm
      rw [if_pos hop]
      rintro (hc | ⟨-, -, hc⟩)
      · obtain ⟨entry, hentry, hhash⟩ := List.mem_map.mp hc
        exact hstored _ (hlog _ (List.mem_of_mem_filter hentry)) hhash.symm
      · exact hstored _ huser hc
    · rw [if_neg hop]
      exact fun hc => hc.elim (hpassword.resolve_left hop) fun hnew => hop hnew.1
  · rw [isDeleted_inserted, UserOp.row_deletedAt]
    by_cases hop : op.deletes = true
    · rw [if_pos hop]
      exact fun _ => Option.some_ne_none _
    · rintro (hc | hc)
      · rw [hdeleted.resolve_left hop] at hc
        exact Bool.noConfusion hc
      · exact absurd hc.1 hop
  · rw [failures_inserted, countFailure, if_neg (not_not.mpr rfl), UserOp.row_attempts _ _ _ _ hfits]
    split
    · exact Nat.le_refl 0
    · rename_i hlogs
      have hle := hattempts.resolve_left hlogs
      split
      · exact Nat.succ_le_succ hle
      · exact hle

/-! ### The invariant -/

/-- The surviving rows have what the log says, and what it says comes from the table. -/
structure Inv (s : Accounts) : Prop where
  kept : ∀ id row, survivor id s.users = some row → s.Kept id row
  stored : ∀ entry ∈ s.log, entry.2 ∈ s.users

/-- What a call knows: the row it has read is stored, and an inserted call is logged. -/
def Knows (s : Accounts) : UserCall → Prop
  | .checkEmail _ _ user => user ∈ s.users
  | .insert _ user => user ∈ s.users
  | .returned op user => (op, user) ∈ s.log
  | _ => True

theorem knows_inserted {p : UserCall} (h : s.Knows p) : (s.inserted op user row).Knows p := by
  cases p with
  | checkEmail userId dto u => exact List.mem_append_left _ h
  | insert op u => exact List.mem_append_left _ h
  | returned op u => exact List.mem_append_left _ h
  | read op => exact trivial
  | ended => exact trivial

/-- A call reads a row that is stored. -/
theorem knows_read {host : Host} {verifyPassword : String → String → Bool} :
    s.Knows (op.read host verifyPassword s.users) := by
  have hstored : ∀ {u : UserRow}, survivor u.id s.users = some u ∧ u.deletedAt = none →
      u ∈ s.users := fun h => (mem_of_survivor h.1).1
  cases op with
  | updateProfile userId dto =>
      unfold UserOp.read
      dsimp only
      rcases hu : findById s.users userId with _ | u
      · exact trivial
      · have hknown := hstored (survivor_of_findById hu)
        dsimp only
        split
        · exact hknown
        · split
          · exact hknown
          · exact hknown
  | changePassword userId dto =>
      unfold UserOp.read
      dsimp only
      rcases hu : findById s.users userId with _ | u
      · exact trivial
      · have hknown := hstored (survivor_of_findById hu)
        dsimp only
        split
        · exact trivial
        · split
          · exact trivial
          · split
            · exact trivial
            · exact hknown
  | recordLogin userId =>
      unfold UserOp.read
      dsimp only
      rcases hu : findById s.users userId with _ | u
      · exact trivial
      · exact hstored (survivor_of_findById hu)
  | recordFailedLogin email =>
      unfold UserOp.read
      dsimp only
      rcases hu : findByEmail host s.users email with _ | u
      · exact trivial
      · exact hstored (survivor_of_findByEmail hu)
  | delete userId deletedBy =>
      unfold UserOp.read
      dsimp only
      rcases hu : findById s.users userId with _ | u
      · exact trivial
      · exact hstored (survivor_of_findById hu)

/-- An insert that meets `Keeps` keeps the invariant. -/
theorem inv_inserted {host : Host} {input : UserInput} (hs : s.Inv)
    (hknows : s.Knows (.insert op user)) (hkeeps : s.Keeps (.insert op user) input)
    (hnew : op.hashIsNew s.users input = true) :
    (s.inserted op user (op.row host user input)).Inv := by
  refine ⟨fun id row hrow => ?_, fun entry hentry => ?_⟩
  · by_cases hid : user.id = id
    · subst hid
      obtain ⟨cur, hcur⟩ : ∃ cur, survivor user.id s.users = some cur :=
        Option.isSome_iff_exists.mp ((Replacing.survivor_isSome_iff UserRow.id UserRow.updatedAt).mpr
          ⟨user, hknows, rfl⟩)
      have hnext : some row = some (if input.now < cur.updatedAt then cur
          else op.row host user input) := by
        rw [← hrow, ← UserOp.row_updatedAt host op user input]
        exact Replacing.survivor_append_of_some UserRow.id UserRow.updatedAt hcur
          (UserOp.row_id host op user input)
      have hmeets := hkeeps cur hcur
      rw [Option.some.inj hnext]
      split
      · rename_i hbehind
        rw [if_pos hbehind] at hmeets
        exact (hs.kept _ _ hcur).inserted_of_covered hmeets
      · rename_i hahead
        rw [if_neg hahead] at hmeets
        exact Kept.inserted_of_upToDate hmeets hs.stored hknows hnew
    · have hsame : survivor id s.users = some row := by
        rw [← hrow]
        exact (Replacing.survivor_append_of_ne UserRow.id UserRow.updatedAt
          (by rwa [UserOp.row_id])).symm
      exact (hs.kept id row hsame).inserted_of_ne hid
  · rcases List.mem_append.mp hentry with h | h
    · exact List.mem_append_left _ (hs.stored entry h)
    · rw [List.mem_singleton.mp h]
      exact List.mem_append_left _ hknows

/-- One step of a call. -/
theorem inv_userStep {host : Host} {verifyPassword : String → String → Bool} {p p' : UserCall}
    {input : UserInput} {t : Accounts} (hs : s.Inv) (hp : s.Knows p) (hkeeps : s.Keeps p input)
    (h : userStep host verifyPassword s p input = some (t, p')) :
    t.Inv ∧ t.Knows p' ∧ ∀ q, s.Knows q → t.Knows q := by
  cases p with
  | read op =>
      obtain ⟨rfl, rfl⟩ : s = t ∧ op.read host verifyPassword s.users = p' := by
        simpa [userStep] using h
      exact ⟨hs, knows_read, fun q hq => hq⟩
  | checkEmail userId dto user =>
      rw [userStep] at h
      split at h
      · obtain ⟨rfl, rfl⟩ : s = t ∧ UserCall.ended = p' := by simpa using h
        exact ⟨hs, trivial, fun q hq => hq⟩
      · obtain ⟨rfl, rfl⟩ : s = t ∧ UserCall.insert (.updateProfile userId dto) user = p' := by
          simpa using h
        exact ⟨hs, hp, fun q hq => hq⟩
  | insert op user =>
      rw [userStep] at h
      split at h
      · rename_i hnew
        obtain ⟨rfl, rfl⟩ : s.inserted op user (op.row host user input) = t ∧
            UserCall.returned op user = p' := by simpa [inserted] using h
        exact ⟨inv_inserted hs hp hkeeps hnew, List.mem_append_right _ List.mem_cons_self,
          fun q hq => knows_inserted hq⟩
      · exact absurd h (by simp)
  | returned op user => exact absurd h (by simp [userStep])
  | ended => exact absurd h (by simp [userStep])

theorem mem_retired {entry : UserOp × UserRow} (h : entry ∈ s.log)
    (hop : entry.1.changesPassword = true) : entry.2.passwordHash ∈ s.retired entry.2.id :=
  List.mem_map.mpr ⟨entry, List.mem_filter.mpr ⟨h, by simp [hop]⟩, rfl⟩

theorem isDeleted_of_mem {entry : UserOp × UserRow} (h : entry ∈ s.log)
    (hop : entry.1.deletes = true) : s.isDeleted entry.2.id = true :=
  List.any_eq_true.mpr ⟨entry, h, by simp [hop]⟩

end Accounts

/-- What has returned is not undone: the password a `changePassword` replaced is not back, a
deleted user is still deleted, and the failed logins since the last success are counted. -/
structure AccountsKept (t : Interleave.State Accounts UserCall) : Prop where
  password : ∀ userId dto user, .returned (.changePassword userId dto) user ∈ t.procs →
    ∀ row, survivor user.id t.shared.users = some row → row.passwordHash ≠ user.passwordHash
  deleted : ∀ userId deletedBy user, .returned (.delete userId deletedBy) user ∈ t.procs →
    ∀ row, survivor user.id t.shared.users = some row → row.deletedAt ≠ none
  attempts : ∀ id row, survivor id t.shared.users = some row →
    t.shared.failures id ≤ row.failedLoginAttempts.toNat

/-- **Where every insert meets `Keeps`, no update of an account is lost.** -/
theorem account_updates_kept (host : Host) (verifyPassword : String → String → Bool)
    (users : List UserRow) (as : List AccountsAction) (t : Interleave.State Accounts UserCall)
    (hmeets : Machine.Meets (accountsStep host verifyPassword)
      (Interleave.Guarded Accounts.Keeps) (Accounts.init users) as)
    (h : Machine.exec (accountsStep host verifyPassword) (Accounts.init users) as = some t) :
    AccountsKept t := by
  have hinit : Interleave.Holds Accounts.Inv Accounts.Knows (Accounts.init users) := by
    refine ⟨⟨fun id row _ => ⟨?_, ?_, ?_⟩, ?_⟩, ?_⟩
    · exact List.not_mem_nil
    · exact fun hc => Bool.noConfusion hc
    · exact Nat.zero_le _
    · exact fun entry hentry => absurd hentry List.not_mem_nil
    · exact fun p hp => absurd hp List.not_mem_nil
  obtain ⟨hinv, hknows⟩ := Interleave.exec_holds (fun _ _ _ => trivial)
    (fun _ _ _ _ _ hI hL hC hstep => Accounts.inv_userStep hI hL hC hstep) hinit hmeets h
  refine ⟨fun userId dto user hp row hrow heq => ?_, fun userId deletedBy user hp row hrow => ?_,
    fun id row hrow => (hinv.kept id row hrow).attempts⟩
  · have hlog : (UserOp.changePassword userId dto, user) ∈ t.shared.log := hknows _ hp
    exact (hinv.kept _ _ hrow).password (heq ▸ Accounts.mem_retired hlog rfl)
  · have hlog : (UserOp.delete userId deletedBy, user) ∈ t.shared.log := hknows _ hp
    exact (hinv.kept _ _ hrow).deleted (Accounts.isDeleted_of_mem hlog rfl)

namespace AccountExample

def ada : UserRow where
  id := "u1"
  email := "ada@acme.io"
  passwordHash := some "$2b$old"
  name := "Ada"
  type := .user
  status := .active
  isSuperAdmin := false
  lastLoginAt := none
  failedLoginAttempts := 0
  lockedUntil := none
  passwordChangedAt := none
  deletedAt := none
  deletedBy := none
  createdAt := 0
  updatedAt := 0

/-- `bcrypt.compare` on the one password here. -/
def verify (password hash : String) : Bool := password = "old" ∧ hash = "$2b$old"

def dto : ChangePasswordDto := ⟨"old", "new"⟩

/-- A login and a change of the password read the same row; the login inserts last. -/
def lateLogin : List AccountsAction :=
  [.start (.recordLogin "u1"), .start (.changePassword "u1" dto),
    .step 0 ⟨10, ""⟩, .step 1 ⟨10, ""⟩, .step 1 ⟨20, "$2b$new"⟩, .step 0 ⟨30, ""⟩]

/-- Two failed logins read the same row. -/
def lostFailure : List AccountsAction :=
  [.start (.recordFailedLogin "ada@acme.io"), .start (.recordFailedLogin "ada@acme.io"),
    .step 0 ⟨10, ""⟩, .step 1 ⟨10, ""⟩, .step 0 ⟨20, ""⟩, .step 1 ⟨30, ""⟩]

/-- A change of the name reads the row before the user is deleted, and inserts after. -/
def undoneDelete : List AccountsAction :=
  [.start (.updateProfile "u1" ⟨some "Ada L.", none⟩), .start (.delete "u1" "u0"),
    .step 0 ⟨10, ""⟩, .step 1 ⟨10, ""⟩, .step 1 ⟨20, ""⟩, .step 0 ⟨30, ""⟩]

/-- One call after the other. -/
def inTurn : List AccountsAction :=
  [.start (.recordLogin "u1"), .start (.changePassword "u1" dto),
    .step 0 ⟨10, ""⟩, .step 0 ⟨10, ""⟩, .step 1 ⟨20, ""⟩, .step 1 ⟨20, "$2b$new"⟩]

def run (as : List AccountsAction) : Option (Interleave.State Accounts UserCall) :=
  Machine.exec (accountsStep Host.bare verify) (Accounts.init [ada]) as

/-- What is left of the row of the user. -/
def left (t : Interleave.State Accounts UserCall) : Option (Option String × Option Int × Nat) :=
  (survivor "u1" t.shared.users).map fun row =>
    (row.passwordHash, row.deletedAt, row.failedLoginAttempts.toNat)

end AccountExample

open AccountExample in
/-- The old password is back, the user is not deleted any more, and of two failed logins one
is counted. -/
theorem account_update_lost :
    ((run lateLogin).map fun t => (t.procs.contains (.returned (.changePassword "u1" dto) ada),
      left t)) = some (true, some (some "$2b$old", none, 0)) ∧
    ((run undoneDelete).map fun t => (t.procs.contains (.returned (.delete "u1" "u0") ada),
      left t)) = some (true, some (some "$2b$old", none, 0)) ∧
    ((run lostFailure).map fun t => (t.shared.failures "u1", left t)) =
      some (2, some (some "$2b$old", none, 1)) := by
  refine ⟨by decide, by decide, by decide⟩

open AccountExample in
theorem account_updates_kept_inTurn :
    ∃ t, run inTurn = some t ∧ AccountsKept t := by
  obtain ⟨t, ht⟩ : ∃ t, run inTurn = some t := Option.isSome_iff_exists.mp (by decide)
  exact ⟨t, ht, account_updates_kept Host.bare verify [ada] inTurn t (by decide) ht⟩

end Veridian
