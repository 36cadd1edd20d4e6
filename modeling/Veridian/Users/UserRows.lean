/-
The `users` table and what the services read of it and write to it.

`users` is a `ReplacingMergeTree(updated_at)` ordered by `id`, read with `FINAL`.  Each of
the five operations on an account reads the row, and inserts the row it read with a few
columns changed; here are the reads, and the rows they insert.
-/
import Veridian.Auth.Sessions
import Veridian.Host

namespace Veridian

inductive UserType where
  | user | serviceAccount
  deriving DecidableEq, Repr

/-- A row of `users`; times are in milliseconds. -/
structure UserRow where
  id : String
  email : String
  passwordHash : Option String
  name : String
  type : UserType
  status : UserStatus
  isSuperAdmin : Bool
  lastLoginAt : Option Int
  /-- A `UInt8` column: what is inserted counts modulo 256. -/
  failedLoginAttempts : UInt8
  lockedUntil : Option Int
  passwordChangedAt : Option Int
  deletedAt : Option Int
  deletedBy : Option String
  createdAt : Int
  updatedAt : Int
  deriving DecidableEq

/-- What a service throws. -/
inductive ServiceError where
  | notFound (message : String)
  | badRequest (message : String)
  | unauthorized (message : String)
  | forbidden (message : String)
  | conflict (message : String)
  deriving DecidableEq, Repr

structure CreateUserDto where
  email : String
  name : String
  password : String
  deriving DecidableEq

structure UpdateProfileDto where
  name : Option String
  email : Option String
  deriving DecidableEq

structure ChangePasswordDto where
  currentPassword : String
  newPassword : String
  deriving DecidableEq

/-- `a || b` for an optional string and a string. -/
def orElse (a : Option String) (b : String) : String := (a.filter fun s => s ≠ "").getD b

namespace UsersService

/-! ### Reads -/

/-- The row of a user that `users FINAL` holds. -/
def survivor (id : String) (users : List UserRow) : Option UserRow :=
  Replacing.survivor UserRow.id UserRow.updatedAt id users

def usersFinal (users : List UserRow) : List UserRow :=
  Replacing.final UserRow.id UserRow.updatedAt users

def findById (users : List UserRow) (id : String) : Option UserRow :=
  ((usersFinal users).filter fun row => row.id = id ∧ row.deletedAt = none).head?

def findByEmail (host : Host) (users : List UserRow) (email : String) : Option UserRow :=
  ((usersFinal users).filter fun row =>
    row.email = host.toLowerCase email ∧ row.deletedAt = none).head?

theorem mem_of_survivor {id : String} {users : List UserRow} {row : UserRow}
    (h : survivor id users = some row) : row ∈ users ∧ row.id = id :=
  Replacing.survivor_key UserRow.id UserRow.updatedAt h

/-- What a query for a row that is not deleted can find: the row that survives. -/
theorem survivor_of_head? {users : List UserRow} {p : UserRow → Bool} {row : UserRow}
    (hp : ∀ r, p r = true → r.deletedAt = none) (h : ((usersFinal users).filter p).head? = some row) :
    survivor row.id users = some row ∧ row.deletedAt = none := by
  have hmem := List.mem_filter.mp (List.mem_of_mem_head? h)
  exact ⟨(Replacing.mem_final_iff UserRow.id UserRow.updatedAt).mp hmem.1, hp row hmem.2⟩

theorem survivor_of_findById {users : List UserRow} {id : String} {row : UserRow}
    (h : findById users id = some row) :
    survivor row.id users = some row ∧ row.deletedAt = none :=
  survivor_of_head? (fun _ hr => (of_decide_eq_true hr).2) h

theorem survivor_of_findByEmail {host : Host} {users : List UserRow} {email : String}
    {row : UserRow} (h : findByEmail host users email = some row) :
    survivor row.id users = some row ∧ row.deletedAt = none :=
  survivor_of_head? (fun _ hr => (of_decide_eq_true hr).2) h

/-- A user is found by his id when the row that survives is not deleted. -/
theorem findById_of_survivor {users : List UserRow} {id : String} {row : UserRow}
    (h : survivor id users = some row) (halive : row.deletedAt = none) :
    findById users id = some row := by
  have hsplit : (usersFinal users).filter (fun r => decide (r.id = id ∧ r.deletedAt = none)) =
      ((usersFinal users).filter fun r => r.id = id).filter fun r => r.deletedAt = none := by
    rw [List.filter_filter]
    exact List.filter_congr fun _ _ => by rw [Bool.decide_and, Bool.and_comm]
  have hone : (usersFinal users).filter (fun r => decide (r.id = id)) = [row] := by
    rw [usersFinal, Replacing.final_filter_eq_survivor UserRow.id UserRow.updatedAt
      fun _ _ => decide_eq_true_iff]
    exact congrArg Option.toList h
  show ((usersFinal users).filter _).head? = some row
  rw [hsplit, hone]
  simp [halive]

/-- Nobody is found under an address when every row that survives with it is deleted. -/
theorem findByEmail_eq_none_iff {host : Host} {users : List UserRow} {email : String} :
    findByEmail host users email = none ↔ ∀ id row, survivor id users = some row →
      row.email = host.toLowerCase email → row.deletedAt ≠ none := by
  rw [findByEmail, List.head?_eq_none_iff, List.filter_eq_nil_iff]
  constructor
  · intro h id row hrow hemail halive
    have hid : row.id = id := (mem_of_survivor hrow).2
    have hmem : row ∈ usersFinal users :=
      (Replacing.mem_final_iff UserRow.id UserRow.updatedAt).mpr (hid ▸ hrow)
    exact h row hmem (decide_eq_true ⟨hemail, halive⟩)
  · intro h row hmem hp
    obtain ⟨hemail, halive⟩ := of_decide_eq_true hp
    exact h row.id row ((Replacing.mem_final_iff UserRow.id UserRow.updatedAt).mp hmem) hemail
      halive

/-! ### Writes -/

/-- `create`: `id` is what `generateId` returns, and `passwordHash` what `hashPassword` does. -/
def create (host : Host) (users : List UserRow) (dto : CreateUserDto) (id passwordHash : String)
    (now : Int) : Except ServiceError UserRow :=
  let email := host.toLowerCase dto.email
  if (findByEmail host users email).isSome then .error (.conflict "Email already exists")
  else .ok {
    id := id
    email := email
    passwordHash := some passwordHash
    name := dto.name
    type := .user
    status := .active
    isSuperAdmin := false
    lastLoginAt := none
    failedLoginAttempts := 0
    lockedUntil := none
    passwordChangedAt := some now
    deletedAt := none
    deletedBy := none
    createdAt := now
    updatedAt := now }

/-- The row `updateProfile` inserts. -/
def updatedProfile (host : Host) (user : UserRow) (dto : UpdateProfileDto) (now : Int) : UserRow :=
  { user with
    email := orElse (dto.email.map host.toLowerCase) user.email
    name := orElse dto.name user.name
    updatedAt := now }

/-- The row `changePassword` inserts. -/
def changedPassword (user : UserRow) (newHash : String) (now : Int) : UserRow :=
  { user with passwordHash := some newHash, passwordChangedAt := some now, updatedAt := now }

/-- The row `recordLogin` inserts. -/
def recordedLogin (user : UserRow) (now : Int) : UserRow :=
  { user with
    lastLoginAt := some now
    failedLoginAttempts := 0
    lockedUntil := none
    updatedAt := now }

/-- The row `recordFailedLogin` inserts. -/
def recordedFailedLogin (user : UserRow) (now : Int) : UserRow :=
  let attempts := user.failedLoginAttempts.toNat + 1
  -- Lock after 5 failed attempts for 15 minutes
  let lockedUntil := if 5 ≤ attempts then some (now + 15 * 60 * 1000) else none
  { user with
    failedLoginAttempts := UInt8.ofNat attempts
    lockedUntil := lockedUntil
    updatedAt := now }

/-- The row `delete` inserts. -/
def deleted (user : UserRow) (deletedBy : String) (now : Int) : UserRow :=
  { user with deletedAt := some now, deletedBy := some deletedBy, updatedAt := now }

/-- The counter goes up by one as long as it fits. -/
theorem recordedFailedLogin_attempts {user : UserRow} (now : Int)
    (h : user.failedLoginAttempts.toNat < 255) :
    (recordedFailedLogin user now).failedLoginAttempts.toNat =
      user.failedLoginAttempts.toNat + 1 := by
  show (UInt8.ofNat (user.failedLoginAttempts.toNat + 1)).toNat = _
  rw [UInt8.toNat_ofNat']
  omega

end UsersService

end Veridian
