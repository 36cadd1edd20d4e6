/-
The first administrator of an installation.

`createInitialAdmin` checks that setup is not complete, checks that nobody has the address,
inserts a super administrator and marks setup as complete, each with a request of its own.
The endpoint is public.  A call whose check came before the mark of another one goes on and
inserts a second administrator, and a call whose mark fails leaves the door open for the
next one, unless that comes with the same address.

A call carries the number of administrators that calls had created when it made its check,
and the store the administrators they have created, each with whether setup was complete.
-/
import Veridian.Lib.Interleave
import Veridian.Migrations.Lock
import Veridian.Users.UserRows

namespace Veridian.SetupService

open Replacing (survivor)
open MigrationsRunner (SettingsRow)

structure InitializeDto where
  email : String
  password : String
  name : String
  deriving DecidableEq

/-- `SELECT value FROM system_settings FINAL WHERE key = 'setup_completed' LIMIT 1` -/
def isSetupComplete (settings : List SettingsRow) : Bool :=
  (survivor SettingsRow.key SettingsRow.updatedAt "setup_completed" settings).any
    fun row => row.value = "true"

/-- The row `markSetupComplete` inserts. -/
def setupCompleted (now : Int) : SettingsRow := ⟨"setup_completed", "true", now⟩

/-- The row of the administrator: `id` is what `generateId` returns, and `passwordHash` what
`hashPassword` does. -/
def adminRow (host : Host) (dto : InitializeDto) (id passwordHash : String) (now : Int) :
    UserRow where
  id
  email := host.toLowerCase dto.email
  passwordHash := some passwordHash
  name := dto.name
  type := .user
  status := .active
  isSuperAdmin := true
  lastLoginAt := some now
  failedLoginAttempts := 0
  lockedUntil := none
  passwordChangedAt := some now
  deletedAt := none
  deletedBy := none
  createdAt := now
  updatedAt := now

structure InitialAdmin where
  access_token : String
  user : UserRow
  deriving DecidableEq

/-- How far a call of `createInitialAdmin` has come. -/
inductive SetupCall where
  | isSetupComplete (dto : InitializeDto)
  | findByEmail (dto : InitializeDto) (seen : Nat)
  | insertUser (dto : InitializeDto) (seen : Nat)
  | markSetupComplete (user : UserRow)
  | returned (result : Except ServiceError InitialAdmin)
  /-- A request has failed. -/
  | threw

/-- What becomes of the request of a step. -/
inductive Answer where
  /-- It is carried out, at a time, with the id and the hash that were made for it. -/
  | done (now : Int) (id passwordHash : String)
  /-- It is carried out and the answer is lost. -/
  | lost (now : Int) (id passwordHash : String)
  | failed
  deriving DecidableEq

structure CreatedAdmin where
  user : UserRow
  setupComplete : Bool
  deriving DecidableEq

structure SetupStore where
  settings : List SettingsRow
  users : List UserRow
  created : List CreatedAdmin
  deriving DecidableEq

def SetupStore.insertUser (s : SetupStore) (user : UserRow) : SetupStore :=
  { s with
    users := s.users ++ [user]
    created := s.created ++ [⟨user, SetupService.isSetupComplete s.settings⟩] }

def SetupStore.insertSetting (s : SetupStore) (row : SettingsRow) : SetupStore :=
  { s with settings := s.settings ++ [row] }

/-- `sign` is `jwtService.sign`, of the subject and the address. -/
def setupStep (host : Host) (sign : String → String → String) (s : SetupStore) :
    SetupCall → Answer → Option (SetupStore × SetupCall)
  | .isSetupComplete dto, .done _ _ _ =>
      if isSetupComplete s.settings then
        some (s, .returned (.error (.badRequest "Setup has already been completed")))
      else some (s, .findByEmail dto s.created.length)
  | .findByEmail dto seen, .done _ _ _ =>
      if (UsersService.findByEmail host s.users dto.email).isSome then
        some (s, .returned (.error (.badRequest "A user with this email already exists")))
      else some (s, .insertUser dto seen)
  | .insertUser dto _, .done now id passwordHash =>
      let user := adminRow host dto id passwordHash now
      some (s.insertUser user, .markSetupComplete user)
  | .insertUser dto _, .lost now id passwordHash =>
      some (s.insertUser (adminRow host dto id passwordHash now), .threw)
  | .markSetupComplete user, .done now _ _ =>
      some (s.insertSetting (setupCompleted now),
        .returned (.ok ⟨sign user.id user.email, user⟩))
  | .markSetupComplete _, .lost now _ _ => some (s.insertSetting (setupCompleted now), .threw)
  | .returned _, _ => none
  | .threw, _ => none
  | _, _ => some (s, .threw)

abbrev SetupAction := Interleave.Action InitializeDto Answer

def setupRunStep (host : Host) (sign : String → String → String) :
    Interleave.State SetupStore SetupCall → SetupAction →
      Option (Interleave.State SetupStore SetupCall) :=
  Interleave.step SetupCall.isSetupComplete (setupStep host sign)

/-- Any tables, and no call yet. -/
def SetupStore.init (settings : List SettingsRow) (users : List UserRow) :
    Interleave.State SetupStore SetupCall :=
  ⟨⟨settings, users, []⟩, []⟩

/-- **One initial administrator**: the calls have created one at most, and not after setup was
complete. -/
structure OneAdmin (s : SetupStore) : Prop where
  one : s.created.length ≤ 1
  unlocked : ∀ c ∈ s.created, c.setupComplete = false

/-- What is asked of the insert of a user: that no administrator had been created when the call
made its check, without the mark that the check looks for, and that none has been since. -/
def FirstToInsert (s : SetupStore) : SetupCall → Answer → Prop
  | .insertUser _ seen, .done _ _ _ | .insertUser _ seen, .lost _ _ _ =>
      seen = 0 ∧ s.created.length = seen
  | _, _ => True

/-! ### What a call knows -/

/-- A call that is past its check knows that setup is complete after an administrator only. -/
def Knows (s : SetupStore) : SetupCall → Prop
  | .findByEmail _ seen | .insertUser _ seen =>
      seen ≤ s.created.length ∧ (isSetupComplete s.settings = true → s.created ≠ [])
  | .markSetupComplete _ => s.created ≠ []
  | .isSetupComplete _ | .returned _ | .threw => True

/-- **What a step does to the store**: nothing, an insert of a user, or, after one, of the
mark. -/
theorem setupStep_cases {host : Host} {sign : String → String → String} {s s' : SetupStore}
    {p p' : SetupCall} {answer : Answer} (h : setupStep host sign s p answer = some (s', p')) :
    (s' = s ∧ (Knows s p → Knows s' p') ∧ ∀ dto seen, p = .insertUser dto seen →
      answer = .failed) ∨
    (∃ dto seen user, p = .insertUser dto seen ∧ answer ≠ .failed ∧ s' = s.insertUser user ∧
      Knows s' p') ∨
    (∃ user row, p = .markSetupComplete user ∧ s' = s.insertSetting row ∧ Knows s' p') := by
  have hcreated : ∀ user, (s.insertUser user).created ≠ [] := fun user => by
    simp [SetupStore.insertUser]
  cases p with
  | isSetupComplete dto =>
      cases answer with
      | done now id passwordHash =>
          simp only [setupStep] at h
          split at h
          · obtain ⟨rfl, rfl⟩ := Prod.mk.inj (Option.some.inj h)
            exact Or.inl ⟨rfl, fun _ => trivial, fun _ _ hp => nomatch hp⟩
          · rename_i hopen
            obtain ⟨rfl, rfl⟩ := Prod.mk.inj (Option.some.inj h)
            exact Or.inl ⟨rfl, fun _ => ⟨Nat.le_refl _, fun hcomplete => absurd hcomplete hopen⟩,
              fun _ _ hp => nomatch hp⟩
      | lost now id passwordHash =>
          obtain ⟨rfl, rfl⟩ := Prod.mk.inj (Option.some.inj h)
          exact Or.inl ⟨rfl, fun _ => trivial, fun _ _ hp => nomatch hp⟩
      | failed =>
          obtain ⟨rfl, rfl⟩ := Prod.mk.inj (Option.some.inj h)
          exact Or.inl ⟨rfl, fun _ => trivial, fun _ _ hp => nomatch hp⟩
  | findByEmail dto seen =>
      cases answer with
      | done now id passwordHash =>
          simp only [setupStep] at h
          split at h
          · obtain ⟨rfl, rfl⟩ := Prod.mk.inj (Option.some.inj h)
            exact Or.inl ⟨rfl, fun _ => trivial, fun _ _ hp => nomatch hp⟩
          · obtain ⟨rfl, rfl⟩ := Prod.mk.inj (Option.some.inj h)
            exact Or.inl ⟨rfl, fun hknows => hknows, fun _ _ hp => nomatch hp⟩
      | lost now id passwordHash =>
          obtain ⟨rfl, rfl⟩ := Prod.mk.inj (Option.some.inj h)
          exact Or.inl ⟨rfl, fun _ => trivial, fun _ _ hp => nomatch hp⟩
      | failed =>
          obtain ⟨rfl, rfl⟩ := Prod.mk.inj (Option.some.inj h)
          exact Or.inl ⟨rfl, fun _ => trivial, fun _ _ hp => nomatch hp⟩
  | insertUser dto seen =>
      cases answer with
      | done now id passwordHash =>
          obtain ⟨rfl, rfl⟩ := Prod.mk.inj (Option.some.inj h)
          exact Or.inr (Or.inl ⟨dto, seen, _, rfl, by simp, rfl, hcreated _⟩)
      | lost now id passwordHash =>
          obtain ⟨rfl, rfl⟩ := Prod.mk.inj (Option.some.inj h)
          exact Or.inr (Or.inl ⟨dto, seen, _, rfl, by simp, rfl, trivial⟩)
      | failed =>
          obtain ⟨rfl, rfl⟩ := Prod.mk.inj (Option.some.inj h)
          exact Or.inl ⟨rfl, fun _ => trivial, fun _ _ _ => rfl⟩
  | markSetupComplete user =>
      cases answer with
      | done now id passwordHash =>
          obtain ⟨rfl, rfl⟩ := Prod.mk.inj (Option.some.inj h)
          exact Or.inr (Or.inr ⟨user, _, rfl, rfl, trivial⟩)
      | lost now id passwordHash =>
          obtain ⟨rfl, rfl⟩ := Prod.mk.inj (Option.some.inj h)
          exact Or.inr (Or.inr ⟨user, _, rfl, rfl, trivial⟩)
      | failed =>
          obtain ⟨rfl, rfl⟩ := Prod.mk.inj (Option.some.inj h)
          exact Or.inl ⟨rfl, fun _ => trivial, fun _ _ hp => nomatch hp⟩
  | returned result => exact nomatch h
  | threw => exact nomatch h

/-- An insert of a user leaves what the other calls know. -/
theorem knows_insertUser {s : SetupStore} (user : UserRow) {q : SetupCall} (hq : Knows s q) :
    Knows (s.insertUser user) q := by
  have hcreated : (s.insertUser user).created ≠ [] := by simp [SetupStore.insertUser]
  have hlength : (s.insertUser user).created.length = s.created.length + 1 := by
    simp [SetupStore.insertUser]
  cases q with
  | findByEmail dto seen => exact ⟨hlength ▸ Nat.le_succ_of_le hq.1, fun _ => hcreated⟩
  | insertUser dto seen => exact ⟨hlength ▸ Nat.le_succ_of_le hq.1, fun _ => hcreated⟩
  | markSetupComplete user => exact hcreated
  | isSetupComplete dto => trivial
  | returned result => trivial
  | threw => trivial

/-- A mark after an administrator leaves what the other calls know. -/
theorem knows_insertSetting {s : SetupStore} (row : SettingsRow) (hcreated : s.created ≠ [])
    {q : SetupCall} (hq : Knows s q) : Knows (s.insertSetting row) q := by
  cases q with
  | findByEmail dto seen => exact ⟨hq.1, fun _ => hcreated⟩
  | insertUser dto seen => exact ⟨hq.1, fun _ => hcreated⟩
  | markSetupComplete user => exact hcreated
  | isSetupComplete dto => trivial
  | returned result => trivial
  | threw => trivial

theorem setupStep_keeps {host : Host} {sign : String → String → String} {s s' : SetupStore}
    {p p' : SetupCall} {answer : Answer} (hp : Knows s p)
    (h : setupStep host sign s p answer = some (s', p')) :
    Knows s' p' ∧ ∀ q, Knows s q → Knows s' q := by
  rcases setupStep_cases h with ⟨rfl, hknows, -⟩ | ⟨dto, seen, user, rfl, -, rfl, hknows⟩ |
    ⟨user, row, rfl, rfl, hknows⟩
  · exact ⟨hknows hp, fun _ hq => hq⟩
  · exact ⟨hknows, fun _ hq => knows_insertUser user hq⟩
  · exact ⟨hknows, fun _ hq => knows_insertSetting row hp hq⟩

/-! ### Runs -/

/-- One more administrator is the first exactly when the call was the first to insert. -/
theorem oneAdmin_step {host : Host} {sign : String → String → String} {s s' : SetupStore}
    {p p' : SetupCall} {answer : Answer} (hp : Knows s p) (hs : OneAdmin s)
    (h : setupStep host sign s p answer = some (s', p')) :
    OneAdmin s' ↔ FirstToInsert s p answer := by
  rcases setupStep_cases h with ⟨rfl, -, hfailed⟩ | ⟨dto, seen, user, rfl, hanswer, rfl, -⟩ |
    ⟨user, row, rfl, rfl, -⟩
  · refine iff_of_true hs ?_
    cases p with
    | insertUser dto seen =>
        rw [hfailed dto seen rfl]
        trivial
    | _ => trivial
  · have hfirst : FirstToInsert s (.insertUser dto seen) answer ↔
        seen = 0 ∧ s.created.length = seen := by
      cases answer with
      | done now id passwordHash => exact Iff.rfl
      | lost now id passwordHash => exact Iff.rfl
      | failed => exact absurd rfl hanswer
    rw [hfirst]
    constructor
    · intro hone
      have hlength := hone.one
      simp only [SetupStore.insertUser, List.length_append, List.length_singleton] at hlength
      have hseen := hp.1
      omega
    · rintro ⟨rfl, hnone⟩
      have hnil := List.eq_nil_of_length_eq_zero hnone
      refine ⟨?_, fun c hc => ?_⟩
      · simp [SetupStore.insertUser, hnil]
      · simp only [SetupStore.insertUser, hnil, List.nil_append, List.mem_singleton] at hc
        rw [hc]
        exact Bool.eq_false_iff.mpr fun hcomplete => hp.2 hcomplete hnil
  · exact iff_of_true ⟨hs.one, hs.unlocked⟩ trivial

namespace SetupExample

def sign (sub email : String) : String := sub ++ email

def ada : InitializeDto := ⟨"ada@acme.io", "correct horse", "Ada"⟩

def eve : InitializeDto := ⟨"eve@evil.io", "battery staple", "Eve"⟩

/-- The check of the second call comes before the mark of the first. -/
def raced : List SetupAction :=
  [.start ada, .start eve, .step 0 (.done 0 "" ""), .step 1 (.done 0 "" ""),
    .step 0 (.done 1 "" ""), .step 1 (.done 1 "" ""), .step 0 (.done 2 "u1" "h1"),
    .step 0 (.done 3 "" ""), .step 1 (.done 4 "u2" "h2")]

/-- The mark of the first call fails, and the second comes with another address. -/
def retried : List SetupAction :=
  [.start ada, .step 0 (.done 0 "" ""), .step 0 (.done 1 "" ""), .step 0 (.done 2 "u1" "h1"),
    .step 0 .failed, .start eve, .step 1 (.done 3 "" ""), .step 1 (.done 4 "" ""),
    .step 1 (.done 5 "u2" "h2")]

end SetupExample

end Veridian.SetupService
