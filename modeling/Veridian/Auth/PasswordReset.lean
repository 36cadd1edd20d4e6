/-
Password resets.

`forgotPassword` stores a link under the hash of its token, three an hour for each user, and
`resetPassword` takes the row of the token it is given and inserts it again as used.  Nothing
in either looks at the other links of the user, so a reset closes its own link and no other:
`reset_ok_iff` says which tokens make a reset succeed after any run.

`password_reset_tokens` is a `ReplacingMergeTree(updated_at)` ordered by `id`, read with
`FINAL`.  The store keeps beside it the links that were issued and the ids of the ones that
a reset has used.  The calls run one after the other, and the clock does not go back.
-/
import Veridian.Lib.Machine
import Veridian.Users.UserRows

namespace Veridian.Auth

open UsersService Replacing

/-! ### The service -/

inductive PasswordResetStatus where
  | pending | used | expired
  deriving DecidableEq

structure PasswordResetToken where
  id : String
  userId : String
  tokenHash : String
  status : PasswordResetStatus
  expiresAt : Int
  createdAt : Int
  updatedAt : Int
  deriving DecidableEq

def PASSWORD_RESET_EXPIRY_HOURS : Int := 1

structure ResetRate where
  count : Nat
  resetAt : Int

structure LoginDto where
  email : String
  password : String

structure ResetPasswordDto where
  token : String
  newPassword : String

/-- What `login` returns: what the JWT is signed over, and the user. -/
structure LoginResult where
  accessToken : JwtPayload
  user : RequestUser

structure AuthStore where
  users : List UserRow
  tokens : List PasswordResetToken
  sessions : List Session
  passwordResetRateLimit : String → Option ResetRate
  clock : Int
  issued : List PasswordResetToken
  used : List String

/-- What a call takes from outside: the clock before its first write and at its writes, and
what `generateId`, `generateToken` and `hashPassword` return. -/
structure CallInput where
  now : Int
  later : Int
  id : String
  tokenHash : String
  passwordHash : String

section Service

variable (host : Host) (verifyPassword : String → String → Bool) (hashToken : String → String)

def isLocked (users : List UserRow) (email : String) (now : Int) : Bool :=
  (findByEmail host users email).any fun user => user.lockedUntil.any fun lockedUntil =>
    now < lockedUntil

/-- The row `createSession` inserts. -/
def createSession (id userId : String) (now : Int) : Session :=
  ⟨id, userId, now + SESSION_EXPIRY_DAYS * 24 * 60 * 60 * 1000, none, now⟩

/-- The counter after one more request, three in an hour. -/
def countRequest (nowMs : Int) : Option ResetRate → Option ResetRate
  | none => some ⟨1, nowMs + 60 * 60 * 1000⟩
  | some rateLimit =>
      if nowMs ≥ rateLimit.resetAt then some ⟨1, nowMs + 60 * 60 * 1000⟩
      else if rateLimit.count ≥ 3 then none
      else some { rateLimit with count := rateLimit.count + 1 }

/-- The row `forgotPassword` inserts. -/
def resetToken (userId : String) (input : CallInput) : PasswordResetToken where
  id := input.id
  userId := userId
  tokenHash := input.tokenHash
  status := .pending
  expiresAt := input.later + PASSWORD_RESET_EXPIRY_HOURS * 60 * 60 * 1000
  createdAt := input.later
  updatedAt := input.later

def forgotPassword (s : AuthStore) (email : String) (input : CallInput) : AuthStore :=
  let email := host.toLowerCase email
  match findByEmail host s.users email with
  | none => s
  | some user =>
      if isLocked host s.users email input.now then s
      else
        match countRequest input.now (s.passwordResetRateLimit user.id) with
        | none => s
        | some rateLimit =>
            { s with
              passwordResetRateLimit :=
                Function.update s.passwordResetRateLimit user.id (some rateLimit)
              tokens := s.tokens ++ [resetToken user.id input]
              issued := s.issued ++ [resetToken user.id input] }

def findToken (tokens : List PasswordResetToken) (tokenHash : String) :
    Option PasswordResetToken :=
  ((final PasswordResetToken.id PasswordResetToken.updatedAt tokens).filter fun row =>
    row.tokenHash = tokenHash).head?

/-- The token and the user that `resetPassword` goes on with. -/
def checkReset (s : AuthStore) (dto : ResetPasswordDto) (now : Int) :
    Except ServiceError (PasswordResetToken × UserRow) :=
  match findToken s.tokens (hashToken dto.token) with
  | none => .error (.badRequest "Invalid or expired reset token")
  | some token =>
      if token.status ≠ .pending then .error (.badRequest "This reset link has already been used")
      else if token.expiresAt < now then .error (.badRequest "This reset link has expired")
      else
        match findById s.users token.userId with
        | none => .error (.badRequest "User not found")
        | some user => .ok (token, user)

/-- The sessions after `revokeAllSessions`. -/
def revokeAllSessions (sessions : List Session) (userId : String) (now : Int) : List Session :=
  sessions ++ ((final Session.key Session.updatedAt sessions).filter fun session =>
    session.userId = userId ∧ session.revokedAt = none).map (·.revoke now)

/-- The row `resetPassword` inserts for the token. -/
def markUsed (token : PasswordResetToken) (now : Int) : PasswordResetToken :=
  { token with status := .used, updatedAt := now }

def AuthStore.reset (s : AuthStore) (token : PasswordResetToken) (user : UserRow)
    (input : CallInput) : AuthStore :=
  { s with
    users := s.users ++ [changedPassword user input.passwordHash input.later]
    tokens := s.tokens ++ [markUsed token input.later]
    sessions := revokeAllSessions s.sessions user.id input.later
    used := s.used ++ [token.id] }

def resetPassword (s : AuthStore) (dto : ResetPasswordDto) (input : CallInput) :
    AuthStore × Except ServiceError Unit :=
  match checkReset hashToken s dto input.now with
  | .error e => (s, .error e)
  | .ok (token, user) => (s.reset token user input, .ok ())

def recordFailedLogin (users : List UserRow) (email : String) (now : Int) : List UserRow :=
  match findByEmail host users email with
  | none => users
  | some user => users ++ [recordedFailedLogin user now]

def recordLogin (users : List UserRow) (userId : String) (now : Int) : List UserRow :=
  match findById users userId with
  | none => users
  | some user => users ++ [recordedLogin user now]

def login (s : AuthStore) (dto : LoginDto) (input : CallInput) :
    AuthStore × Except ServiceError LoginResult :=
  let email := host.toLowerCase dto.email
  if isLocked host s.users email input.now then
    (s, .error (.unauthorized "Account temporarily locked. Try again in 15 minutes."))
  else
    match findByEmail host s.users email with
    | none => (s, .error (.unauthorized "Invalid credentials"))
    | some user =>
        match user.passwordHash.filter fun hash => hash ≠ "" with
        | none => (s, .error (.unauthorized "Invalid credentials"))
        | some hash =>
            if user.status ≠ .active then (s, .error (.unauthorized "Account is not active"))
            else if verifyPassword dto.password hash = false then
              ({ s with users := recordFailedLogin host s.users email input.later },
                .error (.unauthorized "Invalid credentials"))
            else
              ({ s with
                users := recordLogin s.users user.id input.later
                sessions := s.sessions ++ [createSession input.id user.id input.later] },
                .ok ⟨⟨user.id, some input.id⟩,
                  ⟨user.id, user.email, user.name, user.isSuperAdmin⟩⟩)

def changePassword (s : AuthStore) (userId : String) (dto : ChangePasswordDto)
    (input : CallInput) : AuthStore × Except ServiceError Unit :=
  match findById s.users userId with
  | none => (s, .error (.notFound "User not found"))
  | some user =>
      match user.passwordHash.filter fun hash => hash ≠ "" with
      | none => (s, .error (.notFound "User not found"))
      | some hash =>
          if verifyPassword dto.currentPassword hash = false then
            (s, .error (.unauthorized "Current password is incorrect"))
          else if dto.currentPassword = dto.newPassword then
            (s, .error (.badRequest "New password must be different from current password"))
          else
            ({ s with users := s.users ++ [changedPassword user input.passwordHash input.later] },
              .ok ())

/-! ### Runs -/

inductive AuthCall where
  | forgotPassword (email : String)
  | resetPassword (dto : ResetPasswordDto)
  | login (dto : LoginDto)
  | changePassword (userId : String) (dto : ChangePasswordDto)

def AuthCall.run (s : AuthStore) (input : CallInput) : AuthCall → AuthStore
  | .forgotPassword email => Auth.forgotPassword host s email input
  | .resetPassword dto => (Auth.resetPassword hashToken s dto input).1
  | .login dto => (Auth.login host verifyPassword s dto input).1
  | .changePassword userId dto => (Auth.changePassword verifyPassword s userId dto input).1

/-- The clock does not go back, and what is drawn at random is new. -/
def CallInput.follows (input : CallInput) (s : AuthStore) : Bool :=
  s.clock ≤ input.now ∧ input.now ≤ input.later ∧
    ∀ token ∈ s.tokens, token.id ≠ input.id ∧ token.tokenHash ≠ input.tokenHash

def authStep (s : AuthStore) : AuthCall × CallInput → Option AuthStore
  | (call, input) =>
      if input.follows s then
        some { call.run host verifyPassword hashToken s input with clock := input.later }
      else none

end Service

/-- Any users and sessions, and no link yet. -/
def AuthStore.init (users : List UserRow) (sessions : List Session)
    (passwordResetRateLimit : String → Option ResetRate) (clock : Int) : AuthStore :=
  ⟨users, [], sessions, passwordResetRateLimit, clock, [], []⟩

/-! ### What a call does to the links -/

/-- A call leaves the links alone, issues one, or uses the pending one that it found. -/
inductive LinksChange (s : AuthStore) (input : CallInput) (t : AuthStore) : Prop
  | keeps (htokens : t.tokens = s.tokens) (hissued : t.issued = s.issued) (hused : t.used = s.used)
  | issues (userId : String) (htokens : t.tokens = s.tokens ++ [resetToken userId input])
      (hissued : t.issued = s.issued ++ [resetToken userId input]) (hused : t.used = s.used)
  | uses (token : PasswordResetToken) (hfound : findToken s.tokens token.tokenHash = some token)
      (htokens : t.tokens = s.tokens ++ [markUsed token input.later])
      (hissued : t.issued = s.issued) (hused : t.used = s.used ++ [token.id])

section Steps

variable {host : Host} {verifyPassword : String → String → Bool} {hashToken : String → String}

theorem checkReset_ok_iff {s : AuthStore} {dto : ResetPasswordDto} {now : Int}
    {token : PasswordResetToken} {user : UserRow} :
    checkReset hashToken s dto now = .ok (token, user) ↔
      findToken s.tokens (hashToken dto.token) = some token ∧ token.status = .pending ∧
        now ≤ token.expiresAt ∧ findById s.users token.userId = some user := by
  unfold checkReset
  cases hfound : findToken s.tokens (hashToken dto.token) with
  | none => simp
  | some found =>
      dsimp only
      by_cases hstatus : found.status = .pending
      · rw [if_neg (not_not.mpr hstatus)]
        by_cases hexpired : found.expiresAt < now
        · rw [if_pos hexpired]
          refine ⟨fun h => (nomatch h), fun ⟨htoken, _, hle, _⟩ => ?_⟩
          obtain rfl := Option.some.inj htoken
          exact absurd hexpired (not_lt.mpr hle)
        · rw [if_neg hexpired]
          cases huser : findById s.users found.userId with
          | none =>
              refine ⟨fun h => (nomatch h), fun ⟨htoken, _, _, hfind⟩ => ?_⟩
              obtain rfl := Option.some.inj htoken
              exact nomatch huser.symm.trans hfind
          | some u =>
              constructor
              · intro h
                obtain ⟨rfl, rfl⟩ := Prod.mk.inj (Except.ok.inj h)
                exact ⟨rfl, hstatus, not_lt.mp hexpired, huser⟩
              · rintro ⟨htoken, -, -, hfind⟩
                obtain rfl := Option.some.inj htoken
                obtain rfl := Option.some.inj (huser.symm.trans hfind)
                rfl
      · rw [if_pos hstatus]
        refine ⟨fun h => (nomatch h), fun ⟨htoken, hpending, _⟩ => ?_⟩
        obtain rfl := Option.some.inj htoken
        exact absurd hpending hstatus

theorem mem_of_findToken {tokens : List PasswordResetToken} {tokenHash : String}
    {token : PasswordResetToken} (h : findToken tokens tokenHash = some token) :
    token ∈ tokens ∧ token.tokenHash = tokenHash := by
  have hmem := List.mem_filter.mp (List.mem_of_mem_head? h)
  exact ⟨final_subset _ _ _ hmem.1, of_decide_eq_true hmem.2⟩

/-- **What a call does to the links.** -/
theorem run_linksChange (s : AuthStore) (input : CallInput) (call : AuthCall) :
    LinksChange s input (call.run host verifyPassword hashToken s input) := by
  cases call with
  | forgotPassword email =>
      show LinksChange s input (forgotPassword host s email input)
      unfold forgotPassword
      dsimp only
      split
      · exact .keeps rfl rfl rfl
      · rename_i user huser
        split
        · exact .keeps rfl rfl rfl
        · split
          · exact .keeps rfl rfl rfl
          · exact .issues user.id rfl rfl rfl
  | resetPassword dto =>
      show LinksChange s input (resetPassword hashToken s dto input).1
      unfold resetPassword
      split
      · exact .keeps rfl rfl rfl
      · rename_i token user hcheck
        obtain ⟨hfound, -, -, -⟩ := checkReset_ok_iff.mp hcheck
        exact .uses token ((mem_of_findToken hfound).2 ▸ hfound) rfl rfl rfl
  | login dto =>
      show LinksChange s input (login host verifyPassword s dto input).1
      unfold login
      dsimp only
      split
      · exact .keeps rfl rfl rfl
      · split
        · exact .keeps rfl rfl rfl
        · split
          · exact .keeps rfl rfl rfl
          · split
            · exact .keeps rfl rfl rfl
            · split <;> exact .keeps rfl rfl rfl
  | changePassword userId dto =>
      show LinksChange s input (changePassword verifyPassword s userId dto input).1
      unfold changePassword
      split
      · exact .keeps rfl rfl rfl
      · split
        · exact .keeps rfl rfl rfl
        · split
          · exact .keeps rfl rfl rfl
          · split <;> exact .keeps rfl rfl rfl

/-! ### The invariant -/

/-- What all the rows of one link share. -/
def PasswordResetToken.link (t : PasswordResetToken) : String × String × String × Int :=
  (t.id, t.tokenHash, t.userId, t.expiresAt)

def isPending (t : PasswordResetToken) : Bool := t.status = .pending

/-- The rows of the table are those of the links that were issued, pending until a reset has
used them. -/
structure Links (tokens issued : List PasswordResetToken) (used : List String) (clock : Int) :
    Prop where
  tracks : Tracks PasswordResetToken.id PasswordResetToken.updatedAt isPending used tokens
  clock : ∀ t ∈ tokens, t.updatedAt ≤ clock
  links : ∀ t ∈ tokens, ∀ t' ∈ tokens, t.id = t'.id ∨ t.tokenHash = t'.tokenHash →
    t.link = t'.link
  stored : ∀ i ∈ issued, i ∈ tokens
  fromIssued : ∀ t ∈ tokens, ∃ i ∈ issued, i.link = t.link

namespace Links

variable {tokens issued : List PasswordResetToken} {used : List String} {clock : Int}

/-- The hash of a link selects what survives under its id. -/
theorem findToken_eq_survivor (h : Links tokens issued used clock) {t : PasswordResetToken}
    (ht : t ∈ tokens) : findToken tokens t.tokenHash =
      survivor PasswordResetToken.id PasswordResetToken.updatedAt t.id tokens := by
  unfold findToken
  rw [final_filter_eq_survivor PasswordResetToken.id PasswordResetToken.updatedAt (k := t.id)]
  · exact Option.head?_toList
  · intro r hr
    rw [decide_eq_true_iff]
    constructor
    · intro hhash
      exact congrArg Prod.fst (h.links r hr t ht (Or.inr hhash))
    · intro hid
      exact congrArg (fun l => l.2.1) (h.links r hr t ht (Or.inl hid))

theorem later (h : Links tokens issued used clock) {now : Int} (hle : clock ≤ now) :
    Links tokens issued used now :=
  { h with clock := fun t ht => (h.clock t ht).trans hle }

/-- A link under a new id and a new hash is issued. -/
theorem issue (h : Links tokens issued used clock) {x : PasswordResetToken}
    (hnew : ∀ t ∈ tokens, t.id ≠ x.id ∧ t.tokenHash ≠ x.tokenHash) (hpending : isPending x = true)
    (hclock : x.updatedAt ≤ clock) : Links (tokens ++ [x]) (issued ++ [x]) used clock := by
  have hcases : ∀ {l : List PasswordResetToken} {t}, t ∈ l ++ [x] → t ∈ l ∨ t = x := fun ht =>
    (List.mem_append.mp ht).imp_right List.mem_singleton.mp
  refine ⟨h.tracks.issue (fun t ht => (hnew t ht).1) hpending, ?_, ?_, ?_, ?_⟩
  · intro t ht
    rcases hcases ht with ht | rfl
    · exact h.clock t ht
    · exact hclock
  · intro t ht t' ht' hsame
    rcases hcases ht with hold | rfl <;> rcases hcases ht' with hold' | rfl
    · exact h.links t hold t' hold' hsame
    · exact absurd hsame (not_or.mpr (hnew t hold))
    · exact absurd (hsame.imp Eq.symm Eq.symm) (not_or.mpr (hnew t' hold'))
    · rfl
  · intro i hi
    rcases hcases hi with hi | rfl
    · exact List.mem_append_left _ (h.stored i hi)
    · exact List.mem_append_right _ (List.mem_singleton.mpr rfl)
  · intro t ht
    rcases hcases ht with ht | rfl
    · obtain ⟨i, hi, hlink⟩ := h.fromIssued t ht
      exact ⟨i, List.mem_append_left _ hi, hlink⟩
    · exact ⟨t, List.mem_append_right _ (List.mem_singleton.mpr rfl), rfl⟩

/-- The row of a link is inserted again as used. -/
theorem use (h : Links tokens issued used clock) {token : PasswordResetToken}
    (hfound : findToken tokens token.tokenHash = some token) :
    Links (tokens ++ [markUsed token clock]) issued (used ++ [token.id]) clock := by
  have htoken : token ∈ tokens := (mem_of_findToken hfound).1
  have hcases : ∀ {t}, t ∈ tokens ++ [markUsed token clock] →
      ∃ t₀ ∈ tokens, t₀.link = t.link ∧ t.updatedAt ≤ clock := by
    intro t ht
    rcases List.mem_append.mp ht with ht | ht
    · exact ⟨t, ht, rfl, h.clock t ht⟩
    · rw [List.mem_singleton.mp ht]
      exact ⟨token, htoken, rfl, le_refl _⟩
  refine ⟨?_, fun t ht => ?_, ?_, fun i hi => List.mem_append_left _ (h.stored i hi), ?_⟩
  · rw [h.findToken_eq_survivor htoken] at hfound
    exact h.tracks.use (x := markUsed token clock) hfound (h.clock token htoken) rfl
  · obtain ⟨-, -, -, hle⟩ := hcases ht
    exact hle
  · intro t ht t' ht' hsame
    obtain ⟨t₀, ht₀, hlink, -⟩ := hcases ht
    obtain ⟨t₁, ht₁, hlink', -⟩ := hcases ht'
    have hid : t₀.id = t.id := congrArg Prod.fst hlink
    have hid' : t₁.id = t'.id := congrArg Prod.fst hlink'
    have hhash : t₀.tokenHash = t.tokenHash := congrArg (fun l => l.2.1) hlink
    have hhash' : t₁.tokenHash = t'.tokenHash := congrArg (fun l => l.2.1) hlink'
    rw [← hlink, ← hlink']
    exact h.links t₀ ht₀ t₁ ht₁ (by rw [hid, hid', hhash, hhash']; exact hsame)
  · intro t ht
    obtain ⟨t₀, ht₀, hlink, -⟩ := hcases ht
    obtain ⟨i, hi, hi₀⟩ := h.fromIssued t₀ ht₀
    exact ⟨i, hi, hi₀.trans hlink⟩

end Links

def AuthStore.Ok (s : AuthStore) : Prop := Links s.tokens s.issued s.used s.clock

theorem ok_step {s t : AuthStore} {call : AuthCall × CallInput} (hs : s.Ok)
    (h : authStep host verifyPassword hashToken s call = some t) : t.Ok := by
  obtain ⟨call, input⟩ := call
  obtain ⟨hfollows, ht⟩ := Option.ite_none_right_eq_some.mp h
  obtain ⟨hnow, hlater, hnew⟩ := of_decide_eq_true hfollows
  obtain rfl := Option.some.inj ht
  have hs' : Links s.tokens s.issued s.used input.later := Links.later hs (hnow.trans hlater)
  show Links (call.run host verifyPassword hashToken s input).tokens
    (call.run host verifyPassword hashToken s input).issued
    (call.run host verifyPassword hashToken s input).used input.later
  cases run_linksChange s input call with
  | keeps htokens hissued hused => rw [htokens, hissued, hused]; exact hs'
  | issues userId htokens hissued hused =>
      rw [htokens, hissued, hused]
      exact hs'.issue hnew rfl (le_refl _)
  | uses token hfound htokens hissued hused =>
      rw [htokens, hissued, hused]
      exact hs'.use hfound

/-- **After any run, a token makes a reset succeed exactly when its link was issued, no reset
has used it, its hour is not over, and its user is there.** -/
theorem reset_ok_iff (users : List UserRow) (sessions : List Session)
    (passwordResetRateLimit : String → Option ResetRate) (clock : Int)
    (calls : List (AuthCall × CallInput)) (s : AuthStore)
    (hrun : Machine.exec (authStep host verifyPassword hashToken)
      (AuthStore.init users sessions passwordResetRateLimit clock) calls = some s)
    (dto : ResetPasswordDto) (input : CallInput) :
    (resetPassword hashToken s dto input).2 = .ok () ↔
      ∃ i ∈ s.issued, i.tokenHash = hashToken dto.token ∧ i.id ∉ s.used ∧
        input.now ≤ i.expiresAt ∧ (findById s.users i.userId).isSome = true := by
  have hinit : (AuthStore.init users sessions passwordResetRateLimit clock).Ok :=
    ⟨tracks_nil, fun _ ht => absurd ht List.not_mem_nil, fun _ ht => absurd ht List.not_mem_nil,
      fun _ hi => absurd hi List.not_mem_nil, fun _ ht => absurd ht List.not_mem_nil⟩
  have hs : Links s.tokens s.issued s.used s.clock :=
    Machine.exec_invariant (P := AuthStore.Ok) (fun _ _ _ => ok_step) hinit hrun
  have hok : (resetPassword hashToken s dto input).2 = .ok () ↔
      ∃ token user, checkReset hashToken s dto input.now = .ok (token, user) := by
    unfold resetPassword
    split
    · rename_i e he
      simp [he]
    · rename_i token user hcheck
      exact ⟨fun _ => ⟨token, user, hcheck⟩, fun _ => rfl⟩
  rw [hok]
  constructor
  · rintro ⟨token, user, hcheck⟩
    obtain ⟨hfound, hpending, hle, huser⟩ := checkReset_ok_iff.mp hcheck
    obtain ⟨htoken, hhash⟩ := mem_of_findToken hfound
    obtain ⟨i, hi, hlink⟩ := hs.fromIssued token htoken
    simp only [PasswordResetToken.link, Prod.mk.injEq] at hlink
    obtain ⟨hid, hihash, hiuser, hiexpires⟩ := hlink
    rw [← hhash, hs.findToken_eq_survivor htoken] at hfound
    refine ⟨i, hi, hihash.trans hhash, ?_, hiexpires ▸ hle, ?_⟩
    · rw [hid]
      exact (hs.tracks.isOpen_iff _ _ hfound).mp (decide_eq_true hpending)
    · rw [hiuser, huser]
      rfl
  · rintro ⟨i, hi, hhash, hunused, hle, huser⟩
    have hmem := hs.stored i hi
    obtain ⟨token, hsurvives⟩ := Option.isSome_iff_exists.mp
      ((survivor_isSome_iff PasswordResetToken.id PasswordResetToken.updatedAt).mpr ⟨i, hmem, rfl⟩)
    obtain ⟨htoken, hid⟩ := survivor_key _ _ hsurvives
    have hlink := hs.links token htoken i hmem (Or.inl hid)
    simp only [PasswordResetToken.link, Prod.mk.injEq] at hlink
    obtain ⟨-, -, htuser, htexpires⟩ := hlink
    obtain ⟨user, hfind⟩ := Option.isSome_iff_exists.mp huser
    refine ⟨token, user, checkReset_ok_iff.mpr ⟨?_, ?_, htexpires ▸ hle, htuser ▸ hfind⟩⟩
    · rw [← hhash, hs.findToken_eq_survivor hmem]
      exact hsurvives
    · exact of_decide_eq_true ((hs.tracks.isOpen_iff _ _ hsurvives).mpr hunused)

end Steps

namespace ResetExample

def user : UserRow where
  id := "u1"
  email := "ana@acme.io"
  passwordHash := some "bcrypt:old"
  name := "Ana"
  type := .user
  status := .active
  isSuperAdmin := false
  lastLoginAt := none
  failedLoginAttempts := 0
  lockedUntil := none
  passwordChangedAt := none
  deletedAt := none
  deletedBy := none
  createdAt := 0
  updatedAt := 0

def hashToken (token : String) : String := "sha256:" ++ token

def store : AuthStore := AuthStore.init [user] [] (fun _ => none) 0

/-- Two links, and a reset with the first of them. -/
def calls : List (AuthCall × CallInput) :=
  [(.forgotPassword "ana@acme.io", ⟨1000, 1000, "t1", "sha256:a", ""⟩),
    (.forgotPassword "ana@acme.io", ⟨2000, 2000, "t2", "sha256:b", ""⟩),
    (.resetPassword ⟨"a", "first-secret"⟩, ⟨3000, 3000, "", "", "bcrypt:first"⟩)]

def later : CallInput := ⟨4000, 4000, "", "", "bcrypt:second"⟩

/-- The reset succeeds, and so does one with the other link after it. -/
theorem second_link_stays_open :
    ((Machine.exec (authStep Host.bare (fun _ _ => true) hashToken) store
        (calls.take 2)).map fun s =>
      (resetPassword hashToken s ⟨"a", "first-secret"⟩
        ⟨3000, 3000, "", "", "bcrypt:first"⟩).2) = some (.ok ()) ∧
    ((Machine.exec (authStep Host.bare (fun _ _ => true) hashToken) store calls).map fun s =>
      (resetPassword hashToken s ⟨"b", "second-secret"⟩ later).2) = some (.ok ()) := by
  decide

/-- The link of the reset is closed. -/
theorem first_link_is_closed : ∃ s,
    Machine.exec (authStep Host.bare (fun _ _ => true) hashToken) store calls = some s ∧
      (resetPassword hashToken s ⟨"a", "second-secret"⟩ later).2 ≠ .ok () := by
  refine ⟨_, rfl, fun hok => ?_⟩
  obtain ⟨i, hi, hhash, hunused, -⟩ :=
    (@reset_ok_iff Host.bare (fun _ _ => true) hashToken [user] [] (fun _ => none) 0 calls _ rfl
      _ _).mp hok
  clear hok
  revert i
  decide

end ResetExample

end Veridian.Auth
