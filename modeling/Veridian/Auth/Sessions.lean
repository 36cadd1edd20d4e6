/-
Logins, sessions and their revocation, interleaved.

A JWT carries a user and, when a session was opened for it, the session.  `validate`
looks the session up through a cache; `revokeSession` and `revokeAllSessions` write a
revoked row and then drop the cache entry.  Every `await` is a place where another call
can run, so an action is one query, one insert or one cache operation of one call.

`sessions` is a `ReplacingMergeTree(updated_at)` ordered by `(user_id, id)`, read with
`FINAL`.  Two things are recorded that the services do not keep: which JWTs a call of a
revocation is to shut out, and whether a `validate` call began after one that shuts its
JWT out had returned.
-/
import Veridian.Lib.Machine
import Veridian.Lib.Replacing

namespace Veridian

inductive UserStatus where
  | pending
  | active
  | disabled
deriving DecidableEq

structure User where
  id : String
  email : String
  name : String
  status : UserStatus
  isSuperAdmin : Bool
  deletedAt : Option Int

/-- What `validate` puts on the request. -/
structure RequestUser where
  id : String
  email : String
  name : String
  isSuperAdmin : Bool

structure JwtPayload where
  sub : String
  sessionId : Option String
deriving DecidableEq

/-- The session `validate` asks about, if the payload names one. -/
def JwtPayload.session? (payload : JwtPayload) : Option (String × String) :=
  (payload.sessionId.filter fun id => id != "").map fun id => (payload.sub, id)

structure Session where
  id : String
  userId : String
  expiresAt : Int
  revokedAt : Option Int
  updatedAt : Int

def Session.key (session : Session) : String × String := (session.userId, session.id)

/-- `{ ...session, revoked_at: now, updated_at: now }` -/
def Session.revoke (session : Session) (now : Int) : Session :=
  { session with revokedAt := some now, updatedAt := now }

def SESSION_EXPIRY_DAYS : Int := 7

/-! ### The calls in progress -/

inductive ValidatePhase where
  | sessionCache (key : String × String)
  | sessionQuery (key : String × String)
  /-- The query has answered, the cache is not set yet. -/
  | sessionStore (key : String × String) (isValid : Bool)
  | userCache
  | userQuery
  | userStore (user : User)
  | accepted (user : RequestUser)
  | rejected (message : String)
  | failed

/-- `validate` has ended by throwing, over the session or because a query failed. -/
def ValidatePhase.refuses : ValidatePhase → Bool
  | .rejected message => message = "Session has been revoked"
  | .failed => true
  | _ => false

/-- The part of `validate` that the session check lets through, or that has ended. -/
def ValidatePhase.pastSession : ValidatePhase → Bool
  | .sessionCache _ => false
  | .sessionQuery _ => false
  | .sessionStore _ _ => false
  | _ => true

/-- How many `await`s of `validate` are left at most. -/
def ValidatePhase.remaining : ValidatePhase → Nat
  | .sessionCache _ => 6
  | .sessionQuery _ => 5
  | .sessionStore _ _ => 4
  | .userCache => 3
  | .userQuery => 2
  | .userStore _ => 1
  | .accepted _ => 0
  | .rejected _ => 0
  | .failed => 0

structure Validate where
  payload : JwtPayload
  late : Bool
  phase : ValidatePhase

inductive RevokePhase where
  | query
  /-- The sessions still to revoke, the next one first. -/
  | insert (now : Int) (todo : List Session)
  /-- The revoked row is in, the cache entry is not dropped yet. -/
  | uncache (now : Int) (session : Session) (rest : List Session)
  | returned
  | failed

def RevokePhase.hasReturned : RevokePhase → Bool
  | .returned => true
  | _ => false

def RevokePhase.hasEnded : RevokePhase → Bool
  | .returned => true
  | .failed => true
  | _ => false

/-- A call of `revokeSession`, or of `revokeAllSessions` when it names no session. -/
structure Revoke where
  userId : String
  sessionId : Option String
  covered : List JwtPayload
  phase : RevokePhase

/-- The JWTs a call is to shut out: of all the user's, or of those of the one session. -/
def covers (userId : String) (sessionId : Option String) (payload : JwtPayload) : Bool :=
  payload.sub = userId ∧ (sessionId = none ∨ payload.sessionId = sessionId)

/-! ### The services -/

structure AuthService where
  sessions : List Session
  users : String → Option User
  sessionCache : String × String → Option Bool
  userCache : String → Option User
  /-- The payloads of the logins that have yet to sign. -/
  logins : List JwtPayload
  issued : List JwtPayload
  validates : List Validate
  revokes : List Revoke

inductive AuthAction where
  /-- `createSession`, for `login` and `issueSessionForUser` alike. -/
  | createSession (userId id : String) (now : Int)
  | createInitialAdmin (user : User)
  /-- `jwtService.sign` for the `i`-th pending login. -/
  | sign (i : Nat)
  | writeUser (userId : String) (user : Option User)
  | expireSession (key : String × String)
  | expireUser (userId : String)
  | beginValidate (payload : JwtPayload)
  /-- The `i`-th `validate` goes on to its next `await`. -/
  | validate (i : Nat) (now : Int)
  | validateFails (i : Nat)
  | revokeSession (sessionId userId : String)
  | revokeAllSessions (userId : String)
  /-- The `i`-th revocation goes on to its next `await`. -/
  | revoke (i : Nat) (now : Int)
  | revokeFails (i : Nat)

/-- After `validateSessionCached`. -/
def afterSession (isValid : Bool) : ValidatePhase :=
  if isValid then .userCache else .rejected "Session has been revoked"

/-- After `getUserCached`. -/
def afterUser : Option User → ValidatePhase
  | none => .rejected "User not found"
  | some user =>
      if user.status ≠ .active then .rejected "Account is not active"
      else if user.deletedAt.isSome then .rejected "Account has been deleted"
      else .accepted ⟨user.id, user.email, user.name, user.isSuperAdmin⟩

/-- After the loop of `revokeAllSessions` has come round. -/
def afterRevoke (now : Int) : List Session → RevokePhase
  | [] => .returned
  | session :: rest => .insert now (session :: rest)

namespace AuthService

def init : AuthService :=
  ⟨[], fun _ => none, fun _ => none, fun _ => none, [], [], [], []⟩

/-- `SELECT * FROM sessions FINAL WHERE ...` -/
def select (s : AuthService) (p : Session → Bool) : List Session :=
  (Replacing.final Session.key Session.updatedAt s.sessions).filter p

/-- `validateSession` -/
def validateSession (s : AuthService) (key : String × String) (now : Int) : Bool :=
  0 < (s.select fun session => session.id = key.2 ∧ session.userId = key.1 ∧
    session.revokedAt = none ∧ now < session.expiresAt).length

/-- The `validate` call `v` between two of its `await`s. -/
def validateStep (s : AuthService) (v : Validate) (now : Int) :
    Option (AuthService × ValidatePhase) :=
  match v.phase with
  | .sessionCache key =>
      match s.sessionCache key with
      | some isValid => some (s, afterSession isValid)
      | none => some (s, .sessionQuery key)
  | .sessionQuery key => some (s, .sessionStore key (s.validateSession key now))
  | .sessionStore key isValid =>
      some ({ s with sessionCache := Function.update s.sessionCache key (some isValid) },
        afterSession isValid)
  | .userCache =>
      match s.userCache v.payload.sub with
      | some user => some (s, afterUser (some user))
      | none => some (s, .userQuery)
  | .userQuery =>
      match s.users v.payload.sub with
      | some user => some (s, .userStore user)
      | none => some (s, afterUser none)
  | .userStore user =>
      some ({ s with userCache := Function.update s.userCache v.payload.sub (some user) },
        afterUser (some user))
  | .accepted _ => none
  | .rejected _ => none
  | .failed => none

/-- The revocation `r` between two of its `await`s. -/
def revokeStep (s : AuthService) (r : Revoke) (now : Int) : Option (AuthService × RevokePhase) :=
  match r.phase with
  | .query =>
      match r.sessionId with
      | some id =>
          -- 'Session not found' when there is no such row
          match s.select fun session => session.id = id ∧ session.userId = r.userId with
          | session :: _ => some (s, .insert now [session])
          | [] => some (s, .failed)
      | none =>
          some (s, afterRevoke now
            (s.select fun session => session.userId = r.userId ∧ session.revokedAt = none))
  | .insert now (session :: rest) =>
      some ({ s with sessions := s.sessions ++ [session.revoke now] }, .uncache now session rest)
  | .uncache now session rest =>
      some ({ s with sessionCache := Function.update s.sessionCache (r.userId, session.id) none },
        afterRevoke now rest)
  | .insert _ [] => none
  | .returned => none
  | .failed => none

/-- Whether a returned revocation shuts the JWT out. -/
def isRevoked (s : AuthService) (payload : JwtPayload) : Bool :=
  s.revokes.any fun r => r.phase.hasReturned && decide (payload ∈ r.covered)

def beginRevoke (s : AuthService) (userId : String) (sessionId : Option String) : AuthService :=
  { s with revokes :=
      s.revokes ++ [⟨userId, sessionId, s.issued.filter (covers userId sessionId), .query⟩] }

/-- Where `validate` starts. -/
def firstPhase (payload : JwtPayload) : ValidatePhase :=
  match payload.session? with
  | some key => .sessionCache key
  | none => .userCache

def step (s : AuthService) : AuthAction → Option AuthService
  | .createSession userId id now =>
      -- `generateId` returns a UUID nobody has
      if id ≠ "" ∧ ∀ session ∈ s.sessions, session.id ≠ id then
        some { s with
          sessions := s.sessions ++
            [⟨id, userId, now + SESSION_EXPIRY_DAYS * 24 * 60 * 60 * 1000, none, now⟩]
          logins := s.logins ++ [⟨userId, some id⟩] }
      else none
  | .createInitialAdmin user =>
      some { s with
        users := Function.update s.users user.id (some user)
        logins := s.logins ++ [⟨user.id, none⟩] }
  | .sign i =>
      (s.logins[i]?).map fun payload =>
        { s with logins := s.logins.eraseIdx i, issued := s.issued ++ [payload] }
  | .writeUser userId user => some { s with users := Function.update s.users userId user }
  | .expireSession key =>
      some { s with sessionCache := Function.update s.sessionCache key none }
  | .expireUser userId => some { s with userCache := Function.update s.userCache userId none }
  | .beginValidate payload =>
      if payload ∈ s.issued then
        some { s with
          validates := s.validates ++ [⟨payload, s.isRevoked payload, firstPhase payload⟩] }
      else none
  | .validate i now =>
      (s.validates[i]?).bind fun v => (s.validateStep v now).map fun (s', phase) =>
        { s' with validates := s.validates.set i { v with phase := phase } }
  | .validateFails i =>
      (s.validates[i]?).bind fun v =>
        if v.phase.remaining = 0 then none
        else some { s with validates := s.validates.set i { v with phase := .failed } }
  | .revokeSession sessionId userId => some (s.beginRevoke userId (some sessionId))
  | .revokeAllSessions userId => some (s.beginRevoke userId none)
  | .revoke i now =>
      (s.revokes[i]?).bind fun r => (s.revokeStep r now).map fun (s', phase) =>
        { s' with revokes := s.revokes.set i { r with phase := phase } }
  | .revokeFails i =>
      (s.revokes[i]?).bind fun r =>
        if r.phase.hasEnded then none
        else some { s with revokes := s.revokes.set i { r with phase := .failed } }

end AuthService

end Veridian
