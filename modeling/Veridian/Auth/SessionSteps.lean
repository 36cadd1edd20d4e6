/-
What one step of the auth services can do.

The relations below list the ways a step goes through, one constructor for each, with
the guards it passed.
-/
import Veridian.Auth.Sessions

namespace Veridian.AuthService

inductive ValidateStepped (s : AuthService) (v : Validate) (now : Int) :
    AuthService → ValidatePhase → Prop
  | sessionHit (key : String × String) (isValid : Bool) (hphase : v.phase = .sessionCache key)
      (h : s.sessionCache key = some isValid) : ValidateStepped s v now s (afterSession isValid)
  | sessionMiss (key : String × String) (hphase : v.phase = .sessionCache key) :
      ValidateStepped s v now s (.sessionQuery key)
  | sessionRead (key : String × String) (hphase : v.phase = .sessionQuery key) :
      ValidateStepped s v now s (.sessionStore key (s.validateSession key now))
  | sessionStored (key : String × String) (isValid : Bool)
      (hphase : v.phase = .sessionStore key isValid) :
      ValidateStepped s v now
        { s with sessionCache := Function.update s.sessionCache key (some isValid) }
        (afterSession isValid)
  | user (cache : String → Option User) (phase : ValidatePhase)
      (hphase : v.phase.pastSession = true) (hnext : phase.pastSession = true)
      (hopen : 0 < v.phase.remaining) (hless : phase.remaining < v.phase.remaining) :
      ValidateStepped s v now { s with userCache := cache } phase

/-- A step behind the session check, from a phase that is known. -/
theorem ValidateStepped.of_phase {s : AuthService} {v : Validate} {now : Int}
    {before phase : ValidatePhase} (cache : String → Option User) (hphase : v.phase = before)
    (hpast : before.pastSession = true) (hnext : phase.pastSession = true)
    (hless : phase.remaining < before.remaining) :
    ValidateStepped s v now { s with userCache := cache } phase := by
  subst hphase
  exact .user cache phase hpast hnext (Nat.zero_lt_of_lt hless) hless

theorem afterUser_pastSession (user : Option User) :
    (afterUser user).pastSession = true ∧ (afterUser user).remaining = 0 := by
  cases user with
  | none => exact ⟨rfl, rfl⟩
  | some user =>
      unfold afterUser
      dsimp only
      split
      · exact ⟨rfl, rfl⟩
      · split <;> exact ⟨rfl, rfl⟩

theorem validateStepped_of_validateStep {s s' : AuthService} {v : Validate} {now : Int}
    {phase : ValidatePhase} (h : s.validateStep v now = some (s', phase)) :
    ValidateStepped s v now s' phase := by
  unfold validateStep at h
  split at h
  · rename_i key hphase
    split at h
    · rename_i isValid hcached
      obtain ⟨rfl, rfl⟩ := Prod.mk.inj (Option.some.inj h)
      exact .sessionHit key isValid hphase hcached
    · obtain ⟨rfl, rfl⟩ := Prod.mk.inj (Option.some.inj h)
      exact .sessionMiss key hphase
  · rename_i key hphase
    obtain ⟨rfl, rfl⟩ := Prod.mk.inj (Option.some.inj h)
    exact .sessionRead key hphase
  · rename_i key isValid hphase
    obtain ⟨rfl, rfl⟩ := Prod.mk.inj (Option.some.inj h)
    exact .sessionStored key isValid hphase
  · rename_i hphase
    split at h
    · rename_i user _
      obtain ⟨rfl, rfl⟩ := Prod.mk.inj (Option.some.inj h)
      obtain ⟨hpast, hzero⟩ := afterUser_pastSession (some user)
      refine .of_phase s.userCache hphase rfl hpast ?_
      rw [hzero]
      decide
    · obtain ⟨rfl, rfl⟩ := Prod.mk.inj (Option.some.inj h)
      exact .of_phase s.userCache hphase rfl rfl (by decide)
  · rename_i hphase
    split at h
    · obtain ⟨rfl, rfl⟩ := Prod.mk.inj (Option.some.inj h)
      exact .of_phase s.userCache hphase rfl rfl (Nat.lt_succ_self 1)
    · obtain ⟨rfl, rfl⟩ := Prod.mk.inj (Option.some.inj h)
      exact .of_phase s.userCache hphase rfl rfl Nat.zero_lt_two
  · rename_i user hphase
    obtain ⟨rfl, rfl⟩ := Prod.mk.inj (Option.some.inj h)
    obtain ⟨hpast, hzero⟩ := afterUser_pastSession (some user)
    refine .of_phase _ hphase rfl hpast ?_
    rw [hzero]
    exact Nat.one_pos
  · exact absurd h (by simp)
  · exact absurd h (by simp)
  · exact absurd h (by simp)

inductive RevokeStepped (s : AuthService) (r : Revoke) (now : Int) :
    AuthService → RevokePhase → Prop
  | found (id : String) (session : Session) (rest : List Session) (hphase : r.phase = .query)
      (hid : r.sessionId = some id)
      (h : (s.select fun session => session.id = id ∧ session.userId = r.userId) =
        session :: rest) : RevokeStepped s r now s (.insert now [session])
  | notFound (hphase : r.phase = .query) : RevokeStepped s r now s .failed
  | listed (hphase : r.phase = .query) (hid : r.sessionId = none) :
      RevokeStepped s r now s (afterRevoke now
        (s.select fun session => session.userId = r.userId ∧ session.revokedAt = none))
  | inserted (stamp : Int) (session : Session) (rest : List Session)
      (hphase : r.phase = .insert stamp (session :: rest)) :
      RevokeStepped s r now { s with sessions := s.sessions ++ [session.revoke stamp] }
        (.uncache stamp session rest)
  | uncached (stamp : Int) (session : Session) (rest : List Session)
      (hphase : r.phase = .uncache stamp session rest) :
      RevokeStepped s r now
        { s with sessionCache := Function.update s.sessionCache (r.userId, session.id) none }
        (afterRevoke stamp rest)

theorem revokeStepped_of_revokeStep {s s' : AuthService} {r : Revoke} {now : Int}
    {phase : RevokePhase} (h : s.revokeStep r now = some (s', phase)) :
    RevokeStepped s r now s' phase := by
  unfold revokeStep at h
  split at h
  · rename_i hphase
    split at h
    · rename_i id hid
      split at h
      · rename_i session rest hrows
        obtain ⟨rfl, rfl⟩ := Prod.mk.inj (Option.some.inj h)
        exact .found id session rest hphase hid hrows
      · obtain ⟨rfl, rfl⟩ := Prod.mk.inj (Option.some.inj h)
        exact .notFound hphase
    · rename_i hid
      obtain ⟨rfl, rfl⟩ := Prod.mk.inj (Option.some.inj h)
      exact .listed hphase hid
  · rename_i stamp session rest hphase
    obtain ⟨rfl, rfl⟩ := Prod.mk.inj (Option.some.inj h)
    exact .inserted stamp session rest hphase
  · rename_i stamp session rest hphase
    obtain ⟨rfl, rfl⟩ := Prod.mk.inj (Option.some.inj h)
    exact .uncached stamp session rest hphase
  · exact absurd h (by simp)
  · exact absurd h (by simp)
  · exact absurd h (by simp)

inductive Stepped (s : AuthService) : AuthAction → AuthService → Prop
  | createSession (userId id : String) (now : Int) (hid : id ≠ "")
      (hfresh : ∀ session ∈ s.sessions, session.id ≠ id) :
      Stepped s (.createSession userId id now)
      { s with
        sessions := s.sessions ++
          [⟨id, userId, now + SESSION_EXPIRY_DAYS * 24 * 60 * 60 * 1000, none, now⟩]
        logins := s.logins ++ [⟨userId, some id⟩] }
  | createInitialAdmin (user : User) : Stepped s (.createInitialAdmin user)
      { s with
        users := Function.update s.users user.id (some user)
        logins := s.logins ++ [⟨user.id, none⟩] }
  | sign (i : Nat) (payload : JwtPayload) (h : s.logins[i]? = some payload) : Stepped s (.sign i)
      { s with logins := s.logins.eraseIdx i, issued := s.issued ++ [payload] }
  | writeUser (userId : String) (user : Option User) : Stepped s (.writeUser userId user)
      { s with users := Function.update s.users userId user }
  | expireSession (key : String × String) : Stepped s (.expireSession key)
      { s with sessionCache := Function.update s.sessionCache key none }
  | expireUser (userId : String) : Stepped s (.expireUser userId)
      { s with userCache := Function.update s.userCache userId none }
  | beginValidate (payload : JwtPayload) (h : payload ∈ s.issued) :
      Stepped s (.beginValidate payload)
      { s with validates :=
          s.validates ++ [⟨payload, s.isRevoked payload, firstPhase payload⟩] }
  | validate (i : Nat) (now : Int) (v : Validate) (s' : AuthService) (phase : ValidatePhase)
      (hv : s.validates[i]? = some v) (h : ValidateStepped s v now s' phase) :
      Stepped s (.validate i now)
      { s' with validates := s.validates.set i { v with phase := phase } }
  | validateFails (i : Nat) (v : Validate) (hv : s.validates[i]? = some v)
      (hopen : v.phase.remaining ≠ 0) : Stepped s (.validateFails i)
      { s with validates := s.validates.set i { v with phase := .failed } }
  | revokeSession (sessionId userId : String) : Stepped s (.revokeSession sessionId userId)
      (s.beginRevoke userId (some sessionId))
  | revokeAllSessions (userId : String) : Stepped s (.revokeAllSessions userId)
      (s.beginRevoke userId none)
  | revoke (i : Nat) (now : Int) (r : Revoke) (s' : AuthService) (phase : RevokePhase)
      (hr : s.revokes[i]? = some r) (h : RevokeStepped s r now s' phase) :
      Stepped s (.revoke i now)
      { s' with revokes := s.revokes.set i { r with phase := phase } }
  | revokeFails (i : Nat) (r : Revoke) (hr : s.revokes[i]? = some r)
      (hopen : r.phase.hasEnded = false) : Stepped s (.revokeFails i)
      { s with revokes := s.revokes.set i { r with phase := .failed } }

theorem stepped_of_step {s s' : AuthService} {a : AuthAction} (h : s.step a = some s') :
    Stepped s a s' := by
  cases a with
  | createSession userId id now =>
      simp only [step] at h
      split at h
      · rename_i hguard
        obtain rfl := Option.some.inj h
        exact .createSession userId id now hguard.1 hguard.2
      · exact absurd h (by simp)
  | createInitialAdmin user =>
      obtain rfl := Option.some.inj h
      exact .createInitialAdmin user
  | sign i =>
      obtain ⟨payload, hp, rfl⟩ := Option.map_eq_some_iff.mp h
      exact .sign i payload hp
  | writeUser userId user =>
      obtain rfl := Option.some.inj h
      exact .writeUser userId user
  | expireSession key =>
      obtain rfl := Option.some.inj h
      exact .expireSession key
  | expireUser userId =>
      obtain rfl := Option.some.inj h
      exact .expireUser userId
  | beginValidate payload =>
      simp only [step] at h
      split at h
      · obtain rfl := Option.some.inj h
        exact .beginValidate payload ‹_›
      · exact absurd h (by simp)
  | validate i now =>
      obtain ⟨v, hv, hrest⟩ := Option.bind_eq_some_iff.mp h
      obtain ⟨⟨s₁, phase⟩, hstep, rfl⟩ := Option.map_eq_some_iff.mp hrest
      exact .validate i now v s₁ phase hv (validateStepped_of_validateStep hstep)
  | validateFails i =>
      obtain ⟨v, hv, hrest⟩ := Option.bind_eq_some_iff.mp h
      split at hrest
      · exact absurd hrest (by simp)
      · obtain rfl := Option.some.inj hrest
        exact .validateFails i v hv ‹_›
  | revokeSession sessionId userId =>
      obtain rfl := Option.some.inj h
      exact .revokeSession sessionId userId
  | revokeAllSessions userId =>
      obtain rfl := Option.some.inj h
      exact .revokeAllSessions userId
  | revoke i now =>
      obtain ⟨r, hr, hrest⟩ := Option.bind_eq_some_iff.mp h
      obtain ⟨⟨s₁, phase⟩, hstep, rfl⟩ := Option.map_eq_some_iff.mp hrest
      exact .revoke i now r s₁ phase hr (revokeStepped_of_revokeStep hstep)
  | revokeFails i =>
      obtain ⟨r, hr, hrest⟩ := Option.bind_eq_some_iff.mp h
      split at hrest
      · exact absurd hrest (by simp)
      · rename_i hopen
        obtain rfl := Option.some.inj hrest
        exact .revokeFails i r hr (Bool.eq_false_iff.mpr hopen)

end Veridian.AuthService
