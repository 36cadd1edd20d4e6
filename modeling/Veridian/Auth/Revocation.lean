/-
Is a revocation immediate?

A session is out for good once its newest row is marked revoked and nothing in the
process still trusts it: no `true` in the cache, and no `validate` call that has read
`true` and has yet to store it.  Both facts survive every step, since a query of a
marked session answers `false`.

The services reach that state except in four places.  A JWT without a session is not
looked up at all.  A `validate` call may store, after the cache entry was dropped, what
it had read before the row was marked.  `revokeAllSessions` passes over the sessions
that are marked already, whether or not they are still trusted.  And a row stamped
earlier than the one it replaces does not survive the merge.
-/
import Veridian.Auth.SessionSteps

namespace Veridian

namespace AuthService

/-- The row of a session that survives the merge. -/
def row (s : AuthService) (key : String × String) : Option Session :=
  Replacing.survivor Session.key Session.updatedAt key s.sessions

def Marked (s : AuthService) (key : String × String) : Prop :=
  ∃ session, s.row key = some session ∧ session.revokedAt ≠ none

def Trusted (s : AuthService) (key : String × String) : Prop :=
  s.sessionCache key = some true ∨ ∃ v ∈ s.validates, v.phase = .sessionStore key true

def Closed (s : AuthService) (key : String × String) : Prop := s.Marked key ∧ ¬s.Trusted key

/-! ### Reading the table -/

theorem mem_select_iff {s : AuthService} {p : Session → Bool} {session : Session} :
    session ∈ s.select p ↔ s.row session.key = some session ∧ p session = true := by
  unfold select row
  rw [List.mem_filter, Replacing.mem_final_iff]

theorem row_key {s : AuthService} {key : String × String} {session : Session}
    (h : s.row key = some session) : session ∈ s.sessions ∧ session.key = key :=
  Replacing.survivor_key _ _ h

theorem row_isSome_iff {s : AuthService} {key : String × String} :
    (s.row key).isSome = true ↔ ∃ session ∈ s.sessions, session.key = key :=
  Replacing.survivor_isSome_iff _ _

/-- A marked session is not valid, whenever it is asked for. -/
theorem validateSession_of_marked {s : AuthService} {key : String × String} (h : s.Marked key)
    (now : Int) : s.validateSession key now = false := by
  obtain ⟨session, hrow, hrevoked⟩ := h
  unfold validateSession
  rw [decide_eq_false_iff_not, Nat.not_lt, Nat.le_zero, List.length_eq_zero_iff]
  refine List.eq_nil_iff_forall_not_mem.mpr fun other hother => ?_
  obtain ⟨hother, hp⟩ := mem_select_iff.mp hother
  obtain ⟨hid, huser, hnone, -⟩ := of_decide_eq_true hp
  have hkey : other.key = key := Prod.ext huser hid
  rw [hkey, hrow] at hother
  obtain rfl := Option.some.inj hother
  exact hrevoked hnone

/-! ### What a step keeps -/

theorem marked_of_sessions {s s' : AuthService} {key : String × String} (h : s.Marked key)
    (hsessions : s'.sessions = s.sessions) : s'.Marked key := by
  unfold Marked row
  rw [hsessions]
  exact h

/-- A row of another session leaves a marked session marked. -/
theorem marked_append_of_ne {s s' : AuthService} {key : String × String} {x : Session}
    (h : s.Marked key) (hx : x.key ≠ key) (hsessions : s'.sessions = s.sessions ++ [x]) :
    s'.Marked key := by
  unfold Marked row
  rw [hsessions, Replacing.survivor_append_of_ne _ _ hx]
  exact h

/-- A revoked row marks its session when the row it meets is marked or not younger. -/
theorem marked_append_revoke {s s' : AuthService} {session old : Session} (now : Int)
    (hold : s.row session.key = some old) (hle : old.revokedAt = none → old.updatedAt ≤ now)
    (hsessions : s'.sessions = s.sessions ++ [session.revoke now]) : s'.Marked session.key := by
  refine ⟨if now < old.updatedAt then old else session.revoke now, ?_, ?_⟩
  · unfold row
    rw [hsessions]
    exact Replacing.survivor_append_of_some _ _ hold rfl
  · split
    · rename_i hlt
      exact fun hnone => absurd hlt (not_lt.mpr (hle hnone))
    · exact Option.some_ne_none now

theorem step_marked {s s' : AuthService} {a : AuthAction} (h : s.step a = some s')
    {key : String × String} (hk : s.Marked key) : s'.Marked key := by
  cases stepped_of_step h with
  | createSession userId id now _ hfresh =>
      refine marked_append_of_ne hk (fun heq => ?_) rfl
      obtain ⟨session, hrow, -⟩ := hk
      obtain ⟨hmem, rfl⟩ := row_key hrow
      exact hfresh session hmem (congrArg Prod.snd heq).symm
  | validate i now v s₁ phase _ hv =>
      cases hv with
      | sessionHit | sessionMiss | sessionRead | sessionStored | user =>
          exact marked_of_sessions hk rfl
  | revoke i now r s₁ phase _ hr =>
      cases hr with
      | found | notFound | listed | uncached => exact marked_of_sessions hk rfl
      | inserted stamp session rest _ =>
          by_cases hkey : session.key = key
          · subst hkey
            obtain ⟨old, hold, hrevoked⟩ := hk
            exact marked_append_revoke stamp hold (fun hnone => absurd hnone hrevoked) rfl
          · exact marked_append_of_ne (x := session.revoke stamp) hk hkey rfl
  | createInitialAdmin | sign | writeUser | expireSession | expireUser | beginValidate
  | validateFails | revokeSession | revokeAllSessions | revokeFails =>
      exact marked_of_sessions hk rfl

/-- A step that adds no reason to trust. -/
theorem trusted_of_less {s s' : AuthService} {key : String × String} (h : s'.Trusted key)
    (hcache : s'.sessionCache key = some true → s.Trusted key)
    (hphases : ∀ v ∈ s'.validates, v.phase = .sessionStore key true →
      ∃ v₀ ∈ s.validates, v₀.phase = .sessionStore key true) : s.Trusted key := by
  rcases h with h | ⟨v, hv, hphase⟩
  · exact hcache h
  · exact Or.inr (hphases v hv hphase)

theorem afterSession_ne_store (isValid : Bool) (key : String × String) :
    afterSession isValid ≠ .sessionStore key true := by
  cases isValid <;> exact fun h => ValidatePhase.noConfusion h

/-- Setting one call to a phase that trusts nothing new. -/
theorem phases_of_set {s : AuthService} {i : Nat} {v : Validate} {phase : ValidatePhase}
    {key : String × String} (hphase : phase ≠ .sessionStore key true) :
    ∀ w ∈ s.validates.set i { v with phase := phase }, w.phase = .sessionStore key true →
      ∃ v₀ ∈ s.validates, v₀.phase = .sessionStore key true := by
  intro w hw hstore
  rcases List.mem_or_eq_of_mem_set hw with hmem | rfl
  · exact ⟨w, hmem, hstore⟩
  · exact absurd hstore hphase

theorem firstPhase_ne_store (payload : JwtPayload) (key : String × String) :
    firstPhase payload ≠ .sessionStore key true := by
  unfold firstPhase
  split <;> exact fun h => ValidatePhase.noConfusion h

/-- Nothing comes to trust a session that is marked. -/
theorem step_trusted {s s' : AuthService} {a : AuthAction} (h : s.step a = some s')
    {key : String × String} (hk : s.Marked key) (ht : s'.Trusted key) : s.Trusted key := by
  cases stepped_of_step h with
  | expireSession k =>
      refine trusted_of_less ht (fun hcache => ?_) (fun v hv hp => ⟨v, hv, hp⟩)
      by_cases hkk : key = k
      · subst hkk
        simp at hcache
      · exact Or.inl (by simpa [hkk] using hcache)
  | beginValidate payload _ =>
      refine trusted_of_less ht Or.inl (fun v hv hp => ?_)
      rcases List.mem_append.mp hv with hold | hnew
      · exact ⟨v, hold, hp⟩
      · obtain rfl := List.mem_singleton.mp hnew
        exact absurd hp (firstPhase_ne_store payload key)
  | validate i now v s₁ phase hv hstep =>
      cases hstep with
      | sessionHit k isValid _ _ =>
          exact trusted_of_less ht Or.inl (phases_of_set (afterSession_ne_store isValid key))
      | sessionMiss k _ =>
          exact trusted_of_less ht Or.inl (phases_of_set fun h => ValidatePhase.noConfusion h)
      | sessionRead k _ =>
          refine trusted_of_less ht Or.inl (phases_of_set fun heq => ?_)
          obtain ⟨rfl, hvalid⟩ := ValidatePhase.sessionStore.inj heq
          rw [validateSession_of_marked hk now] at hvalid
          exact Bool.false_ne_true hvalid
      | sessionStored k isValid hphase =>
          refine trusted_of_less ht (fun hcache => ?_)
            (phases_of_set (afterSession_ne_store isValid key))
          by_cases hkk : key = k
          · subst hkk
            obtain rfl : isValid = true := by simpa using hcache
            exact Or.inr ⟨v, List.mem_of_getElem? hv, hphase⟩
          · exact Or.inl (by simpa [hkk] using hcache)
      | user cache phase _ hnext _ _ =>
          refine trusted_of_less ht Or.inl (phases_of_set fun heq => ?_)
          subst heq
          exact Bool.false_ne_true hnext
  | validateFails i v hv _ =>
      exact trusted_of_less ht Or.inl (phases_of_set fun h => ValidatePhase.noConfusion h)
  | revoke i now r s₁ phase _ hr =>
      cases hr with
      | found | notFound | listed | inserted => exact ht
      | uncached stamp session rest _ =>
          refine trusted_of_less ht (fun hcache => ?_) (fun v hv hp => ⟨v, hv, hp⟩)
          by_cases hkk : key = (r.userId, session.id)
          · subst hkk
            simp at hcache
          · exact Or.inl (by simpa [hkk] using hcache)
  | createSession | createInitialAdmin | sign | writeUser | expireUser
  | revokeSession | revokeAllSessions | revokeFails => exact ht

theorem step_closed {s s' : AuthService} {a : AuthAction} (h : s.step a = some s')
    {key : String × String} (hk : s.Closed key) : s'.Closed key :=
  ⟨step_marked h hk.1, fun ht => hk.2 (step_trusted h hk.1 ht)⟩

/-! ### What a revocation has still to do -/

/-- A session a call is to shut out: what the call has done about it so far. -/
def Settled (s : AuthService) (key : String × String) : RevokePhase → Prop
  | .query => True
  | .insert _ todo => s.Closed key ∨ key ∈ todo.map Session.key
  | .uncache _ session rest =>
      s.Closed key ∨ (key = session.key ∧ s.Marked key) ∨ key ∈ rest.map Session.key
  | .returned => s.Closed key
  | .failed => True

theorem settled_afterRevoke {s : AuthService} {key : String × String} {now : Int}
    {todo : List Session} :
    s.Settled key (afterRevoke now todo) ↔ s.Closed key ∨ key ∈ todo.map Session.key := by
  cases todo with
  | nil => simp [afterRevoke, Settled]
  | cons session rest => exact Iff.rfl

theorem Settled.step {s s' : AuthService} {a : AuthAction} (h : s.step a = some s')
    {key : String × String} {phase : RevokePhase} (hs : s.Settled key phase) :
    s'.Settled key phase := by
  cases phase with
  | query | failed => trivial
  | insert now todo => exact hs.imp_left (step_closed h)
  | uncache now session rest =>
      exact hs.imp (step_closed h) (Or.imp_left fun hm => ⟨hm.1, step_marked h hm.2⟩)
  | returned => exact step_closed h hs

/-- The sessions a call has in hand. -/
def inHand : RevokePhase → List Session
  | .query => []
  | .insert _ todo => todo
  | .uncache _ session rest => session :: rest
  | .returned => []
  | .failed => []

theorem inHand_afterRevoke (now : Int) (todo : List Session) :
    inHand (afterRevoke now todo) = todo := by
  cases todo <;> rfl

/-- Where a `validate` call of a JWT that is shut out can stand. -/
def OnTheWayOut (s : AuthService) : ValidatePhase → Prop
  | .sessionCache key => s.Closed key
  | .sessionQuery key => s.Closed key
  | .sessionStore key isValid => s.Closed key ∧ isValid = false
  | .rejected message => message = "Session has been revoked"
  | .failed => True
  | _ => False

theorem OnTheWayOut.step {s s' : AuthService} {a : AuthAction} (h : s.step a = some s')
    {phase : ValidatePhase} (hs : s.OnTheWayOut phase) : s'.OnTheWayOut phase := by
  cases phase with
  | sessionCache key | sessionQuery key => exact step_closed h hs
  | sessionStore key isValid => exact ⟨step_closed h hs.1, hs.2⟩
  | userCache | userQuery | userStore | accepted | rejected | failed => exact hs

/-- The session of a payload, with the row that was inserted for it. -/
def Opened (s : AuthService) (payload : JwtPayload) : Prop :=
  ∀ id, payload.sessionId = some id →
    id ≠ "" ∧ ∃ session ∈ s.sessions, session.key = (payload.sub, id)

/-! ### The condition on a step -/

/-- The steps of a revocation that make it immediate.

* `revokeAllSessions` begins: every JWT of the user names a session.
* It lists the sessions: those it passes over because they are marked are not trusted.
* It marks one: the row that is live is not stamped later than the call.
* It drops the cache entry: no `validate` call has read the session as valid and has
  yet to store that. -/
def Immediate (s : AuthService) : AuthAction → Prop
  | .revokeAllSessions userId => ∀ payload ∈ s.issued, payload.sub = userId →
      payload.sessionId ≠ none
  | .revoke i _ => ∀ r, s.revokes[i]? = some r →
      match r.phase with
      | .query => r.sessionId = none → ∀ key : String × String, key.1 = r.userId →
          s.Marked key → ¬s.Trusted key
      | .insert stamp (session :: _) => ∀ old, s.row session.key = some old →
          old.revokedAt = none → old.updatedAt ≤ stamp
      | .uncache _ session _ => ∀ v ∈ s.validates,
          v.phase ≠ .sessionStore (r.userId, session.id) true
      | _ => True
  | _ => True

/-! ### The invariant -/

structure Revocable (s : AuthService) : Prop where
  opened : ∀ payload ∈ s.logins ++ s.issued, s.Opened payload
  covered : ∀ r ∈ s.revokes, ∀ payload ∈ r.covered, payload ∈ s.issued ∧
    covers r.userId r.sessionId payload = true ∧ payload.sessionId ≠ none
  inHand : ∀ r ∈ s.revokes, ∀ session ∈ inHand r.phase, session.userId = r.userId ∧
    ∃ old ∈ s.sessions, old.key = session.key
  settled : ∀ r ∈ s.revokes, ∀ payload ∈ r.covered, ∀ id, payload.sessionId = some id →
    s.Settled (payload.sub, id) r.phase
  late : ∀ v ∈ s.validates, v.late = true → s.OnTheWayOut v.phase

theorem revocable_init : Revocable .init := by
  refine ⟨?_, ?_, ?_, ?_, ?_⟩ <;> simp [AuthService.init]

/-- Rows are only ever added. -/
theorem step_sessions {s s' : AuthService} {a : AuthAction} (h : s.step a = some s') :
    ∀ session ∈ s.sessions, session ∈ s'.sessions := by
  intro session hmem
  cases stepped_of_step h with
  | createSession userId id now _ _ => exact List.mem_append_left _ hmem
  | validate i now v s₁ phase _ hv =>
      cases hv with
      | sessionHit | sessionMiss | sessionRead | sessionStored | user => exact hmem
  | revoke i now r s₁ phase _ hr =>
      cases hr with
      | found | notFound | listed | uncached => exact hmem
      | inserted => exact List.mem_append_left _ hmem
  | createInitialAdmin | sign | writeUser | expireSession | expireUser | beginValidate
  | validateFails | revokeSession | revokeAllSessions | revokeFails => exact hmem

theorem Opened.step {s s' : AuthService} {a : AuthAction} (h : s.step a = some s')
    {payload : JwtPayload} (hp : s.Opened payload) : s'.Opened payload := by
  intro id hid
  obtain ⟨hne, session, hmem, hkey⟩ := hp id hid
  exact ⟨hne, session, step_sessions h session hmem, hkey⟩

theorem step_issued {s s' : AuthService} {a : AuthAction} (h : s.step a = some s') :
    ∀ payload ∈ s.issued, payload ∈ s'.issued := by
  intro payload hmem
  cases stepped_of_step h with
  | sign i _ _ => exact List.mem_append_left _ hmem
  | validate i now v s₁ phase _ hv =>
      cases hv with
      | sessionHit | sessionMiss | sessionRead | sessionStored | user => exact hmem
  | revoke i now r s₁ phase _ hr =>
      cases hr with
      | found | notFound | listed | uncached | inserted => exact hmem
  | createSession | createInitialAdmin | writeUser | expireSession | expireUser | beginValidate
  | validateFails | revokeSession | revokeAllSessions | revokeFails => exact hmem

theorem step_opened {s s' : AuthService} {a : AuthAction} (h : s.step a = some s')
    (hs : s.Revocable) : ∀ payload ∈ s'.logins ++ s'.issued, s'.Opened payload := by
  have hold : ∀ payload ∈ s.logins ++ s.issued, s'.Opened payload :=
    fun payload hmem => (hs.opened payload hmem).step h
  intro payload hmem
  cases stepped_of_step h with
  | createSession userId id now hid _ =>
      rcases List.mem_append.mp hmem with hlogin | hissued
      · rcases List.mem_append.mp hlogin with hl | hnew
        · exact hold payload (List.mem_append_left _ hl)
        · obtain rfl := List.mem_singleton.mp hnew
          intro id' hid'
          obtain rfl := Option.some.inj hid'
          exact ⟨hid, _, List.mem_append_right _ (List.mem_singleton.mpr rfl), rfl⟩
      · exact hold payload (List.mem_append_right _ hissued)
  | createInitialAdmin user =>
      rcases List.mem_append.mp hmem with hlogin | hissued
      · rcases List.mem_append.mp hlogin with hl | hnew
        · exact hold payload (List.mem_append_left _ hl)
        · obtain rfl := List.mem_singleton.mp hnew
          exact fun id hid => absurd hid (by simp)
      · exact hold payload (List.mem_append_right _ hissued)
  | sign i payload' hp =>
      rcases List.mem_append.mp hmem with hlogin | hissued
      · exact hold payload (List.mem_append_left _ (List.mem_of_mem_eraseIdx hlogin))
      · rcases List.mem_append.mp hissued with hi | hnew
        · exact hold payload (List.mem_append_right _ hi)
        · obtain rfl := List.mem_singleton.mp hnew
          exact hold payload (List.mem_append_left _ (List.mem_of_getElem? hp))
  | validate i now v s₁ phase _ hv =>
      cases hv with
      | sessionHit | sessionMiss | sessionRead | sessionStored | user => exact hold payload hmem
  | revoke i now r s₁ phase _ hr =>
      cases hr with
      | found | notFound | listed | uncached | inserted => exact hold payload hmem
  | writeUser | expireSession | expireUser | beginValidate
  | validateFails | revokeSession | revokeAllSessions | revokeFails => exact hold payload hmem

theorem covers_iff {userId : String} {sessionId : Option String} {payload : JwtPayload} :
    covers userId sessionId payload = true ↔
      payload.sub = userId ∧ (sessionId = none ∨ payload.sessionId = sessionId) :=
  decide_eq_true_iff

theorem Opened.row {s : AuthService} {payload : JwtPayload} (h : s.Opened payload) {id : String}
    (hid : payload.sessionId = some id) : ∃ session, s.row (payload.sub, id) = some session := by
  obtain ⟨-, session, hmem, hkey⟩ := h id hid
  exact Option.isSome_iff_exists.mp (row_isSome_iff.mpr ⟨session, hmem, hkey⟩)

/-- The step of a revocation that lists the sessions of a user. -/
theorem settled_listed {s s' : AuthService} {i : Nat} {now : Int} {r : Revoke}
    (hs : s.Revocable) (h : s.step (.revoke i now) = some s') (hr : s.revokes[i]? = some r)
    (hall : ∀ key : String × String, key.1 = r.userId → s.Marked key → ¬s.Trusted key)
    {payload : JwtPayload} (hp : payload ∈ r.covered) {id : String}
    (hid : payload.sessionId = some id) :
    s'.Settled (payload.sub, id) (afterRevoke now
      (s.select fun session => session.userId = r.userId ∧ session.revokedAt = none)) := by
  obtain ⟨hissued, hcovers, -⟩ := hs.covered r (List.mem_of_getElem? hr) payload hp
  have hsub := (covers_iff.mp hcovers).1
  obtain ⟨session, hrow⟩ := (hs.opened payload (List.mem_append_right _ hissued)).row hid
  have hkey := (row_key hrow).2
  refine settled_afterRevoke.mpr ?_
  by_cases hrevoked : session.revokedAt = none
  · refine Or.inr (List.mem_map.mpr ⟨session, mem_select_iff.mpr ⟨?_, ?_⟩, hkey⟩)
    · rw [hkey]
      exact hrow
    · refine decide_eq_true ⟨?_, hrevoked⟩
      exact (congrArg Prod.fst hkey).trans hsub
  · have hmarked : s.Marked (payload.sub, id) := ⟨session, hrow, hrevoked⟩
    exact Or.inl (step_closed h ⟨hmarked, hall _ hsub hmarked⟩)

/-- **A step of a revocation settles what it was about.** -/
theorem revoke_settled {s s₁ s' : AuthService} {i : Nat} {now : Int} {r : Revoke}
    {phase : RevokePhase} (hs : s.Revocable) (hC : s.Immediate (.revoke i now))
    (h : s.step (.revoke i now) = some s') (hr : s.revokes[i]? = some r)
    (hstep : RevokeStepped s r now s₁ phase)
    (hs' : s' = { s₁ with revokes := s.revokes.set i { r with phase := phase } })
    {payload : JwtPayload} (hp : payload ∈ r.covered) {id : String}
    (hid : payload.sessionId = some id) : s'.Settled (payload.sub, id) phase := by
  have hmem := List.mem_of_getElem? hr
  have hsettled := hs.settled r hmem payload hp id hid
  have hguard := hC r hr
  cases hstep with
  | found id' session rest hphase hid' hrows =>
      obtain ⟨hsub, hsame⟩ := covers_iff.mp (hs.covered r hmem payload hp).2.1
      obtain rfl : id = id' := by simpa [hid, hid'] using hsame
      have hsel : session ∈ s.select fun x => x.id = id ∧ x.userId = r.userId := by
        rw [hrows]
        exact List.mem_cons_self
      obtain ⟨hid₁, huser⟩ := of_decide_eq_true (mem_select_iff.mp hsel).2
      refine Or.inr (List.mem_singleton.mpr ?_)
      exact Prod.ext (hsub.trans huser.symm) hid₁.symm
  | notFound => trivial
  | listed hphase hnone =>
      rw [hphase] at hguard
      exact settled_listed hs h hr (hguard hnone) hp hid
  | inserted stamp session rest hphase =>
      rw [hphase] at hsettled hguard
      rcases hsettled with hclosed | htodo
      · exact Or.inl (step_closed h hclosed)
      · rcases List.mem_cons.mp htodo with hhead | hrest
        · obtain ⟨-, old, hold, hkey⟩ :=
            hs.inHand r hmem session (by simp [hphase, AuthService.inHand])
          obtain ⟨live, hlive⟩ :=
            Option.isSome_iff_exists.mp (row_isSome_iff.mpr ⟨old, hold, hkey⟩)
          refine Or.inr (Or.inl ⟨hhead, ?_⟩)
          rw [hhead, hs']
          exact marked_append_revoke stamp hlive (hguard live hlive) rfl
        · exact Or.inr (Or.inr hrest)
  | uncached stamp session rest hphase =>
      rw [hphase] at hsettled hguard
      refine settled_afterRevoke.mpr ?_
      rcases hsettled with hclosed | ⟨hhead, hmarked⟩ | hrest
      · exact Or.inl (step_closed h hclosed)
      · refine Or.inl ⟨step_marked h hmarked, ?_⟩
        obtain ⟨huser, -⟩ := hs.inHand r hmem session (by simp [hphase, AuthService.inHand])
        have hkey : (payload.sub, id) = (r.userId, session.id) := by
          rw [hhead, ← huser]
          rfl
        rw [hkey, hs']
        rintro (hcache | ⟨v, hv, hstore⟩)
        · simp at hcache
        · exact hguard v hv hstore
      · exact Or.inr hrest

/-- The sessions a step of a revocation has in hand are the user's, with rows. -/
theorem revoke_inHand {s s₁ : AuthService} {now : Int} {r : Revoke} {phase : RevokePhase}
    (hs : s.Revocable) (hmem : r ∈ s.revokes) (hstep : RevokeStepped s r now s₁ phase) :
    ∀ session ∈ inHand phase, session.userId = r.userId ∧
      ∃ old ∈ s.sessions, old.key = session.key := by
  have hold := hs.inHand r hmem
  cases hstep with
  | found id session rest hphase hid hrows =>
      intro session' hin
      obtain rfl := List.mem_singleton.mp hin
      have hsel : session' ∈ s.select fun x => x.id = id ∧ x.userId = r.userId := by
        rw [hrows]
        exact List.mem_cons_self
      obtain ⟨hrow, hp⟩ := mem_select_iff.mp hsel
      exact ⟨(of_decide_eq_true hp).2, session', (row_key hrow).1, rfl⟩
  | notFound => exact fun session hin => absurd hin (by simp [AuthService.inHand])
  | listed hphase hnone =>
      rw [inHand_afterRevoke]
      intro session hin
      obtain ⟨hrow, hp⟩ := mem_select_iff.mp hin
      exact ⟨(of_decide_eq_true hp).1, session, (row_key hrow).1, rfl⟩
  | inserted stamp session rest hphase =>
      rw [hphase] at hold
      exact hold
  | uncached stamp session rest hphase =>
      rw [hphase] at hold
      rw [inHand_afterRevoke]
      exact fun session' hin => hold session' (List.mem_cons_of_mem _ hin)

/-- What holds of a revocation after a step from `s` to `s'`. -/
structure FitsAfter (s s' : AuthService) (r : Revoke) : Prop where
  covered : ∀ payload ∈ r.covered, payload ∈ s.issued ∧
    covers r.userId r.sessionId payload = true ∧ payload.sessionId ≠ none
  inHand : ∀ session ∈ inHand r.phase, session.userId = r.userId ∧
    ∃ old ∈ s.sessions, old.key = session.key
  settled : ∀ payload ∈ r.covered, ∀ id, payload.sessionId = some id →
    s'.Settled (payload.sub, id) r.phase

/-- A new revocation covers JWTs that name a session, and has nothing in hand. -/
theorem fitsAfter_begin {s s' : AuthService} {userId : String} {sessionId : Option String}
    (hnames : ∀ payload ∈ s.issued, covers userId sessionId payload = true →
      payload.sessionId ≠ none) :
    FitsAfter s s' ⟨userId, sessionId, s.issued.filter (covers userId sessionId), .query⟩ := by
  refine ⟨fun payload hp => ?_, fun session hin => absurd hin (by simp [AuthService.inHand]),
    fun _ _ _ _ => trivial⟩
  obtain ⟨hissued, hcovers⟩ := List.mem_filter.mp hp
  exact ⟨hissued, hcovers, hnames payload hissued hcovers⟩

/-- What a step leaves of the revocations: the old ones, a new one, or one that went on. -/
theorem step_revokes {s s' : AuthService} {a : AuthAction} (h : s.step a = some s')
    (hs : s.Revocable) (hC : s.Immediate a) : ∀ r' ∈ s'.revokes, FitsAfter s s' r' := by
  have hold : ∀ r' ∈ s.revokes, FitsAfter s s' r' := fun r' hr' =>
    ⟨hs.covered r' hr', hs.inHand r' hr', fun payload hp id hid =>
      (hs.settled r' hr' payload hp id hid).step h⟩
  intro r' hr'
  cases stepped_of_step h with
  | revokeSession sessionId userId =>
      rcases List.mem_append.mp hr' with hr | hnew
      · exact hold r' hr
      · obtain rfl := List.mem_singleton.mp hnew
        refine fitsAfter_begin fun payload _ hcovers => ?_
        rcases (covers_iff.mp hcovers).2 with hnone | hsome
        · exact absurd hnone (by simp)
        · simp [hsome]
  | revokeAllSessions userId =>
      rcases List.mem_append.mp hr' with hr | hnew
      · exact hold r' hr
      · obtain rfl := List.mem_singleton.mp hnew
        exact fitsAfter_begin fun payload hissued hcovers =>
          hC payload hissued (covers_iff.mp hcovers).1
  | revoke i now r s₁ phase hr hstep =>
      rcases List.mem_or_eq_of_mem_set hr' with hmem | rfl
      · exact hold r' hmem
      · have hmem := List.mem_of_getElem? hr
        have hin := revoke_inHand hs hmem hstep
        refine ⟨hs.covered r hmem, hin, fun payload hp id hid => ?_⟩
        exact revoke_settled hs hC h hr hstep rfl hp hid
  | revokeFails i r hr _ =>
      rcases List.mem_or_eq_of_mem_set hr' with hmem | rfl
      · exact hold r' hmem
      · exact ⟨hs.covered r (List.mem_of_getElem? hr),
          fun session hin => absurd hin (by simp [AuthService.inHand]), fun _ _ _ _ => trivial⟩
  | validate i now v s₁ phase _ hv =>
      cases hv with
      | sessionHit | sessionMiss | sessionRead | sessionStored | user => exact hold r' hr'
  | createSession | createInitialAdmin | sign | writeUser | expireSession | expireUser
  | beginValidate | validateFails => exact hold r' hr'

/-- A JWT that a returned revocation shuts out starts on the way out. -/
theorem onTheWayOut_firstPhase {s : AuthService} (hs : s.Revocable) {payload : JwtPayload}
    (hlate : s.isRevoked payload = true) : s.OnTheWayOut (firstPhase payload) := by
  obtain ⟨r, hr, hand⟩ := List.any_eq_true.mp hlate
  obtain ⟨hreturned, hin⟩ := Bool.and_eq_true_iff.mp hand
  have hin := of_decide_eq_true hin
  obtain ⟨hissued, -, hsome⟩ := hs.covered r hr payload hin
  obtain ⟨id, hid⟩ := Option.ne_none_iff_exists'.mp hsome
  have hne := (hs.opened payload (List.mem_append_right _ hissued) id hid).1
  have hfirst : firstPhase payload = .sessionCache (payload.sub, id) := by
    simp [firstPhase, JwtPayload.session?, hid, Option.filter, hne]
  have hsettled := hs.settled r hr payload hin id hid
  rw [hfirst]
  cases hphase : r.phase with
  | returned =>
      rw [hphase] at hsettled
      exact hsettled
  | query | insert | uncache | failed =>
      rw [hphase] at hreturned
      exact absurd hreturned Bool.false_ne_true

/-- A `validate` call on the way out stays there. -/
theorem onTheWayOut_validate {s s₁ s' : AuthService} {i : Nat} {now : Int} {v : Validate}
    {phase : ValidatePhase} (h : s.step (.validate i now) = some s')
    (hstep : ValidateStepped s v now s₁ phase) (hv : s.OnTheWayOut v.phase) :
    s'.OnTheWayOut phase := by
  cases hstep with
  | sessionHit key isValid hphase hcached =>
      rw [hphase] at hv
      cases isValid with
      | false => rfl
      | true => exact absurd (Or.inl hcached) hv.2
  | sessionMiss key hphase =>
      rw [hphase] at hv
      exact step_closed h hv
  | sessionRead key hphase =>
      rw [hphase] at hv
      exact ⟨step_closed h hv, validateSession_of_marked hv.1 now⟩
  | sessionStored key isValid hphase =>
      rw [hphase] at hv
      obtain ⟨-, rfl⟩ := hv
      rfl
  | user cache phase hpast _ hopen _ =>
      cases hphase : v.phase with
      | sessionCache | sessionQuery | sessionStore =>
          rw [hphase] at hpast
          exact absurd hpast Bool.false_ne_true
      | userCache | userQuery | userStore | accepted =>
          rw [hphase] at hv
          exact hv.elim
      | rejected | failed =>
          rw [hphase] at hopen
          exact absurd hopen (Nat.lt_irrefl 0)

theorem step_late {s s' : AuthService} {a : AuthAction} (h : s.step a = some s')
    (hs : s.Revocable) : ∀ v ∈ s'.validates, v.late = true → s'.OnTheWayOut v.phase := by
  have hold : ∀ v ∈ s.validates, v.late = true → s'.OnTheWayOut v.phase :=
    fun v hv hlate => (hs.late v hv hlate).step h
  intro v' hv' hlate
  cases stepped_of_step h with
  | beginValidate payload hissued =>
      rcases List.mem_append.mp hv' with hv | hnew
      · exact hold v' hv hlate
      · obtain rfl := List.mem_singleton.mp hnew
        exact (onTheWayOut_firstPhase hs hlate).step h
  | validate i now v s₁ phase hv hstep =>
      rcases List.mem_or_eq_of_mem_set hv' with hmem | rfl
      · exact hold v' hmem hlate
      · exact onTheWayOut_validate h hstep (hs.late v (List.mem_of_getElem? hv) hlate)
  | validateFails i v hv _ =>
      rcases List.mem_or_eq_of_mem_set hv' with hmem | rfl
      · exact hold v' hmem hlate
      · trivial
  | revoke i now r s₁ phase _ hr =>
      cases hr with
      | found | notFound | listed | uncached | inserted => exact hold v' hv' hlate
  | createSession | createInitialAdmin | sign | writeUser | expireSession | expireUser
  | revokeSession | revokeAllSessions | revokeFails => exact hold v' hv' hlate

/-- **What a step that meets the condition preserves.** -/
theorem step_revocable {s s' : AuthService} {a : AuthAction} (hs : s.Revocable)
    (hC : s.Immediate a) (h : s.step a = some s') : s'.Revocable := by
  have hrevokes := step_revokes h hs hC
  refine ⟨step_opened h hs, ?_, ?_, ?_, step_late h hs⟩
  · intro r' hr' payload hp
    obtain ⟨hissued, hrest⟩ := (hrevokes r' hr').covered payload hp
    exact ⟨step_issued h payload hissued, hrest⟩
  · intro r' hr' session hin
    obtain ⟨huser, old, hold, hkey⟩ := (hrevokes r' hr').inHand session hin
    exact ⟨huser, old, step_sessions h old hold, hkey⟩
  · intro r' hr'
    exact (hrevokes r' hr').settled

/-! ### `validate` ends -/

/-- A `validate` call that has not ended can go on, whatever the others do. -/
theorem validate_goes_on {s : AuthService} {i : Nat} {v : Validate} (now : Int)
    (hv : s.validates[i]? = some v) (hopen : v.phase.remaining ≠ 0) :
    ∃ s', s.step (.validate i now) = some s' := by
  have hstep : ∃ out, s.validateStep v now = some out := by
    unfold validateStep
    cases hphase : v.phase with
    | sessionCache key =>
        cases hcached : s.sessionCache key <;> simp [hcached]
    | sessionQuery | sessionStore | userStore => exact ⟨_, rfl⟩
    | userCache =>
        cases s.userCache v.payload.sub <;> simp
    | userQuery =>
        cases s.users v.payload.sub <;> simp
    | accepted | rejected | failed =>
        rw [hphase] at hopen
        exact absurd rfl hopen
  obtain ⟨⟨s₁, phase⟩, hout⟩ := hstep
  refine ⟨{ s₁ with validates := s.validates.set i { v with phase := phase } }, ?_⟩
  show (s.validates[i]?).bind _ = _
  rw [hv, Option.bind_some, hout]
  rfl

/-- Every `await` of a `validate` call brings it nearer its end. -/
theorem validateStepped_remaining {s s' : AuthService} {v : Validate} {now : Int}
    {phase : ValidatePhase} (h : ValidateStepped s v now s' phase) :
    phase.remaining < v.phase.remaining := by
  have hafter : ∀ isValid, (afterSession isValid).remaining < 4 := by decide
  cases h with
  | sessionHit key isValid hphase _ =>
      rw [hphase]
      exact (hafter isValid).trans (show 4 < 6 by decide)
  | sessionMiss key hphase =>
      rw [hphase]
      exact Nat.lt_succ_self 5
  | sessionRead key hphase =>
      rw [hphase]
      exact Nat.lt_succ_self 4
  | sessionStored key isValid hphase =>
      rw [hphase]
      exact hafter isValid
  | user cache phase _ _ _ hless => exact hless

/-! ### Revocation -/

/-- Every `validate` call that began after its JWT was shut out, and has ended, ended by
refusing it. -/
def RevocationIsImmediate (s : AuthService) : Prop :=
  ∀ v ∈ s.validates, v.late = true → v.phase.remaining = 0 → v.phase.refuses = true

instance (s : AuthService) : Decidable s.RevocationIsImmediate :=
  inferInstanceAs (Decidable
    (∀ v ∈ s.validates, v.late = true → v.phase.remaining = 0 → v.phase.refuses = true))

theorem OnTheWayOut.refuses {s : AuthService} {phase : ValidatePhase} (h : s.OnTheWayOut phase)
    (hended : phase.remaining = 0) : phase.refuses = true := by
  cases phase with
  | rejected message =>
      obtain rfl : message = "Session has been revoked" := h
      rfl
  | failed => rfl
  | accepted => exact h.elim
  | sessionCache | sessionQuery | sessionStore | userCache | userQuery | userStore =>
      exact absurd hended (Nat.succ_ne_zero _)

/--
**Revocation.**

In every run whose revocations take their steps under `Immediate`, a JWT that a
returned call of `revokeSession` or `revokeAllSessions` shuts out is refused by every
`validate` call that begins afterwards, however the calls interleave.
-/
theorem revocation_is_immediate {as : List AuthAction} {s : AuthService}
    (hmeets : Machine.Meets AuthService.step Immediate .init as)
    (h : Machine.exec AuthService.step .init as = some s) : s.RevocationIsImmediate := by
  have hs : s.Revocable := Machine.exec_invariant_of_meets
    (fun s a s' hs hC hstep => step_revocable hs hC hstep) revocable_init hmeets h
  intro v hv hlate hended
  exact (hs.late v hv hlate).refuses hended

end AuthService

namespace AuthExample

open AuthService

/-- A login, its revocation, and a request with the old JWT. -/
def cleanRun : List AuthAction :=
  [.createSession "u" "s" 0, .sign 0,
    .revokeSession "s" "u", .revoke 0 2, .revoke 0 2, .revoke 0 2,
    .beginValidate ⟨"u", some "s"⟩, .validate 0 3, .validate 0 3, .validate 0 3]

theorem cleanRun_meets : Machine.Meets AuthService.step Immediate .init cleanRun := by
  refine Machine.meets_cons trivial rfl (Machine.meets_cons trivial rfl
    (Machine.meets_cons trivial rfl (Machine.meets_cons ?_ rfl (Machine.meets_cons ?_ rfl
    (Machine.meets_cons ?_ rfl (Machine.meets_cons trivial rfl (Machine.meets_cons trivial rfl
    (Machine.meets_cons trivial rfl (Machine.meets_cons trivial rfl trivial)))))))))
  · intro r hr
    obtain rfl := Option.some.inj hr
    exact fun hnone => absurd hnone (Option.some_ne_none "s")
  · intro r hr
    obtain rfl := Option.some.inj hr
    intro old hold _
    obtain rfl := Option.some.inj hold
    exact show (0 : Int) ≤ 2 by decide
  · intro r hr
    obtain rfl := Option.some.inj hr
    exact fun v hv => absurd hv List.not_mem_nil

def user : User := ⟨"u", "u@example.com", "U", .active, true, none⟩

/-- The JWT of the initial setup names no session. -/
def setupRun : List AuthAction :=
  [.createInitialAdmin user, .sign 0, .revokeAllSessions "u", .revoke 0 1,
    .beginValidate ⟨"u", none⟩, .validate 0 1, .validate 0 1, .validate 0 1]

/-- A login whose session is read as valid, revoked, and then stored as valid. -/
def raceRun : List AuthAction :=
  [.writeUser "u" (some user), .createSession "u" "s" 0, .sign 0,
    .beginValidate ⟨"u", some "s"⟩, .validate 0 1, .validate 0 1,
    .revokeSession "s" "u", .revoke 0 2, .revoke 0 2, .revoke 0 2,
    .validate 0 3,
    .beginValidate ⟨"u", some "s"⟩, .validate 1 4, .validate 1 4, .validate 1 4, .validate 1 4]

def notImmediate (as : List AuthAction) : Bool :=
  (Machine.exec AuthService.step .init as).any fun s => !decide s.RevocationIsImmediate

end AuthExample

/-- The request is refused. -/
theorem revocation_is_immediate_run :
    ∃ s, Machine.exec AuthService.step .init AuthExample.cleanRun = some s ∧
      s.RevocationIsImmediate ∧ s.validates.any (fun v => v.late && v.phase.refuses) = true := by
  refine ⟨_, rfl, AuthService.revocation_is_immediate AuthExample.cleanRun_meets rfl, ?_⟩
  decide

theorem revocation_not_immediate :
    (∃ s, Machine.exec AuthService.step .init AuthExample.setupRun = some s ∧
      ¬s.RevocationIsImmediate) ∧
    ∃ s, Machine.exec AuthService.step .init AuthExample.raceRun = some s ∧
      ¬s.RevocationIsImmediate := by
  have hrun : ∀ as, AuthExample.notImmediate as = true →
      ∃ s, Machine.exec AuthService.step .init as = some s ∧ ¬s.RevocationIsImmediate := by
    intro as has
    obtain ⟨s, hs, hnot⟩ := (Option.any_eq_true _ _).mp has
    exact ⟨s, hs, by simpa using hnot⟩
  exact ⟨hrun _ (by decide), hrun _ (by decide)⟩

end Veridian
