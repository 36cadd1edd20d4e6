/-
What `user_attribution` keeps of a user's first touch.

A stitch records the earliest session with a real channel that shares the identified
session's id or visitor id, unless one of two things happens: the identified session's own
id answers first although another session of the visitor is earlier, or neither key
answers and a fingerprint does.  A session that arrives later starts no earlier, so what
was earliest stays earliest.

The referral code is copied from whatever session was found.
-/
import Veridian.Events.IdentityStitch

namespace Veridian.IdentityStitch

/-! ### What the lookups find -/

/-- The session has a value in the column of the key, and `s` has the same one. -/
def SharesKey (identified : SessionRow) (method : StitchMethod) (s : SessionRow) : Prop :=
  method.column identified ≠ "" ∧ method.column s = method.column identified

instance (identified : SessionRow) (method : StitchMethod) (s : SessionRow) :
    Decidable (SharesKey identified method s) :=
  inferInstanceAs (Decidable (_ ∧ _))

/-- A session of the chain: it shares the session id or the visitor id. -/
def Kin (identified s : SessionRow) : Prop :=
  SharesKey identified .sessionId s ∨ SharesKey identified .visitorId s

instance (identified s : SessionRow) : Decidable (Kin identified s) :=
  inferInstanceAs (Decidable (_ ∨ _))

theorem firstChainSession_eq_some {sessions : List SessionRow} {whereClause : SessionRow → Bool}
    {first : SessionRow} (h : firstChainSession sessions whereClause = some first) :
    (first ∈ sessions ∧ whereClause first = true ∧ first.real = true) ∧
      ∀ s ∈ sessions, whereClause s = true → s.real = true → first.createdAt ≤ s.createdAt := by
  have hmem := List.mem_filter.mp (Sorting.mem_of_earliest h)
  refine ⟨⟨hmem.1, by simpa using hmem.2⟩, fun s hs hw hr => ?_⟩
  exact Sorting.key_le_of_earliest h s (List.mem_filter.mpr ⟨hs, by simp [hw, hr]⟩)

theorem firstChainSession_eq_none {sessions : List SessionRow} {whereClause : SessionRow → Bool} :
    firstChainSession sessions whereClause = none ↔
      ∀ s ∈ sessions, whereClause s = true → s.real = false := by
  unfold firstChainSession
  rw [Sorting.earliest_eq_none, List.filter_eq_nil_iff]
  simp

/-- A real session sharing an exact key is found unless it started after the identified one. -/
theorem whereClause_of_sharesKey {identified s : SessionRow} {method : StitchMethod}
    (hmethod : method ≠ .fingerprint) (hs : SharesKey identified method s)
    (hle : s.createdAt ≤ identified.createdAt) : method.whereClause identified s = true := by
  cases method with
  | fingerprint => exact absurd rfl hmethod
  | sessionId => simp [StitchMethod.whereClause, hs.2, hle]
  | visitorId => simp [StitchMethod.whereClause, hs.2, hle]

theorem findByKey_eq_some {identified first : SessionRow} {method : StitchMethod}
    {sessions : List SessionRow} (h : findByKey identified method sessions = some first) :
    first ∈ sessions ∧ first.real = true ∧ SharesKey identified method first ∧
      first.createdAt ≤ identified.createdAt := by
  unfold findByKey at h
  split at h
  · exact absurd h (by simp)
  · rename_i hkey
    obtain ⟨⟨hmem, hwhere, hreal⟩, -⟩ := firstChainSession_eq_some h
    simp only [StitchMethod.whereClause, Bool.and_eq_true, decide_eq_true_eq] at hwhere
    exact ⟨hmem, hreal, ⟨hkey, hwhere.1.1⟩, hwhere.1.2⟩

/-- An exact key finds the earliest real session that has it. -/
theorem findByKey_earliest {identified first : SessionRow} {method : StitchMethod}
    {sessions : List SessionRow} (h : findByKey identified method sessions = some first)
    (hmethod : method ≠ .fingerprint) :
    ∀ s ∈ sessions, SharesKey identified method s → s.real = true →
      first.createdAt ≤ s.createdAt := by
  intro s hs hshares hreal
  have hfirst := (findByKey_eq_some h).2.2.2
  by_cases hle : s.createdAt ≤ identified.createdAt
  · rw [findByKey, if_neg hshares.1] at h
    exact (firstChainSession_eq_some h).2 s hs (whereClause_of_sharesKey hmethod hshares hle) hreal
  · omega

/-- When an exact key finds nothing, the real sessions that have it started later. -/
theorem findByKey_none_later {identified : SessionRow} {method : StitchMethod}
    {sessions : List SessionRow} (h : findByKey identified method sessions = none)
    (hmethod : method ≠ .fingerprint) :
    ∀ s ∈ sessions, SharesKey identified method s → s.real = true →
      identified.createdAt ≤ s.createdAt := by
  intro s hs hshares hreal
  by_cases hle : s.createdAt ≤ identified.createdAt
  · rw [findByKey, if_neg hshares.1] at h
    have hno := firstChainSession_eq_none.mp h s hs (whereClause_of_sharesKey hmethod hshares hle)
    rw [hreal] at hno
    exact absurd hno (by simp)
  · omega

/-! ### First touch -/

/-- The earliest session of the identified session's chain with a real channel. -/
structure IsFirstTouch (sessions : List SessionRow) (identified first : SessionRow) : Prop where
  real : first.real = true
  kin : Kin identified first
  earliest : ∀ s ∈ sessions, Kin identified s → s.real = true → first.createdAt ≤ s.createdAt

/-- The row but for the user, which a session can get when it is already stored. -/
def SessionRow.anonymous (s : SessionRow) : SessionRow := { s with userId := none }

/-- The session is stored, by now perhaps with a user. -/
def Stored (sessions : List SessionRow) (s : SessionRow) : Prop :=
  ∃ r ∈ sessions, r.anonymous = s.anonymous

theorem real_of_anonymous {r s : SessionRow} (h : r.anonymous = s.anonymous) : r.real = s.real := by
  show r.anonymous.real = s.anonymous.real
  rw [h]

theorem createdAt_of_anonymous {r s : SessionRow} (h : r.anonymous = s.anonymous) :
    r.createdAt = s.createdAt := by
  show r.anonymous.createdAt = s.anonymous.createdAt
  rw [h]

theorem kin_of_anonymous {identified r s : SessionRow} (h : r.anonymous = s.anonymous)
    (hr : Kin identified r) : Kin identified s := by
  have hid : r.anonymous.id = s.anonymous.id := by rw [h]
  have hvisitor : r.anonymous.visitorId = s.anonymous.visitorId := by rw [h]
  refine hr.imp (fun hk => ⟨hk.1, ?_⟩) fun hk => ⟨hk.1, ?_⟩
  · exact hid.symm.trans hk.2
  · exact hvisitor.symm.trans hk.2

/-- What time does to the sessions: none is lost, and a new one starts after the others. -/
structure Grows (old new : List SessionRow) : Prop where
  kept : ∀ s, Stored old s → Stored new s
  added : ∀ s ∈ new, Stored old s ∨ ∀ r ∈ old, r.createdAt ≤ s.createdAt

theorem Grows.refl (sessions : List SessionRow) : Grows sessions sessions :=
  ⟨fun _ h => h, fun s hs => Or.inl ⟨s, hs, rfl⟩⟩

theorem grows_append {sessions : List SessionRow} {session : SessionRow}
    (h : ∀ earlier ∈ sessions, earlier.createdAt ≤ session.createdAt) :
    Grows sessions (sessions ++ [session]) := by
  refine ⟨fun s hs => ?_, fun s hs => ?_⟩
  · obtain ⟨r, hr, heq⟩ := hs
    exact ⟨r, List.mem_append_left _ hr, heq⟩
  · rcases List.mem_append.mp hs with hold | hnew
    · exact Or.inl ⟨s, hold, rfl⟩
    · rw [List.mem_singleton.mp hnew]
      exact Or.inr h

theorem grows_identify {sessions : List SessionRow} {i : Nat} {session : SessionRow}
    (h : sessions[i]? = some session) (userId : Option String) :
    Grows sessions (sessions.set i { session with userId := userId }) := by
  obtain ⟨hi, hget⟩ := List.getElem?_eq_some_iff.mp h
  refine ⟨fun s hs => ?_, fun s hs => Or.inl ?_⟩
  · obtain ⟨r, hr, heq⟩ := hs
    obtain ⟨k, hk, rfl⟩ := List.getElem_of_mem hr
    by_cases hki : i = k
    · subst hki
      exact ⟨_, List.mem_set hi _, by rw [← heq, hget]; rfl⟩
    · refine ⟨sessions[k], ?_, heq⟩
      exact List.mem_iff_getElem.mpr ⟨k, by simpa using hk, List.getElem_set_ne hki _⟩
  · rcases List.mem_or_eq_of_mem_set hs with hold | hset
    · exact ⟨s, hold, rfl⟩
    · exact ⟨session, List.mem_of_getElem? h, by rw [hset]; rfl⟩

/-- What was earliest stays earliest. -/
theorem IsFirstTouch.grows {old new : List SessionRow} {identified first : SessionRow}
    (h : IsFirstTouch old identified first) (hfirst : Stored old first) (hgrows : Grows old new) :
    IsFirstTouch new identified first := by
  refine ⟨h.real, h.kin, fun s hs hkin hreal => ?_⟩
  rcases hgrows.added s hs with ⟨r, hr, heq⟩ | hlater
  · rw [← createdAt_of_anonymous heq]
    exact h.earliest r hr (kin_of_anonymous heq.symm hkin) ((real_of_anonymous heq).trans hreal)
  · obtain ⟨r, hr, heq⟩ := hfirst
    rw [← createdAt_of_anonymous heq]
    exact hlater r hr

namespace Attribution

theorem grows_of_step {s s' : Attribution} {a : Action} (h : s.step a = some s') :
    Grows s.sessions s'.sessions := by
  cases stepped_of_step h with
  | arrived session hlater => exact grows_append hlater
  | identified i userId session hget _ => exact grows_identify hget _
  | begun userId => exact Grows.refl _
  | answered i read call phase _ _ _ => exact Grows.refl _
  | inserted i now userId identified first method _ => exact Grows.refl _
  | failed i call _ => exact Grows.refl _

/-! ### The condition -/

/-- If the identified session's own id answers, it does so with a session as early as any
other of the visitor. -/
def OwnIdFirst (sessions : List SessionRow) (identified : SessionRow) : Prop :=
  (∃ o ∈ sessions, SharesKey identified .sessionId o ∧ o.real = true ∧
    o.createdAt ≤ identified.createdAt) →
  ∀ s ∈ sessions, SharesKey identified .visitorId s → s.real = true →
    ∃ o ∈ sessions, SharesKey identified .sessionId o ∧ o.real = true ∧ o.createdAt ≤ s.createdAt

instance (sessions : List SessionRow) (identified : SessionRow) :
    Decidable (OwnIdFirst sessions identified) :=
  inferInstanceAs (Decidable (_ → _))

/-- No real session has the fingerprint within the hour. -/
def NoFingerprint (sessions : List SessionRow) (identified : SessionRow) : Prop :=
  ∀ s ∈ sessions, StitchMethod.fingerprint.whereClause identified s = true → s.real = false

/-- The chain of the identified session goes back as far as the stored first touch. -/
def ReachesBack (s : Attribution) (userId : String) (identified : SessionRow) : Prop :=
  ∀ row ∈ currentRow userId s.attribution,
    ∃ r ∈ s.sessions, Kin identified r ∧ r.real = true ∧ r.createdAt ≤ row.firstTouchAt

instance (s : Attribution) (userId : String) (identified : SessionRow) :
    Decidable (s.ReachesBack userId identified) :=
  inferInstanceAs (Decidable (∀ _ ∈ _, _))

/-- The stitch stays in one chain, and finds its way back to the start of it. -/
def OneChain (s : Attribution) : Action → Prop
  | .query i _ =>
      match s.calls[i]? with
      | some ⟨_, .findFirstTouch identified (.sessionId :: _)⟩ => OwnIdFirst s.sessions identified
      | some ⟨_, .findFirstTouch identified (.fingerprint :: _)⟩ =>
          NoFingerprint s.sessions identified
      | _ => True
  | .insert i _ =>
      match s.calls[i]? with
      | some ⟨userId, .upsertAttribution identified _ _⟩ => s.ReachesBack userId identified
      | _ => True
  | _ => True

/-! ### What calls and rows know -/

/-- Real sessions with the identified session's own id start no earlier than it. -/
def OwnIdLater (sessions : List SessionRow) (identified : SessionRow) : Prop :=
  ∀ s ∈ sessions, SharesKey identified .sessionId s → s.real = true →
    identified.createdAt ≤ s.createdAt

def PhaseSound (sessions : List SessionRow) (userId : String) : StitchPhase → Prop
  | .findFirstTouch identified methods =>
      Stored sessions identified ∧ identified.userId = some userId ∧
        (methods.head? ≠ some .sessionId → OwnIdLater sessions identified)
  | .upsertAttribution identified first _ =>
      Stored sessions identified ∧ identified.userId = some userId ∧
        Stored sessions first ∧ IsFirstTouch sessions identified first
  | _ => True

def RowSound (sessions : List SessionRow) (row : AttributionRow) : Prop :=
  ∃ identified first method,
    row = attributionRow row.userId identified first method row.updatedAt ∧
      Stored sessions identified ∧ identified.userId = some row.userId ∧
        Stored sessions first ∧ IsFirstTouch sessions identified first

structure Sound (s : Attribution) : Prop where
  calls : ∀ call ∈ s.calls, PhaseSound s.sessions call.userId call.phase
  rows : ∀ row ∈ s.attribution, RowSound s.sessions row

theorem PhaseSound.grows {old new : List SessionRow} (hgrows : Grows old new) {userId : String}
    {phase : StitchPhase} (h : PhaseSound old userId phase) : PhaseSound new userId phase := by
  cases phase with
  | getIdentifiedSession => exact trivial
  | ended => exact trivial
  | upsertAttribution identified first method =>
      obtain ⟨hstored, huser, hfirst, htouch⟩ := h
      exact ⟨hgrows.kept _ hstored, huser, hgrows.kept _ hfirst, htouch.grows hfirst hgrows⟩
  | findFirstTouch identified methods =>
      obtain ⟨hstored, huser, hown⟩ := h
      refine ⟨hgrows.kept _ hstored, huser, fun hhead s hs hshares hreal => ?_⟩
      rcases hgrows.added s hs with ⟨r, hr, heq⟩ | hlater
      · rw [← createdAt_of_anonymous heq]
        refine hown hhead r hr ⟨hshares.1, ?_⟩ ((real_of_anonymous heq).trans hreal)
        have hid : r.anonymous.id = s.anonymous.id := by rw [heq]
        exact hid.trans hshares.2
      · obtain ⟨r, hr, heq⟩ := hstored
        rw [← createdAt_of_anonymous heq]
        exact hlater r hr

theorem RowSound.grows {old new : List SessionRow} (hgrows : Grows old new) {row : AttributionRow}
    (h : RowSound old row) : RowSound new row := by
  obtain ⟨identified, first, method, hrow, hstored, huser, hfirst, htouch⟩ := h
  exact ⟨identified, first, method, hrow, hgrows.kept _ hstored, huser, hgrows.kept _ hfirst,
    htouch.grows hfirst hgrows⟩

/-! ### A query keeps what calls know -/

/-- The own id answers with the earliest session of the chain when nothing of the visitor is
earlier. -/
theorem isFirstTouch_of_sessionId {sessions read : List SessionRow} (hread : read.Perm sessions)
    {identified first : SessionRow} (hfound : findByKey identified .sessionId read = some first)
    (hown : OwnIdFirst sessions identified) : IsFirstTouch sessions identified first := by
  obtain ⟨hmem, hreal, hshares, hle⟩ := findByKey_eq_some hfound
  have hearliest := findByKey_earliest hfound (by simp)
  refine ⟨hreal, Or.inl hshares, fun s hs hkin hsreal => ?_⟩
  rcases hkin with hid | hvisitor
  · exact hearliest s (hread.mem_iff.mpr hs) hid hsreal
  · obtain ⟨o, ho, hoid, horeal, hole⟩ :=
      hown ⟨first, hread.mem_iff.mp hmem, hshares, hreal, hle⟩ s hs hvisitor hsreal
    exact (hearliest o (hread.mem_iff.mpr ho) hoid horeal).trans hole

theorem isFirstTouch_of_visitorId {sessions read : List SessionRow} (hread : read.Perm sessions)
    {identified first : SessionRow} (hfound : findByKey identified .visitorId read = some first)
    (hlater : OwnIdLater sessions identified) : IsFirstTouch sessions identified first := by
  obtain ⟨-, hreal, hshares, hle⟩ := findByKey_eq_some hfound
  refine ⟨hreal, Or.inr hshares, fun s hs hkin hsreal => ?_⟩
  rcases hkin with hid | hvisitor
  · exact hle.trans (hlater s hs hid hsreal)
  · exact findByKey_earliest hfound (by simp) s (hread.mem_iff.mpr hs) hvisitor hsreal

theorem findByKey_fingerprint_none {sessions read : List SessionRow} (hread : read.Perm sessions)
    {identified : SessionRow} (h : NoFingerprint sessions identified) :
    findByKey identified .fingerprint read = none := by
  unfold findByKey
  split
  · rfl
  · exact firstChainSession_eq_none.mpr fun s hs => h s (hread.mem_iff.mp hs)

/-- The call of the `i`-th place awaits what its phase says. -/
theorem phaseSound_answer {s : Attribution} {i : Nat} {read : List SessionRow} {call : StitchCall}
    {phase : StitchPhase} (hC : s.OneChain (.query i read)) (hcall : s.calls[i]? = some call)
    (hread : read.Perm s.sessions) (hphase : call.phase.answer call.userId read = some phase)
    (h : PhaseSound s.sessions call.userId call.phase) :
    PhaseSound s.sessions call.userId phase := by
  obtain ⟨userId, old⟩ := call
  cases old with
  | ended => exact absurd hphase (by simp [StitchPhase.answer])
  | upsertAttribution identified first method => exact absurd hphase (by simp [StitchPhase.answer])
  | getIdentifiedSession =>
      simp only [StitchPhase.answer] at hphase
      split at hphase
      · obtain rfl := Option.some.inj hphase
        exact trivial
      · rename_i identified hidentified
        obtain rfl := Option.some.inj hphase
        have hmem := List.mem_filter.mp (Sorting.mem_of_latest hidentified)
        refine ⟨⟨identified, hread.mem_iff.mp hmem.1, rfl⟩, by simpa using hmem.2, fun hhead => ?_⟩
        exact absurd rfl hhead
  | findFirstTouch identified methods =>
      cases methods with
      | nil =>
          obtain rfl := Option.some.inj hphase
          exact trivial
      | cons method methods =>
          obtain ⟨hstored, huser, hown⟩ := h
          simp only [StitchPhase.answer] at hphase
          split at hphase
          · rename_i first hfound
            obtain rfl := Option.some.inj hphase
            have hfirst : Stored s.sessions first :=
              ⟨first, hread.mem_iff.mp (findByKey_eq_some hfound).1, rfl⟩
            refine ⟨hstored, huser, hfirst, ?_⟩
            cases method with
            | sessionId =>
                simp only [OneChain, hcall] at hC
                exact isFirstTouch_of_sessionId hread hfound hC
            | visitorId => exact isFirstTouch_of_visitorId hread hfound (hown (by simp))
            | fingerprint =>
                simp only [OneChain, hcall] at hC
                rw [findByKey_fingerprint_none hread hC] at hfound
                exact absurd hfound (by simp)
          · rename_i hnone
            obtain rfl := Option.some.inj hphase
            refine ⟨hstored, huser, fun _ => ?_⟩
            by_cases hmethod : method = .sessionId
            · subst hmethod
              exact fun r hr => findByKey_none_later hnone (by simp) r (hread.mem_iff.mpr hr)
            · exact hown (by simpa using hmethod)

/-! ### The rows of a user -/

/-- The stored first touch of a user is there and starts no later. -/
def NoLater (userId : String) (old new : List AttributionRow) : Prop :=
  ∀ row, currentRow userId old = some row →
    ∃ row', currentRow userId new = some row' ∧ row'.firstTouchAt ≤ row.firstTouchAt

theorem NoLater.refl (userId : String) (rows : List AttributionRow) : NoLater userId rows rows :=
  fun row h => ⟨row, h, le_refl _⟩

theorem NoLater.trans {userId : String} {a b c : List AttributionRow}
    (hab : NoLater userId a b) (hbc : NoLater userId b c) : NoLater userId a c := by
  intro row hrow
  obtain ⟨row₁, h₁, hle₁⟩ := hab row hrow
  obtain ⟨row₂, h₂, hle₂⟩ := hbc row₁ h₁
  exact ⟨row₂, h₂, hle₂.trans hle₁⟩

/-- A row that starts no later than the current one of its user. -/
theorem noLater_append {userId : String} {rows : List AttributionRow} {x : AttributionRow}
    (h : ∀ row, currentRow x.identityKey rows = some row → x.firstTouchAt ≤ row.firstTouchAt) :
    NoLater userId rows (rows ++ [x]) := by
  intro row hrow
  by_cases hkey : x.identityKey = userId
  · refine ⟨_, Replacing.survivor_append_of_some _ _ hrow hkey, ?_⟩
    split
    · exact le_refl _
    · subst hkey
      exact h row hrow
  · exact ⟨row, (Replacing.survivor_append_of_ne _ _ hkey).trans hrow, le_refl _⟩

/-! ### Runs -/

theorem sound_init : Sound .init :=
  ⟨fun call hcall => absurd hcall (by simp [init]), fun row hrow => absurd hrow (by simp [init])⟩

theorem phaseSound_set {s : Attribution} (h : s.Sound) {i : Nat} {call : StitchCall}
    (hcall : PhaseSound s.sessions call.userId call.phase) :
    ∀ c ∈ s.calls.set i call, PhaseSound s.sessions c.userId c.phase := by
  intro c hc
  rcases List.mem_or_eq_of_mem_set hc with hold | hset
  · exact h.calls c hold
  · rw [hset]
    exact hcall

/-- **What a step that meets the condition keeps.** -/
theorem Sound.step {s s' : Attribution} {a : Action} (h : s.Sound) (hC : s.OneChain a)
    (hstep : s.step a = some s') : s'.Sound := by
  have hgrows := grows_of_step hstep
  cases stepped_of_step hstep with
  | arrived session _ =>
      exact ⟨fun c hc => (h.calls c hc).grows hgrows, fun row hrow => (h.rows row hrow).grows hgrows⟩
  | identified i userId session _ _ =>
      exact ⟨fun c hc => (h.calls c hc).grows hgrows, fun row hrow => (h.rows row hrow).grows hgrows⟩
  | begun userId =>
      refine ⟨fun c hc => ?_, h.rows⟩
      rcases List.mem_append.mp hc with hold | hnew
      · exact h.calls c hold
      · rw [List.mem_singleton.mp hnew]
        exact trivial
  | answered i read call phase hcall hread hphase =>
      have hsound := phaseSound_answer hC hcall hread hphase
        (h.calls call (List.mem_of_getElem? hcall))
      exact ⟨phaseSound_set h hsound, h.rows⟩
  | inserted i now userId identified first method hcall =>
      refine ⟨phaseSound_set h trivial, fun row hrow => ?_⟩
      rcases List.mem_append.mp hrow with hold | hnew
      · exact h.rows row hold
      · rw [List.mem_singleton.mp hnew]
        exact ⟨identified, first, method, rfl, h.calls _ (List.mem_of_getElem? hcall)⟩
  | failed i call hcall => exact ⟨phaseSound_set h trivial, h.rows⟩

/-- **A step that meets the condition moves no user's first touch to a later session.** -/
theorem noLater_of_step {s s' : Attribution} {a : Action} (h : s.Sound) (hC : s.OneChain a)
    (hstep : s.step a = some s') (userId : String) :
    NoLater userId s.attribution s'.attribution := by
  cases stepped_of_step hstep with
  | arrived session _ => exact NoLater.refl _ _
  | identified i u session _ _ => exact NoLater.refl _ _
  | begun u => exact NoLater.refl _ _
  | answered i read call phase _ _ _ => exact NoLater.refl _ _
  | failed i call _ => exact NoLater.refl _ _
  | inserted i now u identified first method hcall =>
      refine noLater_append fun row hrow => ?_
      simp only [OneChain, hcall] at hC
      obtain ⟨r, hr, hkin, hreal, hle⟩ := hC row hrow
      obtain ⟨-, -, -, htouch⟩ := h.calls _ (List.mem_of_getElem? hcall)
      exact (htouch.earliest r hr hkin hreal).trans hle

/-- What a run that meets the condition has kept since its start. -/
theorem sound_noLater_of_run {as : List Action} {s t : Attribution} (hs : s.Sound)
    (hmeets : Machine.Meets Attribution.step OneChain s as)
    (h : Machine.exec Attribution.step s as = some t) :
    t.Sound ∧ ∀ userId, NoLater userId s.attribution t.attribution := by
  refine Machine.exec_invariant_of_meets
    (P := fun u => u.Sound ∧ ∀ userId, NoLater userId s.attribution u.attribution)
    (fun u a u' hu hC hstep => ?_) ⟨hs, fun _ => NoLater.refl _ _⟩ hmeets h
  refine ⟨hu.1.step hC hstep, fun userId => ?_⟩
  exact (hu.2 userId).trans (noLater_of_step hu.1 hC hstep userId)

/-- Among the sessions of one visitor every chain goes back to the stored first touch. -/
theorem Sound.reachesBack_of_one_visitor {s : Attribution} (h : s.Sound) {visitor : String}
    (hvisitor : visitor ≠ "") (hall : ∀ r ∈ s.sessions, r.visitorId = visitor) {userId : String}
    {identified : SessionRow} (hstored : Stored s.sessions identified) :
    s.ReachesBack userId identified := by
  have hsame : ∀ x, Stored s.sessions x → x.visitorId = visitor := by
    rintro x ⟨r, hr, heq⟩
    have hcol : r.anonymous.visitorId = x.anonymous.visitorId := by rw [heq]
    exact hcol.symm.trans (hall r hr)
  intro row hrow
  have hmem := (Replacing.survivor_key _ _ hrow).1
  obtain ⟨_, first, _, hrow', -, -, hfirst, htouch⟩ := h.rows row hmem
  obtain ⟨r, hr, heq⟩ := hfirst
  refine ⟨r, hr, Or.inr ⟨?_, ?_⟩, (real_of_anonymous heq).trans htouch.real, ?_⟩
  · rw [show StitchMethod.visitorId.column identified = visitor from hsame _ hstored]
    exact hvisitor
  · exact (hall r hr).trans (hsame _ hstored).symm
  · rw [createdAt_of_anonymous heq, hrow']
    exact le_refl _

/--
**First touch is written once.**

In every run whose stitches stay in one chain and find its start, every stored row names
the earliest session with a real channel that shares the session id or visitor id of the
session it was stitched from, and no later stitch moves a user's first touch to a session
that started later.
-/
theorem first_touch_written_once {as bs : List Action} {s t : Attribution}
    (hmeets : Machine.Meets Attribution.step OneChain .init (as ++ bs))
    (hs : Machine.exec Attribution.step .init as = some s)
    (ht : Machine.exec Attribution.step s bs = some t) :
    (∀ row ∈ t.attribution, ∃ identified first,
      Stored t.sessions identified ∧ identified.userId = some row.userId ∧
        row.lastTouchSessionId = identified.id ∧
        Stored t.sessions first ∧ row.firstTouchSessionId = first.id ∧
        row.firstTouchAt = first.createdAt ∧ IsFirstTouch t.sessions identified first) ∧
    ∀ userId row, currentRow userId s.attribution = some row →
      ∃ row', currentRow userId t.attribution = some row' ∧
        row'.firstTouchAt ≤ row.firstTouchAt := by
  obtain ⟨hmeets₁, hmeets₂⟩ := Machine.meets_append hmeets hs
  have hsound := (sound_noLater_of_run sound_init hmeets₁ hs).1
  obtain ⟨ht', hlater⟩ := sound_noLater_of_run hsound hmeets₂ ht
  refine ⟨fun row hrow => ?_, hlater⟩
  obtain ⟨identified, first, _, heq, hstored, huser, hfirst, htouch⟩ := ht'.rows row hrow
  rw [heq]
  exact ⟨identified, first, hstored, huser, rfl, hfirst, rfl, rfl, htouch⟩

/-! ### The referral code -/

/-- Some row of the user has a code. -/
def Captured (rows : List AttributionRow) (userId : String) : Prop :=
  ∃ row ∈ rows, row.identityKey = userId ∧ row.referralCode ≠ ""

/-- From the `n`-th row on, a row has a code when an earlier row of its user has one. -/
def CodesKept (n : Nat) (rows : List AttributionRow) : Prop :=
  ∀ pre row post, rows = pre ++ row :: post → n ≤ pre.length →
    Captured pre row.identityKey → row.referralCode ≠ ""

theorem codesKept_append {n : Nat} {rows : List AttributionRow} {x : AttributionRow}
    (hn : n ≤ rows.length) :
    CodesKept n (rows ++ [x]) ↔
      CodesKept n rows ∧ (Captured rows x.identityKey → x.referralCode ≠ "") := by
  constructor
  · intro h
    refine ⟨fun pre row post hrows => h pre row (post ++ [x]) ?_, h rows x [] rfl hn⟩
    rw [hrows, List.append_assoc, List.cons_append]
  · rintro ⟨hrows, hx⟩ pre row post heq hpre hcaptured
    rcases List.eq_nil_or_concat post with rfl | ⟨init, last, rfl⟩
    · obtain ⟨rfl, hlast⟩ := List.append_inj' heq rfl
      obtain rfl := List.singleton_injective hlast
      exact hx hcaptured
    · have heq' : rows ++ [x] = (pre ++ row :: init) ++ [last] := by
        simpa using heq
      exact hrows pre row init (List.append_inj' heq' rfl).1 hpre hcaptured

/-- A row is written for a user whose rows have no code, or from a session with a
`utm_content`. -/
def KeepsCode (s : Attribution) : Action → Prop
  | .insert i _ =>
      match s.calls[i]? with
      | some ⟨userId, .upsertAttribution _ first _⟩ =>
          Captured s.attribution userId → first.utmContent ≠ ""
      | _ => True
  | _ => True

theorem referralCode_ne_iff {userId : String} {identified first : SessionRow}
    {method : StitchMethod} {now : Int} :
    (attributionRow userId identified first method now).referralCode ≠ "" ↔
      first.utmContent ≠ "" := by
  show orOther first.utmContent "" ≠ "" ↔ _
  unfold orOther
  by_cases h : first.utmContent = ""
  · simp [h]
  · rw [if_neg h]

theorem codesKept_of_step {n : Nat} {s s' : Attribution} {a : Action}
    (hn : n ≤ s.attribution.length) (hstep : s.step a = some s') :
    CodesKept n s'.attribution ↔ CodesKept n s.attribution ∧ s.KeepsCode a := by
  cases stepped_of_step hstep with
  | arrived session _ => exact (and_iff_left trivial).symm
  | identified i userId session _ _ => exact (and_iff_left trivial).symm
  | begun userId => exact (and_iff_left trivial).symm
  | answered i read call phase _ _ _ => exact (and_iff_left trivial).symm
  | failed i call _ => exact (and_iff_left trivial).symm
  | inserted i now userId identified first method hcall =>
      simp only [KeepsCode, hcall]
      rw [codesKept_append hn, referralCode_ne_iff]
      rfl

theorem attribution_length_le_of_step {s s' : Attribution} {a : Action}
    (hstep : s.step a = some s') : s.attribution.length ≤ s'.attribution.length := by
  cases stepped_of_step hstep with
  | inserted i now userId identified first method _ => simp
  | _ => exact le_refl _

namespace FirstTouchExample

def session (id : String) (userId : Option String) (createdAt : Int) (channelGroup : String)
    (utmContent : String) : SessionRow where
  id := id
  userId := userId
  visitorId := "v"
  fingerprint := "hu7nos"
  createdAt := createdAt
  channel := channelGroup
  channelGroup := channelGroup
  referrer := ""
  referrerDomain := ""
  landingPage := ""
  landingDomain := ""
  utmSource := ""
  utmMedium := ""
  utmCampaign := ""
  utmContent := utmContent

def vitrine : SessionRow := session "s1" none 1000 "ads" "PARRAIN"

def login : SessionRow := session "s2" (some "u") 2000 "direct" ""

def newsletter : SessionRow := session "s3" (some "u") 3000 "email" ""

/-- The vitrine session, the login, and a stitch that goes by the visitor id. -/
def firstStitch : List Action :=
  [.arrive vitrine, .arrive login, .stitch "u", .query 0 [vitrine, login],
    .query 0 [vitrine, login], .query 0 [vitrine, login], .insert 0 2500]

/-- A second stitch of the same sessions. -/
def restitch : List Action :=
  [.stitch "u", .query 1 [vitrine, login], .query 1 [vitrine, login], .query 1 [vitrine, login],
    .insert 1 2600]

/-- The user comes back through a campaign and is stitched. -/
def campaignStitch : List Action :=
  [.arrive newsletter, .stitch "u", .query 1 [vitrine, login, newsletter],
    .query 1 [vitrine, login, newsletter], .insert 1 3500]

end FirstTouchExample

open FirstTouchExample

theorem firstStitch_meets :
    Machine.Meets Attribution.step OneChain .init (firstStitch ++ restitch) := by
  have hown : OwnIdFirst [vitrine, login] login := by decide
  refine Machine.meets_cons trivial rfl (Machine.meets_cons trivial rfl
    (Machine.meets_cons trivial rfl (Machine.meets_cons trivial rfl
    (Machine.meets_cons hown rfl (Machine.meets_cons trivial rfl
    (Machine.meets_cons ?_ rfl (Machine.meets_cons trivial rfl (Machine.meets_cons trivial rfl
    (Machine.meets_cons hown rfl (Machine.meets_cons trivial rfl
    (Machine.meets_cons ?_ rfl trivial)))))))))))
  · show ReachesBack _ "u" login
    decide
  · show ReachesBack _ "u" login
    decide

/-- Two stitches of a login that follows a vitrine session. -/
theorem first_touch_written_once_run :
    ∃ s t, Machine.exec Attribution.step .init firstStitch = some s ∧
      Machine.exec Attribution.step s restitch = some t ∧
      (∀ row ∈ t.attribution, ∃ identified first,
        Stored t.sessions identified ∧ identified.userId = some row.userId ∧
          row.lastTouchSessionId = identified.id ∧
          Stored t.sessions first ∧ row.firstTouchSessionId = first.id ∧
          row.firstTouchAt = first.createdAt ∧ IsFirstTouch t.sessions identified first) ∧
      (currentRow "u" s.attribution).map AttributionRow.firstTouchSessionId = some "s1" ∧
      ∃ row', currentRow "u" t.attribution = some row' ∧ row'.firstTouchAt ≤ 1000 := by
  obtain ⟨hrows, hlater⟩ := first_touch_written_once firstStitch_meets rfl rfl
  exact ⟨_, _, rfl, rfl, hrows, rfl, hlater "u" _ rfl⟩

/-- The campaign session has a channel of its own, and its own id answers before the
visitor's. -/
theorem first_touch_replaced :
    ∃ s t row row', Machine.exec Attribution.step .init firstStitch = some s ∧
      Machine.exec Attribution.step s campaignStitch = some t ∧
      t.sessions = [vitrine, login, newsletter] ∧
      currentRow "u" s.attribution = some row ∧ currentRow "u" t.attribution = some row' ∧
      row.firstTouchSessionId = "s1" ∧ row'.firstTouchSessionId = "s3" ∧
      row.firstTouchAt < row'.firstTouchAt ∧
      ¬IsFirstTouch t.sessions newsletter newsletter := by
  refine ⟨_, _, _, _, rfl, rfl, rfl, rfl, rfl, rfl, rfl, by decide, fun h => ?_⟩
  exact absurd (h.earliest vitrine (by decide) (by decide) rfl) (by decide)

/-- Both stitches write from the vitrine session. -/
theorem firstStitch_keepsCode :
    Machine.Meets Attribution.step KeepsCode .init (firstStitch ++ restitch) := by
  have hcode : vitrine.utmContent ≠ "" := by decide
  exact Machine.meets_cons trivial rfl (Machine.meets_cons trivial rfl
    (Machine.meets_cons trivial rfl (Machine.meets_cons trivial rfl
    (Machine.meets_cons trivial rfl (Machine.meets_cons trivial rfl
    (Machine.meets_cons (fun _ => hcode) rfl (Machine.meets_cons trivial rfl
    (Machine.meets_cons trivial rfl (Machine.meets_cons trivial rfl
    (Machine.meets_cons trivial rfl (Machine.meets_cons (fun _ => hcode) rfl trivial)))))))))))

end Attribution

end Veridian.IdentityStitch
