/-
`resend`, `revoke` and `accept`, interleaved.

Each of the three reads an invitation, checks that it is pending, and inserts the row it
read.  Between the two another call can end the invitation, and the row that is inserted
then says what the invitation was before that.  A call is a process; `accept` has steps in
between for the user and the membership it writes.

The store keeps two things that the services do not: the invitations for which a `revoke`
has returned, and those among them for which an `accept` wrote a membership all the same.
`Ends` is what an insert has to meet for an invitation to end once.
-/
import Veridian.Invitations.Invitation
import Veridian.Lib.Interleave

namespace Veridian

open InvitationsService

/-! ### The calls -/

inductive InvitationOp where
  | resend (invitationId : String)
  | revoke (invitationId revokedBy : String)
  | accept (tokenHash : String) (dto : AcceptInvitationDto) (currentUserId : Option String)
  deriving DecidableEq

/-- How far a call has come. -/
inductive InvitationCall where
  | read (op : InvitationOp)
  | insertResent (invitation : Invitation)
  | insertRevoked (invitation : Invitation) (revokedBy : String)
  /-- `accept` before it looks the address up. -/
  | findUser (invitation : Invitation) (dto : AcceptInvitationDto) (currentUserId : Option String)
  /-- `accept` before it creates the user. -/
  | createUser (invitation : Invitation) (dto : CreateUserDto)
  /-- `accept` before it writes the membership. -/
  | insertMembership (invitation : Invitation) (userId : String)
  /-- `accept` before it marks the invitation, at the time it wrote the membership. -/
  | insertAccepted (invitation : Invitation) (now : Int)
  /-- `revoke` has inserted, and has yet to return. -/
  | revokeReturns (invitation : Invitation)
  | returned
  /-- The call threw. -/
  | ended
  deriving DecidableEq

/-- What a step takes from outside: the clock, and what `generateToken`, `generateId` and
`hashPassword` return. -/
structure InvitationInput where
  now : Int
  tokenHash : String := ""
  id : String := ""
  passwordHash : String := ""

structure InvitationStore where
  users : List UserRow
  memberships : List MembershipRow
  invitations : List Invitation
  /-- The invitations for which a `revoke` has returned. -/
  revokedIds : List String
  /-- Those of them for which a membership was written after that. -/
  late : List String
  deriving DecidableEq

section Calls

variable (host : Host)

def InvitationOp.read (op : InvitationOp) (s : InvitationStore) (now : Int) : InvitationCall :=
  match op with
  | .resend invitationId =>
      match findResendable s.invitations invitationId with
      | .error _ => .ended
      | .ok invitation => .insertResent invitation
  | .revoke invitationId revokedBy =>
      match findRevocable s.invitations invitationId with
      | .error _ => .ended
      | .ok invitation => .insertRevoked invitation revokedBy
  | .accept tokenHash dto currentUserId =>
      match findAcceptable s.invitations tokenHash now with
      | .error _ => .ended
      | .ok invitation => .findUser invitation dto currentUserId

def invitationStep (s : InvitationStore) :
    InvitationCall → InvitationInput → Option (InvitationStore × InvitationCall)
  | .read op, input => some (s, op.read s input.now)
  | .insertResent invitation, input =>
      some ({ s with
        invitations := s.invitations ++ [resent invitation input.tokenHash input.now] },
        .returned)
  | .insertRevoked invitation revokedBy, input =>
      some ({ s with
        invitations := s.invitations ++ [revoked invitation revokedBy input.now] },
        .revokeReturns invitation)
  | .revokeReturns invitation, _ =>
      some ({ s with revokedIds := invitation.id :: s.revokedIds }, .returned)
  | .findUser invitation dto currentUserId, _ =>
      match existingUser host s.users invitation currentUserId with
      | .error _ => some (s, .ended)
      | .ok (some user) => some (s, .insertMembership invitation user.id)
      | .ok none =>
          match newUserDto invitation dto with
          | .error _ => some (s, .ended)
          | .ok newUser => some (s, .createUser invitation newUser)
  | .createUser invitation dto, input =>
      match UsersService.create host s.users dto input.id input.passwordHash input.now with
      | .error _ => some (s, .ended)
      | .ok user =>
          some ({ s with users := s.users ++ [user] }, .insertMembership invitation user.id)
  | .insertMembership invitation userId, input =>
      some ({ s with
        memberships := s.memberships ++ [membership invitation input.id userId input.now]
        late := if invitation.id ∈ s.revokedIds then invitation.id :: s.late else s.late },
        .insertAccepted invitation input.now)
  | .insertAccepted invitation now, _ =>
      some ({ s with invitations := s.invitations ++ [accepted invitation now] },
        .returned)
  | .returned, _ => none
  | .ended, _ => none

abbrev InvitationAction := Interleave.Action InvitationOp InvitationInput

def invitationsStep : Interleave.State InvitationStore InvitationCall → InvitationAction →
    Option (Interleave.State InvitationStore InvitationCall) :=
  Interleave.step InvitationCall.read (invitationStep host)

end Calls

def InvitationStore.init (users : List UserRow) (memberships : List MembershipRow)
    (invitations : List Invitation) : Interleave.State InvitationStore InvitationCall :=
  ⟨⟨users, memberships, invitations, [], []⟩, []⟩

/-! ### Invitations that have ended -/

def Invitation.hasEnded (invitation : Invitation) : Bool :=
  match invitation.status with
  | .accepted => true
  | .revoked => true
  | .pending => false
  | .expired => false

/-- The latest row of the invitation is accepted or revoked. -/
def Ended (id : String) (s : InvitationStore) : Prop :=
  ∃ row, survivor id s.invitations = some row ∧ row.hasEnded = true

/-- What a step has to meet.  An insert replaces the latest row unless its clock is behind
that one: `resend` may not replace a row that has ended, and `revoke` has to replace one that
has not.  And an `accept` that is under way may not go on once a `revoke` has returned. -/
def Ends (s : InvitationStore) : InvitationCall → InvitationInput → Prop
  | .insertResent invitation, input => ∀ row ∈ survivor invitation.id s.invitations,
      row.hasEnded = true → input.now < row.updatedAt
  | .insertRevoked invitation _, input => ∀ row ∈ survivor invitation.id s.invitations,
      row.hasEnded = false → row.updatedAt ≤ input.now
  | .insertMembership invitation _, _ => invitation.id ∉ s.revokedIds
  | _, _ => True

instance (s : InvitationStore) (input : InvitationInput) :
    ∀ p : InvitationCall, Decidable (Ends s p input)
  | .insertResent invitation =>
      inferInstanceAs (Decidable (∀ row ∈ survivor invitation.id s.invitations, _))
  | .insertRevoked invitation _ =>
      inferInstanceAs (Decidable (∀ row ∈ survivor invitation.id s.invitations, _))
  | .insertMembership invitation _ => inferInstanceAs (Decidable (invitation.id ∉ s.revokedIds))
  | .read _ => isTrue trivial
  | .findUser _ _ _ => isTrue trivial
  | .createUser _ _ => isTrue trivial
  | .insertAccepted _ _ => isTrue trivial
  | .revokeReturns _ => isTrue trivial
  | .returned => isTrue trivial
  | .ended => isTrue trivial

section Steps

variable {s : InvitationStore} {id : String}

/-- A row of an invitation that has ended may come after one that is older or has ended too. -/
theorem Ended.append {x : Invitation} (h : Ended id s)
    (hx : ∀ row ∈ survivor x.id s.invitations, row.hasEnded = true →
      x.hasEnded = true ∨ x.updatedAt < row.updatedAt) :
    Ended id { s with invitations := s.invitations ++ [x] } := by
  obtain ⟨row, hrow, hended⟩ := h
  by_cases hid : x.id = id
  · subst hid
    refine ⟨_, Replacing.survivor_append_of_some Invitation.id Invitation.updatedAt hrow rfl, ?_⟩
    rcases hx row hrow hended with hnew | hold
    · split
      · exact hended
      · exact hnew
    · rw [if_pos hold]
      exact hended
  · refine ⟨row, ?_, hended⟩
    rw [← hrow]
    exact Replacing.survivor_append_of_ne Invitation.id Invitation.updatedAt hid

/-- The row that `revoke` inserts ends the invitation. -/
theorem ended_revoked {invitation : Invitation} {revokedBy : String} {now : Int}
    (hstored : invitation ∈ s.invitations)
    (h : ∀ row ∈ survivor invitation.id s.invitations, row.hasEnded = false → row.updatedAt ≤ now) :
    Ended invitation.id
      { s with invitations := s.invitations ++ [revoked invitation revokedBy now] } := by
  obtain ⟨row, hrow⟩ : ∃ row, survivor invitation.id s.invitations = some row :=
    Option.isSome_iff_exists.mp
      ((Replacing.survivor_isSome_iff Invitation.id Invitation.updatedAt).mpr
        ⟨invitation, hstored, rfl⟩)
  refine ⟨_, Replacing.survivor_append_of_some Invitation.id Invitation.updatedAt hrow rfl, ?_⟩
  split
  · rename_i hbehind
    rcases hended : row.hasEnded with _ | _
    · exact absurd hbehind (not_lt.mpr (h row hrow hended))
    · rfl
  · rfl

/-- What a call knows: a row that `revoke` goes by is stored, and what it has revoked has
ended. -/
def Knows (s : InvitationStore) : InvitationCall → Prop
  | .insertRevoked invitation _ => invitation ∈ s.invitations
  | .revokeReturns invitation => Ended invitation.id s
  | _ => True

theorem knows_read {op : InvitationOp} {now : Int} : Knows s (op.read s now) := by
  cases op with
  | resend invitationId =>
      unfold InvitationOp.read
      dsimp only
      rcases findResendable s.invitations invitationId with _ | invitation
      · exact trivial
      · exact trivial
  | revoke invitationId revokedBy =>
      unfold InvitationOp.read
      dsimp only
      rcases hfind : findRevocable s.invitations invitationId with _ | invitation
      · exact trivial
      · exact (Replacing.survivor_key Invitation.id Invitation.updatedAt
          (findPending_eq_ok hfind).1).1
  | accept tokenHash dto currentUserId =>
      unfold InvitationOp.read
      dsimp only
      rcases findAcceptable s.invitations tokenHash now with _ | invitation
      · exact trivial
      · exact trivial

/-- **What a step of a call is.**  The last case is that of a step that leaves the
invitations, and what is kept about them, as they are. -/
theorem invitationStep_cases {host : Host} {p p' : InvitationCall} {input : InvitationInput}
    {t : InvitationStore} (h : invitationStep host s p input = some (t, p')) :
    (∃ invitation, p = .insertResent invitation ∧ p' = .returned ∧
      t = { s with invitations :=
        s.invitations ++ [resent invitation input.tokenHash input.now] }) ∨
    (∃ invitation revokedBy, p = .insertRevoked invitation revokedBy ∧
      p' = .revokeReturns invitation ∧
      t = { s with invitations := s.invitations ++ [revoked invitation revokedBy input.now] }) ∨
    (∃ invitation now, p = .insertAccepted invitation now ∧ p' = .returned ∧
      t = { s with invitations := s.invitations ++ [accepted invitation now] }) ∨
    (∃ invitation, p = .revokeReturns invitation ∧ p' = .returned ∧
      t = { s with revokedIds := invitation.id :: s.revokedIds }) ∨
    (∃ invitation userId, p = .insertMembership invitation userId ∧
      p' = .insertAccepted invitation input.now ∧ t.invitations = s.invitations ∧
      t.revokedIds = s.revokedIds ∧
      t.late = if invitation.id ∈ s.revokedIds then invitation.id :: s.late else s.late) ∨
    (t.invitations = s.invitations ∧ t.revokedIds = s.revokedIds ∧ t.late = s.late ∧
      Knows t p') := by
  cases p with
  | read op =>
      obtain ⟨rfl, rfl⟩ := Prod.mk.inj (Option.some.inj h)
      exact .inr (.inr (.inr (.inr (.inr ⟨rfl, rfl, rfl, knows_read⟩))))
  | insertResent invitation =>
      obtain ⟨rfl, rfl⟩ := Prod.mk.inj (Option.some.inj h)
      exact .inl ⟨invitation, rfl, rfl, rfl⟩
  | insertRevoked invitation revokedBy =>
      obtain ⟨rfl, rfl⟩ := Prod.mk.inj (Option.some.inj h)
      exact .inr (.inl ⟨invitation, revokedBy, rfl, rfl, rfl⟩)
  | insertAccepted invitation now =>
      obtain ⟨rfl, rfl⟩ := Prod.mk.inj (Option.some.inj h)
      exact .inr (.inr (.inl ⟨invitation, now, rfl, rfl, rfl⟩))
  | revokeReturns invitation =>
      obtain ⟨rfl, rfl⟩ := Prod.mk.inj (Option.some.inj h)
      exact .inr (.inr (.inr (.inl ⟨invitation, rfl, rfl, rfl⟩)))
  | insertMembership invitation userId =>
      obtain ⟨rfl, rfl⟩ := Prod.mk.inj (Option.some.inj h)
      exact .inr (.inr (.inr (.inr (.inl ⟨invitation, userId, rfl, rfl, rfl, rfl, rfl⟩))))
  | findUser invitation dto currentUserId =>
      refine .inr (.inr (.inr (.inr (.inr ?_))))
      rw [invitationStep] at h
      rcases hu : existingUser host s.users invitation currentUserId with _ | (_ | user)
      · rw [hu] at h
        obtain ⟨rfl, rfl⟩ := Prod.mk.inj (Option.some.inj h)
        exact ⟨rfl, rfl, rfl, trivial⟩
      · rw [hu] at h
        dsimp only at h
        split at h
        · obtain ⟨rfl, rfl⟩ := Prod.mk.inj (Option.some.inj h)
          exact ⟨rfl, rfl, rfl, trivial⟩
        · obtain ⟨rfl, rfl⟩ := Prod.mk.inj (Option.some.inj h)
          exact ⟨rfl, rfl, rfl, trivial⟩
      · rw [hu] at h
        obtain ⟨rfl, rfl⟩ := Prod.mk.inj (Option.some.inj h)
        exact ⟨rfl, rfl, rfl, trivial⟩
  | createUser invitation dto =>
      refine .inr (.inr (.inr (.inr (.inr ?_))))
      rw [invitationStep] at h
      split at h
      · obtain ⟨rfl, rfl⟩ := Prod.mk.inj (Option.some.inj h)
        exact ⟨rfl, rfl, rfl, trivial⟩
      · obtain ⟨rfl, rfl⟩ := Prod.mk.inj (Option.some.inj h)
        exact ⟨rfl, rfl, rfl, trivial⟩
  | returned => exact absurd h (by simp [invitationStep])
  | ended => exact absurd h (by simp [invitationStep])

/-- **A step that meets `Ends` leaves an ended invitation ended.** -/
theorem Ended.step {host : Host} {p p' : InvitationCall} {input : InvitationInput}
    {t : InvitationStore} (hended : Ended id s) (hends : Ends s p input)
    (h : invitationStep host s p input = some (t, p')) : Ended id t := by
  have hsame : t.invitations = s.invitations → Ended id t := by
    rintro heq
    rw [Ended, heq]
    exact hended
  rcases invitationStep_cases h with ⟨invitation, rfl, -, rfl⟩ | ⟨invitation, revokedBy, rfl, -, rfl⟩ |
    ⟨invitation, now, rfl, -, rfl⟩ | ⟨invitation, rfl, -, rfl⟩ | ⟨invitation, userId, -, -, heq, -⟩ |
    ⟨heq, -⟩
  · exact hended.append fun row hrow hrowEnded => Or.inr (hends row hrow hrowEnded)
  · exact hended.append fun _ _ _ => Or.inl rfl
  · exact hended.append fun _ _ _ => Or.inl rfl
  · exact hsame rfl
  · exact hsame heq
  · exact hsame heq

/-- Every revoked invitation has ended, and none of them got a membership after that. -/
structure RevokedForGood (s : InvitationStore) : Prop where
  ended : ∀ id ∈ s.revokedIds, Ended id s
  late : s.late = []

theorem RevokedForGood.step {host : Host} {p p' : InvitationCall} {input : InvitationInput}
    {t : InvitationStore} (hs : RevokedForGood s) (hp : Knows s p) (hends : Ends s p input)
    (h : invitationStep host s p input = some (t, p')) :
    RevokedForGood t ∧ Knows t p' ∧ ∀ q, Knows s q → Knows t q := by
  have hkept : ∀ id, Ended id s → Ended id t := fun id hid => hid.step hends h
  have hgood : t.revokedIds = s.revokedIds → t.late = s.late → RevokedForGood t := by
    intro hids hlate
    refine ⟨?_, hlate.trans hs.late⟩
    rw [hids]
    exact fun id hid => hkept id (hs.ended id hid)
  have hstored : ∀ q, (∀ r ∈ s.invitations, r ∈ t.invitations) → Knows s q → Knows t q := by
    intro q hsub hq
    cases q with
    | insertRevoked invitation revokedBy => exact hsub _ hq
    | revokeReturns invitation => exact hkept _ hq
    | read op => exact trivial
    | insertResent invitation => exact trivial
    | findUser invitation dto currentUserId => exact trivial
    | createUser invitation dto => exact trivial
    | insertMembership invitation userId => exact trivial
    | insertAccepted invitation now => exact trivial
    | returned => exact trivial
    | ended => exact trivial
  rcases invitationStep_cases h with ⟨invitation, rfl, rfl, rfl⟩ |
    ⟨invitation, revokedBy, rfl, rfl, rfl⟩ | ⟨invitation, now, rfl, rfl, rfl⟩ |
    ⟨invitation, rfl, rfl, rfl⟩ | ⟨invitation, userId, rfl, rfl, heq, hids, hlate⟩ |
    ⟨heq, hids, hlate, hp'⟩
  · exact ⟨hgood rfl rfl, trivial, fun q => hstored q fun r hr => List.mem_append_left _ hr⟩
  · exact ⟨hgood rfl rfl, ended_revoked hp hends,
      fun q => hstored q fun r hr => List.mem_append_left _ hr⟩
  · exact ⟨hgood rfl rfl, trivial, fun q => hstored q fun r hr => List.mem_append_left _ hr⟩
  · refine ⟨⟨fun id hid => ?_, hs.late⟩, trivial, fun q => hstored q fun r hr => hr⟩
    rcases List.mem_cons.mp hid with rfl | hid
    · exact hkept _ hp
    · exact hkept id (hs.ended id hid)
  · have hends' : invitation.id ∉ s.revokedIds := hends
    rw [if_neg hends'] at hlate
    exact ⟨hgood hids hlate, trivial, fun q => hstored q fun r hr => heq ▸ hr⟩
  · exact ⟨hgood hids hlate, hp', fun q => hstored q fun r hr => heq ▸ hr⟩

end Steps

/-- **Where every step meets `Ends`, invitations end once.**  What has been accepted or revoked
stays so, and once a `revoke` has returned, no token leads to the invitation, and no `accept`
writes a membership for it. -/
theorem invitations_end_once (host : Host) (users : List UserRow)
    (memberships : List MembershipRow) (invitations : List Invitation) (as bs : List InvitationAction)
    (s t : Interleave.State InvitationStore InvitationCall)
    (hmeets : Machine.Meets (invitationsStep host) (Interleave.Guarded Ends)
      (InvitationStore.init users memberships invitations) (as ++ bs))
    (hs : Machine.exec (invitationsStep host)
      (InvitationStore.init users memberships invitations) as = some s)
    (ht : Machine.exec (invitationsStep host) s bs = some t) :
    (∀ id, Ended id s.shared → Ended id t.shared) ∧
    (∀ id ∈ t.shared.revokedIds, Ended id t.shared ∧
      ∀ tokenHash now invitation,
        findAcceptable t.shared.invitations tokenHash now = .ok invitation → invitation.id ≠ id) ∧
    t.shared.late = [] := by
  obtain ⟨hmeetsA, hmeetsB⟩ := Machine.meets_append hmeets hs
  have hinit : Interleave.Holds RevokedForGood Knows
      (InvitationStore.init users memberships invitations) :=
    ⟨⟨fun id hid => absurd hid List.not_mem_nil, rfl⟩, fun p hp => absurd hp List.not_mem_nil⟩
  have hgood : RevokedForGood t.shared :=
    (Interleave.exec_holds (fun _ _ _ => trivial)
      (fun _ _ _ _ _ hI hL hC hstep => hI.step hL hC hstep) hinit hmeets
      (Machine.exec_append hs ht)).shared
  refine ⟨fun id hid => ?_, fun id hid => ⟨hgood.ended id hid, ?_⟩, hgood.late⟩
  · have hholds : Interleave.Holds (Ended id) (fun _ _ => True) s := ⟨hid, fun _ _ => trivial⟩
    exact (Interleave.exec_holds (fun _ _ _ => trivial)
      (fun _ _ _ _ _ hI _ hC hstep => ⟨hI.step hC hstep, trivial, fun _ _ => trivial⟩)
      hholds hmeetsB ht).shared
  · rintro tokenHash now invitation hfind rfl
    obtain ⟨hrow, hpending⟩ := findAcceptable_eq_ok hfind
    obtain ⟨row, hrow', hended⟩ := hgood.ended _ hid
    obtain rfl : invitation = row := Option.some.inj (hrow.symm.trans hrow')
    rw [Invitation.hasEnded, hpending] at hended
    exact Bool.noConfusion hended

namespace EndingExample

def invitation : Invitation where
  id := "i1"
  workspaceId := "w1"
  email := "bob@acme.io"
  role := .editor
  tokenHash := "t1"
  invitedBy := "u1"
  status := .pending
  expiresAt := 604800000
  acceptedAt := none
  revokedAt := none
  revokedBy := none
  createdAt := 0
  updatedAt := 0

def bob : AcceptInvitationDto := ⟨some "Bob", some "correct horse"⟩

/-- `resend` reads the pending row, `revoke` ends the invitation and returns, and `resend`
inserts what it had read, under a new token. -/
def lateResend : List InvitationAction :=
  [.start (.resend "i1"), .start (.revoke "i1" "u1"), .step 0 ⟨10, "", "", ""⟩,
    .step 1 ⟨10, "", "", ""⟩, .step 1 ⟨20, "", "", ""⟩, .step 1 ⟨20, "", "", ""⟩,
    .step 0 ⟨30, "t2", "", ""⟩]

/-- `accept` finds the invitation pending, and writes the membership after `revoke` has
returned. -/
def lateAccept : List InvitationAction :=
  [.start (.accept "t1" bob none), .start (.revoke "i1" "u1"), .step 0 ⟨10, "", "", ""⟩,
    .step 1 ⟨10, "", "", ""⟩, .step 1 ⟨20, "", "", ""⟩, .step 1 ⟨20, "", "", ""⟩,
    .step 0 ⟨30, "", "", ""⟩, .step 0 ⟨30, "", "u2", "$2b$bob"⟩, .step 0 ⟨30, "", "m2", ""⟩]

/-- A new token, and then the end. -/
def resendThenRevoke : List InvitationAction :=
  [.start (.resend "i1"), .step 0 ⟨10, "", "", ""⟩, .step 0 ⟨20, "t2", "", ""⟩]

def thenRevoke : List InvitationAction :=
  [.start (.revoke "i1" "u1"), .step 1 ⟨30, "", "", ""⟩, .step 1 ⟨40, "", "", ""⟩,
    .step 1 ⟨40, "", "", ""⟩]

def run (as : List InvitationAction) :
    Option (Interleave.State InvitationStore InvitationCall) :=
  Machine.exec (invitationsStep Host.bare) (InvitationStore.init [] [] [invitation]) as

end EndingExample

open EndingExample in
/-- A revoked invitation is pending again, and its new token is good; and a revoked invitation
still makes a member. -/
theorem invitation_ends_twice :
    ((run (lateResend.take 6)).map fun t =>
      (t.shared.revokedIds, (survivor "i1" t.shared.invitations).map (·.status))) =
        some (["i1"], some .revoked) ∧
    ((run lateResend).map fun t =>
      (t.shared.revokedIds, (survivor "i1" t.shared.invitations).map (·.status),
        (findAcceptable t.shared.invitations "t2" 40).toOption.map (·.id))) =
        some (["i1"], some .pending, some "i1") ∧
    ((run lateAccept).map fun t => (t.shared.late, t.shared.memberships.map (·.userId))) =
        some (["i1"], ["u2"]) := by
  refine ⟨by decide, by decide, by decide⟩

open EndingExample in
theorem invitations_end_once_revoked :
    ∃ s t, run resendThenRevoke = some s ∧
      Machine.exec (invitationsStep Host.bare) s thenRevoke = some t ∧
      t.shared.revokedIds = ["i1"] ∧ Ended "i1" t.shared ∧ t.shared.late = [] := by
  obtain ⟨s, hs⟩ : ∃ s, run resendThenRevoke = some s :=
    Option.isSome_iff_exists.mp (by decide)
  have hmeets : Machine.Meets (invitationsStep Host.bare) (Interleave.Guarded Ends)
      (InvitationStore.init [] [] [invitation]) (resendThenRevoke ++ thenRevoke) := by decide
  have hend : ((run resendThenRevoke).bind fun s =>
      (Machine.exec (invitationsStep Host.bare) s thenRevoke).map (·.shared.revokedIds)) =
      some ["i1"] := by decide
  rw [hs] at hend
  obtain ⟨t, ht, hids⟩ := Option.map_eq_some_iff.mp hend
  obtain ⟨-, hrevoked, hlate⟩ := invitations_end_once Host.bare [] [] [invitation]
    resendThenRevoke thenRevoke s t hmeets hs ht
  exact ⟨s, t, hs, ht, hids, (hrevoked "i1" (hids ▸ List.mem_cons_self)).1, hlate⟩

end Veridian
