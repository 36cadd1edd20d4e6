/-
SSO login tokens.

`issueToken` checks that the account is active and a member of the workspace, and stores a
pending row under the hash of a token; `consume` reads the row, checks it, checks the
account again, inserts the row as used and only then opens a session.  `sso_login_tokens` is
a `ReplacingMergeTree(updated_at)` ordered by `token_hash`, read with `FINAL`, so the used row
replaces the pending one as long as the clock does not go back.

The calls run one after the other; between two of them the users and the memberships may
become anything, and each request after the checks may fail.  The store keeps beside the
tables every issued token with the memberships at its issue, and every opened session with
the users at its opening.
-/
import Mathlib.Data.List.Sort
import Veridian.Access.Principal
import Veridian.Auth.PasswordReset

namespace Veridian.Sso

open UsersService Replacing

def SSO_TOKEN_TTL_MS : Int := 2 * 60 * 1000

inductive SsoTokenStatus where
  | pending | used
  deriving DecidableEq

structure SsoTokenRow where
  id : String
  tokenHash : String
  userId : String
  workspaceId : String
  status : SsoTokenStatus
  issuedToHubUserId : String
  expiresAt : Int
  consumedAt : Option Int
  consumedIp : String
  createdAt : Int
  updatedAt : Int
  deriving DecidableEq

structure IssueTokenInput where
  email : Option String
  hubUserId : Option String
  workspaceId : Option String

structure IssueTokenResult where
  autologinUrl : String
  expiresIn : Int
  deriving DecidableEq

structure ConsumeTokenResult where
  /-- What the JWT is signed over. -/
  accessToken : JwtPayload
  user : RequestUser
  workspaceId : Option String

inductive SsoError where
  | unauthorized (message : String)
  /-- A request of the database, or the audit log, failed. -/
  | failed
  deriving DecidableEq

/-- A token that was issued, and the memberships at that time. -/
structure Issued where
  row : SsoTokenRow
  memberships : List MembershipRow

/-- A session that a token opened: when the call checked the token, the users at that time,
the row of the session, and what the call returned unless it threw. -/
structure Opened where
  tokenHash : String
  checkedAt : Int
  users : List UserRow
  session : Session
  returned : Option ConsumeTokenResult

structure SsoStore where
  users : List UserRow
  memberships : List MembershipRow
  tokens : List SsoTokenRow
  clock : Int
  issued : List Issued
  /-- The hashes of the tokens that have been marked as used. -/
  used : List String
  opened : List Opened

/-- What `issueToken` takes from outside. -/
structure IssueEnv where
  now : Int
  id : String
  token : String
  insertFails : Bool := false
  auditFails : Bool := false

/-- The requests of `consume` after its checks. -/
inductive ConsumeRequest where
  | markUsed | session | audit
  deriving DecidableEq

/-- What `consume` takes from outside; it reads the clock three times. -/
structure ConsumeEnv where
  checkedAt : Int
  usedAt : Int
  sessionAt : Int
  sessionId : String
  failsAt : Option ConsumeRequest := none

section Service

variable (host : Host) (hashToken : String → String) (appUrl : Option String)

/-! ### `issueToken` -/

def isWorkspaceMember (memberships : List MembershipRow) (userId workspaceId : String) : Bool :=
  0 < ((membershipsFinal memberships).filter fun row =>
    row.userId = userId ∧ row.workspaceId = workspaceId).length

def getFirstWorkspaceForUser (memberships : List MembershipRow) (userId : String) :
    Option String :=
  let rows := (membershipsFinal memberships).filter fun row => row.userId = userId
  let sorted := rows.insertionSort fun a b => a.workspaceId ≤ b.workspaceId
  (sorted.head?.map (·.workspaceId)).filter (· ≠ "")

/-- The workspace of the token, if the user may have one. -/
def tokenWorkspace (memberships : List MembershipRow) (userId : String)
    (workspaceId : Option String) : Option String :=
  match workspaceId.filter (· ≠ "") with
  | some workspaceId =>
      if isWorkspaceMember memberships userId workspaceId then some workspaceId else none
  | none => getFirstWorkspaceForUser memberships userId

def buildAutologinUrl (token : String) : String :=
  let baseUrl := appUrl.getD "http://localhost:5173"
  -- without its trailing slashes
  String.ofList (baseUrl.toList.reverse.dropWhile (· = '/')).reverse ++ "/sso#" ++ token

/-- The row `issueToken` inserts. -/
def pendingRow (userId workspaceId : String) (input : IssueTokenInput) (env : IssueEnv) :
    SsoTokenRow where
  id := env.id
  tokenHash := hashToken env.token
  userId := userId
  workspaceId := workspaceId
  status := .pending
  issuedToHubUserId := input.hubUserId.getD ""
  expiresAt := env.now + SSO_TOKEN_TTL_MS
  consumedAt := none
  consumedIp := ""
  createdAt := env.now
  updatedAt := env.now

/-- The user and the workspace that `issueToken` goes on with. -/
def checkIssue (s : SsoStore) (input : IssueTokenInput) : Option (UserRow × String) :=
  match input.email.filter (· ≠ "") with
  | none => none
  | some email =>
      match findByEmail host s.users email with
      | none => none
      | some user =>
          if user.status ≠ .active then none
          else (tokenWorkspace s.memberships user.id input.workspaceId).map fun workspaceId =>
            (user, workspaceId)

def SsoStore.issue (s : SsoStore) (row : SsoTokenRow) : SsoStore :=
  { s with tokens := s.tokens ++ [row], issued := s.issued ++ [⟨row, s.memberships⟩] }

def issueToken (s : SsoStore) (input : IssueTokenInput) (env : IssueEnv) :
    SsoStore × Except SsoError IssueTokenResult :=
  match checkIssue host s input with
  | none => (s, .error (.unauthorized "Unable to issue SSO token"))
  | some (user, workspaceId) =>
      if env.insertFails then (s, .error .failed)
      else
        (s.issue (pendingRow hashToken user.id workspaceId input env),
          if env.auditFails then .error .failed
          else .ok ⟨buildAutologinUrl appUrl env.token, SSO_TOKEN_TTL_MS / 1000⟩)

/-! ### `consume` -/

def findToken (tokens : List SsoTokenRow) (tokenHash : String) : Option SsoTokenRow :=
  ((final SsoTokenRow.tokenHash SsoTokenRow.updatedAt tokens).filter fun row =>
    row.tokenHash = tokenHash).head?

/-- The row and the user that `consume` goes on with; every refusal says the same. -/
def checkConsume (s : SsoStore) (rawToken : String) (now : Int) : Option (SsoTokenRow × UserRow) :=
  if rawToken = "" then none
  else
    match findToken s.tokens (hashToken rawToken) with
    | none => none
    | some row =>
        if row.status ≠ .pending ∨ row.consumedAt ≠ none then none
        else if row.expiresAt < now then none
        else
          match findById s.users row.userId with
          | none => none
          | some user => if user.status ≠ .active then none else some (row, user)

/-- The row `consume` inserts. -/
def usedRow (row : SsoTokenRow) (ipAddress : Option String) (now : Int) : SsoTokenRow :=
  { row with
    status := .used, consumedAt := some now, consumedIp := ipAddress.getD "", updatedAt := now }

def SsoStore.markUsed (s : SsoStore) (row : SsoTokenRow) (ipAddress : Option String) (now : Int) :
    SsoStore :=
  { s with tokens := s.tokens ++ [usedRow row ipAddress now], used := s.used ++ [row.tokenHash] }

def consumeResult (row : SsoTokenRow) (user : UserRow) (sessionId : String) :
    ConsumeTokenResult where
  accessToken := ⟨user.id, some sessionId⟩
  user := ⟨user.id, user.email, user.name, user.isSuperAdmin⟩
  workspaceId := if row.workspaceId = "" then none else some row.workspaceId

/-- The session a token opens, with what `consume` then returns. -/
def openSession (s : SsoStore) (row : SsoTokenRow) (user : UserRow) (env : ConsumeEnv) : Opened where
  tokenHash := row.tokenHash
  checkedAt := env.checkedAt
  users := s.users
  session := Auth.createSession env.sessionId user.id env.sessionAt
  returned := if env.failsAt = some .audit then none else some (consumeResult row user env.sessionId)

def SsoStore.opens (s : SsoStore) (o : Opened) : SsoStore := { s with opened := s.opened ++ [o] }

def consume (s : SsoStore) (rawToken : String) (ipAddress : Option String) (env : ConsumeEnv) :
    SsoStore × Except SsoError ConsumeTokenResult :=
  match checkConsume hashToken s rawToken env.checkedAt with
  | none => (s, .error (.unauthorized "Invalid or expired SSO token"))
  | some (row, user) =>
      if env.failsAt = some .markUsed then (s, .error .failed)
      else
        let s' := s.markUsed row ipAddress env.usedAt
        if env.failsAt = some .session then (s', .error .failed)
        else
          let opened := openSession s row user env
          (s'.opens opened,
            match opened.returned with
            | none => .error .failed
            | some result => .ok result)

/-! ### Runs -/

inductive SsoAction where
  | issueToken (input : IssueTokenInput) (env : IssueEnv)
  | consume (rawToken : String) (ipAddress : Option String) (env : ConsumeEnv)
  | setUsers (users : List UserRow)
  | setMemberships (memberships : List MembershipRow)

/-- The clock does not go back, and a token drawn at random is new. -/
def ssoStep (s : SsoStore) : SsoAction → Option SsoStore
  | .issueToken input env =>
      if s.clock ≤ env.now ∧ ∀ row ∈ s.tokens, row.tokenHash ≠ hashToken env.token then
        some { (issueToken host hashToken appUrl s input env).1 with clock := env.now }
      else none
  | .consume rawToken ipAddress env =>
      if s.clock ≤ env.checkedAt ∧ env.checkedAt ≤ env.usedAt ∧ env.usedAt ≤ env.sessionAt then
        some { (consume hashToken s rawToken ipAddress env).1 with clock := env.sessionAt }
      else none
  | .setUsers users => some { s with users }
  | .setMemberships memberships => some { s with memberships }

end Service

/-- Any users and memberships, and no token yet. -/
def SsoStore.init (users : List UserRow) (memberships : List MembershipRow) (clock : Int) :
    SsoStore :=
  ⟨users, memberships, [], clock, [], [], []⟩

/-! ### What is promised of a token -/

/-- The session is one that the token may open. -/
structure OpenedBy (o : Opened) (i : Issued) : Prop where
  token : i.row.tokenHash = o.tokenHash
  unexpired : o.checkedAt ≤ i.row.expiresAt
  active : ∃ user, findById o.users i.row.userId = some user ∧ user.status = .active
  user : o.session.userId = i.row.userId
  returned : ∀ r ∈ o.returned, r.user.id = i.row.userId ∧
    r.accessToken = ⟨i.row.userId, some o.session.id⟩ ∧ r.workspaceId = some i.row.workspaceId
  member : isWorkspaceMember i.memberships i.row.userId i.row.workspaceId = true

/-- No two tokens are the same, and each opens one session at most, one that it may open. -/
structure SingleUse (s : SsoStore) : Prop where
  distinct : (s.issued.map (·.row.tokenHash)).Nodup
  once : (s.opened.map (·.tokenHash)).Nodup
  openedBy : ∀ o ∈ s.opened, ∃ i ∈ s.issued, OpenedBy o i

/-! ### The checks -/

section Runs

variable {host : Host} {hashToken : String → String} {appUrl : Option String}

theorem isWorkspaceMember_of_mem {memberships : List MembershipRow} {row : MembershipRow}
    (h : row ∈ membershipsFinal memberships) :
    isWorkspaceMember memberships row.userId row.workspaceId = true :=
  decide_eq_true (List.length_pos_of_mem (List.mem_filter.mpr ⟨h, decide_eq_true ⟨rfl, rfl⟩⟩))

/-- A token is for a workspace that its user is a member of. -/
theorem tokenWorkspace_member {memberships : List MembershipRow} {userId workspaceId : String}
    {named : Option String} (h : tokenWorkspace memberships userId named = some workspaceId) :
    isWorkspaceMember memberships userId workspaceId = true ∧ workspaceId ≠ "" := by
  unfold tokenWorkspace at h
  split at h
  · rename_i w hw
    obtain ⟨hmember, hsome⟩ := Option.ite_none_right_eq_some.mp h
    obtain rfl := Option.some.inj hsome
    exact ⟨hmember, of_decide_eq_true (Option.filter_eq_some_iff.mp hw).2⟩
  · obtain ⟨hfirst, hne⟩ := Option.filter_eq_some_iff.mp h
    obtain ⟨row, hhead, rfl⟩ := Option.map_eq_some_iff.mp hfirst
    have hmem := List.mem_of_mem_head? hhead
    rw [List.mem_insertionSort, List.mem_filter] at hmem
    obtain ⟨hrow, hid⟩ := hmem
    refine ⟨?_, of_decide_eq_true hne⟩
    rw [← of_decide_eq_true hid]
    exact isWorkspaceMember_of_mem hrow

theorem checkIssue_some {s : SsoStore} {input : IssueTokenInput} {user : UserRow}
    {workspaceId : String} (h : checkIssue host s input = some (user, workspaceId)) :
    isWorkspaceMember s.memberships user.id workspaceId = true ∧ workspaceId ≠ "" := by
  unfold checkIssue at h
  split at h
  · exact nomatch h
  · split at h
    · exact nomatch h
    · split at h
      · exact nomatch h
      · obtain ⟨w, hw, hpair⟩ := Option.map_eq_some_iff.mp h
        obtain ⟨rfl, rfl⟩ := Prod.mk.inj hpair
        exact tokenWorkspace_member hw

/-- What `consume` has checked when it goes on. -/
structure Checked (s : SsoStore) (now : Int) (row : SsoTokenRow) (user : UserRow) : Prop where
  found : findToken s.tokens row.tokenHash = some row
  pending : row.status = .pending
  unexpired : now ≤ row.expiresAt
  there : findById s.users row.userId = some user
  active : user.status = .active

theorem mem_of_findToken {tokens : List SsoTokenRow} {tokenHash : String} {row : SsoTokenRow}
    (h : findToken tokens tokenHash = some row) : row ∈ tokens ∧ row.tokenHash = tokenHash := by
  have hmem := List.mem_filter.mp (List.mem_of_mem_head? h)
  exact ⟨final_subset _ _ _ hmem.1, of_decide_eq_true hmem.2⟩

theorem checkConsume_some {s : SsoStore} {rawToken : String} {now : Int} {row : SsoTokenRow}
    {user : UserRow} (h : checkConsume hashToken s rawToken now = some (row, user)) :
    Checked s now row user := by
  unfold checkConsume at h
  split at h
  · exact nomatch h
  · split at h
    · exact nomatch h
    · rename_i found hfound
      split at h
      · exact nomatch h
      · rename_i hopen
        split at h
        · exact nomatch h
        · rename_i hexpired
          split at h
          · exact nomatch h
          · rename_i u hu
            split at h
            · exact nomatch h
            · rename_i hactive
              obtain ⟨rfl, rfl⟩ := Prod.mk.inj (Option.some.inj h)
              exact ⟨(mem_of_findToken hfound).2 ▸ hfound, not_not.mp (not_or.mp hopen).1,
                not_lt.mp hexpired, hu, not_not.mp hactive⟩

/-! ### What a call does -/

theorem issueToken_cases (s : SsoStore) (input : IssueTokenInput) (env : IssueEnv) :
    (issueToken host hashToken appUrl s input env).1 = s ∨
      ∃ userId workspaceId, isWorkspaceMember s.memberships userId workspaceId = true ∧
        workspaceId ≠ "" ∧ (issueToken host hashToken appUrl s input env).1 =
          s.issue (pendingRow hashToken userId workspaceId input env) := by
  unfold issueToken
  split
  · exact Or.inl rfl
  · rename_i user workspaceId hcheck
    obtain ⟨hmember, hne⟩ := checkIssue_some hcheck
    split
    · exact Or.inl rfl
    · exact Or.inr ⟨user.id, workspaceId, hmember, hne, rfl⟩

theorem consume_cases (s : SsoStore) (rawToken : String) (ipAddress : Option String)
    (env : ConsumeEnv) :
    (consume hashToken s rawToken ipAddress env).1 = s ∨
      ∃ row user, Checked s env.checkedAt row user ∧
        ((consume hashToken s rawToken ipAddress env).1 = s.markUsed row ipAddress env.usedAt ∨
          (consume hashToken s rawToken ipAddress env).1 =
            (s.markUsed row ipAddress env.usedAt).opens (openSession s row user env)) := by
  unfold consume
  split
  · exact Or.inl rfl
  · rename_i row user hcheck
    have hchecked := checkConsume_some hcheck
    split
    · exact Or.inl rfl
    · dsimp only
      split
      · exact Or.inr ⟨row, user, hchecked, Or.inl rfl⟩
      · exact Or.inr ⟨row, user, hchecked, Or.inr rfl⟩

/-! ### The invariant -/

/-- What all the rows of one token share. -/
def SsoTokenRow.scope (row : SsoTokenRow) : String × String × String × Int :=
  (row.tokenHash, row.userId, row.workspaceId, row.expiresAt)

def isPending (row : SsoTokenRow) : Bool := row.status = .pending

/-- The rows are those of the issued tokens, pending until they are marked as used, and a
token that has opened a session is marked. -/
structure Ok (s : SsoStore) : Prop where
  tracks : Tracks SsoTokenRow.tokenHash SsoTokenRow.updatedAt isPending s.used s.tokens
  clock : ∀ row ∈ s.tokens, row.updatedAt ≤ s.clock
  stored : ∀ i ∈ s.issued, i.row ∈ s.tokens
  fromIssued : ∀ row ∈ s.tokens, ∃ i ∈ s.issued, i.row.scope = row.scope
  member : ∀ i ∈ s.issued, isWorkspaceMember i.memberships i.row.userId i.row.workspaceId = true ∧
    i.row.workspaceId ≠ ""
  marked : ∀ o ∈ s.opened, o.tokenHash ∈ s.used
  singleUse : SingleUse s

theorem findToken_eq_survivor (tokens : List SsoTokenRow) (tokenHash : String) :
    findToken tokens tokenHash =
      survivor SsoTokenRow.tokenHash SsoTokenRow.updatedAt tokenHash tokens := by
  unfold findToken
  rw [final_filter_eq_survivor SsoTokenRow.tokenHash SsoTokenRow.updatedAt
    fun _ _ => decide_eq_true_iff]
  exact Option.head?_toList

namespace Ok

variable {s : SsoStore}

theorem init (users : List UserRow) (memberships : List MembershipRow) (clock : Int) :
    Ok (SsoStore.init users memberships clock) where
  tracks := tracks_nil
  clock := fun _ h => absurd h List.not_mem_nil
  stored := fun _ h => absurd h List.not_mem_nil
  fromIssued := fun _ h => absurd h List.not_mem_nil
  member := fun _ h => absurd h List.not_mem_nil
  marked := fun _ h => absurd h List.not_mem_nil
  singleUse := ⟨List.nodup_nil, List.nodup_nil, fun _ h => absurd h List.not_mem_nil⟩

theorem later (h : Ok s) {now : Int} (hle : s.clock ≤ now) : Ok { s with clock := now } :=
  { h with
    clock := fun row hrow => (h.clock row hrow).trans hle
    singleUse := ⟨h.singleUse.distinct, h.singleUse.once, h.singleUse.openedBy⟩ }

theorem issue (h : Ok s) {row : SsoTokenRow}
    (hnew : ∀ r ∈ s.tokens, r.tokenHash ≠ row.tokenHash) (hpending : row.status = .pending)
    (hclock : row.updatedAt ≤ s.clock)
    (hmember : isWorkspaceMember s.memberships row.userId row.workspaceId = true)
    (hne : row.workspaceId ≠ "") : Ok (s.issue row) where
  tracks := h.tracks.issue hnew (decide_eq_true hpending)
  clock := by
    intro r hr
    rcases List.mem_append.mp hr with hr | hr
    · exact h.clock r hr
    · rw [List.mem_singleton.mp hr]
      exact hclock
  stored := by
    intro i hi
    rcases List.mem_append.mp hi with hi | hi
    · exact List.mem_append_left _ (h.stored i hi)
    · rw [List.mem_singleton.mp hi]
      exact List.mem_append_right _ (List.mem_singleton.mpr rfl)
  fromIssued := by
    intro r hr
    rcases List.mem_append.mp hr with hr | hr
    · obtain ⟨i, hi, hscope⟩ := h.fromIssued r hr
      exact ⟨i, List.mem_append_left _ hi, hscope⟩
    · rw [List.mem_singleton.mp hr]
      exact ⟨⟨row, s.memberships⟩, List.mem_append_right _ (List.mem_singleton.mpr rfl), rfl⟩
  member := by
    intro i hi
    rcases List.mem_append.mp hi with hi | hi
    · exact h.member i hi
    · rw [List.mem_singleton.mp hi]
      exact ⟨hmember, hne⟩
  marked := h.marked
  singleUse := by
    refine ⟨?_, h.singleUse.once, fun o ho => ?_⟩
    · show ((s.issued ++ [Issued.mk row s.memberships]).map (·.row.tokenHash)).Nodup
      rw [List.map_append]
      refine List.Nodup.append h.singleUse.distinct (List.nodup_singleton _) ?_
      intro hash hhash hhash'
      obtain ⟨i, hi, rfl⟩ := List.mem_map.mp hhash
      exact hnew i.row (h.stored i hi) (List.mem_singleton.mp hhash')
    · obtain ⟨i, hi, hopened⟩ := h.singleUse.openedBy o ho
      exact ⟨i, List.mem_append_left _ hi, hopened⟩

theorem markUsed (h : Ok s) {row : SsoTokenRow} (ipAddress : Option String)
    (hfound : findToken s.tokens row.tokenHash = some row) :
    Ok (s.markUsed row ipAddress s.clock) where
  tracks := by
    rw [findToken_eq_survivor] at hfound
    have hrow := (survivor_key _ _ hfound).1
    exact h.tracks.use (x := usedRow row ipAddress s.clock) hfound (h.clock row hrow) rfl
  clock := by
    intro r hr
    rcases List.mem_append.mp hr with hr | hr
    · exact h.clock r hr
    · rw [List.mem_singleton.mp hr]
      exact le_refl _
  stored := fun i hi => List.mem_append_left _ (h.stored i hi)
  fromIssued := by
    intro r hr
    rcases List.mem_append.mp hr with hr | hr
    · exact h.fromIssued r hr
    · rw [List.mem_singleton.mp hr]
      exact h.fromIssued row (mem_of_findToken hfound).1
  member := h.member
  marked := fun o ho => List.mem_append_left _ (h.marked o ho)
  singleUse := ⟨h.singleUse.distinct, h.singleUse.once, h.singleUse.openedBy⟩

theorem opens (h : Ok s) {o : Opened} (hmarked : o.tokenHash ∈ s.used)
    (hnew : ∀ o' ∈ s.opened, o'.tokenHash ≠ o.tokenHash) (hopened : ∃ i ∈ s.issued, OpenedBy o i) :
    Ok (s.opens o) :=
  { h with
    marked := by
      intro o' ho'
      rcases List.mem_append.mp ho' with ho' | ho'
      · exact h.marked o' ho'
      · rw [List.mem_singleton.mp ho']
        exact hmarked
    singleUse := by
      refine ⟨h.singleUse.distinct, ?_, fun o' ho' => ?_⟩
      · show ((s.opened ++ [o]).map (·.tokenHash)).Nodup
        rw [List.map_append]
        refine List.Nodup.append h.singleUse.once (List.nodup_singleton _) ?_
        intro hash hhash hhash'
        obtain ⟨o', ho', rfl⟩ := List.mem_map.mp hhash
        exact hnew o' ho' (List.mem_singleton.mp hhash')
      · rcases List.mem_append.mp ho' with ho' | ho'
        · exact h.singleUse.openedBy o' ho'
        · rw [List.mem_singleton.mp ho']
          exact hopened }

/-- A token that has passed the checks has opened no session yet. -/
theorem not_opened (h : Ok s) {now : Int} {row : SsoTokenRow} {user : UserRow}
    (hchecked : Checked s now row user) : ∀ o ∈ s.opened, o.tokenHash ≠ row.tokenHash := by
  intro o ho heq
  have hfound := hchecked.found
  rw [findToken_eq_survivor] at hfound
  have hunused := (h.tracks.isOpen_iff _ _ hfound).mp (decide_eq_true hchecked.pending)
  exact hunused (heq ▸ h.marked o ho)

/-- The session it opens is one that it may open. -/
theorem openedBy (h : Ok s) {row : SsoTokenRow} {user : UserRow} {env : ConsumeEnv}
    (hchecked : Checked s env.checkedAt row user) :
    ∃ i ∈ s.issued, OpenedBy (openSession s row user env) i := by
  obtain ⟨i, hi, hscope⟩ := h.fromIssued row (mem_of_findToken hchecked.found).1
  simp only [SsoTokenRow.scope, Prod.mk.injEq] at hscope
  obtain ⟨hhash, huser, hworkspace, hexpires⟩ := hscope
  obtain ⟨hmember, hne⟩ := h.member i hi
  have hid : user.id = i.row.userId := by
    have hmem := List.mem_filter.mp (List.mem_of_mem_head? hchecked.there)
    exact (of_decide_eq_true hmem.2).1.trans huser.symm
  refine ⟨i, hi, hhash, hexpires ▸ hchecked.unexpired, ⟨user, ?_, hchecked.active⟩, hid, ?_,
    hmember⟩
  · rw [huser]
    exact hchecked.there
  · intro r hr
    obtain ⟨-, hr⟩ := Option.ite_none_left_eq_some.mp hr
    obtain rfl := Option.some.inj hr
    refine ⟨hid, ?_, ?_⟩
    · show JwtPayload.mk user.id _ = _
      rw [hid]
      rfl
    · show (if row.workspaceId = "" then none else some row.workspaceId) = _
      rw [← hworkspace, if_neg hne]

end Ok

theorem ok_step {s t : SsoStore} {a : SsoAction} (hs : Ok s)
    (h : ssoStep host hashToken appUrl s a = some t) : Ok t := by
  cases a with
  | issueToken input env =>
      obtain ⟨⟨hclock, hnew⟩, ht⟩ := Option.ite_none_right_eq_some.mp h
      obtain rfl := Option.some.inj ht
      obtain heq | ⟨userId, workspaceId, hmember, hne, heq⟩ :=
        @issueToken_cases host hashToken appUrl s input env
      · rw [heq]
        exact hs.later hclock
      · rw [heq]
        exact (hs.later hclock).issue hnew rfl (le_refl _) hmember hne
  | consume rawToken ipAddress env =>
      obtain ⟨⟨hclock, hused, hsession⟩, ht⟩ := Option.ite_none_right_eq_some.mp h
      obtain rfl := Option.some.inj ht
      obtain heq | ⟨row, user, hchecked, hcases⟩ :=
        @consume_cases hashToken s rawToken ipAddress env
      · rw [heq]
        exact hs.later (hclock.trans (hused.trans hsession))
      · have hmarks := (hs.later (hclock.trans hused)).markUsed ipAddress hchecked.found
        rcases hcases with heq | heq
        · rw [heq]
          exact hmarks.later hsession
        · rw [heq]
          refine Ok.later (Ok.opens (o := openSession s row user env) hmarks ?_
            (hs.not_opened hchecked) (hs.openedBy hchecked)) hsession
          exact List.mem_append_right _ (List.mem_singleton.mpr rfl)
  | setUsers users =>
      obtain rfl := Option.some.inj h
      exact { hs with singleUse := ⟨hs.singleUse.distinct, hs.singleUse.once, hs.singleUse.openedBy⟩ }
  | setMemberships memberships =>
      obtain rfl := Option.some.inj h
      exact { hs with singleUse := ⟨hs.singleUse.distinct, hs.singleUse.once, hs.singleUse.openedBy⟩ }

/-- **In every run each token opens one session at most, by a call that checked it before it
expired, for the user and the workspace it was issued for.** -/
theorem singleUse_of_exec (users : List UserRow) (memberships : List MembershipRow) (clock : Int)
    (as : List SsoAction) (s : SsoStore)
    (hrun : Machine.exec (ssoStep host hashToken appUrl)
      (SsoStore.init users memberships clock) as = some s) : SingleUse s :=
  (Machine.exec_invariant (fun _ _ _ => ok_step) (Ok.init users memberships clock) hrun).singleUse

end Runs

namespace SsoExample

def membership : MembershipRow where
  id := "m1"
  workspaceId := "acme"
  userId := "u1"
  role := .viewer
  invitedBy := none
  joinedAt := 0
  createdAt := 0
  updatedAt := 0

def issue : SsoAction :=
  .issueToken ⟨some "ana@acme.io", none, some "acme"⟩ { now := 1000, id := "s1", token := "a" }

/-- The token of `issue`, checked a second before it expires. -/
def slowConsume : SsoAction :=
  .consume "a" none
    { checkedAt := 120000, usedAt := 121500, sessionAt := 122000, sessionId := "session1" }

def run (as : List SsoAction) : Option SsoStore :=
  Machine.exec (ssoStep Host.bare Auth.ResetExample.hashToken none)
    (SsoStore.init [Auth.ResetExample.user] [membership] 0) as

/-- A call that checks its token in time opens the session after the token has expired. -/
theorem session_after_expiry : ((run [issue, slowConsume]).map fun s =>
    s.opened.any fun o => s.issued.any fun i =>
      i.row.tokenHash = o.tokenHash ∧ i.row.expiresAt < o.session.updatedAt) = some true := by
  decide

/-- The token is given twice. -/
def replay : List SsoAction :=
  [issue, slowConsume, .consume "a" none
    { checkedAt := 122000, usedAt := 122000, sessionAt := 122000, sessionId := "session2" }]

theorem replay_opens_one_session :
    ∃ s, run replay = some s ∧ s.opened.length = 1 ∧ SingleUse s := by
  refine ⟨_, rfl, by decide, ?_⟩
  exact @singleUse_of_exec Host.bare Auth.ResetExample.hashToken none [Auth.ResetExample.user]
    [membership] 0 replay _ rfl

end SsoExample

end Veridian.Sso
