/-
The handlers behind the guard, and the workspace they act on.

Each handler takes the workspace id it hands to its service from one fixed place of
the request, whatever the guard found elsewhere.  So the two agree only when nothing
truthy stands in an earlier place of the guard's, or the same value does.  `Agrees` is
that condition, and `handler_workspace_iff` says it is exact.
-/
import Veridian.Access.WorkspaceGuard

namespace Veridian

/-! ### How a handler takes its workspace id -/

/-- What stands between the request and the handler's argument. -/
inductive Pipe where
  /-- `@Query('name') value: string` or `@Body('name') value: string` -/
  | bare
  /-- The same, and the handler refuses a falsy value itself. -/
  | present
  /-- A DTO whose field is `@IsString()`. -/
  | isString
  /-- A DTO whose field is `@IsString() @IsNotEmpty()`. -/
  | isNotEmpty
  /-- `UpdateWorkspaceDto.id` -/
  | idFormat
  deriving DecidableEq, Repr

/-- `@MinLength(2) @MaxLength(50) @Matches(/^[a-z][a-z0-9_]*$/)` -/
def isWorkspaceId (s : String) : Bool :=
  match s.toList with
  | [] => false
  | c :: rest =>
      c.isLower && rest.all (fun c => c.isLower || c.isDigit || c = '_') &&
        2 ≤ s.length && s.length ≤ 50

/-- `ValidationPipe.transformPrimitive`: a query parameter declared as a string becomes one. -/
def transformPrimitive (part : Part) : Param → Param
  | .value v =>
      match part with
      | .query => .text v.printed
      | .body => .value v
  | p => p

def Pipe.pass (part : Part) : Pipe → Param → Except HttpException Param
  | .bare, p => .ok (transformPrimitive part p)
  | .present, p =>
      if (transformPrimitive part p).truthy then .ok (transformPrimitive part p)
      else .error (.badRequest "workspace_id is required")
  | .isString, .text s => .ok (.text s)
  | .isNotEmpty, .text s => if s = "" then .error .invalid else .ok (.text s)
  | .idFormat, .text s => if isWorkspaceId s then .ok (.text s) else .error .invalid
  | _, _ => .error .invalid

/-- A pipe lets a value through or refuses it; it never makes another one of it. -/
theorem Pipe.pass_eq_ok {part : Part} {pipe : Pipe} {p q : Param} (h : pipe.pass part p = .ok q) :
    q = transformPrimitive part p := by
  unfold Pipe.pass at h
  split at h
  · exact (Except.ok.inj h).symm
  · split at h
    · exact (Except.ok.inj h).symm
    · exact absurd h (by simp)
  · exact (Except.ok.inj h).symm
  · split at h
    · exact absurd h (by simp)
    · exact (Except.ok.inj h).symm
  · split at h
    · exact (Except.ok.inj h).symm
    · exact absurd h (by simp)
  · exact absurd h (by simp)

/-! ### The handlers -/

/-- Every handler that `WorkspaceAuthGuard` stands in front of and that hands a workspace id
to a service. -/
inductive Handler where
  | filtersList | filtersGet | filtersCreate | filtersUpdate | filtersDelete | filtersReorder
  | filtersListTags | filtersBackfillStart | filtersBackfillList | filtersBackfillSummary
  | filtersChannelBackfill
  | smtpInfo | smtpUpdate | smtpDelete | smtpTest
  | webhooksCreate | webhooksList | webhooksGet | webhooksUpdate | webhooksDelete | webhooksTest
  | webhooksDeliveriesList | webhooksDeliveriesRetry
  | membersList | membersGet | membersUpdateRole | membersRemove | membersLeave
  | membersTransferOwnership
  | exportUserEvents
  | auditList
  | analyticsQuery | analyticsExtremes | analyticsFunnel | analyticsConversionsByChannel
  | assistantChat
  | gscDashboard | gscStatus | gscOauthBegin | gscResync | gscDisconnect
  | invitationsList | invitationsCreate
  | subscriptionsList | subscriptionsCreate | subscriptionsUpdate | subscriptionsDelete
  | subscriptionsPause | subscriptionsResume | subscriptionsSendNow | subscriptionsPreview
  | tunnelAggregate
  | voipSettings | voipSaveCredential | voipTestCredential | voipDeleteCredential
  | voipListPhoneNumbers | voipCreatePhoneNumber | voipUpdatePhoneNumber | voipDeletePhoneNumber
  | apiKeysCreate
  | workspacesGet | workspacesUpdate | workspacesDelete
  deriving DecidableEq, Repr

namespace Handler

/-- Where the handler reads the workspace id. -/
def place : Handler → Place
  | filtersList | filtersGet | filtersDelete | filtersListTags | filtersBackfillList
  | filtersBackfillSummary | smtpInfo | webhooksList | webhooksGet | webhooksDeliveriesList
  | membersList | membersGet | exportUserEvents | auditList | gscDashboard | gscStatus
  | subscriptionsList | tunnelAggregate | voipSettings | voipListPhoneNumbers =>
      ⟨.query, .workspace_id⟩
  | invitationsList => ⟨.query, .workspaceId⟩
  | workspacesGet => ⟨.query, .id⟩
  | workspacesUpdate | workspacesDelete => ⟨.body, .id⟩
  | _ => ⟨.body, .workspace_id⟩

def pipe : Handler → Pipe
  | filtersList | filtersGet | filtersDelete | filtersListTags | filtersBackfillList
  | filtersBackfillSummary | smtpInfo | webhooksList | webhooksGet | webhooksDeliveriesList
  | membersList | membersGet | auditList | subscriptionsList | voipSettings
  | voipListPhoneNumbers | invitationsList | workspacesGet => .bare
  | membersLeave | subscriptionsDelete | subscriptionsPause | subscriptionsResume
  | subscriptionsSendNow | workspacesDelete => .bare
  | gscStatus => .present
  | webhooksCreate | voipSaveCredential | voipTestCredential | voipDeleteCredential
  | voipCreatePhoneNumber | voipUpdatePhoneNumber | voipDeletePhoneNumber => .isNotEmpty
  | workspacesUpdate => .idFormat
  | _ => .isString

/-- `@RequirePermission()` -/
def requiredPermission : Handler → Option Permission
  | filtersCreate | filtersChannelBackfill => some .filtersManage
  | smtpUpdate | smtpDelete => some .workspaceSmtp
  | webhooksCreate | webhooksUpdate | webhooksDeliveriesRetry => some .webhookWrite
  | webhooksList | webhooksGet | webhooksDeliveriesList => some .webhookRead
  | webhooksDelete => some .webhookDelete
  | webhooksTest => some .webhookTest
  | membersUpdateRole => some .membersManage
  | membersRemove => some .membersRemove
  | gscDashboard | gscStatus => some .gscRead
  | gscOauthBegin | gscResync | gscDisconnect => some .gscManage
  | invitationsCreate => some .membersInvite
  | tunnelAggregate => some .analyticsExport
  | voipSettings | voipListPhoneNumbers => some .voipRead
  | voipSaveCredential | voipDeleteCredential | voipCreatePhoneNumber | voipUpdatePhoneNumber
  | voipDeletePhoneNumber => some .voipWrite
  | voipTestCredential => some .voipTest
  | apiKeysCreate => some .apiKeysManage
  | workspacesUpdate => some .workspaceSettings
  | workspacesDelete => some .workspaceDelete
  | _ => none

/-- `@JwtOnly()` -/
def jwtOnly : Handler → Bool
  | membersLeave | membersTransferOwnership => true
  | _ => false

end Handler

/-- `JwtAuthGuard.handleRequest` for a principal one of the strategies accepted. -/
def authenticate (jwtOnly : Bool) : Principal → Except HttpException Unit
  | .apiKey .. =>
      if jwtOnly then .error (.unauthorized "This endpoint requires JWT authentication") else .ok ()
  | .user .. => .ok ()

/-- What reaches the service: the membership of the guard and the workspace id of the
handler. -/
def Handler.dispatch (handler : Handler) (now : Int) (rows : List MembershipRow)
    (user : Principal) (request : HttpRequest) :
    Except HttpException (WorkspaceMembership × Param) := do
  authenticate handler.jwtOnly user
  let membership ← canActivate now rows user handler.requiredPermission request
  let workspaceId ← handler.pipe.pass handler.place.part (request.get handler.place)
  return (membership, workspaceId)

/-- A request that reaches the service passed every stage in front of it. -/
theorem Handler.dispatch_cases {handler : Handler} {now : Int} {rows : List MembershipRow}
    {user : Principal} {request : HttpRequest} {membership : WorkspaceMembership}
    {workspaceId : Param}
    (h : handler.dispatch now rows user request = .ok (membership, workspaceId)) :
    authenticate handler.jwtOnly user = .ok () ∧
      canActivate now rows user handler.requiredPermission request = .ok membership ∧
      handler.pipe.pass handler.place.part (request.get handler.place) = .ok workspaceId := by
  unfold Handler.dispatch at h
  cases hauth : authenticate handler.jwtOnly user with
  | error e =>
      rw [hauth] at h
      exact absurd h (by simp [bind, Except.bind])
  | ok _ =>
      cases hguard : canActivate now rows user handler.requiredPermission request with
      | error e =>
          rw [hauth, hguard] at h
          exact absurd h (by simp [bind, Except.bind])
      | ok m =>
          cases hpipe : handler.pipe.pass handler.place.part (request.get handler.place) with
          | error e =>
              rw [hauth, hguard, hpipe] at h
              exact absurd h (by simp [bind, Except.bind])
          | ok id =>
              rw [hauth, hguard, hpipe] at h
              obtain ⟨rfl, rfl⟩ := Prod.mk.inj (Except.ok.inj h)
              exact ⟨rfl, rfl, rfl⟩

/-! ### When the two are the same -/

/-- The places the guard looks in before a given one. -/
def placesBefore (place : Place) : List Place := guardPlaces.takeWhile (· ≠ place)

/-- No earlier place of the guard's has another value. -/
def Uncontradicted (request : HttpRequest) (place : Place) (v : Param) : Prop :=
  ∀ e, firstTruthy request (placesBefore place) = some e → e = v

/-- The handler's place holds a value that stands for a workspace, and what the guard meets
before it, if it meets anything, is that very value. -/
def Handler.Agrees (handler : Handler) (request : HttpRequest) : Prop :=
  match request.get handler.place with
  | .undefined => False
  | .text w => w ≠ "" ∧ Uncontradicted request handler.place (.text w)
  | .value v =>
      match handler.place.part with
      | .body => v.truthy = true ∧ Uncontradicted request handler.place (.value v)
      -- a repeated parameter: the handler gets its text, the guard saw the array
      | .query => firstTruthy request (placesBefore handler.place) = some (.text v.printed)

section

variable {request : HttpRequest}

/-- The guard takes the first truthy value before a place, else the one in it, else one
behind it. -/
theorem firstTruthy_guardPlaces (request : HttpRequest) (place : Place) :
    ∃ after, firstTruthy request guardPlaces =
      ((firstTruthy request (placesBefore place)).or
        (firstTruthy request [place])).or (firstTruthy request after) := by
  obtain ⟨after, hsplit⟩ : ∃ after, guardPlaces = placesBefore place ++ [place] ++ after := by
    obtain ⟨part, key⟩ := place
    cases part <;> cases key <;> exact ⟨_, rfl⟩
  refine ⟨after, ?_⟩
  rw [hsplit]
  simp only [firstTruthy, List.map_append, List.find?_append]

/-- What the guard goes by, seen from one place: an earlier value, or the value in that
place, or, when that is falsy, some truthy value. -/
theorem extractWorkspaceId_cases (h : (extractWorkspaceId request).truthy = true) (place : Place) :
    firstTruthy request (placesBefore place) = some (extractWorkspaceId request) ∨
      firstTruthy request (placesBefore place) = none ∧
        ((request.get place).truthy = true → extractWorkspaceId request = request.get place) := by
  obtain ⟨after, hplaces⟩ := firstTruthy_guardPlaces request place
  rw [extractWorkspaceId_of_truthy h] at hplaces
  cases hbefore : firstTruthy request (placesBefore place) with
  | some e =>
      rw [hbefore] at hplaces
      exact Or.inl (congrArg some (Option.some.inj hplaces).symm)
  | none =>
      refine Or.inr ⟨rfl, fun htruthy => ?_⟩
      have hhere : firstTruthy request [place] = some (request.get place) :=
        List.find?_cons_of_pos htruthy
      rw [hbefore, hhere] at hplaces
      exact Option.some.inj hplaces

/-- A value that stands is the one the guard went by exactly when none before it differs. -/
theorem get_eq_extract_iff (h : (extractWorkspaceId request).truthy = true) {place : Place}
    (htruthy : (request.get place).truthy = true) :
    request.get place = extractWorkspaceId request ↔
      Uncontradicted request place (request.get place) := by
  rcases extractWorkspaceId_cases h place with hbefore | ⟨hbefore, hhere⟩
  · refine ⟨fun heq e he => ?_, fun hunc => (hunc _ hbefore).symm⟩
    rw [hbefore] at he
    exact (Option.some.inj he).symm.trans heq.symm
  · refine ⟨fun _ e he => ?_, fun _ => (hhere htruthy).symm⟩
    rw [hbefore] at he
    exact absurd he (by simp)

/-- The workspace id a handler reads is the one the guard went by exactly when `Agrees`. -/
theorem transformPrimitive_eq_extract_iff (h : (extractWorkspaceId request).truthy = true)
    (handler : Handler) :
    transformPrimitive handler.place.part (request.get handler.place) =
      extractWorkspaceId request ↔ handler.Agrees request := by
  have hstands : (request.get handler.place).truthy = true →
      (request.get handler.place = extractWorkspaceId request ↔
        Uncontradicted request handler.place (request.get handler.place)) :=
    get_eq_extract_iff h
  unfold Handler.Agrees
  cases hget : request.get handler.place with
  | undefined =>
      refine iff_of_false (fun heq => ?_) id
      rw [← heq] at h
      exact Bool.noConfusion h
  | text w =>
      rw [hget] at hstands
      show Param.text w = extractWorkspaceId request ↔ _
      by_cases hw : w = ""
      · refine iff_of_false (fun heq => ?_) fun hagrees => hagrees.1 hw
        rw [← heq, hw] at h
        exact absurd h (by decide)
      · have htruthy : (Param.text w).truthy = true := by simp [Param.truthy, hw]
        exact (hstands htruthy).trans ⟨fun hunc => ⟨hw, hunc⟩, And.right⟩
  | value v =>
      cases hpart : handler.place.part with
      | body =>
          rw [hget] at hstands
          show Param.value v = extractWorkspaceId request ↔ _
          constructor
          · intro heq
            have htruthy : (Param.value v).truthy = true := by rw [heq]; exact h
            exact ⟨htruthy, (hstands htruthy).mp heq⟩
          · exact fun hagrees => (hstands hagrees.1).mpr hagrees.2
      | query =>
          show Param.text v.printed = extractWorkspaceId request ↔ _
          have htruthy : (request.get handler.place).truthy = true := by
            have hquery : request.query.get handler.place.key = .value v := by
              rw [← hget, HttpRequest.get, hpart]
            rw [hget]
            exact request.query_truthy _ v hquery
          rcases extractWorkspaceId_cases h handler.place with hbefore | ⟨hbefore, hhere⟩
          · show _ ↔ firstTruthy request (placesBefore handler.place) = some (.text v.printed)
            rw [hbefore, Option.some.injEq]
            exact eq_comm
          · show _ ↔ firstTruthy request (placesBefore handler.place) = some (.text v.printed)
            rw [hbefore, hhere htruthy, hget]
            exact iff_of_false (by simp) (by simp)

/--
**The guard authorises the workspace the handler acts on exactly when the two read alike.**

For every request that reaches the service, the guard authorised the principal for the
workspace id it went by.  The id handed to the service is that one if and only if the
handler's place holds a value that stands and no earlier place of the guard's holds
another.
-/
theorem handler_workspace_iff (handler : Handler) (now : Int) (rows : List MembershipRow)
    (user : Principal) (request : HttpRequest) (membership : WorkspaceMembership)
    (workspaceId : Param)
    (h : handler.dispatch now rows user request = .ok (membership, workspaceId)) :
    Authorised rows user (extractWorkspaceId request) ∧
      (workspaceId = extractWorkspaceId request ↔ handler.Agrees request) := by
  obtain ⟨-, hpass, hread⟩ := Handler.dispatch_cases h
  obtain ⟨htruthy, hauthorised, -⟩ := canActivate_cases hpass
  refine ⟨hauthorised, ?_⟩
  rw [Pipe.pass_eq_ok hread]
  exact transformPrimitive_eq_extract_iff htruthy handler

end

/-! ### A request with two workspaces -/

namespace HandlerExample

/-- The body names the caller's own workspace, the query string another one. -/
def crossed : HttpRequest where
  body := { workspace_id := .text "own" }
  query := { workspace_id := .text "victim" }
  query_truthy := by
    intro key v h
    cases key <;> exact absurd h (by simp [Fields.get])

def plain : HttpRequest where
  query := { workspace_id := .text "own" }
  query_truthy := by
    intro key v h
    cases key <;> exact absurd h (by simp [Fields.get])

/-- A viewer's key. -/
def key : Principal := .apiKey "k" "own" .viewer

def membership : WorkspaceMembership :=
  syntheticMembership 0 "api-key:k" (.text "own") "api-key:k" .viewer

end HandlerExample

open HandlerExample in
/-- A key bound to `own` deletes a filter of `victim`. -/
theorem filtersDelete_crosses :
    Handler.filtersDelete.dispatch 0 [] key crossed = .ok (membership, .text "victim") ∧
      ¬Authorised [] key (.text "victim") ∧
      ¬∀ (handler : Handler) (now : Int) (rows : List MembershipRow) (user : Principal)
        (request : HttpRequest) (membership : WorkspaceMembership) (workspaceId : Param),
        handler.dispatch now rows user request = .ok (membership, workspaceId) →
          workspaceId = extractWorkspaceId request := by
  have hrun : Handler.filtersDelete.dispatch 0 [] key crossed = .ok (membership, .text "victim") :=
    rfl
  refine ⟨hrun, fun h => absurd (Param.text.inj h) (by decide), fun hall => ?_⟩
  exact absurd (hall _ _ _ _ _ _ _ hrun) (by decide)

open HandlerExample in
theorem handler_workspace_iff_plain :
    Handler.filtersDelete.dispatch 0 [] key plain = .ok (membership, .text "own") ∧
      Param.text "own" = extractWorkspaceId plain := by
  have hrun : Handler.filtersDelete.dispatch 0 [] key plain = .ok (membership, .text "own") := rfl
  refine ⟨hrun, (handler_workspace_iff _ _ _ _ _ _ _ hrun).2.mpr ⟨by decide, ?_⟩⟩
  have hnone : firstTruthy plain (placesBefore Handler.filtersDelete.place) = none := rfl
  intro e he
  rw [hnone] at he
  exact absurd he (by simp)

end Veridian
