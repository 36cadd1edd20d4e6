/-
The guard in front of the workspace endpoints.

`canActivate` looks for a workspace id in six places of the request, the body before
the query string, and takes the first truthy value.  That value is the one it
authorises: an API key has to be bound to it, a user has to be a member of it, and a
super admin may name any.  `canActivate_cases` is everything a request that passes
says about the guard; what the handler behind it then reads is another matter.
-/
import Veridian.Access.Principal

namespace Veridian

/-! ### Requests -/

/-- What the code can see of a JSON value that is not a string. -/
structure NonText where
  truthy : Bool
  /-- `String(value)` -/
  printed : String
  /-- What the database client sends for it as a query parameter. -/
  sent : String
  deriving DecidableEq, Repr

/-- One field of a parsed body or query string. -/
inductive Param where
  | undefined
  | text (s : String)
  | value (v : NonText)
  deriving DecidableEq, Repr

namespace Param

def truthy : Param → Bool
  | undefined => false
  | text s => s ≠ ""
  | value v => v.truthy

/-- `a || b` -/
def or (a b : Param) : Param := if a.truthy then a else b

/-- The value of a `{name:String}` parameter. -/
def sent : Param → String
  | undefined => ""
  | text s => s
  | value v => v.sent

end Param

/-- The names under which the guard looks for a workspace id. -/
inductive Key where
  | workspace_id | workspaceId | id
  deriving DecidableEq, Repr

structure Fields where
  workspace_id : Param := .undefined
  workspaceId : Param := .undefined
  id : Param := .undefined
  deriving DecidableEq, Repr

def Fields.get (fields : Fields) : Key → Param
  | .workspace_id => fields.workspace_id
  | .workspaceId => fields.workspaceId
  | .id => fields.id

inductive Part where
  | body | query
  deriving DecidableEq, Repr

/-- A body or query string that is missing has no fields. -/
structure HttpRequest where
  body : Fields := {}
  query : Fields := {}
  /-- A query string holds strings, and arrays of them for a name that is repeated. -/
  query_truthy : ∀ key v, query.get key = .value v → v.truthy = true

structure Place where
  part : Part
  key : Key
  deriving DecidableEq, Repr

def HttpRequest.get (request : HttpRequest) (place : Place) : Param :=
  match place.part with
  | .body => request.body.get place.key
  | .query => request.query.get place.key

/-! ### The guard -/

inductive HttpException where
  | badRequest (message : String)
  | unauthorized (message : String)
  | forbidden (message : String)
  | notFound (message : String)
  /-- A request that the validation pipe refuses. -/
  | invalid
  /-- An error that is not an HTTP exception. -/
  | internal
  deriving DecidableEq, Repr

/-- `request.membership` -/
structure WorkspaceMembership where
  id : String
  workspaceId : Param
  userId : String
  role : Role
  invitedBy : Option String
  joinedAt : Int
  createdAt : Int
  updatedAt : Int
  deriving DecidableEq, Repr

def parseMembership (row : MembershipRow) : WorkspaceMembership where
  id := row.id
  workspaceId := .text row.workspaceId
  userId := row.userId
  role := row.role
  invitedBy := row.invitedBy
  joinedAt := row.joinedAt
  createdAt := row.createdAt
  updatedAt := row.updatedAt

def getMembership (rows : List MembershipRow) (workspaceId : Param) (userId : String) :
    Option WorkspaceMembership :=
  (membershipOf rows workspaceId.sent userId).map parseMembership

/-- The membership made up for an API key or a super admin. -/
def syntheticMembership (now : Int) (id : String) (workspaceId : Param) (userId : String)
    (role : Role) : WorkspaceMembership where
  id := id
  workspaceId := workspaceId
  userId := userId
  role := role
  invitedBy := none
  joinedAt := now
  createdAt := now
  updatedAt := now

/-- The workspace id the guard goes by. -/
def extractWorkspaceId (request : HttpRequest) : Param :=
  ((((request.body.workspace_id.or request.body.workspaceId).or request.body.id).or
    request.query.workspace_id).or request.query.workspaceId).or request.query.id

def hasRequired (role : Role) : Option Permission → Bool
  | none => true
  | some permission => hasPermission role permission

/-- `WorkspaceAuthGuard.canActivate`: the membership it attaches to a request it lets
through. -/
def canActivate (now : Int) (rows : List MembershipRow) (user : Principal)
    (requiredPermission : Option Permission) (request : HttpRequest) :
    Except HttpException WorkspaceMembership :=
  let workspaceId := extractWorkspaceId request
  if workspaceId.truthy = false then .error (.badRequest "workspace_id is required")
  else match user with
  | .apiKey keyId bound role =>
      if workspaceId ≠ .text bound then
        .error (.forbidden "API key not authorized for this workspace")
      else if hasRequired role.role requiredPermission = false then
        .error (.forbidden "API key has insufficient permissions")
      else
        .ok (syntheticMembership now ("api-key:" ++ keyId) workspaceId ("api-key:" ++ keyId)
          role.role)
  | .user id true => .ok (syntheticMembership now "super-admin" workspaceId id .owner)
  | .user id false =>
      match getMembership rows workspaceId id with
      | none => .error (.forbidden "Not a member of this workspace")
      | some membership =>
          if hasRequired membership.role requiredPermission = false then
            .error (.forbidden "Insufficient permissions")
          else .ok membership

/-! ### What a passing request says -/

/-- The check the guard makes of a principal and a workspace id. -/
def Authorised (rows : List MembershipRow) : Principal → Param → Prop
  | .apiKey _ bound _, workspaceId => workspaceId = .text bound
  | .user _ true, _ => True
  | .user id false, workspaceId => (membershipOf rows workspaceId.sent id).isSome = true

section

variable {now : Int} {rows : List MembershipRow} {user : Principal}
  {requiredPermission : Option Permission} {request : HttpRequest}
  {membership : WorkspaceMembership}

/-- A request that passes names a workspace, the principal is authorised for it, and the
membership it goes on with has the permission that was asked for. -/
theorem canActivate_cases
    (h : canActivate now rows user requiredPermission request = .ok membership) :
    (extractWorkspaceId request).truthy = true ∧
      Authorised rows user (extractWorkspaceId request) ∧
      hasRequired membership.role requiredPermission = true := by
  unfold canActivate at h
  simp only at h
  split at h
  · exact absurd h (by simp)
  rename_i htruthy
  refine ⟨by simpa using htruthy, ?_⟩
  cases user with
  | apiKey keyId bound role =>
      simp only at h
      split at h
      · exact absurd h (by simp)
      rename_i hbound
      split at h
      · exact absurd h (by simp)
      rename_i hrole
      obtain rfl := Except.ok.inj h
      exact ⟨not_not.mp hbound, eq_true_of_ne_false hrole⟩
  | user id isSuperAdmin =>
      cases isSuperAdmin with
      | true =>
          obtain rfl := Except.ok.inj h
          refine ⟨trivial, ?_⟩
          cases requiredPermission with
          | none => rfl
          | some permission => exact hasPermission_owner permission
      | false =>
          simp only at h
          split at h
          · exact absurd h (by simp)
          rename_i hmembership
          split at h
          · exact absurd h (by simp)
          rename_i hrole
          obtain rfl := Except.ok.inj h
          obtain ⟨row, hrow, -⟩ := Option.map_eq_some_iff.mp hmembership
          refine ⟨?_, eq_true_of_ne_false hrole⟩
          show (membershipOf rows (extractWorkspaceId request).sent id).isSome = true
          rw [hrow]
          rfl

end

/-! ### Which place is taken -/

/-- The places the guard looks in, in order. -/
def guardPlaces : List Place :=
  [⟨.body, .workspace_id⟩, ⟨.body, .workspaceId⟩, ⟨.body, .id⟩,
    ⟨.query, .workspace_id⟩, ⟨.query, .workspaceId⟩, ⟨.query, .id⟩]

/-- The first truthy value in a list of places. -/
def firstTruthy (request : HttpRequest) (places : List Place) : Option Param :=
  (places.map request.get).find? Param.truthy

/-- The chain of `||` finds the first truthy value. -/
theorem extractWorkspaceId_of_truthy {request : HttpRequest}
    (h : (extractWorkspaceId request).truthy = true) :
    firstTruthy request guardPlaces = some (extractWorkspaceId request) := by
  have hstep : ∀ (a b : Param) (rest : List Param),
      (a :: b :: rest).find? Param.truthy = (a.or b :: rest).find? Param.truthy := by
    intro a b rest
    unfold Param.or
    by_cases ha : a.truthy = true
    · rw [if_pos ha, List.find?_cons_of_pos ha, List.find?_cons_of_pos ha]
    · rw [if_neg ha, List.find?_cons_of_neg ha]
  show [request.body.workspace_id, request.body.workspaceId, request.body.id,
    request.query.workspace_id, request.query.workspaceId, request.query.id].find? _ = _
  rw [hstep, hstep, hstep, hstep, hstep]
  exact List.find?_cons_of_pos h

end Veridian
