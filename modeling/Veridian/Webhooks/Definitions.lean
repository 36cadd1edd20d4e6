/-
Creating, changing and deleting webhooks.

`create` and `update` look for the name before they write, and the table has no constraint
of its own.  What makes that enough in a sequential run is that a write can only put one row
in force, the one whose name was looked for: a row that comes with an old clock or with an
identifier that is taken either replaces a webhook or changes nothing.  So names stay unique
whatever the clocks and the identifiers are (`names_unique`).  A deletion frees a name only
when its row is the newest, which takes a clock that has not gone back.

The guard against internal addresses, the template compiler and the cipher are open.
-/
import Veridian.Lib.Checked
import Veridian.Lib.Replacing

namespace Veridian.WebhookDefinitions

open Replacing

inductive WebhookAuthType where
  | none | bearer | basic | hmac
  deriving DecidableEq

inductive WebhookTransform where
  | passthrough
  | template (template : String)
  | twenty (dryRun : Bool)
  deriving DecidableEq

structure WebhookRetryConfig where
  maxAttempts : Int
  backoffMs : List Int
  deriving DecidableEq

def DEFAULT_RETRY_CONFIG : WebhookRetryConfig where
  maxAttempts := 3
  backoffMs := [60000, 300000, 900000]

structure Webhook (φ : Type) where
  id : String
  workspaceId : String
  name : String
  url : String
  active : Bool
  authType : WebhookAuthType
  authSecretEncrypted : String
  events : List String
  filters : List φ
  transform : Option WebhookTransform
  retryConfig : WebhookRetryConfig
  createdAt : Int
  updatedAt : Int
  deletedAt : Option Int
  deriving DecidableEq

/-- An error with its HTTP status. -/
structure ApiError where
  status : Nat
  code : String
  message : String
  deriving DecidableEq

def conflict (code message : String) : ApiError := ⟨409, code, message⟩

def notFound (code message : String) : ApiError := ⟨404, code, message⟩

def badRequest (code message : String) : ApiError := ⟨400, code, message⟩

/-! ### Requests -/

structure WebhookAuthDto where
  type : Option String
  token : Option String

inductive TransformType where
  | passthrough | template | twenty
  deriving DecidableEq

structure WebhookTransformDto where
  type : TransformType
  template : Option String
  dryRun : Option Bool

structure CreateWebhookDto (φ : Type) where
  workspaceId : String
  name : String
  url : String
  active : Option Bool := none
  auth : Option WebhookAuthDto := none
  events : List String
  filters : Option (List φ) := none
  transform : Option WebhookTransformDto := none
  retry : Option WebhookRetryConfig := none

structure UpdateWebhookDto (φ : Type) where
  workspaceId : String
  id : String
  name : Option String := none
  url : Option String := none
  active : Option Bool := none
  auth : Option WebhookAuthDto := none
  events : Option (List String) := none
  filters : Option (List φ) := none
  transform : Option WebhookTransformDto := none
  retry : Option WebhookRetryConfig := none

structure DeleteWebhookDto where
  workspaceId : String
  id : String

/-- What the service leaves to others. -/
structure Services where
  assertSafeUrl : String → Except ApiError Unit
  assertCompilable : Option WebhookTransform → Except ApiError Unit

/-- What a request finds when it is handled: the clock, a new identifier and the cipher with
its nonce. -/
structure Moment where
  now : Int
  newId : String
  encryptSecret : String → String

variable {φ : Type}

/-! ### The table -/

/-- `ORDER BY (workspace_id, id)` -/
def Webhook.key (w : Webhook φ) : String × String := (w.workspaceId, w.id)

/-- `FINAL WHERE deleted_at IS NULL` -/
def live (rows : List (Webhook φ)) : List (Webhook φ) :=
  (final Webhook.key Webhook.updatedAt rows).filter fun w => w.deletedAt = none

def findById (rows : List (Webhook φ)) (workspaceId id : String) : Option (Webhook φ) :=
  (live rows).find? fun w => w.workspaceId = workspaceId ∧ w.id = id

/-- The rows of `create` that have the name. -/
def named (rows : List (Webhook φ)) (workspaceId name : String) : List (Webhook φ) :=
  (live rows).filter fun w => w.workspaceId = workspaceId ∧ w.name = name

/-! ### Checks -/

def resolveAuth (auth : Option WebhookAuthDto) :
    Except ApiError (WebhookAuthType × Option String) :=
  match auth with
  | none => .ok (.none, none)
  | some auth =>
      match auth.type with
      | none => .ok (.none, none)
      | some "none" => .ok (.none, auth.token)
      | some "bearer" => .ok (.bearer, auth.token)
      | some "basic" => .ok (.basic, auth.token)
      | some "hmac" => .ok (.hmac, auth.token)
      | some _ =>
          .error (badRequest "INVALID_AUTH" "auth.type must be one of none, bearer, basic, hmac")

def dtoToTransform (transform : Option WebhookTransformDto) :
    Except ApiError (Option WebhookTransform) :=
  match transform with
  | none => .ok none
  | some dto =>
      match dto.type with
      | .passthrough => .ok (some .passthrough)
      | .twenty => .ok (some (.twenty (dto.dryRun = some true)))
      | .template =>
          if dto.template.getD "" = "" then
            .error (badRequest "INVALID_TRANSFORM"
              "transform.template is required when transform.type=template")
          else .ok (some (.template (dto.template.getD "")))

def dtoToRetry (retry : Option WebhookRetryConfig) : Except ApiError WebhookRetryConfig :=
  match retry with
  | none => .ok DEFAULT_RETRY_CONFIG
  | some retry =>
      if retry.maxAttempts < 1 ∨ 10 < retry.maxAttempts ∨ retry.backoffMs.length = 0 then
        .error (badRequest "INVALID_RETRY"
          "retry.max_attempts must be between 1 and 10 and backoff_ms must be a non-empty array.")
      else .ok retry

def duplicateName (name : String) : ApiError :=
  conflict "DUPLICATE_NAME" s!"A webhook named \"{name}\" already exists in this workspace."

def webhookNotFound (id : String) : ApiError :=
  notFound "WEBHOOK_NOT_FOUND" s!"Webhook {id} not found."

/-- The token encrypted, or nothing for an empty one. -/
def encryptToken (moment : Moment) (token : String) : String :=
  if token = "" then "" else moment.encryptSecret token

/-- `DUPLICATE_NAME` when the lookup found a webhook. -/
def assertNone (found : List (Webhook φ)) (name : String) : Except ApiError Unit :=
  if found.length > 0 then .error (duplicateName name) else .ok ()

/-- Another name than the webhook has is looked up among the others. -/
def assertRename (rows : List (Webhook φ)) (existing : Webhook φ) (dto : UpdateWebhookDto φ) :
    Except ApiError Unit :=
  match dto.name with
  | none => .ok ()
  | some name =>
      if name = existing.name then .ok ()
      else assertNone ((named rows dto.workspaceId name).filter fun w => w.id ≠ dto.id) name

def existingWebhook (rows : List (Webhook φ)) (workspaceId id : String) :
    Except ApiError (Webhook φ) :=
  match findById rows workspaceId id with
  | some existing => .ok existing
  | none => .error (webhookNotFound id)

/-- A field of the request when it is given, else what the webhook has. -/
def ifGiven {α β : Type} (field : Option α) (given : Except ApiError β) (old : β) :
    Except ApiError β :=
  if field.isSome then given else .ok old

/-! ### Handlers, up to their insert -/

def create (services : Services) (rows : List (Webhook φ)) (dto : CreateWebhookDto φ)
    (moment : Moment) : Except ApiError (Webhook φ) := do
  services.assertSafeUrl dto.url
  let compiled ← dtoToTransform dto.transform
  services.assertCompilable compiled
  assertNone (named rows dto.workspaceId dto.name) dto.name
  let auth ← resolveAuth dto.auth
  let transform ← dtoToTransform dto.transform
  let retryConfig ← dtoToRetry dto.retry
  return {
    id := moment.newId
    workspaceId := dto.workspaceId
    name := dto.name
    url := dto.url
    active := dto.active.getD true
    authType := auth.1
    authSecretEncrypted := encryptToken moment (auth.2.getD "")
    events := dto.events
    filters := dto.filters.getD []
    transform := transform
    retryConfig := retryConfig
    createdAt := moment.now
    updatedAt := moment.now
    deletedAt := none }

def update (services : Services) (rows : List (Webhook φ)) (dto : UpdateWebhookDto φ)
    (moment : Moment) : Except ApiError (Webhook φ) := do
  let existing ← existingWebhook rows dto.workspaceId dto.id
  dto.url.forM services.assertSafeUrl
  dto.transform.forM fun _ => dtoToTransform dto.transform >>= services.assertCompilable
  assertRename rows existing dto
  let authType ← ifGiven dto.auth ((resolveAuth dto.auth).map (·.1)) existing.authType
  let transform ← ifGiven dto.transform (dtoToTransform dto.transform) existing.transform
  let retryConfig ← ifGiven dto.retry (dtoToRetry dto.retry) existing.retryConfig
  return { existing with
    name := dto.name.getD existing.name
    url := dto.url.getD existing.url
    active := dto.active.getD existing.active
    authType := authType
    authSecretEncrypted :=
      match dto.auth.bind (·.token) with
      | some token => encryptToken moment token
      | none => existing.authSecretEncrypted
    events := dto.events.getD existing.events
    filters := dto.filters.getD existing.filters
    transform := transform
    retryConfig := retryConfig
    updatedAt := moment.now }

def softDelete (rows : List (Webhook φ)) (dto : DeleteWebhookDto) (moment : Moment) :
    Except ApiError (Webhook φ) := do
  let existing ← existingWebhook rows dto.workspaceId dto.id
  return { existing with
    active := false
    deletedAt := some moment.now
    updatedAt := moment.now }

/-! ### Runs -/

inductive Operation (φ : Type) where
  | create (dto : CreateWebhookDto φ)
  | update (dto : UpdateWebhookDto φ)
  | softDelete (dto : DeleteWebhookDto)

structure Request (φ : Type) where
  operation : Operation φ
  moment : Moment
  /-- The table takes the row. -/
  inserted : Bool

/-- The row a request is about to insert. -/
def handle (services : Services) (rows : List (Webhook φ)) (request : Request φ) :
    Except ApiError (Webhook φ) :=
  match request.operation with
  | .create dto => create services rows dto request.moment
  | .update dto => update services rows dto request.moment
  | .softDelete dto => softDelete rows dto request.moment

def serve (services : Services) (rows : List (Webhook φ)) (request : Request φ) :
    List (Webhook φ) :=
  match handle services rows request with
  | .ok row => if request.inserted = true then rows ++ [row] else rows
  | .error _ => rows

/-- The table after requests one after the other. -/
def serveAll (services : Services) (requests : List (Request φ)) : List (Webhook φ) :=
  requests.foldl (serve services) []

/-- Two live webhooks of a workspace with one name are one webhook. -/
def UniqueNames (rows : List (Webhook φ)) : Prop :=
  ∀ w ∈ live rows, ∀ w' ∈ live rows, w.workspaceId = w'.workspaceId → w.name = w'.name →
    w.id = w'.id

/-! ### What is in force after an insert -/

section

variable {rows : List (Webhook φ)} {x w : Webhook φ}

theorem mem_live_iff : w ∈ live rows ↔
    survivor Webhook.key Webhook.updatedAt w.key rows = some w ∧ w.deletedAt = none := by
  unfold live
  rw [List.mem_filter, mem_final_iff, decide_eq_true_iff]

/-- **An insert puts one row in force at most.** -/
theorem mem_live_append (h : w ∈ live (rows ++ [x])) : w = x ∨ w ∈ live rows := by
  obtain ⟨hw, hlive⟩ := mem_live_iff.mp h
  by_cases hkey : x.key = w.key
  · cases hold : survivor Webhook.key Webhook.updatedAt w.key rows with
    | none =>
        rw [survivor_append_of_none _ _ hold hkey] at hw
        exact Or.inl (Option.some.inj hw).symm
    | some m =>
        rw [survivor_append_of_some _ _ hold hkey] at hw
        split at hw
        · obtain rfl := Option.some.inj hw
          exact Or.inr (mem_live_iff.mpr ⟨hold, hlive⟩)
        · exact Or.inl (Option.some.inj hw).symm
  · rw [survivor_append_of_ne _ _ hkey] at hw
    exact Or.inr (mem_live_iff.mpr ⟨hw, hlive⟩)

/-- A row that is deleted, or whose name no other live webhook of the workspace has. -/
def NameFor (rows : List (Webhook φ)) (x : Webhook φ) : Prop :=
  x.deletedAt = none → ∀ w ∈ live rows, w.workspaceId = x.workspaceId → w.name = x.name →
    w.id = x.id

theorem UniqueNames.append (h : UniqueNames rows) (hx : NameFor rows x) :
    UniqueNames (rows ++ [x]) := by
  intro w hw w' hw' hws hname
  rcases mem_live_append hw with rfl | hold
  · rcases mem_live_append hw' with rfl | hold'
    · rfl
    · exact (hx (mem_live_iff.mp hw).2 w' hold' hws.symm hname.symm).symm
  · rcases mem_live_append hw' with rfl | hold'
    · exact hx (mem_live_iff.mp hw').2 w hold hws hname
    · exact h w hold w' hold' hws hname

end

/-! ### The handlers -/

section

variable {services : Services} {rows : List (Webhook φ)} {x : Webhook φ} {moment : Moment}

theorem assertNone_eq_ok {found : List (Webhook φ)} {name : String}
    (h : assertNone found name = .ok ()) : found = [] := by
  unfold assertNone at h
  split at h
  · exact nomatch h
  · rename_i hlength
    exact List.length_eq_zero_iff.mp (Nat.eq_zero_of_not_pos hlength)

theorem mem_named {workspaceId name : String} {w : Webhook φ} :
    w ∈ named rows workspaceId name ↔
      w ∈ live rows ∧ w.workspaceId = workspaceId ∧ w.name = name := by
  unfold named
  rw [List.mem_filter, decide_eq_true_iff]

theorem existingWebhook_eq_ok {workspaceId id : String} {w : Webhook φ}
    (h : existingWebhook rows workspaceId id = .ok w) :
    w ∈ live rows ∧ w.workspaceId = workspaceId ∧ w.id = id := by
  unfold existingWebhook at h
  split at h
  · rename_i existing hfound
    obtain rfl := Except.ok.inj h
    have hmatch := List.find?_some hfound
    rw [decide_eq_true_iff] at hmatch
    exact ⟨List.mem_of_find?_eq_some hfound, hmatch⟩
  · exact nomatch h

theorem create_spec {dto : CreateWebhookDto φ} (h : create services rows dto moment = .ok x) :
    named rows dto.workspaceId dto.name = [] ∧ x.workspaceId = dto.workspaceId ∧
      x.name = dto.name ∧ x.updatedAt = moment.now := by
  obtain ⟨⟨⟩, -, h⟩ := Checked.bind_eq_ok_iff.mp h
  obtain ⟨compiled, -, h⟩ := Checked.bind_eq_ok_iff.mp h
  obtain ⟨⟨⟩, -, h⟩ := Checked.bind_eq_ok_iff.mp h
  obtain ⟨⟨⟩, hnone, h⟩ := Checked.bind_eq_ok_iff.mp h
  obtain ⟨auth, -, h⟩ := Checked.bind_eq_ok_iff.mp h
  obtain ⟨transform, -, h⟩ := Checked.bind_eq_ok_iff.mp h
  obtain ⟨retryConfig, -, h⟩ := Checked.bind_eq_ok_iff.mp h
  obtain rfl := Except.ok.inj h
  exact ⟨assertNone_eq_ok hnone, rfl, rfl, rfl⟩

theorem update_spec {dto : UpdateWebhookDto φ} (h : update services rows dto moment = .ok x) :
    ∃ existing, existingWebhook rows dto.workspaceId dto.id = .ok existing ∧
      assertRename rows existing dto = .ok () ∧ x.key = existing.key ∧
        x.name = dto.name.getD existing.name ∧ x.updatedAt = moment.now := by
  obtain ⟨existing, hexisting, h⟩ := Checked.bind_eq_ok_iff.mp h
  obtain ⟨⟨⟩, -, h⟩ := Checked.bind_eq_ok_iff.mp h
  obtain ⟨⟨⟩, -, h⟩ := Checked.bind_eq_ok_iff.mp h
  obtain ⟨⟨⟩, hrename, h⟩ := Checked.bind_eq_ok_iff.mp h
  obtain ⟨authType, -, h⟩ := Checked.bind_eq_ok_iff.mp h
  obtain ⟨transform, -, h⟩ := Checked.bind_eq_ok_iff.mp h
  obtain ⟨retryConfig, -, h⟩ := Checked.bind_eq_ok_iff.mp h
  obtain rfl := Except.ok.inj h
  exact ⟨existing, hexisting, hrename, rfl, rfl, rfl⟩

theorem softDelete_spec {dto : DeleteWebhookDto} (h : softDelete rows dto moment = .ok x) :
    ∃ existing ∈ live rows, x.key = existing.key ∧ x.name = existing.name ∧
      x.deletedAt = some moment.now ∧ x.updatedAt = moment.now := by
  obtain ⟨existing, hexisting, h⟩ := Checked.bind_eq_ok_iff.mp h
  obtain rfl := Except.ok.inj h
  exact ⟨existing, (existingWebhook_eq_ok hexisting).1, rfl, rfl, rfl, rfl⟩

/-- The name a webhook is changed to is the one it has or one that no other has. -/
theorem rename_nameFor (hunique : UniqueNames rows) {dto : UpdateWebhookDto φ}
    {existing w : Webhook φ} (hexisting : existingWebhook rows dto.workspaceId dto.id = .ok existing)
    (hrename : assertRename rows existing dto = .ok ()) (hw : w ∈ live rows)
    (hws : w.workspaceId = existing.workspaceId) (hname : w.name = dto.name.getD existing.name) :
    w.id = existing.id := by
  obtain ⟨hmem, hws', hid⟩ := existingWebhook_eq_ok hexisting
  unfold assertRename at hrename
  cases hdto : dto.name with
  | none =>
      rw [hdto] at hname
      exact hunique w hw existing hmem hws hname
  | some name =>
      rw [hdto] at hname
      simp only [hdto] at hrename
      by_cases hsame : name = existing.name
      · exact hunique w hw existing hmem hws (hname.trans hsame)
      · rw [if_neg hsame] at hrename
        by_contra hne
        have hother : w.id ≠ dto.id := fun h => hne (h.trans hid.symm)
        have hfound := List.filter_eq_nil_iff.mp (assertNone_eq_ok hrename) w
          (mem_named.mpr ⟨hw, hws.trans hws', hname⟩)
        exact hfound (decide_eq_true hother)

/-- **What any request inserts** keeps names unique. -/
theorem handle_nameFor (hunique : UniqueNames rows) {request : Request φ}
    (h : handle services rows request = .ok x) : NameFor rows x := by
  unfold handle at h
  split at h
  · obtain ⟨hnone, hws, hname, -⟩ := create_spec h
    intro _ w hw hws' hname'
    have hmem := mem_named.mpr ⟨hw, hws'.trans hws, hname'.trans hname⟩
    rw [hnone] at hmem
    exact absurd hmem List.not_mem_nil
  · obtain ⟨existing, hexisting, hrename, hkey, hname, -⟩ := update_spec h
    obtain ⟨hws, hid⟩ := Prod.mk.inj hkey
    intro _ w hw hws' hname'
    rw [hid]
    exact rename_nameFor hunique hexisting hrename hw (hws'.trans hws) (hname'.trans hname)
  · obtain ⟨-, -, -, -, hdeleted, -⟩ := softDelete_spec h
    exact fun hlive => absurd (hdeleted.symm.trans hlive) (Option.some_ne_none _)

theorem handle_updatedAt {request : Request φ} (h : handle services rows request = .ok x) :
    x.updatedAt = request.moment.now := by
  unfold handle at h
  split at h
  · exact (create_spec h).2.2.2
  · obtain ⟨-, -, -, -, -, hnow⟩ := update_spec h
    exact hnow
  · obtain ⟨-, -, -, -, -, hnow⟩ := softDelete_spec h
    exact hnow

end

/-! ### Runs -/

/-- A request adds its row or nothing. -/
theorem serve_cases (services : Services) (rows : List (Webhook φ)) (request : Request φ) :
    serve services rows request = rows ∨
      ∃ x, handle services rows request = .ok x ∧ serve services rows request = rows ++ [x] := by
  unfold serve
  cases h : handle services rows request with
  | error e => exact Or.inl rfl
  | ok x =>
      by_cases hinserted : request.inserted = true
      · exact Or.inr ⟨x, rfl, if_pos hinserted⟩
      · exact Or.inl (if_neg hinserted)

/-- **Names are unique** after any requests, whatever their clocks and identifiers. -/
theorem uniqueNames_serveAll (services : Services) (requests : List (Request φ)) :
    UniqueNames (serveAll services requests) := by
  unfold serveAll
  refine List.foldlRecOn (motive := UniqueNames) requests (serve services)
    (fun w hw => absurd hw List.not_mem_nil) ?_
  intro rows hunique request _
  rcases serve_cases services rows request with hsame | ⟨x, hx, happend⟩
  · rw [hsame]
    exact hunique
  · rw [happend]
    exact hunique.append (handle_nameFor hunique hx)

/-- No row is newer than the requests. -/
theorem serveAll_updatedAt (services : Services) {requests : List (Request φ)} {now : Int}
    (hnow : ∀ request ∈ requests, request.moment.now ≤ now) :
    ∀ w ∈ serveAll services requests, w.updatedAt ≤ now := by
  unfold serveAll
  refine List.foldlRecOn (motive := fun rows => ∀ w ∈ rows, w.updatedAt ≤ now) requests
    (serve services) (fun w hw => absurd hw List.not_mem_nil) ?_
  intro rows hrows request hrequest
  rcases serve_cases services rows request with hsame | ⟨x, hx, happend⟩
  · rw [hsame]
    exact hrows
  · rw [happend]
    intro w hw
    rcases List.mem_append.mp hw with hw | hw
    · exact hrows w hw
    · rw [List.mem_singleton.mp hw, handle_updatedAt hx]
      exact hnow request hrequest

/-! ### A name that is free again -/

/-- The newest row of a deleted webhook leaves nothing in force under its key. -/
theorem not_mem_live_of_newest {rows : List (Webhook φ)} {x w : Webhook φ}
    (hnewest : ∀ r ∈ rows, r.updatedAt ≤ x.updatedAt) (hdeleted : x.deletedAt ≠ none)
    (hkey : x.key = w.key) : w ∉ live (rows ++ [x]) := by
  intro hw
  obtain ⟨hsurvivor, hlive⟩ := mem_live_iff.mp hw
  have hx : survivor Webhook.key Webhook.updatedAt w.key (rows ++ [x]) = some x := by
    cases hold : survivor Webhook.key Webhook.updatedAt w.key rows with
    | none => exact survivor_append_of_none _ _ hold hkey
    | some m =>
        rw [survivor_append_of_some _ _ hold hkey]
        exact congrArg some (if_neg (not_lt.mpr (hnewest m (survivor_key _ _ hold).1)))
  obtain rfl : x = w := Option.some.inj (hx.symm.trans hsurvivor)
  exact hdeleted hlive

theorem named_softDelete {rows : List (Webhook φ)} (hunique : UniqueNames rows)
    {dto : DeleteWebhookDto} {moment : Moment} {x : Webhook φ}
    (hclock : ∀ r ∈ rows, r.updatedAt ≤ moment.now) (h : softDelete rows dto moment = .ok x) :
    named (rows ++ [x]) x.workspaceId x.name = [] := by
  obtain ⟨existing, hexisting, hkey, hname, hdeleted, hnow⟩ := softDelete_spec h
  have hne : x.deletedAt ≠ none := by
    rw [hdeleted]
    exact Option.some_ne_none _
  refine List.eq_nil_iff_forall_not_mem.mpr fun w hw => ?_
  obtain ⟨hlive, hws, hname'⟩ := mem_named.mp hw
  rcases mem_live_append hlive with rfl | hold
  · exact hne (mem_live_iff.mp hlive).2
  · obtain ⟨hws', hid⟩ := Prod.mk.inj hkey
    have hsame := hunique w hold existing hexisting (hws.trans hws') (hname'.trans hname)
    have hkey' : x.key = w.key := Prod.ext hws.symm (hid.trans hsame.symm)
    exact not_mem_live_of_newest (fun r hr => hnow ▸ hclock r hr) hne hkey' hlive

/--
**Webhook names are unique, and a deletion frees its name.**

After any requests one after the other, in whichever workspaces, two live webhooks of a
workspace with one name are one webhook.  Where a deletion finds its webhook and the clock
has not gone back, no live webhook has the name behind it.
-/
theorem names_unique (services : Services) :
    (∀ requests : List (Request φ), UniqueNames (serveAll services requests)) ∧
    ∀ (requests : List (Request φ)) (dto : DeleteWebhookDto) (moment : Moment)
      (existing : Webhook φ), (∀ request ∈ requests, request.moment.now ≤ moment.now) →
        findById (serveAll services requests) dto.workspaceId dto.id = some existing →
          named (serveAll services (requests ++ [⟨.softDelete dto, moment, true⟩]))
            existing.workspaceId existing.name = [] := by
  refine ⟨uniqueNames_serveAll services, ?_⟩
  intro requests dto moment existing hclock hfound
  let x : Webhook φ :=
    { existing with
      active := false
      deletedAt := some moment.now
      updatedAt := moment.now }
  have hdelete : softDelete (serveAll services requests) dto moment = .ok x := by
    unfold softDelete existingWebhook
    rw [hfound]
    rfl
  have hserve : serveAll services (requests ++ [⟨.softDelete dto, moment, true⟩]) =
      serveAll services requests ++ [x] := by
    unfold serveAll
    rw [List.foldl_append]
    show serve services (serveAll services requests) _ = _
    unfold serve handle
    simp only [hdelete]
    rfl
  rw [hserve]
  exact named_softDelete (uniqueNames_serveAll services requests)
    (serveAll_updatedAt services hclock) hdelete

/-! ### A webhook that comes and goes -/

namespace RenameExample

/-- Every URL is safe and every template compiles. -/
def services : Services where
  assertSafeUrl := fun _ => .ok ()
  assertCompilable := fun _ => .ok ()

def moment (now : Int) (newId : String) : Moment where
  now := now
  newId := newId
  encryptSecret := id

def requests : List (Request Unit) :=
  [⟨.create
      { workspaceId := "w"
        name := "crm"
        url := "https://example.org/hook"
        events := ["goal"] }, moment 1 "a", true⟩,
    ⟨.update { workspaceId := "w", id := "a", name := some "sales" }, moment 2 "", true⟩]

end RenameExample

open RenameExample in
/-- A renamed webhook frees its new name when it is deleted. -/
theorem deleted_name_is_free :
    ∃ existing, findById (serveAll services requests) "w" "a" = some existing ∧
      existing.name = "sales" ∧
        named (serveAll services (requests ++
          [⟨.softDelete ⟨"w", "a"⟩, moment 3 "", true⟩])) existing.workspaceId existing.name = [] :=
  ⟨_, rfl, rfl, (names_unique services).2 requests ⟨"w", "a"⟩ (moment 3 "") _ (by decide) rfl⟩

end Veridian.WebhookDefinitions
