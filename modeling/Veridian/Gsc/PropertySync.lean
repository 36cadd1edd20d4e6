/-
The rows of a Search Console property while it is synced.

A sync holds the row it was started with across many requests and inserts copies of it:
`updateTokens` with new tokens when the access token has run out, `markSynced` at the end
with the tokens of the start.  The table keeps the newest row, so `markSynced` puts the
old tokens back in force after a refresh, and takes back a deletion that came in between.

The store keeps beside the table which properties `softDelete` has returned for and which
tokens a refresh or a connection has stored.  A sync, a connection and a deletion are
processes with one step for each request; what a sync takes from the search API and writes
to `gsc_daily` is counted only as far as it decides the next request.
-/
import Mathlib.Data.List.Sort
import Veridian.Lib.Interleave
import Veridian.Lib.Replacing

namespace Veridian.Gsc

open Replacing

/-! ### Properties -/

inductive GscOwnershipState where
  | pending | verified
  deriving DecidableEq

inductive GscSearchType where
  | web | image | video | news | discover | googleNews
  deriving DecidableEq

structure GscOauthTokens where
  accessToken : String
  refreshToken : String
  expiresAt : Int
  scope : String
  deriving DecidableEq

structure GscProperty where
  id : String
  workspaceId : String
  siteUrl : String
  ownershipState : GscOwnershipState
  oauthTokensEncrypted : String
  lastSyncAt : Option Int
  createdAt : Int
  updatedAt : Int
  deletedAt : Option Int
  deriving DecidableEq

/-- `ORDER BY (workspace_id, id)`. -/
def GscProperty.key (p : GscProperty) : String × String := (p.workspaceId, p.id)

/-- The row of a property that a read with `FINAL` finds. -/
def inForce (key : String × String) (properties : List GscProperty) : Option GscProperty :=
  survivor GscProperty.key GscProperty.updatedAt key properties

def findPropertyByWorkspace (properties : List GscProperty) (workspaceId : String) :
    Option GscProperty :=
  (((final GscProperty.key GscProperty.updatedAt properties).filter fun p =>
    p.workspaceId = workspaceId ∧ p.deletedAt = none).insertionSort
      fun a b => b.updatedAt ≤ a.updatedAt).head?

def findVerifiedProperties (properties : List GscProperty) : List GscProperty :=
  (final GscProperty.key GscProperty.updatedAt properties).filter fun p =>
    p.ownershipState = .verified ∧ p.deletedAt = none

structure UpsertInput where
  workspaceId : String
  siteUrl : String
  ownershipState : GscOwnershipState
  oauthTokensEncrypted : String
  /-- `undefined`, `null` or a time. -/
  lastSyncAt : Option (Option Int) := none

def upsertProperty (input : UpsertInput) (existing : Option GscProperty) (now : Int)
    (newId : String) : GscProperty where
  id := (existing.map (·.id)).getD newId
  workspaceId := input.workspaceId
  siteUrl := input.siteUrl
  ownershipState := input.ownershipState
  oauthTokensEncrypted := input.oauthTokensEncrypted
  lastSyncAt := input.lastSyncAt.getD (existing.bind (·.lastSyncAt))
  createdAt := (existing.map (·.createdAt)).getD now
  updatedAt := now
  deletedAt := none

def updateTokens (prop : GscProperty) (oauthTokensEncrypted : String) (now : Int) : GscProperty :=
  { prop with oauthTokensEncrypted, updatedAt := now }

def markSynced (prop : GscProperty) (now : Int) : GscProperty :=
  { prop with lastSyncAt := some now, updatedAt := now }

def softDelete (prop : GscProperty) (now : Int) : GscProperty :=
  { prop with
    ownershipState := .pending, oauthTokensEncrypted := "", deletedAt := some now,
    updatedAt := now }

/-! ### The calls -/

/-- Encryption under the key of a workspace, with the IV that was drawn for it. -/
structure GscTokenCrypto where
  encryptTokens : GscOauthTokens → String → String → String
  decryptTokens : String → String → Option GscOauthTokens

/-- A row of the search API, by its dimensions. -/
structure GscRawRow where
  keys : List String

/-- `parseRow` keeps a row that has a date, a query and a page. -/
def isParsed (raw : GscRawRow) : Bool :=
  raw.keys.getD 0 "" ≠ "" ∧ raw.keys.getD 1 "" ≠ "" ∧ raw.keys.getD 2 "" ≠ ""

/-- How far the sync of one property has come. -/
inductive SyncPhase where
  | getAccessToken
  | refreshAccessToken (tokens : GscOauthTokens)
  | updateTokens (oauthTokensEncrypted : String)
  /-- A page of the first of the search types that are left, and the rows so far. -/
  | query (searchTypes : List GscSearchType) (page attempt : Nat) (out : List GscRawRow)
  | deleteWindow (searchTypes : List GscSearchType) (rows : Nat)
  | insertRows (searchTypes : List GscSearchType) (rows : Nat)
  | markSynced

inductive GscOp where
  | resync (workspaceId : String) (searchTypes : List GscSearchType)
  | syncAllVerified (searchTypes : List GscSearchType)
  | disconnect (workspaceId : String)
  | upsertProperty (input : UpsertInput)

/-- How far a call has come. -/
inductive GscCall where
  | read (op : GscOp)
  /-- `syncProperty` of `prop`, with the properties to sync after it. -/
  | syncProperty (prop : GscProperty) (rest : List GscProperty)
      (searchTypes : List GscSearchType) (phase : SyncPhase)
  | softDelete (prop : GscProperty)
  | upsertProperty (input : UpsertInput) (existing : Option GscProperty)
  | returned

/-- What a step takes from outside. -/
inductive Answer where
  /-- The request is carried out; `now` is what the clock says. -/
  | done (now : Int) (newId : String := "")
  | refreshed (accessToken : String) (expiresAt : Int) (iv : String)
  | response (status : Nat) (rows : List GscRawRow)
  | failed

structure GscStore where
  properties : List GscProperty
  /-- The properties that `softDelete` has returned for. -/
  disconnected : List (String × String)
  /-- The tokens that a refresh or a connection has stored, with their property. -/
  granted : List ((String × String) × String)
  deriving DecidableEq

/-- The next property, past those that `syncProperty` returns for at once. -/
def syncNext (searchTypes : List GscSearchType) : List GscProperty → GscCall
  | [] => .returned
  | prop :: rest =>
      if prop.siteUrl = "" ∨ prop.ownershipState ≠ .verified then syncNext searchTypes rest
      else .syncProperty prop rest searchTypes .getAccessToken

def GscOp.read (op : GscOp) (properties : List GscProperty) : GscCall :=
  match op with
  | .resync workspaceId searchTypes =>
      match findPropertyByWorkspace properties workspaceId with
      | none => .returned
      | some prop =>
          if prop.ownershipState ≠ .verified then .returned else syncNext searchTypes [prop]
  | .syncAllVerified searchTypes => syncNext searchTypes (findVerifiedProperties properties)
  | .disconnect workspaceId =>
      match findPropertyByWorkspace properties workspaceId with
      | none => .returned
      | some prop => .softDelete prop
  | .upsertProperty input =>
      .upsertProperty input (findPropertyByWorkspace properties input.workspaceId)

/-- The pull of the search types that are left. -/
def pull : List GscSearchType → SyncPhase
  | [] => .markSynced
  | searchTypes => .query searchTypes 0 0 []

def pageSize : Nat := 5000

def maxPages : Nat := 10

/-- What follows the answer of the search API; an error ends the search type. -/
def afterResponse (searchTypes : List GscSearchType) (page attempt : Nat) (out : List GscRawRow)
    (status : Nat) (rows : List GscRawRow) : SyncPhase :=
  if 200 ≤ status ∧ status < 300 then
    let out := out ++ rows
    if rows.length < pageSize ∨ page + 1 = maxPages then
      .deleteWindow searchTypes (out.filter isParsed).length
    else .query searchTypes (page + 1) 0 out
  else if status = 429 ∨ status ≥ 500 then
    if attempt + 1 < 3 then .query searchTypes page (attempt + 1) out else pull searchTypes.tail
  else pull searchTypes.tail

def batchSize : Nat := 1000

section Steps

variable (crypto : GscTokenCrypto)

/-- What `getAccessToken` does before its first request; `none` when it throws. -/
def afterDecrypt (prop : GscProperty) (searchTypes : List GscSearchType) (now : Int) :
    Option SyncPhase :=
  if prop.oauthTokensEncrypted = "" then none
  else
    (crypto.decryptTokens prop.oauthTokensEncrypted prop.workspaceId).map fun tokens =>
      if tokens.expiresAt > now + 30000 then pull searchTypes else .refreshAccessToken tokens

/-- The next phase of a sync, with the row it inserts; no phase when `syncProperty` ends. -/
def syncStep (prop : GscProperty) (searchTypes : List GscSearchType) :
    SyncPhase → Answer → Option (Option GscProperty × Option SyncPhase)
  | .getAccessToken, .done now _ => some (none, afterDecrypt crypto prop searchTypes now)
  | .refreshAccessToken tokens, .refreshed accessToken expiresAt iv =>
      some (none, some (.updateTokens
        (crypto.encryptTokens { tokens with accessToken, expiresAt } prop.workspaceId iv)))
  | .refreshAccessToken _, .failed => some (none, none)
  | .updateTokens encrypted, .done now _ =>
      some (some (updateTokens prop encrypted now), some (pull searchTypes))
  | .updateTokens _, .failed => some (none, none)
  | .query types page attempt out, .response status rows =>
      some (none, some (afterResponse types page attempt out status rows))
  | .query types _ _ _, .failed => some (none, some (pull types.tail))
  | .deleteWindow types rows, .done _ _ =>
      some (none, some (if rows = 0 then pull types.tail else .insertRows types rows))
  | .deleteWindow types _, .failed => some (none, some (pull types.tail))
  | .insertRows types rows, .done _ _ =>
      some (none, some (if rows ≤ batchSize then pull types.tail
        else .insertRows types (rows - batchSize)))
  | .insertRows types _, .failed => some (none, some (pull types.tail))
  | .markSynced, .done now _ => some (some (markSynced prop now), none)
  | .markSynced, .failed => some (none, none)
  | _, _ => none

/-- The store after a sync has inserted `row`; a refresh has then stored its tokens. -/
def GscStore.synced (s : GscStore) (phase : SyncPhase) (row : GscProperty) : GscStore :=
  { s with
    properties := s.properties ++ [row]
    granted := match phase with
      | .updateTokens encrypted => s.granted ++ [(row.key, encrypted)]
      | _ => s.granted }

def gscStep (s : GscStore) : GscCall → Answer → Option (GscStore × GscCall)
  | .read op, .done _ _ => some (s, op.read s.properties)
  | .read _, .failed => some (s, .returned)
  | .syncProperty prop rest searchTypes phase, answer =>
      (syncStep crypto prop searchTypes phase answer).map fun (row, next) =>
        ((row.map (s.synced phase)).getD s,
          (next.map (GscCall.syncProperty prop rest searchTypes)).getD
            (syncNext searchTypes rest))
  | .softDelete prop, .done now _ =>
      some ({ s with
        properties := s.properties ++ [softDelete prop now]
        disconnected := s.disconnected ++ [prop.key] }, .returned)
  | .softDelete _, .failed => some (s, .returned)
  | .upsertProperty input existing, .done now newId =>
      let row := upsertProperty input existing now newId
      some ({ s with
        properties := s.properties ++ [row]
        granted := s.granted ++ [(row.key, row.oauthTokensEncrypted)] }, .returned)
  | .upsertProperty _ _, .failed => some (s, .returned)
  | _, _ => none

abbrev GscAction := Interleave.Action GscOp Answer

def gscRunStep : Interleave.State GscStore GscCall → GscAction →
    Option (Interleave.State GscStore GscCall) :=
  Interleave.step GscCall.read (gscStep crypto)

/-- The row a step of a sync inserts, with the row the sync was started with. -/
def GscCall.inserts : GscCall → Answer → Option (GscProperty × GscProperty)
  | .syncProperty prop _ searchTypes phase, answer =>
      (syncStep crypto prop searchTypes phase answer).bind fun (row, _) => row.map (Prod.mk prop)
  | _, _ => none

end Steps

/-- Any table, and no call yet. -/
def GscStore.init (properties : List GscProperty) : Interleave.State GscStore GscCall :=
  ⟨⟨properties, [], []⟩, []⟩

/-! ### The claim and its condition -/

/-- A sync that was started with `prop` may insert `row`: of a property that is disconnected
it inserts a deleted row without tokens only, and what a refresh or a connection has stored
does not give way to the tokens of the start. -/
structure Respects (s : GscStore) (prop row : GscProperty) : Prop where
  disconnected : row.key ∈ s.disconnected → row.deletedAt ≠ none ∧ row.oauthTokensEncrypted = ""
  tokens : ∀ old ∈ inForce row.key s.properties,
    (old.key, old.oauthTokensEncrypted) ∈ s.granted →
    old.oauthTokensEncrypted ≠ prop.oauthTokensEncrypted →
    ∀ new ∈ inForce row.key (s.properties ++ [row]),
      new.oauthTokensEncrypted ≠ prop.oauthTokensEncrypted

/-- The property is not disconnected, and when the row has the tokens of the start, no others
have been stored since, or under a later time. -/
def UpToDate (s : GscStore) (prop row : GscProperty) : Prop :=
  row.key ∉ s.disconnected ∧
    (row.oauthTokensEncrypted = prop.oauthTokensEncrypted →
      ∀ old ∈ inForce row.key s.properties, (old.key, old.oauthTokensEncrypted) ∈ s.granted →
        old.oauthTokensEncrypted = prop.oauthTokensEncrypted ∨ row.updatedAt < old.updatedAt)

local instance lawfulBEqPair : LawfulBEq (String × String) := inferInstance

instance (s : GscStore) (prop row : GscProperty) : Decidable (Respects s prop row) :=
  decidable_of_iff
    ((row.key ∈ s.disconnected → row.deletedAt ≠ none ∧ row.oauthTokensEncrypted = "") ∧
      ∀ old ∈ inForce row.key s.properties,
        (old.key, old.oauthTokensEncrypted) ∈ s.granted →
        old.oauthTokensEncrypted ≠ prop.oauthTokensEncrypted →
        ∀ new ∈ inForce row.key (s.properties ++ [row]),
          new.oauthTokensEncrypted ≠ prop.oauthTokensEncrypted)
    ⟨fun h => ⟨h.1, h.2⟩, fun h => ⟨h.disconnected, h.tokens⟩⟩

/-! ### One insert -/

theorem inForce_append {properties : List GscProperty} {old row : GscProperty}
    (h : old ∈ inForce row.key properties) : inForce row.key (properties ++ [row]) =
      some (if row.updatedAt < old.updatedAt then old else row) :=
  survivor_append_of_some _ _ h rfl

theorem respects_iff_upToDate {s : GscStore} {prop row : GscProperty} (hlive : row.deletedAt = none) :
    Respects s prop row ↔ UpToDate s prop row := by
  constructor
  · intro h
    refine ⟨fun hgone => (h.disconnected hgone).1 hlive, fun hstart old hold hgranted => ?_⟩
    by_cases hsame : old.oauthTokensEncrypted = prop.oauthTokensEncrypted
    · exact Or.inl hsame
    refine Or.inr ?_
    by_contra hlate
    refine h.tokens old hold hgranted hsame row ?_ hstart
    rw [inForce_append hold, if_neg hlate]
    rfl
  · rintro ⟨hthere, hstart⟩
    refine ⟨fun hgone => absurd hgone hthere, fun old hold hgranted hother new hnew => ?_⟩
    rw [inForce_append hold] at hnew
    obtain rfl := Option.some.inj hnew
    split
    · exact hother
    · rename_i hlate
      intro hrow
      exact (hstart hrow old hold hgranted).elim hother hlate

/-! ### What a sync holds -/

/-- The properties that a sync still works on were not deleted when it read them. -/
def Live : GscCall → Prop
  | .syncProperty prop rest _ _ => prop.deletedAt = none ∧ ∀ p ∈ rest, p.deletedAt = none
  | _ => True

theorem live_syncNext {searchTypes : List GscSearchType} :
    ∀ {properties : List GscProperty}, (∀ p ∈ properties, p.deletedAt = none) →
      Live (syncNext searchTypes properties) := by
  intro properties
  induction properties with
  | nil => intro _; exact trivial
  | cons prop rest ih =>
      intro h
      have hrest : ∀ p ∈ rest, p.deletedAt = none := fun p hp => h p (List.mem_cons_of_mem _ hp)
      unfold syncNext
      split
      · exact ih hrest
      · exact ⟨h prop List.mem_cons_self, hrest⟩

theorem findPropertyByWorkspace_live {properties : List GscProperty} {workspaceId : String}
    {prop : GscProperty} (h : findPropertyByWorkspace properties workspaceId = some prop) :
    prop.deletedAt = none := by
  have hmem := List.mem_of_mem_head? h
  rw [List.mem_insertionSort, List.mem_filter] at hmem
  exact (of_decide_eq_true hmem.2).2

theorem live_read (op : GscOp) (properties : List GscProperty) : Live (op.read properties) := by
  cases op with
  | resync workspaceId searchTypes =>
      unfold GscOp.read
      dsimp only
      split
      · exact trivial
      · rename_i prop hprop
        split
        · exact trivial
        · refine live_syncNext fun p hp => ?_
          rw [List.mem_singleton.mp hp]
          exact findPropertyByWorkspace_live hprop
  | syncAllVerified searchTypes =>
      refine live_syncNext fun p hp => ?_
      exact (of_decide_eq_true (List.mem_filter.mp hp).2).2
  | disconnect workspaceId =>
      unfold GscOp.read
      dsimp only
      split <;> exact trivial
  | upsertProperty input => exact trivial

section Runs

variable {crypto : GscTokenCrypto}

/-- A row that a sync inserts is a copy of the one it holds, or of it with other tokens. -/
theorem syncStep_deletedAt {prop row : GscProperty} {searchTypes : List GscSearchType}
    {phase : SyncPhase} {answer : Answer} {next : Option SyncPhase}
    (h : syncStep crypto prop searchTypes phase answer = some (some row, next)) :
    row.deletedAt = prop.deletedAt := by
  unfold syncStep at h
  split at h <;> cases h <;> rfl

theorem gscStep_live {s s' : GscStore} {p p' : GscCall} {answer : Answer} (hp : Live p)
    (h : gscStep crypto s p answer = some (s', p')) : Live p' := by
  unfold gscStep at h
  split at h
  · rename_i op now newId
    obtain ⟨-, rfl⟩ := Prod.mk.inj (Option.some.inj h)
    exact live_read op s.properties
  · obtain ⟨-, rfl⟩ := Prod.mk.inj (Option.some.inj h)
    exact trivial
  · rename_i prop rest searchTypes phase answer
    obtain ⟨⟨row, next⟩, -, hnext⟩ := Option.map_eq_some_iff.mp h
    obtain ⟨-, rfl⟩ := Prod.mk.inj hnext
    cases next with
    | none => exact live_syncNext hp.2
    | some phase' => exact hp
  all_goals cases h <;> exact trivial

theorem inserts_live {p : GscCall} {answer : Answer} {prop row : GscProperty} (hp : Live p)
    (h : (prop, row) ∈ p.inserts crypto answer) : row.deletedAt = none := by
  cases p with
  | syncProperty held rest searchTypes phase =>
      obtain ⟨⟨row?, next⟩, hstep, hrow⟩ := Option.bind_eq_some_iff.mp h
      obtain ⟨row', rfl, hpair⟩ := Option.map_eq_some_iff.mp hrow
      obtain ⟨rfl, rfl⟩ := Prod.mk.inj hpair
      exact (syncStep_deletedAt hstep).trans hp.1
  | read op => exact nomatch h
  | softDelete prop => exact nomatch h
  | upsertProperty input existing => exact nomatch h
  | returned => exact nomatch h

variable (crypto)

/-- What the claim asks of the steps of a run. -/
abbrev SyncsRespect : Interleave.State GscStore GscCall → GscAction → Prop :=
  Interleave.Guarded fun s call answer =>
    ∀ insert ∈ GscCall.inserts crypto call answer, Respects s insert.1 insert.2

/-- Every row a sync inserts is up to date. -/
abbrev SyncsUpToDate : Interleave.State GscStore GscCall → GscAction → Prop :=
  Interleave.Guarded fun s call answer =>
    ∀ insert ∈ GscCall.inserts crypto call answer, UpToDate s insert.1 insert.2

end Runs

/-- No other call is needed: a sync that has refreshed its own tokens marks the property with
the old ones. -/
theorem not_upToDate_of_refreshed {s : GscStore} {prop : GscProperty} {encrypted : String}
    {earlier now : Int} (hnew : encrypted ≠ prop.oauthTokensEncrypted)
    (hforce : inForce prop.key s.properties = some (updateTokens prop encrypted earlier))
    (hgranted : (prop.key, encrypted) ∈ s.granted) (hle : earlier ≤ now) :
    ¬UpToDate s prop (markSynced prop now) := by
  rintro ⟨-, htokens⟩
  rcases htokens rfl _ hforce hgranted with hsame | hlate
  · exact hnew hsame
  · exact absurd hle (not_le.mpr hlate)

namespace SearchConsoleExample

def granted : GscOauthTokens := ⟨"ya29.a", "1//r", 3600000, "webmasters.readonly"⟩

def crypto : GscTokenCrypto where
  encryptTokens tokens _ iv := iv ++ ":" ++ tokens.accessToken
  decryptTokens blob _ := if blob = "iv0:ya29.a" then some granted else none

def property : GscProperty where
  id := "gsc_1"
  workspaceId := "acme"
  siteUrl := "sc-domain:acme.io"
  ownershipState := .verified
  oauthTokensEncrypted := crypto.encryptTokens granted "acme" "iv0"
  lastSyncAt := none
  createdAt := 0
  updatedAt := 0
  deletedAt := none

/-- The workspace disconnects while its sync waits for the search API. -/
def disconnected : List GscAction :=
  [.start (.resync "acme" [.web]), .step 0 (.done 1000), .step 0 (.done 1000),
    .start (.disconnect "acme"), .step 1 (.done 1100), .step 1 (.done 1200),
    .step 0 (.response 200 []), .step 0 (.done 1300), .step 0 (.done 1400)]

/-- A sync by itself, an hour later: the access token has run out. -/
def refreshed : List GscAction :=
  [.start (.resync "acme" [.web]), .step 0 (.done 3600000), .step 0 (.done 3600000),
    .step 0 (.refreshed "ya29.b" 7200000 "iv1"), .step 0 (.done 3600100),
    .step 0 (.response 200 []), .step 0 (.done 3600200), .step 0 (.done 3600300)]

end SearchConsoleExample

end Veridian.Gsc
