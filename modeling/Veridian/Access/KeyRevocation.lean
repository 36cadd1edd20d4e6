/-
API keys, revoked while they are used.

Every writer of `api_keys` reads the row of a key, changes a field or two and inserts the
whole of it again, `updated_at` included.  Between the two another writer can have revoked
the key, and the row that is inserted then says what the key was before that.

A `DELETE` takes its effect later and row by row, as the merges of the table do: both are
the background here.  The store keeps two things that the service does not: the keys for
which a revocation has returned, and those among them for which an active row was stored
all the same.
-/
import Veridian.Access.Resources
import Veridian.Lib.Interleave
import Veridian.Lib.Replacing

namespace Veridian.KeyRevocation

open Machine Replacing

/-! ### The table -/

abbrev StoredKey := Stored ApiKey

/-- The newest of the rows that are selected; of several `LIMIT 1` may return any. -/
def newestOf (selects : ApiKey → Bool) (keys : List StoredKey) : List ApiKey :=
  let rows := (keys.map Stored.row).filter selects
  rows.filter fun k => rows.all fun q => decide (q.updatedAt ≤ k.updatedAt)

/-- `ORDER BY updated_at DESC LIMIT 1` -/
def limitOne (selects : ApiKey → Bool) (keys : List StoredKey) (pick : Nat) :
    Option (Option ApiKey) :=
  match newestOf selects keys with
  | [] => some none
  | rows => (rows[pick]?).map some

/-- `ALTER TABLE api_keys DELETE WHERE id = '${id}'` -/
def deleteKey (id : String) (keys : List StoredKey) : List StoredKey :=
  deleteWhere (fun k => k.id = id) keys

def keyMayVanish (keys : List StoredKey) (i : Nat) : Bool :=
  mayVanish ApiKey.id ApiKey.updatedAt keys i

/-- `isoToClickHouseDateTime` takes the last digit off a time that has no `Z`, as those of
stored rows are. -/
def serializeApiKey (k : ApiKey) : ApiKey :=
  { k with expiresAt := k.expiresAt.map fun expiresAt => expiresAt - expiresAt % 10 }

def isExpired (now : Int) (k : ApiKey) : Bool :=
  match k.expiresAt with
  | none => false
  | some expiresAt => decide (expiresAt < now)

def findByToken (keys : List StoredKey) (keyHash : String) (pick : Nat) : Option (Option ApiKey) :=
  limitOne (fun k => k.keyHash = keyHash) keys pick

/-- The rows `resolveWorkspaceKey` finds; an empty id or prefix counts as none. -/
def resolveWorkspaceKey (workspaceId : String) (keyId keyPrefix : Option String)
    (keys : List StoredKey) : List ApiKey :=
  (keys.map Stored.row).filter fun k =>
    decide (k.workspaceId = some workspaceId) &&
      ((keyId.filter (· ≠ "")).all fun id => k.id = id) &&
      ((keyPrefix.filter (· ≠ "")).all fun keyPrefix => k.keyPrefix = keyPrefix) &&
      isLatest (keys.map Stored.row) k

/-! ### The writers -/

inductive KeyOp where
  | updateLastUsed (id : String)
  | updateExpiredStatus (id : String)
  | revoke (id revokedBy : String)
  | revokeForPlatform (workspaceId : String) (keyId keyPrefix : Option String)
  /-- The mutations and merges of the database. -/
  | background

/-- How far a writer has come. -/
inductive KeyCall where
  | read (op : KeyOp)
  /-- `revoke` has seen that the key exists. -/
  | readAgain (id revokedBy : String)
  | deleteExpired (id : String) (k : ApiKey)
  | deleteRevoked (id : String) (k : ApiKey) (revokedBy : String)
  | insertUsed (k : ApiKey) (now : Int)
  | insertExpired (k : ApiKey) (now : Int)
  | insertRevoked (k : ApiKey) (revokedBy : String) (now : Int)
  | revokeReturns (id : String)
  | background
  | returned
  /-- The call threw. -/
  | ended

def KeyCall.start : KeyOp → KeyCall
  | .background => .background
  | op => .read op

/-- What a step takes from outside: the clock, and which row the database picks. -/
structure KeyInput where
  now : Int
  pick : Nat := 0

structure KeyStore where
  keys : List StoredKey
  /-- The keys for which a revocation has returned. -/
  revokedIds : List String
  /-- Those of them for which an active row was stored after that. -/
  late : List String

def KeyStore.insert (s : KeyStore) (k : ApiKey) : KeyStore :=
  { s with
    keys := s.keys ++ [⟨serializeApiKey k, false⟩]
    late := if k.status = .active ∧ k.id ∈ s.revokedIds then k.id :: s.late else s.late }

def used (now : Int) (k : ApiKey) : ApiKey := { k with lastUsedAt := some now, updatedAt := now }

def expired (now : Int) (k : ApiKey) : ApiKey := { k with status := .expired, updatedAt := now }

def keyStep (s : KeyStore) : KeyCall → KeyInput → Option (KeyStore × KeyCall)
  | .read (.updateLastUsed id), input =>
      (limitOne (fun k => k.id = id) s.keys input.pick).map fun
        | none => (s, .returned)
        | some k => (s, .insertUsed k input.now)
  | .read (.updateExpiredStatus id), input =>
      (limitOne (fun k => k.id = id) s.keys input.pick).map fun
        | none => (s, .returned)
        | some k =>
            if k.status = .active ∧ isExpired input.now k then (s, .deleteExpired id k)
            else (s, .returned)
  | .read (.revoke id revokedBy), input =>
      (limitOne (fun k => k.id = id) s.keys input.pick).map fun
        | none => (s, .ended)
        | some _ => (s, .readAgain id revokedBy)
  | .read (.revokeForPlatform workspaceId keyId keyPrefix), _ =>
      if (keyId.filter (· ≠ "")).isNone && (keyPrefix.filter (· ≠ "")).isNone then some (s, .ended)
      else
        match resolveWorkspaceKey workspaceId keyId keyPrefix s.keys with
        | [k] =>
            if k.status = .revoked then some (s, .revokeReturns k.id)
            else some (s, .deleteRevoked k.id k "platform-admin")
        | _ => some (s, .ended)
  | .read .background, _ => none
  | .readAgain id revokedBy, input =>
      (limitOne (fun k => k.id = id) s.keys input.pick).map fun
        | none => (s, .ended)
        | some k => (s, .deleteRevoked id k revokedBy)
  | .deleteExpired id k, input =>
      some ({ s with keys := deleteKey id s.keys }, .insertExpired k input.now)
  | .deleteRevoked id k revokedBy, input =>
      some ({ s with keys := deleteKey id s.keys }, .insertRevoked k revokedBy input.now)
  | .insertUsed k now, _ => some (s.insert (used now k), .returned)
  | .insertExpired k now, _ => some (s.insert (expired now k), .returned)
  | .insertRevoked k revokedBy now, _ =>
      some (s.insert (revokedKey now revokedBy k), .revokeReturns k.id)
  | .revokeReturns id, _ => some ({ s with revokedIds := id :: s.revokedIds }, .returned)
  | .background, input =>
      if keyMayVanish s.keys input.pick then
        some ({ s with keys := s.keys.eraseIdx input.pick }, .background)
      else none
  | .returned, _ => none
  | .ended, _ => none

abbrev KeyAction := Interleave.Action KeyOp KeyInput

def keysStep : Interleave.State KeyStore KeyCall → KeyAction →
    Option (Interleave.State KeyStore KeyCall) :=
  Interleave.step KeyCall.start keyStep

/-- Any rows, no writer under way, and nothing revoked yet. -/
def KeyStore.init (keys : List StoredKey) : Interleave.State KeyStore KeyCall :=
  ⟨⟨keys, [], []⟩, []⟩

/-! ### The claim and its condition -/

/-- `findByToken` may answer with an active row of the key. -/
def Accepts (keys : List StoredKey) (id : String) : Prop :=
  ∃ k ∈ keys.map Stored.row, k.id = id ∧ k.status = .active ∧
    k ∈ newestOf (fun q => q.keyHash = k.keyHash) keys

instance (keys : List StoredKey) (id : String) : Decidable (Accepts keys id) :=
  inferInstanceAs (Decidable (∃ k ∈ keys.map Stored.row, _))

/-- No active row was stored after a revocation had returned, and none is found. -/
structure RevocationFinal (s : KeyStore) : Prop where
  stored : s.late = []
  refused : ∀ id ∈ s.revokedIds, ¬ Accepts s.keys id

/-- `updateLastUsed` inserts no active row of a revoked key, a revocation returns when no
active row of its key can be found any more, and no row goes whose going lets one be
found. -/
def KeepsRevoked (s : KeyStore) : KeyCall → KeyInput → Prop
  | .insertUsed k _, _ => k.status = .active → k.id ∉ s.revokedIds
  | .revokeReturns id, _ => ¬ Accepts s.keys id
  | .background, input => keyMayVanish s.keys input.pick = true →
      ∀ id ∈ s.revokedIds, ¬ Accepts (s.keys.eraseIdx input.pick) id
  | _, _ => True

/-! ### What is found -/

theorem mem_newestOf {selects : ApiKey → Bool} {keys : List StoredKey} {k : ApiKey} :
    k ∈ newestOf selects keys ↔ k ∈ keys.map Stored.row ∧ selects k = true ∧
      ∀ q ∈ keys.map Stored.row, selects q = true → q.updatedAt ≤ k.updatedAt := by
  unfold newestOf
  simp only [List.mem_filter, List.all_eq_true, decide_eq_true_eq, and_assoc]
  refine and_congr_right fun _ => and_congr_right fun _ => ?_
  exact ⟨fun h q hq hsel => h q ⟨hq, hsel⟩, fun h q hq => h q hq.1 hq.2⟩

theorem limitOne_eq_some_iff {selects : ApiKey → Bool} {keys : List StoredKey} {k : ApiKey} :
    (∃ pick, limitOne selects keys pick = some (some k)) ↔ k ∈ newestOf selects keys := by
  unfold limitOne
  cases hrows : newestOf selects keys with
  | nil => simp
  | cons r rest =>
      rw [List.mem_iff_getElem?]
      refine exists_congr fun pick => ?_
      simp

/-- **A key is accepted when `findByToken` may answer with an active row of it.** -/
theorem accepts_iff {keys : List StoredKey} {id : String} :
    Accepts keys id ↔ ∃ keyHash pick k, findByToken keys keyHash pick = some (some k) ∧
      k.id = id ∧ k.status = .active := by
  constructor
  · rintro ⟨k, -, hid, hactive, hnewest⟩
    obtain ⟨pick, hpick⟩ := limitOne_eq_some_iff.mpr hnewest
    exact ⟨k.keyHash, pick, k, hpick, hid, hactive⟩
  · rintro ⟨keyHash, pick, k, hfound, hid, hactive⟩
    have hnewest := limitOne_eq_some_iff.mp ⟨pick, hfound⟩
    obtain ⟨hmem, hhash, -⟩ := mem_newestOf.mp hnewest
    obtain rfl : k.keyHash = keyHash := of_decide_eq_true hhash
    exact ⟨k, hmem, hid, hactive, hnewest⟩

/-- What is accepted depends on the rows only. -/
theorem accepts_congr {keys keys' : List StoredKey} (id : String)
    (h : keys.map Stored.row = keys'.map Stored.row) :
    Accepts keys id ↔ Accepts keys' id := by
  unfold Accepts newestOf
  rw [h]

/-- A row that is stored may only be accepted itself. -/
theorem accepts_append {keys : List StoredKey} {x : StoredKey} {id : String}
    (h : Accepts (keys ++ [x]) id) :
    Accepts keys id ∨ (x.row.id = id ∧ x.row.status = .active) := by
  obtain ⟨k, hmem, hid, hactive, hnewest⟩ := h
  rw [List.map_append, List.mem_append] at hmem
  rcases hmem with hmem | hmem
  · refine Or.inl ⟨k, hmem, hid, hactive, ?_⟩
    obtain ⟨-, hhash, hle⟩ := mem_newestOf.mp hnewest
    refine mem_newestOf.mpr ⟨hmem, hhash, fun q hq hsel => hle q ?_ hsel⟩
    rw [List.map_append]
    exact List.mem_append_left _ hq
  · obtain rfl := List.mem_singleton.mp hmem
    exact Or.inr ⟨hid, hactive⟩

/-! ### One step of a writer -/

/-- A row that is stored keeps revocations final unless it is an active one of a revoked
key. -/
theorem final_insert_iff {s : KeyStore} (h : RevocationFinal s) (k : ApiKey) :
    RevocationFinal (s.insert k) ↔ (k.status = .active → k.id ∉ s.revokedIds) := by
  constructor
  · intro hfinal hactive hid
    have hlate : (s.insert k).late = k.id :: s.late := if_pos ⟨hactive, hid⟩
    exact absurd (hlate.symm.trans hfinal.stored) (by simp)
  · intro hfresh
    refine ⟨?_, fun id hid haccepts => ?_⟩
    · have hlate : (s.insert k).late = s.late := if_neg fun hboth => hfresh hboth.1 hboth.2
      exact hlate.trans h.stored
    · rcases accepts_append haccepts with hold | ⟨heq, hactive⟩
      · exact h.refused id hid hold
      · have hkid : k.id = id := heq
        exact hfresh hactive (hkid ▸ hid)

theorem final_delete {s : KeyStore} (h : RevocationFinal s) (id : String) :
    RevocationFinal { s with keys := deleteKey id s.keys } := by
  have hrows : (deleteKey id s.keys).map Stored.row = s.keys.map Stored.row :=
    deleteWhere_rows _ s.keys
  exact ⟨h.stored, fun id' hid' haccepts =>
    h.refused id' hid' ((accepts_congr id' hrows).mp haccepts)⟩

/-- A read leaves the store as it is. -/
theorem shared_of_read {s s' : KeyStore} {p' : KeyCall} {answer : Option (Option ApiKey)}
    {next : Option ApiKey → KeyStore × KeyCall} (hnext : ∀ k, (next k).1 = s)
    (h : answer.map next = some (s', p')) : s' = s := by
  obtain ⟨k, -, hk⟩ := Option.map_eq_some_iff.mp h
  have hfst := hnext k
  rw [hk] at hfst
  exact hfst

/-- **A step keeps revocations final exactly when it keeps what is revoked.** -/
theorem final_keyStep_iff {s s' : KeyStore} {p p' : KeyCall} {input : KeyInput}
    (hfinal : RevocationFinal s) (h : keyStep s p input = some (s', p')) :
    RevocationFinal s' ↔ KeepsRevoked s p input := by
  have hsame : s' = s → KeepsRevoked s p input → (RevocationFinal s' ↔ KeepsRevoked s p input) :=
    fun heq hkeeps => ⟨fun _ => hkeeps, fun _ => heq ▸ hfinal⟩
  cases p with
  | read op =>
      refine hsame ?_ trivial
      cases op with
      | updateLastUsed id =>
          refine shared_of_read (fun k => ?_) h
          cases k <;> rfl
      | updateExpiredStatus id =>
          refine shared_of_read (fun k => ?_) h
          cases k with
          | none => rfl
          | some k => exact (apply_ite Prod.fst _ _ _).trans (ite_self _)
      | revoke id revokedBy =>
          refine shared_of_read (fun k => ?_) h
          cases k <;> rfl
      | revokeForPlatform workspaceId keyId keyPrefix =>
          rw [keyStep] at h
          split at h
          · exact (congrArg Prod.fst (Option.some.inj h)).symm
          · split at h
            · split at h
              · exact (congrArg Prod.fst (Option.some.inj h)).symm
              · exact (congrArg Prod.fst (Option.some.inj h)).symm
            · exact (congrArg Prod.fst (Option.some.inj h)).symm
      | background => exact nomatch h
  | readAgain id revokedBy =>
      refine hsame (shared_of_read (fun k => ?_) h) trivial
      cases k <;> rfl
  | deleteExpired id k =>
      obtain ⟨rfl, -⟩ := Prod.mk.inj (Option.some.inj h)
      exact ⟨fun _ => trivial, fun _ => final_delete hfinal id⟩
  | deleteRevoked id k revokedBy =>
      obtain ⟨rfl, -⟩ := Prod.mk.inj (Option.some.inj h)
      exact ⟨fun _ => trivial, fun _ => final_delete hfinal id⟩
  | insertUsed k now =>
      obtain ⟨rfl, -⟩ := Prod.mk.inj (Option.some.inj h)
      exact final_insert_iff hfinal (used now k)
  | insertExpired k now =>
      obtain ⟨rfl, -⟩ := Prod.mk.inj (Option.some.inj h)
      have hkept := (final_insert_iff hfinal (expired now k)).mpr fun hactive => nomatch hactive
      exact ⟨fun _ => trivial, fun _ => hkept⟩
  | insertRevoked k revokedBy now =>
      obtain ⟨rfl, -⟩ := Prod.mk.inj (Option.some.inj h)
      have hkept := (final_insert_iff hfinal (revokedKey now revokedBy k)).mpr
        fun hactive => nomatch hactive
      exact ⟨fun _ => trivial, fun _ => hkept⟩
  | revokeReturns id =>
      obtain ⟨rfl, -⟩ := Prod.mk.inj (Option.some.inj h)
      constructor
      · intro hfinal'
        exact hfinal'.refused id List.mem_cons_self
      · intro hrefused
        refine ⟨hfinal.stored, fun id' hid' => ?_⟩
        rcases List.mem_cons.mp hid' with rfl | hid'
        · exact hrefused
        · exact hfinal.refused id' hid'
  | background =>
      by_cases hmay : keyMayVanish s.keys input.pick = true
      · obtain ⟨rfl, -⟩ := Prod.mk.inj (Option.some.inj ((if_pos hmay).symm.trans h))
        exact ⟨fun hfinal' _ => hfinal'.refused, fun hkeeps => ⟨hfinal.stored, hkeeps hmay⟩⟩
      · exact nomatch (if_neg hmay).symm.trans h
  | returned => exact nomatch h
  | ended => exact nomatch h

/-- A step that cannot be taken loses nothing. -/
theorem keepsRevoked_of_none {s : KeyStore} {p : KeyCall} {input : KeyInput}
    (h : keyStep s p input = none) : KeepsRevoked s p input := by
  cases p with
  | insertUsed k now => exact nomatch h
  | revokeReturns id => exact nomatch h
  | background =>
      intro hmay
      exact nomatch (if_pos hmay).symm.trans h
  | _ => trivial

/-! ### Runs -/

namespace RequestExample

def key : ApiKey where
  id := "k_1"
  keyHash := "hash_1"
  keyPrefix := "stam_live_1"
  userId := "u_1"
  workspaceId := some "ws_1"
  name := "Exports"
  description := ""
  role := .admin
  status := .active
  expiresAt := none
  lastUsedAt := none
  failedAttemptsCount := 0
  lastFailedAttemptAt := none
  createdBy := "u_1"
  revokedBy := none
  revokedAt := none
  createdAt := 0
  updatedAt := 0

/-- A request with the key begins at 1000, while the key is being revoked since 900, and its
`updateLastUsed` inserts after the revocation has returned. -/
def request : List KeyAction :=
  [.start (.revoke "k_1" "u_1"), .step 0 ⟨890, 0⟩, .step 0 ⟨890, 0⟩,
   .start (.updateLastUsed "k_1"), .step 1 ⟨1000, 0⟩,
   .step 0 ⟨900, 0⟩, .step 0 ⟨900, 0⟩, .step 0 ⟨900, 0⟩, .step 1 ⟨1000, 0⟩]

end RequestExample

end Veridian.KeyRevocation
