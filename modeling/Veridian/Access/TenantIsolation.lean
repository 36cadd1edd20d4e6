/-
Who can see and change the resources addressed by id.

Two stores that differ only in tasks and keys of workspaces the principal has nothing
to do with are the same to it: that is `AgreeOn`.  A call is isolated in a store when
it answers the same in all of them and leaves those tasks and keys alone.

The endpoints do not ask whose the resource is, so a call is isolated exactly when it
happens to address something of the principal's own (`isolated_iff`).  Any other id
tells whether a task or key of that id exists.
-/
import Veridian.Access.Resources

namespace Veridian

/-- A key without a workspace is nobody's secret. -/
def ownsKey (own : String → Bool) : Option String → Bool
  | none => true
  | some workspaceId => own workspaceId

/-- The same tasks and keys of the observer's workspaces. -/
structure AgreeOn (own : String → Bool) (s s' : Store) : Prop where
  tasks : Owned.visible BackfillTask.workspaceId own s'.tasks =
    Owned.visible BackfillTask.workspaceId own s.tasks
  apiKeys : Owned.visible ApiKey.workspaceId (ownsKey own) s'.apiKeys =
    Owned.visible ApiKey.workspaceId (ownsKey own) s.apiKeys

/-- The tasks and keys of all other workspaces are as they were, and so are the processors
that run those tasks. -/
structure OthersUnchanged (own : String → Bool) (s s' : Store) : Prop where
  tasks : Owned.visible BackfillTask.workspaceId (fun w => !own w) s'.tasks =
    Owned.visible BackfillTask.workspaceId (fun w => !own w) s.tasks
  apiKeys : Owned.visible ApiKey.workspaceId (fun w => !ownsKey own w) s'.apiKeys =
    Owned.visible ApiKey.workspaceId (fun w => !ownsKey own w) s.apiKeys
  processors : ∀ task ∈ s.tasks, own task.workspaceId = false →
    s'.runningProcessors.lookup task.id = s.runningProcessors.lookup task.id

theorem OthersUnchanged.refl (own : String → Bool) (s : Store) : OthersUnchanged own s s :=
  ⟨rfl, rfl, fun _ _ _ => rfl⟩

/-- The call answers alike in all stores the principal cannot tell apart, and changes nothing
of anybody else's. -/
def Isolated (backend : Backend) (memberships : List MembershipRow) (user : Principal)
    (call : ResourceCall) (s : Store) : Prop :=
  (∀ s', AgreeOn (user.memberOf memberships) s s' →
    (call.run backend user s').1 = (call.run backend user s).1) ∧
  OthersUnchanged (user.memberOf memberships) s (call.run backend user s).2

/-- What the call addresses is of the observer's own workspaces. -/
def Addresses (own : String → Bool) (s : Store) : ResourceCall → Prop
  | .backfillStatus taskId =>
      taskId = "" ∨ ∃ task ∈ s.tasks, task.id = taskId ∧ own task.workspaceId = true
  | .backfillCancel taskId => ∃ task ∈ s.tasks, task.id = taskId ∧ own task.workspaceId = true
  | .apiKeysList dto => ∃ workspaceId, dto.workspaceId = some workspaceId ∧ own workspaceId = true
  | .apiKeysGet id | .apiKeysRevoke id _ =>
      ∃ k ∈ s.apiKeys, k.id = id ∧ ownsKey own k.workspaceId = true

section

variable {own : String → Bool} {s s' : Store}

/-! ### Lookups by an id of one's own -/

theorem AgreeOn.taskById (h : AgreeOn own s s') {task : BackfillTask} (hmem : task ∈ s.tasks)
    (hown : own task.workspaceId = true) :
    taskById s'.tasks task.id = taskById s.tasks task.id := by
  rw [taskById_eq, taskById_eq, Owned.filter_id_eq_of_visible_eq s.tasks_coherent
    s'.tasks_coherent h.tasks hmem hown]

theorem AgreeOn.apiKeyById (h : AgreeOn own s s') {k : ApiKey} (hmem : k ∈ s.apiKeys)
    (hown : ownsKey own k.workspaceId = true) :
    apiKeyById s'.apiKeys k.id = apiKeyById s.apiKeys k.id := by
  unfold Veridian.apiKeyById
  rw [Owned.filter_id_eq_of_visible_eq s.apiKeys_coherent s'.apiKeys_coherent h.apiKeys hmem hown]

/-- The keys of a workspace of one's own, and which of their rows are the latest, are seen. -/
theorem listApiKeys_visible {dto : ListApiKeysDto} {workspaceId : String}
    (hdto : dto.workspaceId = some workspaceId) (hown : own workspaceId = true) (s : Store) :
    listApiKeys dto (Owned.visible ApiKey.workspaceId (ownsKey own) s.apiKeys) =
      listApiKeys dto s.apiKeys := by
  have hselects : ∀ k, dto.selects k = true → ownsKey own k.workspaceId = true := by
    intro k hk
    simp only [ListApiKeysDto.selects, hdto, Bool.and_eq_true, decide_eq_true_eq] at hk
    rw [hk.1.2]
    exact hown
  unfold listApiKeys
  refine congrArg (List.map toPublicApiKey) (congrArg (List.insertionSort _) ?_)
  rw [Owned.visible, List.filter_filter]
  refine List.filter_congr fun k hk => ?_
  cases hsel : dto.selects k with
  | false => rfl
  | true =>
      have hkown := hselects k hsel
      rw [hkown, Bool.true_and, Bool.true_and, Bool.and_true]
      -- the rows of this id are all of the same workspace
      rw [Bool.eq_iff_iff, isLatest, isLatest, List.all_eq_true, List.all_eq_true]
      refine ⟨fun hall q hq => ?_, fun hall q hq => hall q (List.mem_of_mem_filter hq)⟩
      by_cases hid : q.id = k.id
      · refine hall q (List.mem_filter.mpr ⟨hq, ?_⟩)
        rw [s.apiKeys_coherent q hq k hk hid]
        exact hkown
      · exact decide_eq_true fun heq => absurd heq hid

/-! ### What a call of one's own changes -/

theorem cancelProcessor_lookup_ne {taskId other : String} (hne : other ≠ taskId) :
    ∀ processors : List (String × Bool),
      (cancelProcessor processors taskId).lookup other = processors.lookup other := by
  intro processors
  induction processors with
  | nil => rfl
  | cons p rest ih =>
      obtain ⟨id, cancelled⟩ := p
      show ((if id = taskId then (id, true) else (id, cancelled)) ::
        cancelProcessor rest taskId).lookup other = _
      by_cases hid : id = taskId
      · rw [if_pos hid, List.lookup_cons, List.lookup_cons, ih,
          beq_eq_false_iff_ne.mpr fun h => hne (h.trans hid)]
      · rw [if_neg hid, List.lookup_cons, List.lookup_cons, ih]

theorem cancelTask_cases (now : Int) (taskId : String) (s : Store) :
    (cancelTask now taskId s).2 = s ∨
      ∃ task, taskById s.tasks taskId = some task ∧
        (cancelTask now taskId s).2.tasks =
          s.tasks ++ [updateTaskStatus now task .cancelled none] ∧
        (cancelTask now taskId s).2.apiKeys = s.apiKeys ∧
        (cancelTask now taskId s).2.runningProcessors =
          cancelProcessor s.runningProcessors taskId := by
  unfold cancelTask
  split
  · exact Or.inl rfl
  · rename_i task htask
    split
    · exact Or.inl rfl
    · exact Or.inr ⟨task, htask, rfl, rfl, rfl⟩

theorem cancelTask_unchanged (now : Int) {task : BackfillTask} (hmem : task ∈ s.tasks)
    (hown : own task.workspaceId = true) :
    OthersUnchanged own s (cancelTask now task.id s).2 := by
  rcases cancelTask_cases now task.id s with hsame | ⟨found, hfound, htasks, hkeys, hprocs⟩
  · rw [hsame]
    exact OthersUnchanged.refl own s
  · obtain ⟨hfmem, hfid⟩ := taskById_mem hfound
    have hfown : own found.workspaceId = true := by
      rw [s.tasks_coherent found hfmem task hmem hfid]
      exact hown
    refine ⟨?_, by rw [hkeys], ?_⟩
    · rw [htasks]
      refine Owned.visible_append_of_foreign ?_
      show (!own found.workspaceId) = false
      rw [hfown]
      rfl
    · intro other hother hforeign
      rw [hprocs]
      refine cancelProcessor_lookup_ne (fun heq => ?_) _
      rw [s.tasks_coherent other hother task hmem heq, hown] at hforeign
      exact Bool.noConfusion hforeign

theorem revokeApiKey_cases (now : Int) (id revokedBy : String) (s : Store) :
    (revokeApiKey now id revokedBy s).2 = s ∨
      ∃ k, apiKeyById s.apiKeys id = some k ∧
        (revokeApiKey now id revokedBy s).2.apiKeys =
          (s.apiKeys.filter fun q => q.id ≠ id) ++ [revokedKey now revokedBy k] ∧
        (revokeApiKey now id revokedBy s).2.tasks = s.tasks ∧
        (revokeApiKey now id revokedBy s).2.runningProcessors = s.runningProcessors := by
  unfold revokeApiKey
  split
  · exact Or.inl rfl
  · rename_i k hk
    exact Or.inr ⟨k, hk, rfl, rfl, rfl⟩

theorem revokeApiKey_unchanged (now : Int) (revokedBy : String) {k : ApiKey}
    (hmem : k ∈ s.apiKeys) (hown : ownsKey own k.workspaceId = true) :
    OthersUnchanged own s (revokeApiKey now k.id revokedBy s).2 := by
  rcases revokeApiKey_cases now k.id revokedBy s with hsame | ⟨found, hfound, hkeys, htasks, hprocs⟩
  · rw [hsame]
    exact OthersUnchanged.refl own s
  · obtain ⟨hfmem, hfid⟩ := apiKeyById_mem hfound
    refine ⟨by rw [htasks], ?_, fun _ _ _ => by rw [hprocs]⟩
    rw [hkeys, Owned.visible_append_of_foreign, Owned.visible_filter_of_foreign]
    · intro q hq hforeign
      refine decide_eq_true fun heq => ?_
      rw [s.apiKeys_coherent q hq k hmem heq, hown] at hforeign
      exact Bool.noConfusion hforeign
    · show (!ownsKey own found.workspaceId) = false
      rw [s.apiKeys_coherent found hfmem k hmem hfid, hown]
      rfl

/-! ### What an id of someone else gives away -/

variable {backend : Backend}

/-- The workspace a made-up resource is put into. -/
theorem exists_foreign (memberships : List MembershipRow) (user : Principal) :
    ∃ workspaceId, user.memberOf memberships workspaceId = false := by
  cases user with
  | apiKey keyId bound role =>
      obtain ⟨w, hw⟩ := Owned.exists_fresh (fun b : String => b) [bound]
      exact ⟨w, beq_eq_false_iff_ne.mpr (hw bound (by simp)).symm⟩
  | user id isSuperAdmin =>
      obtain ⟨w, hw⟩ := Owned.exists_fresh MembershipRow.workspaceId memberships
      refine ⟨w, Bool.eq_false_iff.mpr fun hmember => ?_⟩
      obtain ⟨row, hrow, hrw, -⟩ := membershipOf_isSome_iff.mp hmember
      exact hw row hrow hrw

/-- An endpoint that tells an unknown task from a known one is not isolated at an id that is
not the observer's own. -/
theorem exists_distinguished_by_task (call : ResourceCall) (taskId : String) {foreign : String}
    (hseparates : ∀ s, (call.handle backend s).1 = .error (taskNotFound taskId) ↔
      ¬∃ task ∈ s.tasks, task.id = taskId)
    (hother : ∀ task ∈ s.tasks, task.id = taskId → own task.workspaceId = false)
    (hforeign : own foreign = false) :
    ∃ s', AgreeOn own s s' ∧ (call.handle backend s').1 ≠ (call.handle backend s).1 := by
  obtain ⟨tasks, hcoherent, hvisible, htoggled⟩ := Owned.exists_toggled s.tasks_coherent hother
    (x := { (default : BackfillTask) with id := taskId, workspaceId := foreign }) rfl hforeign
  refine ⟨{ s with tasks := tasks, tasks_coherent := hcoherent }, ⟨hvisible, rfl⟩, fun heq => ?_⟩
  have hiff := hseparates { s with tasks := tasks, tasks_coherent := hcoherent }
  rw [heq, hseparates s] at hiff
  exact iff_not_self (hiff.trans (not_congr htoggled) |>.trans not_not |>.symm)

theorem exists_distinguished_by_key (call : ResourceCall) (id : String) {foreign : String}
    (hseparates : ∀ s, (call.handle backend s).1 = .error (apiKeyNotFound id) ↔
      ¬∃ k ∈ s.apiKeys, k.id = id)
    (hother : ∀ k ∈ s.apiKeys, k.id = id → ownsKey own k.workspaceId = false)
    (hforeign : own foreign = false) :
    ∃ s', AgreeOn own s s' ∧ (call.handle backend s').1 ≠ (call.handle backend s).1 := by
  obtain ⟨keys, hcoherent, hvisible, htoggled⟩ := Owned.exists_toggled s.apiKeys_coherent hother
    (x := { (default : ApiKey) with id := id, workspaceId := some foreign }) rfl hforeign
  refine ⟨{ s with apiKeys := keys, apiKeys_coherent := hcoherent }, ⟨rfl, hvisible⟩, fun heq => ?_⟩
  have hiff := hseparates { s with apiKeys := keys, apiKeys_coherent := hcoherent }
  rw [heq, hseparates s] at hiff
  exact iff_not_self (hiff.trans (not_congr htoggled) |>.trans not_not |>.symm)

/-! ### Which answers tell a known id from an unknown one -/

theorem getTaskStatus_notFound_iff {taskId : String} :
    getTaskStatus backend taskId s = .error (taskNotFound taskId) ↔
      ¬∃ task ∈ s.tasks, task.id = taskId := by
  rw [← taskById_eq_none_iff]
  unfold getTaskStatus
  cases htask : taskById s.tasks taskId with
  | none => exact iff_of_true rfl rfl
  | some task =>
      refine iff_of_false ?_ (Option.some_ne_none task)
      show toProgress backend task ≠ _
      unfold toProgress
      simp only
      split
      · exact fun h => by simp [taskNotFound] at h
      · exact fun h => by simp at h

/-- The answer of `cancelTask` is read off the task it finds. -/
theorem cancelTask_answer (now : Int) (taskId : String) (s : Store) :
    (cancelTask now taskId s).1 =
      match taskById s.tasks taskId with
      | none => .error (taskNotFound taskId)
      | some task =>
          match cancelRefused task.status with
          | some refusal => .error refusal
          | none => .ok () := by
  unfold cancelTask
  split
  · rename_i hnone
    rw [hnone]
  · rename_i task htask
    simp only [htask]
    cases cancelRefused task.status with
    | none => rfl
    | some refusal => rfl

theorem cancelTask_notFound_iff {now : Int} {taskId : String} :
    (cancelTask now taskId s).1 = .error (taskNotFound taskId) ↔
      ¬∃ task ∈ s.tasks, task.id = taskId := by
  rw [← taskById_eq_none_iff, cancelTask_answer]
  cases htask : taskById s.tasks taskId with
  | none => exact iff_of_true rfl rfl
  | some task =>
      refine iff_of_false ?_ (Option.some_ne_none task)
      cases hstatus : task.status <;> simp [cancelRefused, taskNotFound, hstatus]

theorem getApiKey_notFound_iff {id : String} :
    getApiKey id s = .error (apiKeyNotFound id) ↔ ¬∃ k ∈ s.apiKeys, k.id = id := by
  rw [← apiKeyById_eq_none_iff]
  unfold getApiKey
  cases hk : apiKeyById s.apiKeys id with
  | none => exact iff_of_true rfl rfl
  | some k => exact iff_of_false (by simp) (Option.some_ne_none k)

/-- The answer of `revoke` is read off the key it finds. -/
theorem revokeApiKey_answer (now : Int) (id revokedBy : String) (s : Store) :
    (revokeApiKey now id revokedBy s).1 =
      match apiKeyById s.apiKeys id with
      | none => .error (apiKeyNotFound id)
      | some k => .ok (toPublicApiKey (revokedKey now revokedBy k)) := by
  unfold revokeApiKey
  split
  · rename_i hnone
    rw [hnone]
  · rename_i k hk
    simp only [hk]

theorem revokeApiKey_notFound_iff {now : Int} {id revokedBy : String} :
    (revokeApiKey now id revokedBy s).1 = .error (apiKeyNotFound id) ↔
      ¬∃ k ∈ s.apiKeys, k.id = id := by
  rw [← apiKeyById_eq_none_iff, revokeApiKey_answer]
  cases hk : apiKeyById s.apiKeys id with
  | none => exact iff_of_true rfl rfl
  | some k => exact iff_of_false (by simp) (Option.some_ne_none k)

theorem map_eq_error_iff {α β : Type} {f : α → β} {x : Except HttpException α}
    {e : HttpException} : x.map f = .error e ↔ x = .error e := by
  cases x <;> simp [Except.map]

/-- A key of `foreign` with what the filters of a listing ask for. -/
def selectedKey (dto : ListApiKeysDto) (foreign id : String) : ApiKey :=
  { (default : ApiKey) with
    id := id
    userId := dto.userId.getD ""
    workspaceId := some foreign
    status := dto.status.getD .active }

theorem selects_selectedKey {dto : ListApiKeysDto} {foreign : String} (id : String)
    (hdto : ∀ workspaceId, dto.workspaceId = some workspaceId → workspaceId = foreign) :
    dto.selects (selectedKey dto foreign id) = true := by
  unfold ListApiKeysDto.selects
  simp only [Bool.and_eq_true]
  refine ⟨⟨?_, ?_⟩, ?_⟩
  · cases huser : dto.userId with
    | none => rfl
    | some userId => simp [selectedKey, huser]
  · cases hworkspace : dto.workspaceId with
    | none => rfl
    | some workspaceId => simp [selectedKey, hdto workspaceId hworkspace]
  · cases hstatus : dto.status with
    | none => rfl
    | some status => simp [selectedKey, hstatus]

/-- A new key that is selected makes the listing one longer. -/
theorem length_listApiKeys_append {dto : ListApiKeysDto} {keys : List ApiKey} {k : ApiKey}
    (hfresh : ∀ q ∈ keys, q.id ≠ k.id) (hselects : dto.selects k = true) :
    (listApiKeys dto (keys ++ [k])).length = (listApiKeys dto keys).length + 1 := by
  have hold : ∀ q ∈ keys, isLatest (keys ++ [k]) q = isLatest keys q := by
    intro q hq
    have hne : k.id ≠ q.id := (hfresh q hq).symm
    unfold isLatest
    rw [List.all_append, List.all_cons, List.all_nil, Bool.and_true]
    simp [hne]
  have hnew : isLatest (keys ++ [k]) k = true := by
    refine List.all_eq_true.mpr fun q hq => decide_eq_true fun hid => ?_
    rcases List.mem_append.mp hq with hq | hq
    · exact absurd hid (hfresh q hq)
    · rw [List.mem_singleton.mp hq]
  have hkept : [k].filter (fun q => dto.selects q && isLatest (keys ++ [k]) q) = [k] := by
    rw [List.filter_singleton, hselects, hnew]
    rfl
  unfold listApiKeys
  simp only [List.length_map, List.length_insertionSort, List.filter_append, List.length_append]
  rw [List.filter_congr fun q hq => congrArg _ (hold q hq), hkept]
  rfl

/-- A key of another workspace that the filters of a listing select shows up in it. -/
theorem exists_distinguished_by_list {dto : ListApiKeysDto} {foreign : String}
    (hdto : ∀ workspaceId, dto.workspaceId = some workspaceId → workspaceId = foreign)
    (hforeign : own foreign = false) :
    ∃ s', AgreeOn own s s' ∧ (listApiKeys dto s'.apiKeys) ≠ listApiKeys dto s.apiKeys := by
  obtain ⟨id, hfresh⟩ := Owned.exists_fresh ApiKey.id s.apiKeys
  refine ⟨{ s with
    apiKeys := s.apiKeys ++ [selectedKey dto foreign id]
    apiKeys_coherent := s.apiKeys_coherent.append_fresh hfresh },
    ⟨rfl, Owned.visible_append_of_foreign hforeign⟩, fun heq => ?_⟩
  have hselects := selects_selectedKey id hdto
  have hlength := length_listApiKeys_append hfresh hselects
  rw [congrArg List.length heq] at hlength
  omega

/-! ### Endpoint by endpoint -/

/-- Isolation of the endpoint behind its guards. -/
def HandlesIsolated (backend : Backend) (own : String → Bool) (call : ResourceCall) (s : Store) :
    Prop :=
  (∀ s', AgreeOn own s s' → (call.handle backend s').1 = (call.handle backend s).1) ∧
    OthersUnchanged own s (call.handle backend s).2

theorem HandlesIsolated.not_of_exists {call : ResourceCall}
    (h : ∃ s', AgreeOn own s s' ∧ (call.handle backend s').1 ≠ (call.handle backend s).1) :
    ¬HandlesIsolated backend own call s := by
  obtain ⟨s', hagree, hne⟩ := h
  exact fun hisolated => hne (hisolated.1 s' hagree)

theorem handle_backfillStatus {taskId : String} (hne : taskId ≠ "") (s : Store) :
    ResourceCall.handle backend s (.backfillStatus taskId) =
      ((getTaskStatus backend taskId s).map .progress, s) :=
  if_neg hne

theorem backfillStatus_isolated_iff (hforeign : ∃ w, own w = false) (taskId : String) :
    HandlesIsolated backend own (.backfillStatus taskId) s ↔
      Addresses own s (.backfillStatus taskId) := by
  by_cases hempty : taskId = ""
  · subst hempty
    exact iff_of_true ⟨fun _ _ => rfl, OthersUnchanged.refl own s⟩ (Or.inl rfl)
  obtain ⟨foreign, hforeign⟩ := hforeign
  constructor
  · intro hisolated
    by_contra hother
    refine HandlesIsolated.not_of_exists (exists_distinguished_by_task (.backfillStatus taskId)
      taskId ?_ ?_ hforeign) hisolated
    · intro s
      rw [handle_backfillStatus hempty]
      exact map_eq_error_iff.trans getTaskStatus_notFound_iff
    · exact fun task htask hid =>
        eq_false_of_ne_true fun hown => hother (Or.inr ⟨task, htask, hid, hown⟩)
  · intro haddresses
    obtain ⟨task, htask, rfl, hown⟩ := haddresses.resolve_left hempty
    unfold HandlesIsolated
    simp only [handle_backfillStatus hempty]
    refine ⟨fun s' hagree => ?_, OthersUnchanged.refl own s⟩
    rw [getTaskStatus, getTaskStatus, hagree.taskById htask hown]

theorem backfillCancel_isolated_iff (hforeign : ∃ w, own w = false) (taskId : String) :
    HandlesIsolated backend own (.backfillCancel taskId) s ↔
      Addresses own s (.backfillCancel taskId) := by
  obtain ⟨foreign, hforeign⟩ := hforeign
  constructor
  · intro hisolated
    by_contra hother
    refine HandlesIsolated.not_of_exists (exists_distinguished_by_task (.backfillCancel taskId)
      taskId (fun s => map_eq_error_iff.trans cancelTask_notFound_iff) ?_ hforeign) hisolated
    exact fun task htask hid => eq_false_of_ne_true fun hown => hother ⟨task, htask, hid, hown⟩
  · rintro ⟨task, htask, rfl, hown⟩
    refine ⟨fun s' hagree => ?_, cancelTask_unchanged backend.now htask hown⟩
    show ((cancelTask backend.now task.id s').1).map _ =
      ((cancelTask backend.now task.id s).1).map _
    rw [cancelTask_answer, cancelTask_answer, hagree.taskById htask hown]

theorem apiKeysList_isolated_iff (hforeign : ∃ w, own w = false) (dto : ListApiKeysDto) :
    HandlesIsolated backend own (.apiKeysList dto) s ↔ Addresses own s (.apiKeysList dto) := by
  obtain ⟨foreign, hforeign⟩ := hforeign
  constructor
  · intro hisolated
    by_contra hnot
    obtain ⟨w, hw, hdto⟩ : ∃ w, own w = false ∧
        ∀ workspaceId, dto.workspaceId = some workspaceId → workspaceId = w := by
      cases hworkspace : dto.workspaceId with
      | none => exact ⟨foreign, hforeign, fun _ h => absurd h (by simp)⟩
      | some w =>
          refine ⟨w, eq_false_of_ne_true fun hown => hnot ⟨w, hworkspace, hown⟩, ?_⟩
          exact fun w' h => (Option.some.inj h).symm
    obtain ⟨s', hagree, hne⟩ := exists_distinguished_by_list (s := s) hdto hw
    exact hne (ResourceResponse.apiKeys.inj (Except.ok.inj (hisolated.1 s' hagree)))
  · rintro ⟨workspaceId, hdto, hown⟩
    refine ⟨fun s' hagree => ?_, OthersUnchanged.refl own s⟩
    show Except.ok (ResourceResponse.apiKeys (listApiKeys dto s'.apiKeys)) =
      Except.ok (ResourceResponse.apiKeys (listApiKeys dto s.apiKeys))
    rw [← listApiKeys_visible hdto hown s', ← listApiKeys_visible hdto hown s, hagree.apiKeys]

theorem apiKeysGet_isolated_iff (hforeign : ∃ w, own w = false) (id : String) :
    HandlesIsolated backend own (.apiKeysGet id) s ↔ Addresses own s (.apiKeysGet id) := by
  obtain ⟨foreign, hforeign⟩ := hforeign
  constructor
  · intro hisolated
    by_contra hother
    refine HandlesIsolated.not_of_exists (exists_distinguished_by_key (.apiKeysGet id) id
      (fun s => map_eq_error_iff.trans getApiKey_notFound_iff) ?_ hforeign) hisolated
    exact fun k hk hid => eq_false_of_ne_true fun hown => hother ⟨k, hk, hid, hown⟩
  · rintro ⟨k, hk, rfl, hown⟩
    refine ⟨fun s' hagree => ?_, OthersUnchanged.refl own s⟩
    show (getApiKey k.id s').map _ = (getApiKey k.id s).map _
    rw [getApiKey, hagree.apiKeyById hk hown]
    rfl

theorem apiKeysRevoke_isolated_iff (hforeign : ∃ w, own w = false) (id revokedBy : String) :
    HandlesIsolated backend own (.apiKeysRevoke id revokedBy) s ↔
      Addresses own s (.apiKeysRevoke id revokedBy) := by
  obtain ⟨foreign, hforeign⟩ := hforeign
  constructor
  · intro hisolated
    by_contra hother
    refine HandlesIsolated.not_of_exists (exists_distinguished_by_key (.apiKeysRevoke id revokedBy)
      id (fun s => map_eq_error_iff.trans revokeApiKey_notFound_iff) ?_ hforeign) hisolated
    exact fun k hk hid => eq_false_of_ne_true fun hown => hother ⟨k, hk, hid, hown⟩
  · rintro ⟨k, hk, rfl, hown⟩
    refine ⟨fun s' hagree => ?_, revokeApiKey_unchanged backend.now revokedBy hk hown⟩
    show ((revokeApiKey backend.now k.id revokedBy s').1).map _ =
      ((revokeApiKey backend.now k.id revokedBy s).1).map _
    rw [revokeApiKey_answer, revokeApiKey_answer, hagree.apiKeyById hk hown]

end

/--
**A call is isolated exactly when it is refused or addresses one's own.**

For every principal, every call of the five endpoints and every store.  The answer is then
the same in all stores that differ in other workspaces' tasks and keys, and none of those
is changed; any other call that gets through tells the principal something about them.
-/
theorem isolated_iff (backend : Backend) (memberships : List MembershipRow) (user : Principal)
    (call : ResourceCall) (s : Store) :
    Isolated backend memberships user call s ↔
      (∃ e, call.guards backend user = .error e) ∨
        Addresses (user.memberOf memberships) s call := by
  have hforeign := exists_foreign memberships user
  unfold Isolated ResourceCall.run
  cases hguards : call.guards backend user with
  | error e =>
      refine iff_of_true ⟨fun _ _ => rfl, OthersUnchanged.refl _ s⟩ (Or.inl ⟨e, rfl⟩)
  | ok _ =>
      have hcall : HandlesIsolated backend (user.memberOf memberships) call s ↔
          Addresses (user.memberOf memberships) s call := by
        cases call with
        | backfillStatus taskId => exact backfillStatus_isolated_iff hforeign taskId
        | backfillCancel taskId => exact backfillCancel_isolated_iff hforeign taskId
        | apiKeysList dto => exact apiKeysList_isolated_iff hforeign dto
        | apiKeysGet id => exact apiKeysGet_isolated_iff hforeign id
        | apiKeysRevoke id revokedBy => exact apiKeysRevoke_isolated_iff hforeign id revokedBy
      refine hcall.trans ⟨Or.inr, fun h => h.resolve_left ?_⟩
      rintro ⟨e, he⟩
      exact absurd he (by simp)

/-! ### Cancelling the backfill of another workspace -/

namespace IsolationExample

def backend : Backend where
  now := 10
  isDemo := false
  filterVersion := fun _ => some "d7517139"

/-- A user without any membership. -/
def outsider : Principal := .user "u" false

def task : BackfillTask := { (default : BackfillTask) with
  id := "t", workspaceId := "victim", status := .running, filtersSnapshot := "[]" }

def store : Store where
  tasks := [task]
  apiKeys := []
  runningProcessors := [("t", false)]
  killed := []
  tasks_coherent := by
    intro r hr r' hr' _
    rw [List.mem_singleton.mp hr, List.mem_singleton.mp hr']
  apiKeys_coherent := fun r hr => absurd hr (List.not_mem_nil)

end IsolationExample

open IsolationExample in
/-- The outsider's call succeeds, the task of `victim` reads cancelled, and its processor is
stopped. -/
theorem backfillCancel_crosses :
    (outsider.memberOf [] "victim" = false ∧
      ((ResourceCall.backfillCancel "t").run backend outsider store).1 = .ok .success ∧
      (taskById ((ResourceCall.backfillCancel "t").run backend outsider store).2.tasks "t").map
        (·.status) = some .cancelled ∧
      ((ResourceCall.backfillCancel "t").run backend outsider store).2.runningProcessors =
        [("t", true)]) ∧
      ¬∀ (backend : Backend) (memberships : List MembershipRow) (user : Principal)
        (call : ResourceCall) (s : Store), Isolated backend memberships user call s := by
  have hrun : ((ResourceCall.backfillCancel "t").run backend outsider store).2.tasks =
      [task, updateTaskStatus 10 task .cancelled none] := rfl
  refine ⟨⟨rfl, rfl, rfl, rfl⟩, fun hall => ?_⟩
  have hsame := (hall backend [] outsider (.backfillCancel "t") store).2.tasks
  rw [hrun] at hsame
  exact absurd (congrArg List.length hsame) (by decide)

end Veridian
