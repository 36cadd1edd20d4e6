/-
The filters of a workspace, as `FiltersService` stores them.

A request has passed its DTO when the service sees it, so what the decorators check is a
field here.  Creating wants at least one condition and one operation; updating does not,
and deleting may leave no filter at all.  What every stored filter has passed is
`Stored.accepted`.
-/
import Veridian.Filters.Entity

namespace Veridian

def FilterAction.text : FilterAction → String
  | .setValue => "set_value"
  | .unsetValue => "unset_value"
  | .setDefaultValue => "set_default_value"

/-- An operation as its transform leaves it. -/
structure FilterOperationDto where
  dimension : WritableDimension
  action : FilterAction
  value : Option String
  normalized : normalizeOperationValue value = value := by decide

structure CreateFilterDto where
  priority : Option ℚ
  conditions : List FilterCondition
  operations : List FilterOperationDto
  enabled : Option Bool
  priority_bounds : ∀ p ∈ priority, 0 ≤ p ∧ p ≤ 1000
  conditions_ne : conditions ≠ []
  operations_ne : operations ≠ []

structure UpdateFilterDto where
  id : String
  priority : Option ℚ
  conditions : Option (List FilterCondition)
  operations : Option (List FilterOperationDto)
  enabled : Option Bool
  priority_bounds : ∀ p ∈ priority, 0 ≤ p ∧ p ≤ 1000

namespace FiltersService

/-! ### Validation -/

def validateConditions (compiles : String → Bool) : List FilterCondition → Except String Unit
  | [] => .ok ()
  | c :: rest =>
      if c.operator = .regex ∧ compiles (c.value.getD "") = false then
        .error ("Invalid regex pattern: " ++ c.value.getD "")
      else validateConditions compiles rest

/-- The operation, if the value it needs is there. -/
def operation? (o : FilterOperationDto) : Option FilterOperation :=
  if h : o.action = .unsetValue ∨ o.value.isSome = true ∧ o.value ≠ some "" then
    some ⟨o.dimension, o.action, o.value, h.imp_right And.left⟩
  else none

def validateOperations : List FilterOperationDto → Except String (List FilterOperation)
  | [] => .ok []
  | o :: rest =>
      match operation? o with
      | none => .error ("Value is required for " ++ o.action.text ++ " action")
      | some op => (validateOperations rest).map (op :: ·)

/-! ### Requests -/

def newFilter (id : String) (dto : CreateFilterDto) (operations : List FilterOperation) :
    FilterDefinition where
  id := id
  priority := dto.priority.getD 500
  conditions := dto.conditions
  operations := operations
  enabled := dto.enabled.getD true
  priority_nonneg := by
    cases h : dto.priority with
    | none => decide
    | some p => exact (dto.priority_bounds p h).1

def create (compiles : String → Bool) (id : String) (dto : CreateFilterDto)
    (filters : List FilterDefinition) : Except String (List FilterDefinition) :=
  match validateConditions compiles dto.conditions with
  | .error e => .error e
  | .ok () =>
    match validateOperations dto.operations with
    | .error e => .error e
    | .ok operations => .ok (filters ++ [newFilter id dto operations])

/-- `operations` are those of the request, when it has some. -/
def updated (dto : UpdateFilterDto) (operations : Option (List FilterOperation))
    (existing : FilterDefinition) : FilterDefinition where
  id := existing.id
  priority := dto.priority.getD existing.priority
  conditions := dto.conditions.getD existing.conditions
  operations := operations.getD existing.operations
  enabled := dto.enabled.getD existing.enabled
  priority_nonneg := by
    cases h : dto.priority with
    | none => exact existing.priority_nonneg
    | some p => exact (dto.priority_bounds p h).1

def notFound (workspaceId id : String) : String :=
  "Filter " ++ id ++ " not found in workspace " ++ workspaceId

def update (compiles : String → Bool) (workspaceId : String) (dto : UpdateFilterDto)
    (filters : List FilterDefinition) : Except String (List FilterDefinition) :=
  match filters.findIdx? (fun f => f.id = dto.id) with
  | none => .error (notFound workspaceId dto.id)
  | some index =>
    match validateConditions compiles (dto.conditions.getD []) with
    | .error e => .error e
    | .ok () =>
      match validateOperations (dto.operations.getD []) with
      | .error e => .error e
      | .ok operations =>
          .ok (filters.modify index (updated dto (dto.operations.map fun _ => operations)))

def delete (workspaceId id : String) (filters : List FilterDefinition) :
    Except String (List FilterDefinition) :=
  if filters.any (fun f => f.id = id) then .ok (filters.filter fun f => f.id ≠ id)
  else .error (notFound workspaceId id)

/-- What a workspace can come to store, from no filters on. -/
inductive Stored (compiles : String → Bool) (workspaceId : String) :
    List FilterDefinition → Prop
  | empty : Stored compiles workspaceId []
  | create {filters filters' : List FilterDefinition} {id : String} {dto : CreateFilterDto}
      (hstored : Stored compiles workspaceId filters)
      (hcreate : create compiles id dto filters = .ok filters') :
      Stored compiles workspaceId filters'
  | update {filters filters' : List FilterDefinition} {dto : UpdateFilterDto}
      (hstored : Stored compiles workspaceId filters)
      (hupdate : update compiles workspaceId dto filters = .ok filters') :
      Stored compiles workspaceId filters'
  | delete {filters filters' : List FilterDefinition} {id : String}
      (hstored : Stored compiles workspaceId filters)
      (hdelete : delete workspaceId id filters = .ok filters') :
      Stored compiles workspaceId filters'

/-! ### What every stored filter has passed -/

theorem validateConditions_accepted {compiles : String → Bool} :
    ∀ {conditions : List FilterCondition}, validateConditions compiles conditions = .ok () →
      ∀ c ∈ conditions, c.accepted compiles = true := by
  intro conditions
  induction conditions with
  | nil => intro _ c hc; exact absurd hc List.not_mem_nil
  | cons c rest ih =>
      intro h
      unfold validateConditions at h
      split at h
      · exact absurd h (by simp)
      · rename_i hregex
        refine List.forall_mem_cons.mpr ⟨?_, ih h⟩
        rw [FilterCondition.accepted]
        by_cases hop : c.operator = .regex
        · have hcompiles : compiles (c.value.getD "") ≠ false := fun hc => hregex ⟨hop, hc⟩
          simpa [hop] using hcompiles
        · simp [hop]

theorem operation?_accepted {o : FilterOperationDto} {op : FilterOperation}
    (h : operation? o = some op) : op.accepted = true := by
  unfold operation? at h
  split at h
  · rename_i hvalue
    obtain rfl := Option.some.inj h
    rw [FilterOperation.accepted, Bool.and_eq_true]
    refine ⟨beq_iff_eq.mpr o.normalized, ?_⟩
    rcases hvalue with haction | ⟨hsome, hne⟩
    · simp [haction]
    · obtain ⟨v, hv⟩ := Option.isSome_iff_exists.mp hsome
      have hv' : v ≠ "" := fun hempty => hne (by rw [hv, hempty])
      simp [FilterOperation.text, hv, hv']
  · exact absurd h (by simp)

theorem validateOperations_accepted :
    ∀ {dtos : List FilterOperationDto} {operations : List FilterOperation},
      validateOperations dtos = .ok operations → ∀ op ∈ operations, op.accepted = true := by
  intro dtos
  induction dtos with
  | nil =>
      intro operations h op hop
      obtain rfl := Except.ok.inj h
      exact absurd hop List.not_mem_nil
  | cons o rest ih =>
      intro operations h
      unfold validateOperations at h
      cases ho : operation? o with
      | none => rw [ho] at h; exact absurd h (by simp)
      | some op =>
          cases hrest : validateOperations rest with
          | error e => rw [ho, hrest] at h; exact absurd h (by simp [Except.map])
          | ok ops =>
              rw [ho, hrest] at h
              obtain rfl := Except.ok.inj h
              exact List.forall_mem_cons.mpr ⟨operation?_accepted ho, ih hrest⟩

theorem accepted_iff {compiles : String → Bool} {f : FilterDefinition} :
    f.accepted compiles = true ↔ f.priority ≤ 1000 ∧
      (∀ c ∈ f.conditions, c.accepted compiles = true) ∧
        ∀ op ∈ f.operations, op.accepted = true := by
  simp [FilterDefinition.accepted, and_assoc]

theorem create_accepted {compiles : String → Bool} {id : String} {dto : CreateFilterDto}
    {filters filters' : List FilterDefinition} (h : ∀ f ∈ filters, f.accepted compiles = true)
    (hcreate : create compiles id dto filters = .ok filters') :
    ∀ f ∈ filters', f.accepted compiles = true := by
  unfold create at hcreate
  split at hcreate
  · exact absurd hcreate (by simp)
  · rename_i hconditions
    split at hcreate
    · exact absurd hcreate (by simp)
    · rename_i operations hoperations
      obtain rfl := Except.ok.inj hcreate
      refine List.forall_mem_append.mpr ⟨h, List.forall_mem_singleton.mpr (accepted_iff.mpr ?_)⟩
      refine ⟨?_, validateConditions_accepted hconditions, validateOperations_accepted hoperations⟩
      show dto.priority.getD 500 ≤ 1000
      cases hp : dto.priority with
      | none => decide
      | some p => exact (dto.priority_bounds p hp).2

theorem updated_accepted {compiles : String → Bool} {dto : UpdateFilterDto}
    {operations : List FilterOperation} {existing : FilterDefinition}
    (hconditions : validateConditions compiles (dto.conditions.getD []) = .ok ())
    (hoperations : validateOperations (dto.operations.getD []) = .ok operations)
    (h : existing.accepted compiles = true) :
    (updated dto (dto.operations.map fun _ => operations) existing).accepted compiles = true := by
  obtain ⟨hpriority, hconds, hops⟩ := accepted_iff.mp h
  refine accepted_iff.mpr ⟨?_, ?_, ?_⟩
  · show dto.priority.getD existing.priority ≤ 1000
    cases hp : dto.priority with
    | none => exact hpriority
    | some p => exact (dto.priority_bounds p hp).2
  · show ∀ c ∈ dto.conditions.getD existing.conditions, _
    cases hc : dto.conditions with
    | none => exact hconds
    | some conditions =>
        rw [hc] at hconditions
        exact validateConditions_accepted hconditions
  · show ∀ op ∈ (dto.operations.map fun _ => operations).getD existing.operations, _
    cases dto.operations with
    | none => exact hops
    | some dtos => exact validateOperations_accepted hoperations

theorem update_accepted {compiles : String → Bool} {workspaceId : String} {dto : UpdateFilterDto}
    {filters filters' : List FilterDefinition} (h : ∀ f ∈ filters, f.accepted compiles = true)
    (hupdate : update compiles workspaceId dto filters = .ok filters') :
    ∀ f ∈ filters', f.accepted compiles = true := by
  unfold update at hupdate
  split at hupdate
  · exact absurd hupdate (by simp)
  · rename_i index hindex
    split at hupdate
    · exact absurd hupdate (by simp)
    · rename_i hconditions
      split at hupdate
      · exact absurd hupdate (by simp)
      · rename_i operations hoperations
        obtain rfl := Except.ok.inj hupdate
        intro f hf
        obtain ⟨i, hi, rfl⟩ := List.getElem_of_mem hf
        rw [List.getElem_modify]
        split
        · exact updated_accepted hconditions hoperations (h _ (List.getElem_mem _))
        · exact h _ (List.getElem_mem _)

theorem delete_accepted {compiles : String → Bool} {workspaceId id : String}
    {filters filters' : List FilterDefinition} (h : ∀ f ∈ filters, f.accepted compiles = true)
    (hdelete : delete workspaceId id filters = .ok filters') :
    ∀ f ∈ filters', f.accepted compiles = true := by
  unfold delete at hdelete
  split at hdelete
  · obtain rfl := Except.ok.inj hdelete
    exact fun f hf => h f (List.mem_of_mem_filter hf)
  · exact absurd hdelete (by simp)

/-- **Every stored filter is accepted.** -/
theorem Stored.accepted {compiles : String → Bool} {workspaceId : String}
    {filters : List FilterDefinition} (h : Stored compiles workspaceId filters) :
    ∀ f ∈ filters, f.accepted compiles = true := by
  induction h with
  | empty => intro f hf; exact absurd hf List.not_mem_nil
  | create _ hcreate ih => exact create_accepted ih hcreate
  | update _ hupdate ih => exact update_accepted ih hupdate
  | delete _ hdelete ih => exact delete_accepted ih hdelete

end FiltersService

end Veridian
