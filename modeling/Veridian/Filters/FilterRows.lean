/-
Filters as a workspace stores them, and the requests that write them.

A stored filter has a name, a place in the list, tags, a version and two timestamps beside
the definition the engine runs on.  What a request does to the definitions is what the
operations on those say (`create_definitions`, `update_definitions`, `delete_definitions`,
`reorder_definitions`).
-/
import Mathlib.Order.Defs.LinearOrder
import Veridian.Filters.Service

namespace Veridian

structure FilterRow extends FilterDefinition where
  name : String
  order : Option ℚ
  tags : List String
  version : String
  createdAt : String
  updatedAt : String
  deriving DecidableEq

namespace FilterRow

/-- What the service takes from outside: which patterns compile, and the version of a list of
filters, which hashes their texts. -/
structure FilterHost where
  compiles : String → Bool
  computeFilterVersion : List FilterRow → String

structure CreateFilterRequest extends CreateFilterDto where
  workspaceId : String
  name : String
  tags : Option (List String)

structure UpdateFilterRequest extends UpdateFilterDto where
  workspaceId : String
  name : Option String
  order : Option ℚ
  tags : Option (List String)

structure ReorderFiltersDto where
  workspaceId : String
  filterIds : List String
  filterIds_ne : filterIds ≠ []

/-- The last place in the list, `-1` when it is empty. -/
def maxOrder (filters : List FilterRow) : ℚ :=
  filters.foldl (fun max f => Max.max max (f.order.getD 0)) (-1)

/-- `{ ...filter, version: computeFilterVersion(filters) }` -/
def versioned (host : FilterHost) (filters : List FilterRow) (filter : FilterRow) : FilterRow :=
  { filter with version := host.computeFilterVersion filters }

def newRow (dto : CreateFilterRequest) (operations : List FilterOperation) (id now : String)
    (filters : List FilterRow) : FilterRow :=
  { FiltersService.newFilter id dto.toCreateFilterDto operations with
    name := dto.name
    order := some (maxOrder filters + 1)
    tags := dto.tags.getD []
    version := ""
    createdAt := now
    updatedAt := now }

/-- `FiltersService.create`, up to the workspace's update. -/
def create (host : FilterHost) (dto : CreateFilterRequest) (id now : String)
    (filters : List FilterRow) : Except String (List FilterRow) :=
  match FiltersService.validateConditions host.compiles dto.conditions with
  | .error e => .error e
  | .ok () =>
    match FiltersService.validateOperations dto.operations with
    | .error e => .error e
    | .ok operations =>
        let filter := newRow dto operations id now filters
        .ok (filters ++ [versioned host (filters ++ [filter]) filter])

def updatedRow (dto : UpdateFilterRequest) (operations : Option (List FilterOperation))
    (now : String) (existing : FilterRow) : FilterRow :=
  { FiltersService.updated dto.toUpdateFilterDto operations existing.toFilterDefinition with
    name := dto.name.getD existing.name
    order := dto.order.orElse fun _ => existing.order
    tags := dto.tags.getD existing.tags
    version := existing.version
    createdAt := existing.createdAt
    updatedAt := now }

/-- `FiltersService.update`, up to the workspace's update. -/
def update (host : FilterHost) (dto : UpdateFilterRequest) (now : String)
    (filters : List FilterRow) : Except String (List FilterRow) :=
  match filters.findIdx? (fun f => f.id = dto.id) with
  | none => .error (FiltersService.notFound dto.workspaceId dto.id)
  | some index =>
    match FiltersService.validateConditions host.compiles (dto.conditions.getD []) with
    | .error e => .error e
    | .ok () =>
      match FiltersService.validateOperations (dto.operations.getD []) with
      | .error e => .error e
      | .ok operations =>
          let updatedFilters :=
            filters.modify index (updatedRow dto (dto.operations.map fun _ => operations) now)
          .ok (updatedFilters.modify index (versioned host updatedFilters))

/-- `FiltersService.delete`, up to the workspace's update. -/
def delete (workspaceId filterId : String) (filters : List FilterRow) :
    Except String (List FilterRow) :=
  if filters.any (fun f => f.id = filterId) then .ok (filters.filter fun f => f.id ≠ filterId)
  else .error (FiltersService.notFound workspaceId filterId)

/-- A filter at the place its id has in `filterIds`. -/
def placed (filterIds : List String) (f : FilterRow) : FilterRow :=
  match filterIds.findIdx? (fun id => id = f.id) with
  | some orderIndex => { f with order := some orderIndex }
  | none => f

/-- `FiltersService.reorder`, up to the workspace's update. -/
def reorder (dto : ReorderFiltersDto) (filters : List FilterRow) : List FilterRow :=
  filters.map (placed dto.filterIds)

/-! ### What they do to the definitions -/

def definitions (filters : List FilterRow) : List FilterDefinition :=
  filters.map toFilterDefinition

theorem create_definitions (host : FilterHost) (dto : CreateFilterRequest) (id now : String)
    (filters : List FilterRow) :
    (create host dto id now filters).map definitions =
      FiltersService.create host.compiles id dto.toCreateFilterDto (definitions filters) := by
  unfold create FiltersService.create
  rcases FiltersService.validateConditions host.compiles dto.conditions with e | _
  · rfl
  · rcases FiltersService.validateOperations dto.operations with e | operations
    · rfl
    · show Except.ok (definitions (filters ++ _)) = _
      rw [definitions, List.map_append]
      rfl

theorem map_modify {α β : Type*} (g : α → β) (f : α → α) (f' : β → β)
    (h : ∀ a, g (f a) = f' (g a)) (i : Nat) (l : List α) :
    (l.modify i f).map g = (l.map g).modify i f' := by
  induction l generalizing i with
  | nil => simp
  | cons a l ih =>
      cases i with
      | zero => simp [h]
      | succ i => simp [ih]

theorem update_definitions (host : FilterHost) (dto : UpdateFilterRequest) (now : String)
    (filters : List FilterRow) :
    (update host dto now filters).map definitions =
      FiltersService.update host.compiles dto.workspaceId dto.toUpdateFilterDto
        (definitions filters) := by
  unfold update FiltersService.update
  have hindex : (definitions filters).findIdx? (fun f => decide (f.id = dto.id)) =
      filters.findIdx? (fun f => f.id = dto.id) := by
    rw [definitions, List.findIdx?_map]
    rfl
  rw [hindex]
  clear hindex
  generalize filters.findIdx? _ = found
  rcases found with _ | index
  · rfl
  · rcases FiltersService.validateConditions host.compiles (dto.conditions.getD []) with e | _
    · rfl
    · rcases FiltersService.validateOperations (dto.operations.getD []) with e | operations
      · rfl
      · refine congrArg Except.ok ?_
        have hversion (l rows : List FilterRow) :
            definitions (l.modify index (versioned host rows)) = definitions l := by
          rw [definitions, map_modify toFilterDefinition (versioned host rows) id (fun _ => rfl),
            List.modify_id, definitions]
        show definitions (List.modify _ index (versioned host _)) = _
        rw [hversion]
        exact map_modify toFilterDefinition _ _ (fun _ => rfl) index filters

theorem delete_definitions (workspaceId filterId : String) (filters : List FilterRow) :
    (delete workspaceId filterId filters).map definitions =
      FiltersService.delete workspaceId filterId (definitions filters) := by
  have hany : (definitions filters).any (fun f => f.id = filterId) =
      filters.any fun f => f.id = filterId := by
    rw [definitions, List.any_map]
    rfl
  have hfilter : (definitions filters).filter (fun f => f.id ≠ filterId) =
      definitions (filters.filter fun f => f.id ≠ filterId) := by
    rw [definitions, List.filter_map]
    rfl
  unfold delete FiltersService.delete
  rw [hany, hfilter]
  split
  · rfl
  · rfl

theorem placed_definition (filterIds : List String) (f : FilterRow) :
    (placed filterIds f).toFilterDefinition = f.toFilterDefinition := by
  unfold placed
  split
  · rfl
  · rfl

theorem reorder_definitions (dto : ReorderFiltersDto) (filters : List FilterRow) :
    definitions (reorder dto filters) = definitions filters := by
  rw [definitions, reorder, List.map_map]
  exact List.map_congr_left fun f _ => placed_definition dto.filterIds f

end FilterRow

end Veridian
