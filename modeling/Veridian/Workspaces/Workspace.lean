/-
The `workspaces` table and what `WorkspacesService` reads and writes of it.

No row is changed in place.  An update reads the freshest row, copies it with what it
changes, stamps the copy and inserts it, and readers take the row with the greatest stamp.
The rows here are the ones `parseWorkspace` returns; a row is written as it was read, so
nothing is lost between the two.
-/
import Veridian.Common.DashboardWidget
import Veridian.Common.DateTime
import Veridian.Events.Payload
import Veridian.Filters.FilterRows
import Veridian.Host
import Veridian.Lib.Replacing

namespace Veridian

/-- `order` may name a native widget or a custom one. -/
structure DashboardLayout where
  hiddenWidgets : Option (List String)
  order : Option (List String)
  widgets : Option (List DashboardWidget)
  deriving DecidableEq

/-- The settings that are stored and copied as a whole. -/
inductive SettingsKey where
  | timescoreReference | bounceThreshold | customDimensions | integrations | geoEnabled
  | geoStoreCity | geoStoreRegion | geoCoordinatesPrecision | annotations | smtp
  | allowedDomains | referralParam | branding | features | crmMapping | funnels | isDemo
  deriving DecidableEq

def SETTINGS_KEYS : List SettingsKey :=
  [.timescoreReference, .bounceThreshold, .customDimensions, .integrations, .geoEnabled,
    .geoStoreCity, .geoStoreRegion, .geoCoordinatesPrecision, .annotations, .smtp,
    .allowedDomains, .referralParam, .branding, .features, .crmMapping, .funnels, .isDemo]

theorem mem_SETTINGS_KEYS (key : SettingsKey) : key ∈ SETTINGS_KEYS := by
  cases key <;> simp [SETTINGS_KEYS]

instance decidableEqOthers : DecidableEq (SettingsKey → Option String) := fun f g =>
  decidable_of_iff (∀ key ∈ SETTINGS_KEYS, f key = g key)
    ⟨fun h => funext fun key => h key (mem_SETTINGS_KEYS key), fun h key _ => congrFun h key⟩

/-- `others` has the JSON text of every other setting, `none` where it is not set. -/
@[ext]
structure StoredSettings where
  filters : Option (List FilterRow)
  dashboardLayout : Option DashboardLayout
  others : SettingsKey → Option String
  deriving DecidableEq

@[ext]
structure WorkspaceRow where
  id : String
  name : String
  website : String
  timezone : String
  currency : String
  logoUrl : Option String
  status : WorkspaceStatus
  createdAt : String
  updatedAt : String
  settings : StoredSettings
  deriving DecidableEq

/-! ### Requests -/

/-- What `dto.settings` sets: `none` is a key that is not there, `some none` is `null`.  The
keys of `integrations` are encrypted. -/
structure SettingsDto where
  filters : Option (Option (List FilterRow))
  dashboardLayout : Option (Option DashboardLayout)
  others : SettingsKey → Option String
  deriving DecidableEq

structure UpdateWorkspaceDto where
  id : String
  status : Option WorkspaceStatus
  name : Option String
  website : Option String
  timezone : Option String
  currency : Option String
  logoUrl : Option String
  settings : Option SettingsDto
  deriving DecidableEq

structure CreateWorkspaceDto where
  id : String
  name : String
  website : String
  timezone : String
  currency : String
  logoUrl : Option String
  /-- `dto.settings`, which may set a few of the other settings. -/
  settings : SettingsKey → Option String

/-- No setting at all. -/
def SettingsDto.empty : SettingsDto := ⟨none, none, fun _ => none⟩

/-- What the request sets, an absent `settings` setting nothing. -/
def UpdateWorkspaceDto.definedSettings (dto : UpdateWorkspaceDto) : SettingsDto :=
  dto.settings.getD .empty

/-- The request that sets nothing. -/
def UpdateWorkspaceDto.empty (id : String) : UpdateWorkspaceDto :=
  ⟨id, none, none, none, none, none, none, none⟩

/-- `{ id, settings }` -/
def SettingsDto.update (settings : SettingsDto) (id : String) : UpdateWorkspaceDto :=
  { UpdateWorkspaceDto.empty id with settings := some settings }

/-- `{ filters }` -/
def SettingsDto.ofFilters (filters : List FilterRow) : SettingsDto :=
  { SettingsDto.empty with filters := some (some filters) }

namespace WorkspacesService

/-! ### Reads -/

/-- The freshest row of the workspace.  Of two with one stamp the database may return
either; this is the one inserted last. -/
def get (rows : List WorkspaceRow) (id : String) : Option WorkspaceRow :=
  Replacing.survivor WorkspaceRow.id WorkspaceRow.updatedAt id rows

/-- The freshest row of every workspace of `ids`, or of all of them, by their creation. -/
def list (rows : List WorkspaceRow) (ids : Option (List String)) : List WorkspaceRow :=
  (Replacing.final WorkspaceRow.id WorkspaceRow.updatedAt
    (rows.filter fun row => ids.all fun ids => ids.contains row.id)).insertionSort
      fun a b => b.createdAt ≤ a.createdAt

/-! ### The rows that are written -/

/-- `now > workspace.updated_at ? now : bumpMillis(workspace.updated_at)`, where `bumpMillis`
may throw. -/
def nextUpdatedAt (now : Int) (updatedAt : String) : Option String :=
  if updatedAt < toClickHouseDateTime now then some (toClickHouseDateTime now)
  else bumpMillis updatedAt

/-- `{ ...workspace.settings, ...definedSettings }` -/
def mergedSettings (dto : SettingsDto) (settings : StoredSettings) : StoredSettings where
  filters := dto.filters.getD settings.filters
  dashboardLayout := dto.dashboardLayout.getD settings.dashboardLayout
  others key := (dto.others key).orElse fun _ => settings.others key

def updated (dto : UpdateWorkspaceDto) (workspace : WorkspaceRow) (updatedAt : String) :
    WorkspaceRow where
  id := workspace.id
  name := dto.name.getD workspace.name
  website := dto.website.getD workspace.website
  timezone := dto.timezone.getD workspace.timezone
  currency := dto.currency.getD workspace.currency
  logoUrl := dto.logoUrl.orElse fun _ => workspace.logoUrl
  status := dto.status.getD workspace.status
  createdAt := workspace.createdAt
  updatedAt := updatedAt
  settings := dto.settings.elim workspace.settings fun settings =>
    mergedSettings settings workspace.settings

def activated (workspace : WorkspaceRow) (updatedAt : String) : WorkspaceRow :=
  { workspace with status := .active, updatedAt := updatedAt }

/-- `DEFAULT_WORKSPACE_SETTINGS`, but for the filters, which are `[]`. -/
def DEFAULT_WORKSPACE_SETTINGS : SettingsKey → Option String
  | .timescoreReference => some "60"
  | .bounceThreshold => some "10"
  | .customDimensions => some "\x7b\x7d"
  | .integrations => some "[]"
  | .geoEnabled => some "true"
  | .geoStoreCity => some "true"
  | .geoStoreRegion => some "true"
  | .geoCoordinatesPrecision => some "2"
  | .annotations => some "[]"
  | _ => none

/-- `/^https?:\/\//i.test(website)` -/
def hasScheme (website : String) : Bool :=
  Text.startsWith (Text.asciiLower website) "http://" ||
    Text.startsWith (Text.asciiLower website) "https://"

/-- `host.replace(/^www\./, '')` -/
def withoutWww (hostname : String) : String :=
  if Text.startsWith hostname "www." then String.ofList (hostname.toList.drop 4) else hostname

def deriveAllowedDomains (host : Host) (website : String) : List String :=
  if website = "" then []
  else match host.parseUrl (if hasScheme website then website else "https://" ++ website) with
    | none => []
    | some url =>
        let hostname := host.toLowerCase url.hostname
        if hostname = "" then [] else ["*." ++ withoutWww hostname]

/-- The JSON text of a list of strings. -/
def stringsText (values : List String) : String :=
  "[" ++ ",".intercalate (values.map fun value => String.ofList (Json.quote value)) ++ "]"

/-- The row of `create`.  No request brings filters, so the default ones are used. -/
def newWorkspace (host : Host) (defaultFilters : List FilterRow) (dto : CreateWorkspaceDto)
    (now : String) : WorkspaceRow where
  id := dto.id
  name := dto.name
  website := dto.website
  timezone := dto.timezone
  currency := dto.currency
  logoUrl := dto.logoUrl
  status := .initializing
  createdAt := now
  updatedAt := now
  settings :=
    { filters := some defaultFilters
      dashboardLayout := none
      others := fun key =>
        let settings := (dto.settings key).orElse fun _ => DEFAULT_WORKSPACE_SETTINGS key
        let derived := deriveAllowedDomains host dto.website
        if key = .allowedDomains ∧ settings = none ∧ derived ≠ [] then some (stringsText derived)
        else settings }

/-- The row `update` inserts; `none` is a call that throws before it does, as there is no such
workspace or the stamp cannot be raised. -/
def update (rows : List WorkspaceRow) (dto : UpdateWorkspaceDto) (now : Int) :
    Option WorkspaceRow :=
  (get rows dto.id).bind fun workspace =>
    (nextUpdatedAt now workspace.updatedAt).map (updated dto workspace)

/-- The row `activateIfInitializing` inserts, if it inserts one. -/
def activateIfInitializing (rows : List WorkspaceRow) (id : String) (now : Int) :
    Option WorkspaceRow :=
  (get rows id).bind fun workspace =>
    if workspace.status ≠ .initializing then none
    else (nextUpdatedAt now workspace.updatedAt).map (activated workspace)

/-! ### What a row is after a write -/

theorem get_id {rows : List WorkspaceRow} {id : String} {workspace : WorkspaceRow}
    (h : get rows id = some workspace) : workspace.id = id :=
  (Replacing.survivor_key _ _ h).2

theorem get_mem {rows : List WorkspaceRow} {id : String} {workspace : WorkspaceRow}
    (h : get rows id = some workspace) : workspace ∈ rows :=
  (Replacing.survivor_key _ _ h).1

theorem get_append_of_ne {rows : List WorkspaceRow} {row : WorkspaceRow} {id : String}
    (h : row.id ≠ id) : get (rows ++ [row]) id = get rows id :=
  Replacing.survivor_append_of_ne _ _ h

/-- A row that is inserted is the freshest one unless its stamp is smaller. -/
theorem get_append_of_some {rows : List WorkspaceRow} {row workspace : WorkspaceRow} {id : String}
    (h : get rows id = some workspace) (hid : row.id = id) :
    get (rows ++ [row]) id =
      some (if row.updatedAt < workspace.updatedAt then workspace else row) :=
  Replacing.survivor_append_of_some _ _ h hid

@[simp] theorem updated_id (dto : UpdateWorkspaceDto) (workspace : WorkspaceRow)
    (updatedAt : String) : (updated dto workspace updatedAt).id = workspace.id := rfl

@[simp] theorem updated_updatedAt (dto : UpdateWorkspaceDto) (workspace : WorkspaceRow)
    (updatedAt : String) : (updated dto workspace updatedAt).updatedAt = updatedAt := rfl

@[simp] theorem updated_status (dto : UpdateWorkspaceDto) (workspace : WorkspaceRow)
    (updatedAt : String) :
    (updated dto workspace updatedAt).status = dto.status.getD workspace.status := rfl

@[simp] theorem updated_settings (dto : UpdateWorkspaceDto) (workspace : WorkspaceRow)
    (updatedAt : String) : (updated dto workspace updatedAt).settings =
      mergedSettings dto.definedSettings workspace.settings := by
  show dto.settings.elim _ _ = mergedSettings (dto.settings.getD .empty) _
  cases dto.settings with
  | none => rfl
  | some settings => rfl

@[simp] theorem activated_id (workspace : WorkspaceRow) (updatedAt : String) :
    (activated workspace updatedAt).id = workspace.id := rfl

@[simp] theorem activated_updatedAt (workspace : WorkspaceRow) (updatedAt : String) :
    (activated workspace updatedAt).updatedAt = updatedAt := rfl

end WorkspacesService

end Veridian
