/-
The dashboard layout of a workspace.

Three writers reach it.  `setLayout` merges field by field over the stored layout and checks
the whole; provisioning writes a preset that names native widgets; and an update of the
settings replaces the layout by the one of its request, which may have any `order` and knows
no widgets.  `Layouts` is what the last one has to meet.
-/
import Veridian.Lib.Machine
import Veridian.Workspaces.Workspace

namespace Veridian

open WorkspacesService

/-! ### `setLayout` -/

/-- `dto.dashboard_layout`: `none` is a key that is not there, `some none` is `null`. -/
structure DashboardLayoutM2MDto where
  hiddenWidgets : Option (Option (List String))
  order : Option (Option (List String))
  widgets : Option (Option (List DashboardWidget))

structure SetLayoutDto where
  workspaceId : String
  dashboardLayout : DashboardLayoutM2MDto

inductive SetLayoutError where
  | workspaceNotFound (workspaceId : String)
  | invalidWidgetConfig (message : List String)
  /-- The update threw. -/
  | notUpdated

def SetLayoutError.messages : SetLayoutError → List String
  | .workspaceNotFound workspaceId => ["Workspace " ++ workspaceId ++ " does not exist."]
  | .invalidWidgetConfig message => message
  | .notUpdated => []

/-- The ids of the custom widgets. -/
def DashboardLayout.widgetIds (layout : DashboardLayout) : List String :=
  (layout.widgets.getD []).map (·.id)

/-- `{ ...(ws.settings.dashboard_layout ?? {}), ...incoming }` -/
def mergedLayout (incoming : DashboardLayoutM2MDto) (stored : Option DashboardLayout) :
    DashboardLayout where
  hiddenWidgets := incoming.hiddenWidgets.getD (stored.bind (·.hiddenWidgets))
  order := incoming.order.getD (stored.bind (·.order))
  widgets := incoming.widgets.getD (stored.bind (·.widgets))

/-- The entries of `order` that name no widget. -/
def unknownKeys (layout : DashboardLayout) : List String :=
  (layout.order.getD []).filter fun key =>
    !isKnownDashboardWidget key && !layout.widgetIds.contains key

/-- `{ dashboard_layout }` -/
def SettingsDto.ofLayout (layout : DashboardLayout) : SettingsDto :=
  { SettingsDto.empty with dashboardLayout := some (some layout) }

/-- The row `setLayout` inserts. -/
def setLayout (catalog : WidgetCatalog) (rows : List WorkspaceRow) (dto : SetLayoutDto)
    (now : Int) : Except SetLayoutError WorkspaceRow :=
  match get rows dto.workspaceId with
  | none => .error (.workspaceNotFound dto.workspaceId)
  | some workspace =>
    match validateWidgetsArray catalog (dto.dashboardLayout.widgets.join.getD []) with
    | e :: es => .error (.invalidWidgetConfig (e :: es))
    | [] =>
      let merged := mergedLayout dto.dashboardLayout workspace.settings.dashboardLayout
      if unknownKeys merged ≠ [] then
        .error (.invalidWidgetConfig
          ["dashboard_layout.order references unknown widget(s): " ++
            ", ".intercalate (unknownKeys merged) ++
            " — each entry must be a native widget key or a defined custom widget id"])
      else match update rows ((SettingsDto.ofLayout merged).update dto.workspaceId) now with
        | none => .error .notUpdated
        | some row => .ok row

/-! ### Presets -/

inductive WorkspaceTemplateId where
  | ecommerce | vitrine | webapp

/-- `WORKSPACE_TEMPLATES[template].dashboard_layout` -/
def templateLayout : WorkspaceTemplateId → DashboardLayout
  | .ecommerce => ⟨none, some ["goals", "pages", "sources", "campaigns", "devices", "countries",
      "page_views", "heatmap"], none⟩
  | .vitrine => ⟨none, some ["goals", "sources", "pages", "countries", "devices", "campaigns",
      "page_views", "heatmap"], none⟩
  | .webapp => ⟨none, some ["sources", "goals", "campaigns", "pages", "devices", "page_views",
      "countries", "heatmap"], none⟩

/-- A preset without widgets that are not valid. -/
def presetLayout (catalog : WidgetCatalog) (layout : DashboardLayout) : DashboardLayout :=
  if validateWidgetsArray catalog (layout.widgets.getD []) = [] then layout
  else { layout with widgets := none }

/-- The row `applyProvisioningTemplate` inserts; `others` are the branding, the features and
the mapping of the preset. -/
def applyProvisioningTemplate (catalog : WidgetCatalog)
    (others : WorkspaceTemplateId → SettingsKey → Option String) (rows : List WorkspaceRow)
    (workspaceId : String) (template : WorkspaceTemplateId) (now : Int) : Option WorkspaceRow :=
  let settings : SettingsDto :=
    { filters := none
      dashboardLayout := some (some (presetLayout catalog (templateLayout template)))
      others := others template }
  update rows (settings.update workspaceId) now

/-! ### One operation after the other -/

/-- A request of `workspaces.update` or `workspaces.updateSettings`; its `DashboardLayoutDto`
has no `widgets`, and a key that a DTO does not declare is stripped. -/
structure UpdateWorkspaceRequest where
  dto : UpdateWorkspaceDto
  widgets_none : ∀ layout, dto.definedSettings.dashboardLayout = some (some layout) →
    layout.widgets = none

inductive LayoutOp where
  /-- A workspace is created under a free id, and its preset is applied. -/
  | provision (dto : CreateWorkspaceDto) (defaultFilters : List FilterRow)
      (template : Option WorkspaceTemplateId) (created applied : Int)
  | setLayout (dto : SetLayoutDto) (now : Int)
  | update (request : UpdateWorkspaceRequest) (now : Int)

/-- What the operations take from the source's constants and the host. -/
structure LayoutHost where
  host : Host
  catalog : WidgetCatalog
  templateOthers : WorkspaceTemplateId → SettingsKey → Option String

/-- The rows an operation inserts. -/
def LayoutOp.inserted (h : LayoutHost) (rows : List WorkspaceRow) :
    LayoutOp → List WorkspaceRow
  | .provision dto defaultFilters template created applied =>
      if (get rows dto.id).isSome then []
      else
        let row := newWorkspace h.host defaultFilters dto (toClickHouseDateTime created)
        row :: (template.bind fun template => applyProvisioningTemplate h.catalog h.templateOthers
          (rows ++ [row]) dto.id template applied).toList
  | .setLayout dto now => (Veridian.setLayout h.catalog rows dto now).toOption.toList
  | .update request now => (WorkspacesService.update rows request.dto now).toList

def layoutStep (h : LayoutHost) (rows : List WorkspaceRow) (op : LayoutOp) :
    Option (List WorkspaceRow) :=
  some (rows ++ op.inserted h rows)

/-- The request says something about widgets. -/
def LayoutOp.mentionsWidgets : LayoutOp → Bool
  | .setLayout dto _ => dto.dashboardLayout.widgets.isSome
  | _ => false

/-! ### Layouts that can be resolved -/

/-- Every entry of `order` names a widget, and every custom widget has an id of its own. -/
structure DashboardLayout.Resolvable (layout : DashboardLayout) : Prop where
  order : ∀ key ∈ layout.order.getD [],
    isKnownDashboardWidget key = true ∨ key ∈ layout.widgetIds
  ids : layout.widgetIds.Nodup

def WorkspaceRow.Resolvable (workspace : WorkspaceRow) : Prop :=
  ∀ layout ∈ workspace.settings.dashboardLayout, layout.Resolvable

def WorkspaceRow.storedWidgets (workspace : WorkspaceRow) : List DashboardWidget :=
  (workspace.settings.dashboardLayout.bind (·.widgets)).getD []

/-- A request that replaces the layout names native widgets only, and there are no custom ones
to lose. -/
def Layouts (rows : List WorkspaceRow) : LayoutOp → Prop
  | .update request _ => ∀ layout ∈ request.dto.definedSettings.dashboardLayout,
      (∀ key ∈ (layout.bind (·.order)).getD [], isKnownDashboardWidget key = true) ∧
        ∀ workspace ∈ get rows request.dto.id, workspace.storedWidgets = []
  | _ => True

instance (rows : List WorkspaceRow) : ∀ op, Decidable (Layouts rows op)
  | .update request _ => inferInstanceAs
      (Decidable (∀ layout ∈ request.dto.definedSettings.dashboardLayout, _ ∧
        ∀ workspace ∈ get rows request.dto.id, _))
  | .setLayout _ _ => isTrue trivial
  | .provision _ _ _ _ _ => isTrue trivial

/-! ### What an operation inserts -/

section Operations

variable {h : LayoutHost} {rows : List WorkspaceRow} {row workspace : WorkspaceRow}

theorem update_eq_some {dto : UpdateWorkspaceDto} {now : Int}
    (hupdate : WorkspacesService.update rows dto now = some row) :
    ∃ workspace, get rows dto.id = some workspace ∧ row.id = dto.id ∧
      row.settings.dashboardLayout =
        dto.definedSettings.dashboardLayout.getD workspace.settings.dashboardLayout := by
  obtain ⟨workspace, hget, hmap⟩ := Option.bind_eq_some_iff.mp hupdate
  obtain ⟨next, -, rfl⟩ := Option.map_eq_some_iff.mp hmap
  have hid : workspace.id = dto.id := get_id hget
  refine ⟨workspace, hget, hid, ?_⟩
  rw [updated_settings]
  rfl

/-- **What `setLayout` stores can be resolved**, and has the widgets that were there if it says
nothing about them. -/
theorem setLayout_eq_ok {catalog : WidgetCatalog} {dto : SetLayoutDto} {now : Int}
    (hset : setLayout catalog rows dto now = .ok row) :
    ∃ workspace, get rows dto.workspaceId = some workspace ∧ row.id = dto.workspaceId ∧
      (workspace.Resolvable → row.Resolvable) ∧
      (dto.dashboardLayout.widgets.isSome = false →
        row.storedWidgets = workspace.storedWidgets) := by
  unfold setLayout at hset
  rcases hget : get rows dto.workspaceId with _ | workspace
  · rw [hget] at hset
    exact absurd hset (by simp)
  rw [hget] at hset
  dsimp only at hset
  rcases hvalid : validateWidgetsArray catalog (dto.dashboardLayout.widgets.join.getD [])
    with _ | ⟨e, es⟩
  swap
  · rw [hvalid] at hset
    exact absurd hset (by simp)
  rw [hvalid] at hset
  dsimp only at hset
  split_ifs at hset with hunknown
  rcases hupdate : update rows ((SettingsDto.ofLayout (mergedLayout dto.dashboardLayout
    workspace.settings.dashboardLayout)).update dto.workspaceId) now with _ | row'
  · rw [hupdate] at hset
    exact absurd hset (by simp)
  rw [hupdate] at hset
  obtain rfl := Except.ok.inj hset
  obtain ⟨workspace', hget', hid, hlayout⟩ := update_eq_some hupdate
  have hmerged : row'.settings.dashboardLayout =
      some (mergedLayout dto.dashboardLayout workspace.settings.dashboardLayout) := hlayout
  refine ⟨workspace, rfl, hid, fun hstored layout hl => ?_, fun hwidgets => ?_⟩
  · obtain rfl := Option.some.inj (hmerged.symm.trans hl)
    refine ⟨fun key hkey => ?_, ?_⟩
    · by_contra hnot
      obtain ⟨hnative, hcustom⟩ := not_or.mp hnot
      have hmem : key ∈ unknownKeys
          (mergedLayout dto.dashboardLayout workspace.settings.dashboardLayout) :=
        List.mem_filter.mpr
          ⟨hkey, by simpa using ⟨Bool.eq_false_of_not_eq_true hnative, hcustom⟩⟩
      rw [not_not.mp hunknown] at hmem
      exact List.not_mem_nil hmem
    · show (((mergedLayout _ _).widgets.getD []).map (·.id)).Nodup
      rcases hincoming : dto.dashboardLayout.widgets with _ | widgets
      · rw [mergedLayout, hincoming]
        rcases hl' : workspace.settings.dashboardLayout with _ | layout
        · exact List.nodup_nil
        · exact (hstored layout hl').ids
      · rw [mergedLayout, hincoming]
        rw [hincoming] at hvalid
        exact (validateWidgetsArray_eq_nil hvalid).2.1
  · have hnone : dto.dashboardLayout.widgets = none := Option.isSome_eq_false_iff.mp hwidgets
      |> Option.isNone_iff_eq_none.mp
    rw [WorkspaceRow.storedWidgets, hmerged]
    show (mergedLayout _ _).widgets.getD [] = _
    rw [mergedLayout, hnone]
    rfl

/-- What a preset leaves is native. -/
theorem presetLayout_templateLayout (catalog : WidgetCatalog) (template : WorkspaceTemplateId) :
    presetLayout catalog (templateLayout template) = templateLayout template := by
  unfold presetLayout
  split
  · rfl
  · cases template <;> rfl

theorem templateLayout_resolvable (template : WorkspaceTemplateId) :
    (templateLayout template).Resolvable := by
  have hnative : ∀ key ∈ (templateLayout template).order.getD [],
      isKnownDashboardWidget key = true := by
    cases template <;> decide
  refine ⟨fun key hkey => Or.inl (hnative key hkey), ?_⟩
  cases template <;> exact List.nodup_nil

/-! ### Every row that is inserted -/

def LayoutsResolvable (rows : List WorkspaceRow) : Prop :=
  ∀ id workspace, get rows id = some workspace → workspace.Resolvable

theorem LayoutsResolvable.append (hrows : LayoutsResolvable rows) (hrow : row.Resolvable) :
    LayoutsResolvable (rows ++ [row]) := by
  intro id workspace hget
  by_cases hid : row.id = id
  · rcases hbefore : get rows id with _ | before
    · obtain rfl := Option.some.inj
        ((Replacing.survivor_append_of_none _ _ hbefore hid).symm.trans hget)
      exact hrow
    · rw [get_append_of_some hbefore hid] at hget
      obtain rfl := Option.some.inj hget
      split
      · exact hrows id before hbefore
      · exact hrow
  · rw [get_append_of_ne hid] at hget
    exact hrows id workspace hget

/-- The widgets of a workspace are still there. -/
def WidgetsKept (rows rows' : List WorkspaceRow) : Prop :=
  ∀ id workspace, get rows id = some workspace →
    ∃ after, get rows' id = some after ∧ after.storedWidgets = workspace.storedWidgets

theorem widgetsKept_append (hrow : ∀ workspace, get rows row.id = some workspace →
    row.storedWidgets = workspace.storedWidgets) : WidgetsKept rows (rows ++ [row]) := by
  intro id workspace hget
  by_cases hid : row.id = id
  · subst hid
    rw [get_append_of_some hget rfl]
    split
    · exact ⟨workspace, rfl, rfl⟩
    · exact ⟨row, rfl, hrow workspace hget⟩
  · rw [get_append_of_ne hid]
    exact ⟨workspace, hget, rfl⟩

theorem WidgetsKept.trans {rows' rows'' : List WorkspaceRow} (h₁ : WidgetsKept rows rows')
    (h₂ : WidgetsKept rows' rows'') : WidgetsKept rows rows'' := by
  intro id workspace hget
  obtain ⟨after, hafter, hsame⟩ := h₁ id workspace hget
  obtain ⟨last, hlast, hsame'⟩ := h₂ id after hafter
  exact ⟨last, hlast, hsame'.trans hsame⟩

/-- The layout of the row that a preset is written to, and of one that is updated without
one. -/
theorem update_kept {dto : UpdateWorkspaceDto} {now : Int} (hrows : LayoutsResolvable rows)
    (hlayout : ∀ layout, dto.definedSettings.dashboardLayout = some (some layout) →
      layout.Resolvable ∧ layout.widgets = none)
    (hlost : dto.definedSettings.dashboardLayout ≠ none →
      ∀ workspace ∈ get rows dto.id, workspace.storedWidgets = [])
    (hupdate : WorkspacesService.update rows dto now = some row) :
    row.Resolvable ∧ ∀ workspace, get rows row.id = some workspace →
      row.storedWidgets = workspace.storedWidgets := by
  obtain ⟨workspace, hget, hid, hrow⟩ := update_eq_some hupdate
  rcases hset : dto.definedSettings.dashboardLayout with _ | layout
  · -- the layout is copied
    rw [hset, Option.getD_none] at hrow
    refine ⟨fun layout hl => hrows _ workspace hget layout (hrow ▸ hl), fun workspace' hget' => ?_⟩
    rw [hid] at hget'
    obtain rfl := Option.some.inj (hget.symm.trans hget')
    rw [WorkspaceRow.storedWidgets, hrow]
    rfl
  · -- the layout is replaced
    rw [hset, Option.getD_some] at hrow
    refine ⟨fun l hl => ?_, fun workspace' hget' => ?_⟩
    · rw [hrow] at hl
      exact (hlayout l (hset.trans (congrArg some hl))).1
    · rw [hid] at hget'
      rw [hlost (hset ▸ Option.some_ne_none layout) workspace' hget', WorkspaceRow.storedWidgets,
        hrow]
      cases layout with
      | none => rfl
      | some l =>
          show l.widgets.getD [] = []
          rw [(hlayout l hset).2]
          rfl

theorem newWorkspace_kept {row : WorkspaceRow} (hrows : LayoutsResolvable rows)
    (hnone : get rows row.id = none) (hlayout : row.settings.dashboardLayout = none) :
    LayoutsResolvable (rows ++ [row]) ∧ WidgetsKept rows (rows ++ [row]) := by
  refine ⟨hrows.append fun layout hl => ?_, widgetsKept_append fun workspace hget => ?_⟩
  · exact absurd (hlayout.symm.trans hl) (Option.some_ne_none layout).symm
  · exact absurd (hnone.symm.trans hget) (Option.some_ne_none workspace).symm

/-- The preset of a workspace that has no layout yet. -/
theorem applyProvisioningTemplate_kept {id : String} {template : WorkspaceTemplateId}
    {applied : Int} {preset : WorkspaceRow} (hrows : LayoutsResolvable rows)
    (hget : get rows id = some row) (hlayout : row.settings.dashboardLayout = none)
    (happly : applyProvisioningTemplate h.catalog h.templateOthers rows id template applied =
      some preset) :
    LayoutsResolvable (rows ++ [preset]) ∧ WidgetsKept rows (rows ++ [preset]) := by
  obtain ⟨hresolvable, hwidgets⟩ := update_kept hrows
    (fun layout hset => by
      obtain rfl := Option.some.inj (Option.some.inj hset)
      rw [presetLayout_templateLayout]
      exact ⟨templateLayout_resolvable template, by cases template <;> rfl⟩)
    (fun _ workspace hworkspace => by
      obtain rfl := Option.some.inj (hget.symm.trans hworkspace)
      rw [WorkspaceRow.storedWidgets, hlayout]
      rfl) happly
  exact ⟨hrows.append hresolvable, widgetsKept_append hwidgets⟩

/-- **One operation that meets `Layouts` leaves every layout one that can be resolved, and the
widgets it says nothing about.** -/
theorem layoutStep_kept {op : LayoutOp} {rows' : List WorkspaceRow}
    (hrows : LayoutsResolvable rows) (hop : Layouts rows op)
    (hstep : layoutStep h rows op = some rows') :
    LayoutsResolvable rows' ∧ (op.mentionsWidgets = false → WidgetsKept rows rows') := by
  obtain rfl := Option.some.inj hstep
  have hsame : LayoutsResolvable (rows ++ []) ∧ (op.mentionsWidgets = false →
      WidgetsKept rows (rows ++ [])) := by
    rw [List.append_nil]
    exact ⟨hrows, fun _ _ workspace hget => ⟨workspace, hget, rfl⟩⟩
  cases op with
  | provision dto defaultFilters template created applied =>
      rw [LayoutOp.inserted]
      split
      · exact hsame
      · rename_i hfree
        set row := newWorkspace h.host defaultFilters dto (toClickHouseDateTime created)
        have hnone : get rows row.id = none := Option.not_isSome_iff_eq_none.mp hfree
        obtain ⟨hcreated, hkept⟩ := newWorkspace_kept hrows hnone rfl
        show LayoutsResolvable (rows ++ row :: Option.toList _) ∧ (_ →
          WidgetsKept rows (rows ++ row :: Option.toList _))
        rcases happlied : template.bind fun template => applyProvisioningTemplate h.catalog
          h.templateOthers (rows ++ [row]) dto.id template applied with _ | preset
        · exact ⟨hcreated, fun _ => hkept⟩
        · obtain ⟨template, -, happly⟩ := Option.bind_eq_some_iff.mp happlied
          have hget : get (rows ++ [row]) dto.id = some row :=
            Replacing.survivor_append_of_none _ _ hnone rfl
          obtain ⟨hresolvable, hpreset⟩ := applyProvisioningTemplate_kept hcreated hget rfl happly
          have hboth : rows ++ row :: (some preset).toList = rows ++ [row] ++ [preset] :=
            (List.append_assoc rows [row] [preset]).symm
          rw [hboth]
          exact ⟨hresolvable, fun _ => hkept.trans hpreset⟩
  | setLayout dto now =>
      rw [LayoutOp.inserted]
      rcases hset : setLayout h.catalog rows dto now with e | row
      · exact hsame
      · obtain ⟨workspace, hget, hid, hresolvable, hwidgets⟩ := setLayout_eq_ok hset
        refine ⟨hrows.append (hresolvable (hrows _ workspace hget)), fun hmentions =>
          widgetsKept_append fun workspace' hget' => ?_⟩
        rw [hid] at hget'
        obtain rfl := Option.some.inj (hget.symm.trans hget')
        exact hwidgets hmentions
  | update request now =>
      rw [LayoutOp.inserted]
      rcases hupdate : WorkspacesService.update rows request.dto now with _ | row
      · exact hsame
      · obtain ⟨hresolvable, hwidgets⟩ := update_kept hrows
          (fun layout hlayout => by
            have hnone := request.widgets_none layout hlayout
            obtain ⟨hnative, -⟩ := hop (some layout) hlayout
            refine ⟨⟨fun key hkey => Or.inl (hnative key hkey), ?_⟩, hnone⟩
            rw [DashboardLayout.widgetIds, hnone]
            exact List.nodup_nil)
          (fun hset => by
            obtain ⟨layout, hlayout⟩ := Option.ne_none_iff_exists'.mp hset
            exact (hop layout hlayout).2) hupdate
        exact ⟨hrows.append hresolvable, fun _ => widgetsKept_append hwidgets⟩

end Operations

/-- **In a run whose operations meet `Layouts` every layout that is stored can be resolved,
after each of them, and one that says nothing about widgets leaves them as they are.** -/
theorem dashboard_layouts_resolvable (h : LayoutHost) (ops : List LayoutOp) (op : LayoutOp)
    (rows rows' : List WorkspaceRow)
    (hmeets : Machine.Meets (layoutStep h) Layouts [] (ops ++ [op]))
    (hrun : Machine.exec (layoutStep h) [] ops = some rows)
    (hstep : layoutStep h rows op = some rows') :
    LayoutsResolvable rows' ∧ (op.mentionsWidgets = false → WidgetsKept rows rows') := by
  obtain ⟨hbefore, hop, -⟩ := Machine.meets_append hmeets hrun
  have hrows : LayoutsResolvable rows :=
    Machine.exec_invariant_of_meets (P := LayoutsResolvable)
      (fun _ _ _ hs hC hst => (layoutStep_kept hs hC hst).1)
      (fun _ workspace hget => absurd (get_mem hget) List.not_mem_nil) hbefore hrun
  exact layoutStep_kept hrows hop hstep

namespace LayoutExample

def catalog : WidgetCatalog where
  safeMetrics := [("sessions", [.sessions])]
  safeDimensions := []
  metrics := [("sessions", [.sessions])]
  dimensions := []

def layoutHost : LayoutHost := ⟨Host.bare, catalog, fun _ _ => none⟩

def visits : DashboardWidget where
  id := "visits"
  kind := .metricCard
  title := "Visits"
  metric := "sessions"
  table := none
  dimension := none
  granularity := none
  filters := none
  limit := none

def provision : LayoutOp :=
  .provision ⟨"w1", "Acme", "acme.io", "Europe/Paris", "EUR", none, fun _ => none⟩ []
    (some .webapp) 0 10

/-- A custom widget, and its place. -/
def addWidget : LayoutOp :=
  .setLayout ⟨"w1", none, some (some ["goals", "visits"]), some (some [visits])⟩ 20

def orderDto (order : List String) : UpdateWorkspaceDto :=
  (SettingsDto.ofLayout ⟨none, some order, none⟩).update "w1"

theorem orderDto_widgets (order : List String) (layout : DashboardLayout)
    (h : (orderDto order).definedSettings.dashboardLayout = some (some layout)) :
    layout.widgets = none := by
  obtain rfl := Option.some.inj (Option.some.inj h)
  rfl

/-- A new order through the settings. -/
def reorder (order : List String) : LayoutOp :=
  .update ⟨orderDto order, orderDto_widgets order⟩ 30

def renameDto : UpdateWorkspaceDto := { UpdateWorkspaceDto.empty "w1" with name := some "Acme 2" }

theorem renameDto_widgets (layout : DashboardLayout)
    (h : renameDto.definedSettings.dashboardLayout = some (some layout)) :
    layout.widgets = none :=
  absurd h (Option.some_ne_none _).symm

def rename : LayoutOp := .update ⟨renameDto, renameDto_widgets⟩ 30

def run (ops : List LayoutOp) : Option (List WorkspaceRow) :=
  Machine.exec (layoutStep layoutHost) [] ops

/-- The custom widgets that are stored, and the entries of `order` that name none. -/
def seen (rows : List WorkspaceRow) : Option (List String × List String) :=
  (get rows "w1").map fun workspace =>
    (workspace.storedWidgets.map (·.id),
      (workspace.settings.dashboardLayout.map unknownKeys).getD [])

end LayoutExample

open LayoutExample in
/-- A new order through the settings drops the custom widget, and may name anything. -/
theorem dashboard_layout_lost :
    (run [provision, addWidget]).map seen = some (some (["visits"], [])) ∧
    (run [provision, addWidget, reorder ["visits", "goals"]]).map seen =
      some (some ([], ["visits"])) ∧
    (run [provision, reorder ["gaols"]]).map seen = some (some ([], ["gaols"])) := by
  refine ⟨by decide, by decide, by decide⟩

open LayoutExample in
theorem dashboard_layouts_resolvable_renamed :
    ∃ rows rows', run [provision, addWidget] = some rows ∧
      layoutStep layoutHost rows rename = some rows' ∧ LayoutsResolvable rows' ∧
      WidgetsKept rows rows' := by
  obtain ⟨rows, hrows⟩ : ∃ rows, run [provision, addWidget] = some rows :=
    Option.isSome_iff_exists.mp (by decide)
  have hmeets : Machine.Meets (layoutStep layoutHost) Layouts []
      ([provision, addWidget] ++ [rename]) := by decide
  obtain ⟨hresolvable, hkept⟩ := dashboard_layouts_resolvable layoutHost [provision, addWidget]
    rename rows _ hmeets hrows rfl
  exact ⟨rows, _, hrows, rfl, hresolvable, hkept rfl⟩

end Veridian
