/-
Which site the Search Console dashboard shows.

`gsc_daily` knows a property by its id.  `upsertProperty` keeps the id of the property a
workspace has and writes the site of the new consent over the old one, and a sync replaces a
recent window only, so what was pulled for the old site stays under the id of the new one.

A row of `gsc_daily` carries here the site it was pulled for, which the table does not store.
A run is a sequence of callbacks, syncs and disconnections, with rows of `gsc_daily` going at
a time of the database's own.  A sync is given what becomes of it: its access token, the
answers and failures of every search type, and whether it comes to `markSynced`.
-/
import Veridian.Gsc.PropertySync

namespace Veridian.DashboardSite

open Gsc Replacing

/-! ### Daily rows -/

/-- `ORDER BY (gsc_property_id, search_type, date, query, page, country, device)`. -/
structure GscDailyKey where
  gscPropertyId : String
  searchType : GscSearchType
  /-- A `Date`, as the number of its day. -/
  date : Int
  query : String
  page : String
  country : String
  device : String
  deriving DecidableEq

structure GscDailyRow where
  key : GscDailyKey
  workspaceId : String
  updatedAt : Int
  /-- The site the row was pulled for. -/
  pulledFor : String
  deriving DecidableEq

/-- The rows that a read with `FINAL` finds. -/
def readFinal (daily : List (Stored GscDailyRow)) : List GscDailyRow :=
  (final (fun r : Stored GscDailyRow => r.row.key) (fun r => r.row.updatedAt) daily).map Stored.row

def dayMs : Int := 86400000

/-- `toISOString().slice(0, 10)`. -/
def isoDay (ms : Int) : Int := ms / dayMs

structure Store where
  properties : List GscProperty
  daily : List (Stored GscDailyRow)
  deriving DecidableEq

/-! ### A sync -/

/-- `dateOf` reads the text of a date. -/
def parseRow (dateOf : String → Int) (prop : GscProperty) (searchType : GscSearchType)
    (updatedAt : Int) (raw : GscRawRow) : Option GscDailyRow :=
  if isParsed raw then
    some
      { key :=
          { gscPropertyId := prop.id
            searchType
            date := dateOf (raw.keys.getD 0 "")
            query := raw.keys.getD 1 ""
            page := raw.keys.getD 2 ""
            country := raw.keys.getD 3 ""
            device := raw.keys.getD 4 "" }
        workspaceId := prop.workspaceId
        updatedAt
        pulledFor := prop.siteUrl }
  else none

/-- The `DELETE` of the window, and as many batches as are inserted before one fails. -/
def replaceDailyWindow (gscPropertyId : String) (searchType : GscSearchType)
    (startDate endDate : Int) (rows : List GscDailyRow) (batches : Nat)
    (daily : List (Stored GscDailyRow)) : List (Stored GscDailyRow) :=
  deleteWhere (fun r => r.key.gscPropertyId = gscPropertyId ∧ r.key.searchType = searchType ∧
      startDate ≤ r.key.date ∧ r.key.date ≤ endDate) daily ++
    (rows.take (batchSize * batches)).map fun r => ⟨r, false⟩

/-- What `getAccessToken` comes to. -/
inductive AccessToken where
  | failed
  | valid
  | refreshed (oauthTokensEncrypted : String) (now : Int)
  deriving DecidableEq

/-- What the pull of one search type comes to; one that fails has written nothing. -/
inductive Pulled where
  | failed
  | replaced (rawRows : List GscRawRow) (batches : Nat) (now : Int)

structure SyncRun where
  now : Int
  days : Int
  accessToken : AccessToken
  pulled : List (GscSearchType × Pulled)
  /-- The time of `markSynced`, unless the sync does not come to it. -/
  markedAt : Option Int

def pullType (dateOf : String → Int) (prop : GscProperty) (now days : Int) (s : Store) :
    GscSearchType × Pulled → Store
  | (_, .failed) => s
  | (searchType, .replaced rawRows batches insertedAt) =>
      let endDate := now - 2 * dayMs
      let startDate := endDate - (days - 1) * dayMs
      { s with
        daily := replaceDailyWindow prop.id searchType (isoDay startDate) (isoDay endDate)
          (rawRows.filterMap (parseRow dateOf prop searchType insertedAt)) batches s.daily }

def Store.insertProperty (s : Store) (row : GscProperty) : Store :=
  { s with properties := s.properties ++ [row] }

def syncProperty (dateOf : String → Int) (prop : GscProperty) (run : SyncRun) (s : Store) : Store :=
  if prop.siteUrl = "" ∨ prop.ownershipState ≠ .verified then s
  else
    let pulls (s : Store) : Store :=
      let s := run.pulled.foldl (pullType dateOf prop run.now run.days) s
      match run.markedAt with
      | none => s
      | some now => s.insertProperty (markSynced prop now)
    match run.accessToken with
    | .failed => s
    | .valid => pulls s
    | .refreshed encrypted now => pulls (s.insertProperty (updateTokens prop encrypted now))

/-! ### The dashboard -/

structure DashboardOpts where
  workspaceId : String
  days : Int
  searchType : GscSearchType
  now : Int

structure ConnectedProperty where
  id : String
  siteUrl : String
  deriving DecidableEq

/-- The property that is reported, and the rows that the four queries aggregate. -/
structure DashboardSummary where
  property : Option ConnectedProperty
  rows : List GscDailyRow
  deriving DecidableEq

def dashboardSummary (s : Store) (opts : DashboardOpts) : DashboardSummary :=
  match findPropertyByWorkspace s.properties opts.workspaceId with
  | none => ⟨none, []⟩
  | some prop =>
      if prop.ownershipState ≠ .verified ∨ prop.siteUrl = "" then ⟨none, []⟩
      else
        let endDate := opts.now - 2 * dayMs
        let startDate := endDate - (max opts.days 1 - 1) * dayMs
        ⟨some ⟨prop.id, prop.siteUrl⟩, (readFinal s.daily).filter fun r =>
          r.key.gscPropertyId = prop.id ∧ r.key.searchType = opts.searchType ∧
            isoDay startDate ≤ r.key.date ∧ r.key.date ≤ isoDay endDate⟩

/-! ### Runs -/

inductive Action where
  /-- `handleCallback` with the site that `pickSite` has found, if any. -/
  | callback (workspaceId : String) (siteUrl : Option String) (oauthTokensEncrypted : String)
      (now : Int) (newId : String)
  | resync (workspaceId : String) (run : SyncRun)
  /-- The runs are those of the first properties, in the order they were read. -/
  | syncAllVerified (runs : List SyncRun)
  | disconnect (workspaceId : String) (now : Int)
  /-- A row of `gsc_daily` goes. -/
  | vanish (i : Nat)

/-- What `handleCallback` passes on. -/
def callbackInput (workspaceId : String) (siteUrl : Option String)
    (oauthTokensEncrypted : String) : UpsertInput where
  workspaceId
  siteUrl := siteUrl.getD ""
  ownershipState := if siteUrl.getD "" = "" then .pending else .verified
  oauthTokensEncrypted

def step (dateOf : String → Int) (s : Store) : Action → Option Store
  | .callback workspaceId siteUrl encrypted now newId =>
      -- generated ids are new
      if newId ∈ s.properties.map (·.id) then none
      else
        some (s.insertProperty (upsertProperty (callbackInput workspaceId siteUrl encrypted)
          (findPropertyByWorkspace s.properties workspaceId) now newId))
  | .resync workspaceId run =>
      match findPropertyByWorkspace s.properties workspaceId with
      | none => some s
      | some prop =>
          if prop.ownershipState ≠ .verified then some s
          else some (syncProperty dateOf prop run s)
  | .syncAllVerified runs =>
      some (((findVerifiedProperties s.properties).zip runs).foldl
        (fun s (prop, run) => syncProperty dateOf prop run s) s)
  | .disconnect workspaceId now =>
      match findPropertyByWorkspace s.properties workspaceId with
      | none => some s
      | some prop => some (s.insertProperty (softDelete prop now))
  | .vanish i =>
      if mayVanish GscDailyRow.key GscDailyRow.updatedAt s.daily i then
        some { s with daily := s.daily.eraseIdx i }
      else none

def Store.empty : Store := ⟨[], []⟩

/-- **The dashboard shows one site**: what it aggregates was pulled for the site it reports. -/
def OneSite (s : Store) : Prop :=
  ∀ opts property, (dashboardSummary s opts).property = some property →
    ∀ r ∈ (dashboardSummary s opts).rows, r.pulledFor = property.siteUrl

/-- What is asked of a callback that takes effect on the property a workspace has: that it
brings no site but the one the rows of that property were pulled for. -/
def SameSite (s : Store) : Action → Prop
  | .callback workspaceId siteUrl _ now newId =>
      newId ∉ s.properties.map (·.id) →
        ∀ existing, findPropertyByWorkspace s.properties workspaceId = some existing →
        existing.updatedAt ≤ now → siteUrl.getD "" ≠ "" →
        ∀ r ∈ s.daily, r.row.key.gscPropertyId = existing.id → r.row.pulledFor = siteUrl.getD ""
  | .resync _ _ | .syncAllVerified _ | .disconnect _ _ | .vanish _ => True

/-! ### What the table shows -/

abbrev inTable (properties : List GscProperty) : List GscProperty :=
  final GscProperty.key GscProperty.updatedAt properties

/-- The part of a row that a sync writes again as it was. -/
def lasting (p : GscProperty) : GscProperty :=
  { p with oauthTokensEncrypted := "", lastSyncAt := none, updatedAt := 0 }

def Shown (properties : List GscProperty) (v : GscProperty) : Prop :=
  ∃ m ∈ inTable properties, lasting m = v

/-- A property that the dashboard would report. -/
structure Reported (v : GscProperty) : Prop where
  active : v.deletedAt = none
  verified : v.ownershipState = .verified
  site : v.siteUrl ≠ ""

/-- The rows of one id are of one site, their property is there, an id belongs to one
workspace, and a workspace has one active property. -/
structure Sound (s : Store) : Prop where
  oneSite : ∀ r ∈ s.daily, ∀ r' ∈ s.daily, r.row.key.gscPropertyId = r'.row.key.gscPropertyId →
    r.row.pulledFor = r'.row.pulledFor
  known : ∀ r ∈ s.daily, r.row.key.gscPropertyId ∈ s.properties.map (·.id)
  ids : ∀ p ∈ s.properties, ∀ q ∈ s.properties, p.id = q.id → p.workspaceId = q.workspaceId
  unique : ∀ v w, Shown s.properties v → Shown s.properties w → v.deletedAt = none →
    w.deletedAt = none → v.workspaceId = w.workspaceId → v.id = w.id

/-- The rows of a property that can be reported were pulled for its site. -/
def Matched (s : Store) : Prop :=
  ∀ v, Shown s.properties v → Reported v →
    ∀ r ∈ s.daily, r.row.key.gscPropertyId = v.id → r.row.pulledFor = v.siteUrl

theorem key_of_lasting {p q : GscProperty} (h : lasting p = lasting q) : p.key = q.key := by
  have hkey := congrArg GscProperty.key h
  exact hkey

theorem shown_of_mem {properties : List GscProperty} {m : GscProperty}
    (hm : m ∈ inTable properties) : Shown properties (lasting m) := ⟨m, hm, rfl⟩

theorem Sound.eq_of_id {s : Store} (hs : Sound s) {v w : GscProperty}
    (hv : Shown s.properties v) (hw : Shown s.properties w) (hid : v.id = w.id) : v = w := by
  obtain ⟨m, hm, rfl⟩ := hv
  obtain ⟨n, hn, rfl⟩ := hw
  have hworkspace := hs.ids m (final_subset _ _ _ hm) n (final_subset _ _ _ hn) hid
  rw [eq_of_mem_final _ _ hm hn (Prod.ext hworkspace hid)]

theorem mem_of_find {properties : List GscProperty} {workspaceId : String} {p : GscProperty}
    (h : findPropertyByWorkspace properties workspaceId = some p) :
    p ∈ inTable properties ∧ p.workspaceId = workspaceId ∧ p.deletedAt = none := by
  have hmem := List.mem_of_mem_head? h
  rw [List.mem_insertionSort, List.mem_filter] at hmem
  exact ⟨hmem.1, of_decide_eq_true hmem.2⟩

/-- An active property of a workspace is the one that is found. -/
theorem Sound.find {s : Store} (hs : Sound s) {p : GscProperty} (hp : p ∈ inTable s.properties)
    (hactive : p.deletedAt = none) :
    findPropertyByWorkspace s.properties p.workspaceId = some p := by
  cases hfind : findPropertyByWorkspace s.properties p.workspaceId with
  | none =>
      have hnil := List.head?_eq_none_iff.mp hfind
      have hmem : p ∈ (inTable s.properties).filter fun q =>
          q.workspaceId = p.workspaceId ∧ q.deletedAt = none :=
        List.mem_filter.mpr ⟨hp, by simp [hactive]⟩
      rw [← List.mem_insertionSort fun a b : GscProperty => b.updatedAt ≤ a.updatedAt] at hmem
      exact absurd hmem (hnil ▸ List.not_mem_nil)
  | some q =>
      obtain ⟨hq, hworkspace, hlive⟩ := mem_of_find hfind
      have hid := hs.unique _ _ (shown_of_mem hq) (shown_of_mem hp) hlive hactive hworkspace
      rw [eq_of_mem_final _ _ hq hp (Prod.ext hworkspace hid)]

/-! ### What the dashboard aggregates -/

/-- The dashboard of a single day. -/
theorem dashboardSummary_of_day {s : Store} {p : GscProperty} {workspaceId : String}
    (hfind : findPropertyByWorkspace s.properties workspaceId = some p)
    (hverified : p.ownershipState = .verified) (hsite : p.siteUrl ≠ "")
    (searchType : GscSearchType) (d : Int) :
    dashboardSummary s ⟨workspaceId, 1, searchType, (d + 2) * dayMs⟩ =
      ⟨some ⟨p.id, p.siteUrl⟩, (readFinal s.daily).filter fun r =>
        r.key.gscPropertyId = p.id ∧ r.key.searchType = searchType ∧
          d ≤ r.key.date ∧ r.key.date ≤ d⟩ := by
  have hend : isoDay ((d + 2) * dayMs - 2 * dayMs) = d := by
    unfold isoDay dayMs
    omega
  have hstart : isoDay ((d + 2) * dayMs - 2 * dayMs - (max 1 1 - 1) * dayMs) = d := by
    rw [show (max 1 1 - 1 : Int) * dayMs = 0 from rfl, Int.sub_zero]
    exact hend
  have hreports : ¬(p.ownershipState ≠ .verified ∨ p.siteUrl = "") :=
    not_or.mpr ⟨fun h => h hverified, hsite⟩
  simp only [dashboardSummary, hfind, if_neg hreports, hstart, hend]

/-- Under every id that has rows, one is read. -/
theorem exists_readFinal {daily : List (Stored GscDailyRow)} {r : Stored GscDailyRow}
    (hr : r ∈ daily) : ∃ q ∈ daily, q.row ∈ readFinal daily ∧ q.row.key = r.row.key := by
  obtain ⟨q, hq⟩ := Option.isSome_iff_exists.mp ((survivor_isSome_iff
    (fun r : Stored GscDailyRow => r.row.key) (fun r => r.row.updatedAt)).mpr ⟨r, hr, rfl⟩)
  obtain ⟨hmem, hkey⟩ := survivor_key _ _ hq
  refine ⟨q, hmem, List.mem_map.mpr ⟨q, ?_, rfl⟩, hkey⟩
  rw [mem_final_iff, hkey]
  exact hq

theorem readFinal_mem {daily : List (Stored GscDailyRow)} {row : GscDailyRow}
    (h : row ∈ readFinal daily) : ∃ r ∈ daily, r.row = row := by
  obtain ⟨r, hr, hrow⟩ := List.mem_map.mp h
  exact ⟨r, final_subset _ _ _ hr, hrow⟩

theorem oneSite_iff_matched {s : Store} (hs : Sound s) : OneSite s ↔ Matched s := by
  constructor
  · rintro hone v ⟨m, hm, rfl⟩ hreported r hr hid
    obtain ⟨q, hq, hread, hkey⟩ := exists_readFinal hr
    have hfind := hs.find hm hreported.active
    have hsummary := dashboardSummary_of_day hfind hreported.verified hreported.site
      r.row.key.searchType r.row.key.date
    have hrow : q.row.pulledFor = m.siteUrl := by
      refine hone _ ⟨m.id, m.siteUrl⟩ (by rw [hsummary]) q.row ?_
      rw [hsummary]
      refine List.mem_filter.mpr ⟨hread, decide_eq_true ?_⟩
      rw [hkey]
      exact ⟨hid, rfl, Int.le_refl _, Int.le_refl _⟩
    exact (hs.oneSite r hr q hq (by rw [hkey])).trans hrow
  · intro hmatched opts property hproperty row hrow
    unfold dashboardSummary at hproperty hrow
    cases hfind : findPropertyByWorkspace s.properties opts.workspaceId with
    | none =>
        rw [hfind] at hproperty
        exact nomatch hproperty
    | some prop =>
        rw [hfind] at hproperty hrow
        dsimp only at hproperty hrow
        by_cases hreports : prop.ownershipState ≠ .verified ∨ prop.siteUrl = ""
        · rw [if_pos hreports] at hproperty
          exact nomatch hproperty
        · rw [if_neg hreports] at hproperty hrow
          obtain rfl := Option.some.inj hproperty
          obtain ⟨hverified, hsite⟩ := not_or.mp hreports
          obtain ⟨hmem, hin⟩ := List.mem_filter.mp hrow
          obtain ⟨r, hr, rfl⟩ := readFinal_mem hmem
          obtain ⟨hprop, -, hactive⟩ := mem_of_find hfind
          exact hmatched _ (shown_of_mem hprop) ⟨hactive, not_not.mp hverified, hsite⟩ r hr
            (of_decide_eq_true hin).1

/-! ### One write -/

theorem sound_empty : Sound Store.empty where
  oneSite _ hr := absurd hr List.not_mem_nil
  known _ hr := absurd hr List.not_mem_nil
  ids _ hp := absurd hp List.not_mem_nil
  unique _ _ hv := by
    obtain ⟨m, hm, -⟩ := hv
    exact absurd hm List.not_mem_nil

/-- Daily rows that were there, or were pulled for a property that is there. -/
theorem kept_daily {s : Store} {prop : GscProperty} (daily : List (Stored GscDailyRow))
    (hs : Sound s) (hmatched : Matched s) (hprop : Shown s.properties (lasting prop))
    (hreported : Reported prop)
    (hdaily : ∀ r ∈ daily, (∃ r₀ ∈ s.daily, r₀.row = r.row) ∨
      r.row.key.gscPropertyId = prop.id ∧ r.row.pulledFor = prop.siteUrl) :
    Sound { s with daily } ∧ Matched { s with daily } := by
  have hown : ∀ r ∈ daily, r.row.key.gscPropertyId = prop.id → r.row.pulledFor = prop.siteUrl := by
    intro r hr hid
    rcases hdaily r hr with ⟨r₀, hr₀, hrow⟩ | ⟨-, hsite⟩
    · have hsite := hmatched _ hprop ⟨hreported.active, hreported.verified, hreported.site⟩ r₀ hr₀
        (by rw [hrow]; exact hid)
      rwa [hrow] at hsite
    · exact hsite
  refine ⟨⟨fun r hr r' hr' hid => ?_, fun r hr => ?_, hs.ids, hs.unique⟩,
    fun v hv hreports r hr hid => ?_⟩
  · rcases hdaily r hr with ⟨r₀, hr₀, hrow⟩ | ⟨hprop, hsite⟩
    · rcases hdaily r' hr' with ⟨r₀', hr₀', hrow'⟩ | ⟨hprop', hsite'⟩
      · have hsame := hs.oneSite r₀ hr₀ r₀' hr₀' (by rw [hrow, hrow']; exact hid)
        rwa [hrow, hrow'] at hsame
      · exact (hown r hr (hid.trans hprop')).trans hsite'.symm
    · exact hsite.trans (hown r' hr' (hid.symm.trans hprop)).symm
  · rcases hdaily r hr with ⟨r₀, hr₀, hrow⟩ | ⟨hid, -⟩
    · exact hrow ▸ hs.known r₀ hr₀
    · obtain ⟨m, hm, hlasting⟩ := hprop
      rw [hid]
      exact List.mem_map.mpr ⟨m, final_subset _ _ _ hm, congrArg Prod.snd (key_of_lasting hlasting)⟩
  · rcases hdaily r hr with ⟨r₀, hr₀, hrow⟩ | ⟨hprop', hsite⟩
    · exact hrow ▸ hmatched v hv hreports r₀ hr₀ (by rw [hrow]; exact hid)
    · rw [hs.eq_of_id hv hprop (hid.symm.trans hprop')]
      exact hsite

/-- Rows that go leave what is there. -/
theorem kept_subset {s : Store} {daily : List (Stored GscDailyRow)} (hs : Sound s)
    (hmatched : Matched s) (hdaily : daily ⊆ s.daily) :
    Sound { s with daily } ∧ Matched { s with daily } :=
  ⟨⟨fun r hr r' hr' => hs.oneSite r (hdaily hr) r' (hdaily hr'),
    fun r hr => hs.known r (hdaily hr), hs.ids, hs.unique⟩,
    fun v hv hreports r hr => hmatched v hv hreports r (hdaily hr)⟩

/-- A copy of a property in force shows nothing new. -/
theorem shown_copy {properties : List GscProperty} {x v : GscProperty}
    (hx : Shown properties (lasting x)) : Shown (properties ++ [x]) v ↔ Shown properties v := by
  obtain ⟨m, hm, hlasting⟩ := hx
  exact exists_mem_final_append_copy _ _ hm (key_of_lasting hlasting.symm) hlasting.symm

theorem kept_copy {s : Store} {x : GscProperty} (hs : Sound s) (hmatched : Matched s)
    (hx : Shown s.properties (lasting x)) :
    Sound (s.insertProperty x) ∧ Matched (s.insertProperty x) := by
  have hshown : ∀ v, Shown (s.insertProperty x).properties v ↔ Shown s.properties v :=
    fun v => shown_copy hx
  obtain ⟨m, hm, hlasting⟩ := hx
  have hmem := final_subset _ _ _ hm
  have hid : m.id = x.id := congrArg Prod.snd (key_of_lasting hlasting)
  have hworkspace : m.workspaceId = x.workspaceId := congrArg Prod.fst (key_of_lasting hlasting)
  refine ⟨⟨hs.oneSite, fun r hr => ?_, ?_, fun v w hv hw => ?_⟩, fun v hv => ?_⟩
  · rw [show (s.insertProperty x).properties = s.properties ++ [x] from rfl, List.map_append]
    exact List.mem_append_left _ (hs.known r hr)
  · -- the copy has the id and the workspace of a row that is there
    have hthere : ∀ p ∈ s.properties ++ [x], ∃ q ∈ s.properties,
        q.id = p.id ∧ q.workspaceId = p.workspaceId := by
      intro p hp
      rcases List.mem_append.mp hp with hp | hp
      · exact ⟨p, hp, rfl, rfl⟩
      · rw [List.mem_singleton.mp hp]
        exact ⟨m, hmem, hid, hworkspace⟩
    intro p hp q hq hpq
    obtain ⟨p₀, hp₀, hpid, hpws⟩ := hthere p hp
    obtain ⟨q₀, hq₀, hqid, hqws⟩ := hthere q hq
    rw [← hpws, ← hqws]
    exact hs.ids p₀ hp₀ q₀ hq₀ (hpid.trans (hpq.trans hqid.symm))
  · exact hs.unique v w ((hshown v).mp hv) ((hshown w).mp hw)
  · exact hmatched v ((hshown v).mp hv)

/-! ### A sync -/

/-- A sync keeps what holds of the tables, and shows the properties as they were. -/
structure Keeps (s t : Store) : Prop where
  sound : Sound t
  matched : Matched t
  shown : ∀ v, Shown t.properties v ↔ Shown s.properties v

theorem Keeps.refl {s : Store} (hs : Sound s) (hmatched : Matched s) : Keeps s s :=
  ⟨hs, hmatched, fun _ => Iff.rfl⟩

theorem Keeps.trans {s t u : Store} (h : Keeps s t) (h' : Keeps t u) : Keeps s u :=
  ⟨h'.sound, h'.matched, fun v => (h'.shown v).trans (h.shown v)⟩

theorem mem_replaceDailyWindow {gscPropertyId : String} {searchType : GscSearchType}
    {startDate endDate : Int} {rows : List GscDailyRow} {batches : Nat}
    {daily : List (Stored GscDailyRow)} {r : Stored GscDailyRow}
    (hr : r ∈ replaceDailyWindow gscPropertyId searchType startDate endDate rows batches daily) :
    (∃ r₀ ∈ daily, r₀.row = r.row) ∨ r.row ∈ rows := by
  rcases List.mem_append.mp hr with hr | hr
  · refine Or.inl ?_
    have hrow := List.mem_map_of_mem (f := Stored.row) hr
    rw [deleteWhere_rows] at hrow
    exact List.mem_map.mp hrow
  · obtain ⟨row, hrow, rfl⟩ := List.mem_map.mp hr
    exact Or.inr (List.mem_of_mem_take hrow)

theorem keeps_pullType {dateOf : String → Int} {prop : GscProperty} {now days : Int} {s : Store}
    (pull : GscSearchType × Pulled) (hs : Sound s) (hmatched : Matched s)
    (hprop : Shown s.properties (lasting prop)) (hreported : Reported prop) :
    Keeps s (pullType dateOf prop now days s pull) := by
  obtain ⟨searchType, pulled⟩ := pull
  cases pulled with
  | failed => exact Keeps.refl hs hmatched
  | replaced rawRows batches insertedAt =>
      have hkept := kept_daily (pullType dateOf prop now days s
        (searchType, .replaced rawRows batches insertedAt)).daily hs hmatched hprop hreported
        fun r hr => ?_
      · exact ⟨hkept.1, hkept.2, fun _ => Iff.rfl⟩
      · refine (mem_replaceDailyWindow hr).imp_right fun hrow => ?_
        obtain ⟨raw, -, hparse⟩ := List.mem_filterMap.mp hrow
        unfold parseRow at hparse
        split at hparse
        · rw [← Option.some.inj hparse]
          exact ⟨rfl, rfl⟩
        · exact nomatch hparse

theorem keeps_syncProperty {dateOf : String → Int} {prop : GscProperty} {run : SyncRun}
    {s : Store} (hs : Sound s) (hmatched : Matched s) (hprop : Shown s.properties (lasting prop))
    (hactive : prop.deletedAt = none) : Keeps s (syncProperty dateOf prop run s) := by
  unfold syncProperty
  by_cases hskips : prop.siteUrl = "" ∨ prop.ownershipState ≠ .verified
  · rw [if_pos hskips]
    exact Keeps.refl hs hmatched
  rw [if_neg hskips]
  obtain ⟨hsite, hverified⟩ := not_or.mp hskips
  have hreported : Reported prop := ⟨hactive, not_not.mp hverified, hsite⟩
  -- an insert of a copy, and the pull of the search types one by one
  have hcopy : ∀ t x, Keeps s t → lasting x = lasting prop → Keeps s (t.insertProperty x) := by
    intro t x ht hx
    have hshown : Shown t.properties (lasting x) := hx ▸ (ht.shown _).mpr hprop
    have hkept := kept_copy ht.sound ht.matched hshown
    exact ht.trans ⟨hkept.1, hkept.2, fun v => shown_copy hshown⟩
  have hpulls : ∀ (pulls : List (GscSearchType × Pulled)) t, Keeps s t →
      Keeps s (pulls.foldl (pullType dateOf prop run.now run.days) t) := by
    intro pulls
    induction pulls with
    | nil => intro t ht; exact ht
    | cons pull rest ih =>
        intro t ht
        exact ih _ (ht.trans
          (keeps_pullType pull ht.sound ht.matched ((ht.shown _).mpr hprop) hreported))
  have hrest : ∀ t, Keeps s t → Keeps s
      (match run.markedAt with
        | none => run.pulled.foldl (pullType dateOf prop run.now run.days) t
        | some now => (run.pulled.foldl (pullType dateOf prop run.now run.days) t).insertProperty
            (markSynced prop now)) := by
    intro t ht
    cases run.markedAt with
    | none => exact hpulls _ t ht
    | some now => exact hcopy _ _ (hpulls _ t ht) rfl
  cases run.accessToken with
  | failed => exact Keeps.refl hs hmatched
  | valid => exact hrest s (Keeps.refl hs hmatched)
  | refreshed encrypted now => exact hrest _ (hcopy s _ (Keeps.refl hs hmatched) rfl)

theorem keeps_syncAll {dateOf : String → Int} {s : Store} :
    ∀ {syncs : List (GscProperty × SyncRun)} {t : Store}, Keeps s t →
      (∀ sync ∈ syncs, Shown s.properties (lasting sync.1) ∧ sync.1.deletedAt = none) →
      Keeps s (syncs.foldl (fun s (prop, run) => syncProperty dateOf prop run s) t) := by
  intro syncs
  induction syncs with
  | nil => intro t ht _; exact ht
  | cons sync rest ih =>
      intro t ht hsyncs
      obtain ⟨hprop, hactive⟩ := hsyncs sync List.mem_cons_self
      exact ih (ht.trans (keeps_syncProperty ht.sound ht.matched ((ht.shown _).mpr hprop) hactive))
        fun q hq => hsyncs q (List.mem_cons_of_mem _ hq)

/-! ### A callback -/

theorem known_insertProperty {s : Store} (hs : Sound s) (x : GscProperty) :
    ∀ r ∈ s.daily, r.row.key.gscPropertyId ∈ (s.properties ++ [x]).map (·.id) := by
  intro r hr
  rw [List.map_append]
  exact List.mem_append_left _ (hs.known r hr)

theorem ids_insertProperty {properties : List GscProperty} {x : GscProperty}
    (hids : ∀ p ∈ properties, ∀ q ∈ properties, p.id = q.id → p.workspaceId = q.workspaceId)
    (hx : ∀ p ∈ properties, p.id = x.id → p.workspaceId = x.workspaceId) :
    ∀ p ∈ properties ++ [x], ∀ q ∈ properties ++ [x], p.id = q.id →
      p.workspaceId = q.workspaceId := by
  intro p hp q hq hpq
  rcases List.mem_append.mp hp with hp | hp <;> rcases List.mem_append.mp hq with hq | hq
  · exact hids p hp q hq hpq
  · rw [List.mem_singleton.mp hq] at hpq ⊢
    exact hx p hp hpq
  · rw [List.mem_singleton.mp hp] at hpq ⊢
    exact (hx q hq hpq.symm).symm
  · rw [List.mem_singleton.mp hp, List.mem_singleton.mp hq]

/-- The row of a property takes the place of the one under its key, or of none: a workspace
has one active property still. -/
theorem unique_insertProperty {s : Store} {x : GscProperty} (hs : Sound s)
    (hplace : ∀ m ∈ inTable (s.properties ++ [x]), m ≠ x → m.workspaceId = x.workspaceId →
      m.deletedAt = none → x.deletedAt = none → m.id = x.id) :
    ∀ v w, Shown (s.properties ++ [x]) v → Shown (s.properties ++ [x]) w → v.deletedAt = none →
      w.deletedAt = none → v.workspaceId = w.workspaceId → v.id = w.id := by
  rintro v w ⟨m, hm, rfl⟩ ⟨n, hn, rfl⟩ hv hw hworkspace
  by_cases hmx : m = x
  · by_cases hnx : n = x
    · rw [hmx, hnx]
    · rw [hmx] at hv hworkspace ⊢
      exact (hplace n hn hnx hworkspace.symm hw hv).symm
  · have hm' := (eq_or_mem_of_mem_final_append _ _ hm).resolve_left hmx
    by_cases hnx : n = x
    · rw [hnx] at hw hworkspace ⊢
      exact hplace m hm hmx hworkspace hv hw
    · have hn' := (eq_or_mem_of_mem_final_append _ _ hn).resolve_left hnx
      exact hs.unique _ _ (shown_of_mem hm') (shown_of_mem hn') hv hw hworkspace

/-- A callback of a workspace without a property makes one, under an id without rows. -/
theorem callback_of_none {s : Store} {input : UpsertInput} {now : Int} {newId : String}
    (hs : Sound s) (hmatched : Matched s) (hnew : newId ∉ s.properties.map (·.id))
    (hnone : findPropertyByWorkspace s.properties input.workspaceId = none) :
    Sound (s.insertProperty (upsertProperty input none now newId)) ∧
      Matched (s.insertProperty (upsertProperty input none now newId)) := by
  refine ⟨⟨hs.oneSite, known_insertProperty hs _, ids_insertProperty hs.ids fun p hp hid => ?_,
    unique_insertProperty hs fun m hm hne hworkspace hactive _ => ?_⟩, ?_⟩
  · exact absurd (List.mem_map.mpr ⟨p, hp, hid⟩) hnew
  · have hm' := (eq_or_mem_of_mem_final_append _ _ hm).resolve_left hne
    have hfind := hs.find hm' hactive
    rw [hworkspace] at hfind
    exact absurd (hnone.symm.trans hfind) (by simp)
  · rintro v ⟨m, hm, rfl⟩ hreported r hr hid
    rcases eq_or_mem_of_mem_final_append _ _ hm with rfl | hm
    · have hknown := hs.known r hr
      rw [hid] at hknown
      exact absurd hknown hnew
    · exact hmatched _ (shown_of_mem hm) hreported r hr hid

/-- A callback of a workspace with a property writes its site over the one of the property,
and what is there matches exactly when the rows were pulled for that site. -/
theorem callback_of_some {s : Store} {input : UpsertInput} {existing : GscProperty} {now : Int}
    {newId : String} (hs : Sound s) (hmatched : Matched s)
    (hverified : input.siteUrl ≠ "" → input.ownershipState = .verified)
    (hfind : findPropertyByWorkspace s.properties input.workspaceId = some existing) :
    Sound (s.insertProperty (upsertProperty input (some existing) now newId)) ∧
      (Matched (s.insertProperty (upsertProperty input (some existing) now newId)) ↔
        (existing.updatedAt ≤ now → input.siteUrl ≠ "" →
          ∀ r ∈ s.daily, r.row.key.gscPropertyId = existing.id →
            r.row.pulledFor = input.siteUrl)) := by
  obtain ⟨hexisting, hworkspace, hactive⟩ := mem_of_find hfind
  have hkey : (upsertProperty input (some existing) now newId).key = existing.key :=
    Prod.ext hworkspace.symm rfl
  refine ⟨⟨hs.oneSite, known_insertProperty hs _, ids_insertProperty hs.ids fun p hp hid => ?_,
    unique_insertProperty hs fun m hm hne hmws hlive _ => ?_⟩, ?_⟩
  · exact (hs.ids p hp existing (final_subset _ _ _ hexisting) hid).trans hworkspace
  · have hm' := (eq_or_mem_of_mem_final_append _ _ hm).resolve_left hne
    have hid : (lasting m).id = (lasting existing).id :=
      hs.unique _ _ (shown_of_mem hm') (shown_of_mem hexisting) hlive hactive
        (hmws.trans hworkspace.symm)
    exact hid
  · by_cases hlate : existing.updatedAt ≤ now
    · have hin : ∀ m, m ∈ inTable (s.properties ++ [upsertProperty input (some existing) now newId]) ↔
          m = upsertProperty input (some existing) now newId ∨
            m ∈ inTable s.properties ∧ m.key ≠ existing.key := by
        intro m
        rw [← hkey]
        refine mem_final_append _ _ fun r hr hrx => ?_
        exact (le_of_mem_final _ _ hexisting hr (hrx.trans hkey)).trans hlate
      constructor
      · intro h _ hsite r hr hid
        exact h _ (shown_of_mem ((hin _).mpr (Or.inl rfl))) ⟨rfl, hverified hsite, hsite⟩ r hr hid
      · rintro h v ⟨m, hm, rfl⟩ hreported r hr hid
        rcases (hin m).mp hm with rfl | ⟨hm, -⟩
        · exact h hlate hreported.site r hr hid
        · exact hmatched _ (shown_of_mem hm) hreported r hr hid
    · refine ⟨fun _ h => absurd h hlate, fun _ => ?_⟩
      rintro v ⟨m, hm, rfl⟩ hreported r hr hid
      have hm' := (mem_final_append_of_older _ _ hexisting hkey (not_le.mp hlate)).mp hm
      exact hmatched _ (shown_of_mem hm') hreported r hr hid

/-- A disconnection takes a property away. -/
theorem kept_disconnect {s : Store} {workspaceId : String} {p : GscProperty} {now : Int}
    (hs : Sound s) (hmatched : Matched s)
    (hfind : findPropertyByWorkspace s.properties workspaceId = some p) :
    Sound (s.insertProperty (softDelete p now)) ∧ Matched (s.insertProperty (softDelete p now)) := by
  obtain ⟨hp, -, -⟩ := mem_of_find hfind
  refine ⟨⟨hs.oneSite, known_insertProperty hs _, ids_insertProperty hs.ids fun q hq hid => ?_,
    unique_insertProperty hs fun m _ _ _ _ hdeleted => nomatch hdeleted⟩, ?_⟩
  · exact hs.ids q hq p (final_subset _ _ _ hp) hid
  · rintro v ⟨m, hm, rfl⟩ hreported r hr hid
    rcases eq_or_mem_of_mem_final_append _ _ hm with rfl | hm
    · exact nomatch hreported.active
    · exact hmatched _ (shown_of_mem hm) hreported r hr hid

/-! ### Runs -/

/-- **What a step does to what is there**: a callback keeps it exactly when it brings the same
site, everything else keeps it. -/
theorem step_keeps {dateOf : String → Int} {s t : Store} {a : Action} (hs : Sound s)
    (hmatched : Matched s) (h : step dateOf s a = some t) :
    Sound t ∧ (Matched t ↔ SameSite s a) := by
  have hall : Sound t ∧ Matched t → SameSite s a → Sound t ∧ (Matched t ↔ SameSite s a) :=
    fun ht ha => ⟨ht.1, fun _ => ha, fun _ => ht.2⟩
  cases a with
  | callback workspaceId siteUrl encrypted now newId =>
      simp only [step] at h
      split at h
      · exact nomatch h
      rename_i hnew
      cases hfind : findPropertyByWorkspace s.properties workspaceId with
      | none =>
          rw [hfind] at h
          obtain rfl := Option.some.inj h
          refine hall (callback_of_none hs hmatched hnew hfind) fun _ existing hexisting => ?_
          exact absurd (hfind.symm.trans hexisting) (by simp)
      | some existing =>
          rw [hfind] at h
          obtain rfl := Option.some.inj h
          obtain ⟨hsound, hiff⟩ := @callback_of_some s
            (callbackInput workspaceId siteUrl encrypted) existing now newId hs hmatched
            (fun hsite => if_neg hsite) hfind
          refine ⟨hsound, hiff.trans ⟨fun hsame _ e he => ?_,
            fun hsame => hsame hnew existing hfind⟩⟩
          obtain rfl := Option.some.inj (hfind.symm.trans he)
          exact hsame
  | resync workspaceId run =>
      refine hall ?_ trivial
      simp only [step] at h
      split at h
      · obtain rfl := Option.some.inj h
        exact ⟨hs, hmatched⟩
      · rename_i prop hfind
        split at h
        · obtain rfl := Option.some.inj h
          exact ⟨hs, hmatched⟩
        · obtain rfl := Option.some.inj h
          obtain ⟨hprop, -, hactive⟩ := mem_of_find hfind
          have hkeeps : Keeps s (syncProperty dateOf prop run s) :=
            keeps_syncProperty hs hmatched (shown_of_mem hprop) hactive
          exact ⟨hkeeps.sound, hkeeps.matched⟩
  | syncAllVerified runs =>
      refine hall ?_ trivial
      obtain rfl := Option.some.inj h
      have hsyncs : ∀ sync ∈ (findVerifiedProperties s.properties).zip runs,
          Shown s.properties (lasting sync.1) ∧ sync.1.deletedAt = none := by
        intro sync hsync
        obtain ⟨hprop, hverified⟩ := List.mem_filter.mp (List.of_mem_zip hsync).1
        exact ⟨shown_of_mem hprop, (of_decide_eq_true hverified).2⟩
      have hkeeps := @keeps_syncAll dateOf s _ s (Keeps.refl hs hmatched) hsyncs
      exact ⟨hkeeps.sound, hkeeps.matched⟩
  | disconnect workspaceId now =>
      refine hall ?_ trivial
      simp only [step] at h
      split at h
      · obtain rfl := Option.some.inj h
        exact ⟨hs, hmatched⟩
      · rename_i p hfind
        obtain rfl := Option.some.inj h
        exact kept_disconnect hs hmatched hfind
  | vanish i =>
      refine hall ?_ trivial
      simp only [step] at h
      split at h
      · obtain rfl := Option.some.inj h
        exact kept_subset hs hmatched (List.eraseIdx_subset)
      · exact nomatch h

/-- **The dashboard shows one site exactly in the runs in which no callback puts another site
over the one that rows of the property were pulled for.** -/
theorem oneSite_iff (dateOf : String → Int) (actions : List Action) :
    (∀ before t, before <+: actions →
        Machine.exec (step dateOf) Store.empty before = some t → OneSite t) ↔
      Machine.Meets (step dateOf) SameSite Store.empty actions := by
  have hempty : OneSite Store.empty := by
    refine (oneSite_iff_matched sound_empty).mpr ?_
    rintro v ⟨m, hm, -⟩
    exact absurd hm List.not_mem_nil
  refine Machine.always_iff_meets_while (I := Sound) (fun s a t hs hone h => ?_)
    (fun s a t hs hone h => ?_) (fun s a h => ?_) sound_empty hempty
  · exact (step_keeps hs ((oneSite_iff_matched hs).mp hone) h).1
  · obtain ⟨ht, hiff⟩ := step_keeps hs ((oneSite_iff_matched hs).mp hone) h
    exact (oneSite_iff_matched ht).trans hiff
  · cases a with
    | callback workspaceId siteUrl encrypted now newId =>
        intro hnew
        simp only [step, if_neg hnew] at h
        exact nomatch h
    | resync workspaceId run => trivial
    | syncAllVerified runs => trivial
    | disconnect workspaceId now => trivial
    | vanish i => trivial

namespace DashboardExample

def dateOf (_ : String) : Int := 20000

/-- The site `a` is connected and synced, and then the site `b` is connected. -/
def reconnected : List Action :=
  [.callback "acme" (some "sc-domain:a.io") "t0" 0 "gsc_1",
    .resync "acme" ⟨1728172800000, 30, .valid,
      [(.web, .replaced [⟨["2024-10-04", "shoes", "https://a.io/"]⟩] 1 1)], some 2⟩,
    .callback "acme" (some "sc-domain:b.io") "t1" 3 "gsc_2"]

/-- The dashboard reports `b` and aggregates the row of `a`. -/
theorem two_sites :
    ∃ t, Machine.exec (step dateOf) Store.empty reconnected = some t ∧
      (dashboardSummary t ⟨"acme", 28, .web, 1728172800000⟩).property =
        some ⟨"gsc_1", "sc-domain:b.io"⟩ ∧
      (dashboardSummary t ⟨"acme", 28, .web, 1728172800000⟩).rows.map (·.pulledFor) =
        ["sc-domain:a.io"] ∧
      ¬OneSite t := by
  refine ⟨_, rfl, by decide, by decide, fun h => ?_⟩
  refine absurd (h ⟨"acme", 28, .web, 1728172800000⟩ ⟨"gsc_1", "sc-domain:b.io"⟩ (by decide)
    ⟨⟨"gsc_1", .web, 20000, "shoes", "https://a.io/", "", ""⟩, "acme", 1, "sc-domain:a.io"⟩
    (by decide)) (by decide)

end DashboardExample

end Veridian.DashboardSite
