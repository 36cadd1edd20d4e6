/-
Page numbers across tabs.

`getNextPageNumber` looks at the actions of its own `SessionState`, while the server tells
the pageviews of a session apart by the number alone.  Nothing hands the pages of one tab
to another that has the same session, so two tabs, or two sites joined by `_stm`, count the
same numbers, and the later pageview replaces the other one in `events` and `pages`.

What keeps the numbers apart is that a page is opened on a state that already holds every
pageview of its session.
-/
import Veridian.Sdk.Tabs

namespace Veridian.PageNumbers

open Machine SessionState Tabs

/-! ### The claim and its condition -/

/-- `deserializePageview`'s `dedup_token`. -/
def dedupToken (p : Page) : String := s!"{p.sessionId}_pv_{p.pageNumber}"

theorem dedupToken_eq (sessionId : String) (a : PageviewAction) (serial : Nat) :
    a.dedupToken sessionId = dedupToken ⟨sessionId, a.pageNumber, serial⟩ := rfl

/-- A token is of one session and one number. -/
theorem dedupToken_inj {p q : Page} (h : dedupToken p = dedupToken q) :
    p.sessionId = q.sessionId ∧ p.pageNumber = q.pageNumber := by
  have hdigits : ∀ n : Nat, '_' ∉ Nat.toDigits 10 n := by
    intro n hmem
    exact absurd (Nat.isDigit_of_mem_toDigits (by decide) (by decide) hmem) (by decide)
  have htoken : ∀ r : Page, (dedupToken r).toList =
      (r.sessionId.toList ++ ['_', 'p', 'v']) ++ '_' :: Nat.toDigits 10 r.pageNumber := by
    intro r
    have hnumber : (toString r.pageNumber).toList = Nat.toDigits 10 r.pageNumber := by
      show (String.ofList _).toList = _
      rw [String.toList_ofList]
    show (toString r.sessionId ++ toString "_pv_" ++ toString r.pageNumber).toList = _
    rw [String.toList_append, String.toList_append, hnumber, List.append_assoc, List.append_assoc]
    rfl
  have hlist := congrArg String.toList h
  rw [htoken, htoken] at hlist
  obtain ⟨hsession, hnumber⟩ := Text.append_cons_inj (hdigits _) (hdigits _) hlist
  exact ⟨String.toList_injective (List.append_cancel_right hsession), Text.toDigits_inj hnumber⟩

/-- Two pageviews the server was sent differ in session or number, and in their token. -/
def Distinct (w : World) : Prop :=
  ∀ p ∈ w.sent, ∀ q ∈ w.sent, p.serial ≠ q.serial →
    (p.sessionId, p.pageNumber) ≠ (q.sessionId, q.pageNumber) ∧ dedupToken p ≠ dedupToken q

def closed (t : Tab) : Tab := { t with live := none }

/-- The pageviews there are copies of outside the page of a tab. -/
def elsewhere (w : World) (i : Nat) : List Page :=
  w.sent ++ (w.tabs.modify i closed).flatMap Tab.pages

variable (config : SdkConfig)

/-- The state on which a step opens a page. -/
def opens (w : World) (action : Nat × TabCall) : Option (Live × Option Kept) :=
  (w.tabs[action.1]?).bind fun t => t.opens config (w.shared t.site) action.2

/-- A page is opened only on a state that holds every pageview of its session that was sent
or that another page or a snapshot holds. -/
def OpensInformed (w : World) (action : Nat × TabCall) : Prop :=
  ∀ e ∈ (opens config w action).toList, e.1.HasRoom →
    ∀ p ∈ elsewhere w action.1, p.sessionId = e.1.state.config.sessionId → p ∈ e.1.pages

instance (w : World) (action : Nat × TabCall) : Decidable (OpensInformed config w action) :=
  inferInstanceAs (Decidable (∀ e ∈ _, _ → ∀ p ∈ _, _ → p ∈ _))

/-- No two pageviews there are copies of have the same session and number. -/
def Unique (pages : List Page) : Prop :=
  ∀ p ∈ pages, ∀ q ∈ pages, p.sessionId = q.sessionId → p.pageNumber = q.pageNumber →
    p.serial = q.serial

/-! ### The pages of a state -/

theorem mem_pagesOf {sessionId : String} {actions : List Action} {serials : List Nat} {p : Page}
    (h : p ∈ pagesOf sessionId actions serials) :
    p.sessionId = sessionId ∧ p.pageNumber ∈ actions.filterMap Action.pageNumber? := by
  unfold pagesOf at h
  rw [← List.map_uncurry_zip_eq_zipWith] at h
  obtain ⟨⟨pageNumber, serial⟩, hmem, rfl⟩ := List.mem_map.mp h
  exact ⟨rfl, (List.of_mem_zip hmem).1⟩

/-- The pages of a state come before its next one. -/
theorem lt_next_of_mem {l : Live} {p : Page} (h : p ∈ l.pages) :
    p.pageNumber < getNextPageNumber l.state.actions := by
  obtain ⟨a, ha, hnumber⟩ := List.mem_filterMap.mp (mem_pagesOf h).2
  cases a with
  | pageview a =>
      rw [← Option.some.inj hnumber]
      exact lt_getNextPageNumber ha
  | goal a => exact absurd hnumber (by simp [Action.pageNumber?])

/-- Opening a page adds that page, numbered as the next. -/
theorem mem_addPageview {l : Live} {path : String} {now : Int} {focusMs : ℚ} {serial : Nat}
    {p : Page} (h : p ∈ (l.addPageview path now focusMs serial).pages) :
    p ∈ l.pages ∨ l.HasRoom ∧
      p = ⟨l.state.config.sessionId, getNextPageNumber l.state.actions, serial⟩ := by
  by_cases hroom : l.HasRoom
  · rw [Live.addPageview, dif_pos hroom] at h
    unfold Live.pages pagesOf at h
    rw [pageNumbers_addPageview hroom, config_addPageview,
      List.zipWith_append l.serials_length.symm] at h
    rcases List.mem_append.mp h with h | h
    · exact Or.inl h
    · exact Or.inr ⟨hroom, List.mem_singleton.mp h⟩
  · rw [Live.addPageview, dif_neg hroom] at h
    exact Or.inl h

theorem pages_write {l : Live} {s : SessionState}
    (h : s.actions.filterMap Action.pageNumber? = l.state.actions.filterMap Action.pageNumber?)
    (hconfig : s.config = l.state.config) : (l.write s h).pages = l.pages := by
  unfold Live.pages pagesOf Live.write
  rw [h, hconfig]

/-- What is restored was kept. -/
theorem pages_restore {l : Live} {kept : Option Kept} {p : Page}
    (h : p ∈ (l.restore kept).1.pages) : p ∈ l.pages ∨ p ∈ keptPages kept := by
  cases kept with
  | none => exact Or.inl h
  | some k =>
      by_cases hsession : k.snapshot.sessionId = l.state.config.sessionId
      · rw [Live.restore, dif_pos hsession] at h
        have hpages : p ∈ pagesOf (l.state.restore (some k.snapshot)).1.config.sessionId
            (l.state.restore (some k.snapshot)).1.actions k.serials := h
        rw [restore_of_eq hsession, ← hsession] at hpages
        exact Or.inr hpages
      · rw [Live.restore, dif_neg hsession] at h
        exact Or.inl h

theorem kept_restore {l : Live} {kept : Option Kept} {p : Page}
    (h : p ∈ keptPages (l.restore kept).2) : p ∈ keptPages kept := by
  cases kept with
  | none => exact h
  | some k =>
      by_cases hsession : k.snapshot.sessionId = l.state.config.sessionId
      · rwa [Live.restore, dif_pos hsession] at h
      · rw [Live.restore, dif_neg hsession] at h
        exact absurd h List.not_mem_nil

/-! ### One call -/

theorem mem_live {t : Tab} {l : Live} (hl : t.live = some l) {p : Page} (hp : p ∈ l.pages) :
    p ∈ t.pages := by
  refine List.mem_append_left _ ?_
  rw [hl]
  exact hp

/-- A tab whose page has the same pageviews. -/
theorem mem_of_same {t : Tab} {l l' : Live} (hl : t.live = some l) (hsame : l'.pages = l.pages)
    {p : Page} (hp : p ∈ Tab.pages { t with live := some l' }) : p ∈ t.pages := by
  rcases List.mem_append.mp hp with hp | hp
  · exact mem_live hl (hsame ▸ hp)
  · exact List.mem_append_right _ hp

theorem config_addGoal (s : SessionState) (name : String) (value : Option ℚ)
    (properties : Option (List (String × String))) (now : Int) :
    (s.addGoal name value properties now).2.config = s.config := by
  unfold SessionState.addGoal
  split <;> rfl

/-- What a call that opens no page leaves was there before. -/
theorem call_pages {t : Tab} {shared : Option Tabs.Session} {serial : Nat} {c : TabCall}
    {o : Tabs.Outcome}
    (hopens : t.opens config shared c = none) (h : t.call config shared serial c = some o)
    {p : Page} (hp : p ∈ o.sent ++ o.tab.pages) : p ∈ t.pages := by
  cases c with
  | load input generated path now focusMs stores => exact absurd hopens (by simp [Tab.opens])
  | reset generated path now focusMs stores => exact absurd hopens (by simp [Tab.opens])
  | addPageview path now focusMs =>
      have hlive : t.live = none := Option.map_eq_none_iff.mp hopens
      rw [Tab.call, hlive] at h
      exact absurd h (by simp)
  | unload =>
      obtain ⟨l, hl, rfl⟩ := Option.map_eq_some_iff.mp h
      exact List.mem_append_right _ hp
  | saveSession stores =>
      obtain ⟨l, hl, rfl⟩ := Option.map_eq_some_iff.mp h
      exact hp
  | updateScroll scrollPercent =>
      obtain ⟨l, hl, rfl⟩ := Option.map_eq_some_iff.mp h
      exact mem_of_same hl (pages_write _ (config_onCurrentPage _)) hp
  | addGoal name value properties now =>
      obtain ⟨l, hl, rfl⟩ := Option.map_eq_some_iff.mp h
      exact mem_of_same hl (pages_write _ (config_addGoal ..)) hp
  | finalizeForUnload now focusMs =>
      obtain ⟨l, hl, rfl⟩ := Option.map_eq_some_iff.mp h
      have hwrite : (l.finalizeForUnload now focusMs).pages = l.pages :=
        pages_write _ (config_onCurrentPage (closePage now focusMs))
      exact mem_of_same hl hwrite hp
  | sendPayload attributes options now focusMs arrives =>
      obtain ⟨l, hl, rfl⟩ := Option.map_eq_some_iff.mp h
      have hwrite : (l.buildPayload attributes options now focusMs).2.pages = l.pages :=
        pages_write (filterMap_onCurrentPage (pageNumber_closePage now focusMs))
          (config_onCurrentPage _)
      rcases List.mem_append.mp hp with hp | hp
      · -- the payload has the pages of the state it was built from
        cases arrives with
        | true =>
            have hsent : sentPages (l.buildPayload attributes options now focusMs).1
                (l.buildPayload attributes options now focusMs).2.serials =
                (l.buildPayload attributes options now focusMs).2.pages := by
              unfold Live.pages
              rw [show (l.buildPayload attributes options now focusMs).2.state.config =
                l.state.config from config_onCurrentPage _]
              rfl
            exact mem_live hl (hwrite ▸ hsent ▸ hp)
        | false => exact absurd hp List.not_mem_nil
      · exact mem_of_same hl hwrite hp
  | persist throws =>
      obtain ⟨l, hl, rfl⟩ := Option.map_eq_some_iff.mp h
      have hleft : p ∈ Tab.pages { t with kept := if throws then t.kept else some l.persist } := hp
      rcases List.mem_append.mp hleft with hp | hp
      · exact List.mem_append_left _ hp
      · cases throws with
        | true => exact List.mem_append_right _ hp
        | false => exact mem_live hl hp
  | restore =>
      obtain ⟨l, hl, rfl⟩ := Option.map_eq_some_iff.mp h
      have hleft : p ∈ (l.restore t.kept).1.pages ++ keptPages (l.restore t.kept).2 := hp
      rcases List.mem_append.mp hleft with hp | hp
      · rcases pages_restore hp with hp | hp
        · exact mem_live hl hp
        · exact List.mem_append_right _ hp
      · exact List.mem_append_right _ (kept_restore hp)

/-- **What a call that opens a page leaves:** the pages of the state it opens it on, the new
one, and what the tab kept. -/
theorem call_opens {t : Tab} {shared : Option Tabs.Session} {serial : Nat} {c : TabCall}
    {o : Tabs.Outcome}
    {l : Live} {kept : Option Kept} (hopens : t.opens config shared c = some (l, kept))
    (h : t.call config shared serial c = some o) {p : Page} (hp : p ∈ o.sent ++ o.tab.pages) :
    p ∈ l.pages ∨ (l.HasRoom ∧
        p = ⟨l.state.config.sessionId, getNextPageNumber l.state.actions, serial⟩) ∨
      p ∈ keptPages t.kept := by
  have hadd : ∀ {path : String} {now : Int} {focusMs : ℚ} {rest : List Page},
      p ∈ (l.addPageview path now focusMs serial).pages ++ rest →
      (p ∈ rest → p ∈ keptPages t.kept) →
      p ∈ l.pages ∨ (l.HasRoom ∧
        p = ⟨l.state.config.sessionId, getNextPageNumber l.state.actions, serial⟩) ∨
      p ∈ keptPages t.kept := by
    intro path now focusMs rest hmem hrest
    rcases List.mem_append.mp hmem with hmem | hmem
    · rcases mem_addPageview hmem with hold | hnew
      · exact Or.inl hold
      · exact Or.inr (Or.inl hnew)
    · exact Or.inr (Or.inr (hrest hmem))
  cases c with
  | load input generated path now focusMs stores =>
      have hkept : p ∈ keptPages kept → p ∈ keptPages t.kept := by
        have heq := Option.some.inj hopens
        rw [show kept = _ from (congrArg Prod.snd heq).symm]
        exact kept_restore
      rw [Tab.call, hopens] at h
      cases hlive : t.live with
      | some l' => rw [hlive] at h; exact absurd h (by simp)
      | none =>
          rw [hlive] at h
          obtain rfl := Option.some.inj h
          exact hadd hp hkept
  | reset generated path now focusMs stores =>
      have hkept : kept = t.kept := (congrArg Prod.snd (Option.some.inj hopens)).symm
      rw [Tab.call, hopens] at h
      cases hlive : t.live with
      | none => rw [hlive] at h; exact absurd h (by simp)
      | some l' =>
          rw [hlive] at h
          obtain rfl := Option.some.inj h
          exact hadd hp (hkept ▸ id)
  | addPageview path now focusMs =>
      obtain ⟨l', hl', heq⟩ := Option.map_eq_some_iff.mp hopens
      obtain ⟨rfl, rfl⟩ := Prod.mk.inj heq
      rw [Tab.call, hl'] at h
      obtain rfl := Option.some.inj h
      exact hadd hp id
  | _ => exact absurd hopens (by simp [Tab.opens])

/-- The state a page is opened on holds what the tab held. -/
theorem opens_pages {t : Tab} {shared : Option Tabs.Session} {c : TabCall} {l : Live}
    {kept : Option Kept} (hopens : t.opens config shared c = some (l, kept)) {p : Page}
    (hp : p ∈ l.pages) : p ∈ t.pages := by
  cases c with
  | load input generated path now focusMs stores =>
      have heq := congrArg Prod.fst (Option.some.inj hopens)
      rw [← show _ = l from heq] at hp
      rcases pages_restore hp with hp | hp
      · exact absurd hp List.not_mem_nil
      · exact List.mem_append_right _ hp
  | reset generated path now focusMs stores =>
      have heq := congrArg Prod.fst (Option.some.inj hopens)
      rw [← show _ = l from heq] at hp
      exact absurd hp List.not_mem_nil
  | addPageview path now focusMs =>
      obtain ⟨l', hl', heq⟩ := Option.map_eq_some_iff.mp hopens
      obtain ⟨rfl, rfl⟩ := Prod.mk.inj heq
      exact mem_live hl' hp
  | _ => exact absurd hopens (by simp [Tab.opens])

/-! ### One step -/

theorem mem_flatMap_set {tabs : List Tab} {i : Nat} {t : Tab} {p : Page}
    (h : p ∈ (tabs.set i t).flatMap Tab.pages) :
    p ∈ t.pages ∨ p ∈ (tabs.modify i closed).flatMap Tab.pages := by
  obtain ⟨t', ht', hp⟩ := List.mem_flatMap.mp h
  obtain ⟨j, hj⟩ := List.mem_iff_getElem?.mp ht'
  by_cases hij : i = j
  · subst hij
    rw [List.getElem?_set_self'] at hj
    obtain ⟨_, -, rfl⟩ := Option.map_eq_some_iff.mp hj
    exact Or.inl hp
  · rw [List.getElem?_set_ne hij] at hj
    refine Or.inr (List.mem_flatMap.mpr ⟨t', List.mem_iff_getElem?.mpr ⟨j, ?_⟩, hp⟩)
    rw [List.getElem?_modify, hj]
    simp [hij]

theorem mem_elsewhere_of_kept {w : World} {i : Nat} {t : Tab} (ht : w.tabs[i]? = some t)
    {p : Page} (hp : p ∈ keptPages t.kept) : p ∈ elsewhere w i := by
  refine List.mem_append_right _ (List.mem_flatMap.mpr ⟨closed t, ?_, hp⟩)
  exact List.mem_iff_getElem?.mpr ⟨i, by simp [ht]⟩

theorem mem_pages_of_elsewhere {w : World} {i : Nat} {p : Page} (hp : p ∈ elsewhere w i) :
    p ∈ w.pages := by
  rcases List.mem_append.mp hp with hp | hp
  · exact List.mem_append_left _ hp
  · refine List.mem_append_right _ ?_
    obtain ⟨t, ht, hp⟩ := List.mem_flatMap.mp hp
    obtain ⟨j, hj⟩ := List.mem_iff_getElem?.mp ht
    rw [List.getElem?_modify] at hj
    obtain ⟨t', ht', rfl⟩ := Option.map_eq_some_iff.mp hj
    refine List.mem_flatMap.mpr ⟨t', List.mem_iff_getElem?.mpr ⟨j, ht'⟩, ?_⟩
    by_cases hij : i = j
    · rw [if_pos hij] at hp
      exact List.mem_append_right _ hp
    · rwa [if_neg hij] at hp

theorem mem_pages_of_tab {w : World} {i : Nat} {t : Tab} (ht : w.tabs[i]? = some t) {p : Page}
    (hp : p ∈ t.pages) : p ∈ w.pages :=
  List.mem_append_right _ (List.mem_flatMap.mpr ⟨t, List.mem_iff_getElem?.mpr ⟨i, ht⟩, hp⟩)

/-- **Opening pages only where those of the session are known keeps the numbers apart.** -/
theorem unique_step {w w' : World} {action : Nat × TabCall} (h : Unique w.pages)
    (hinformed : OpensInformed config w action) (hstep : w.step config action = some w') :
    Unique w'.pages := by
  obtain ⟨t, ht, hstep⟩ := Option.bind_eq_some_iff.mp hstep
  obtain ⟨o, ho, rfl⟩ := Option.map_eq_some_iff.mp hstep
  have hleft : ∀ {p : Page},
      p ∈ (w.sent ++ o.sent) ++ (w.tabs.set action.1 o.tab).flatMap Tab.pages →
      p ∈ elsewhere w action.1 ∨ p ∈ o.sent ++ o.tab.pages := by
    intro p hp
    rcases List.mem_append.mp hp with hp | hp
    · rcases List.mem_append.mp hp with hp | hp
      · exact Or.inl (List.mem_append_left _ hp)
      · exact Or.inr (List.mem_append_left _ hp)
    · rcases mem_flatMap_set hp with hp | hp
      · exact Or.inr (List.mem_append_right _ hp)
      · exact Or.inl (List.mem_append_right _ hp)
  cases hopens : t.opens config (w.shared t.site) action.2 with
  | none =>
      have hold : ∀ {p : Page},
          p ∈ (w.sent ++ o.sent) ++ (w.tabs.set action.1 o.tab).flatMap Tab.pages →
          p ∈ w.pages := by
        intro p hp
        rcases hleft hp with hp | hp
        · exact mem_pages_of_elsewhere hp
        · exact mem_pages_of_tab ht (call_pages config hopens ho hp)
      exact fun p hp q hq => h p (hold hp) q (hold hq)
  | some e =>
      obtain ⟨l, kept⟩ := e
      have hopened : opens config w action = some (l, kept) := by
        rw [opens, ht]
        exact hopens
      have hknown : l.HasRoom → ∀ p ∈ elsewhere w action.1,
          p.sessionId = l.state.config.sessionId → p ∈ l.pages :=
        hinformed (l, kept) (by rw [hopened]; exact List.mem_singleton_self _)
      -- every page left is an old one, known to `l` or elsewhere, or the new one
      have hcases : ∀ {p : Page},
          p ∈ (w.sent ++ o.sent) ++ (w.tabs.set action.1 o.tab).flatMap Tab.pages →
          (p ∈ elsewhere w action.1 ∨ p ∈ l.pages) ∨ l.HasRoom ∧
            p = ⟨l.state.config.sessionId, getNextPageNumber l.state.actions, w.serial⟩ := by
        intro p hp
        rcases hleft hp with hp | hp
        · exact Or.inl (Or.inl hp)
        · rcases call_opens config hopens ho hp with hp | hp | hp
          · exact Or.inl (Or.inr hp)
          · exact Or.inr hp
          · exact Or.inl (Or.inl (mem_elsewhere_of_kept ht hp))
      have hold : ∀ {p : Page}, p ∈ elsewhere w action.1 ∨ p ∈ l.pages → p ∈ w.pages := by
        intro p hp
        rcases hp with hp | hp
        · exact mem_pages_of_elsewhere hp
        · exact mem_pages_of_tab ht (opens_pages config hopens hp)
      have hfresh : ∀ {p : Page}, l.HasRoom → p ∈ elsewhere w action.1 ∨ p ∈ l.pages →
          p.sessionId = l.state.config.sessionId →
          p.pageNumber ≠ getNextPageNumber l.state.actions := by
        intro p hroom hp hsession
        have hmem : p ∈ l.pages := hp.elim (fun hp => hknown hroom p hp hsession) id
        exact Nat.ne_of_lt (lt_next_of_mem hmem)
      intro p hp q hq hsession hnumber
      rcases hcases hp with hp | ⟨hroom, rfl⟩
      · rcases hcases hq with hq | ⟨hroom, rfl⟩
        · exact h p (hold hp) q (hold hq) hsession hnumber
        · exact absurd hnumber (hfresh hroom hp hsession)
      · rcases hcases hq with hq | ⟨-, rfl⟩
        · exact absurd hnumber.symm (hfresh hroom hq hsession.symm)
        · rfl

/-! ### Whole runs -/

theorem unique_new (sites : List Nat) : Unique (World.new sites).pages := by
  have hnil : (World.new sites).pages = [] := by
    show (sites.map Tab.new).flatMap Tab.pages = []
    rw [List.flatMap_map]
    exact List.flatMap_eq_nil_iff.mpr fun _ _ => rfl
  intro p hp
  rw [hnil] at hp
  exact absurd hp List.not_mem_nil

theorem distinct_of_unique {w : World} (h : Unique w.pages) : Distinct w := by
  intro p hp q hq hserial
  have hsame : ¬(p.sessionId = q.sessionId ∧ p.pageNumber = q.pageNumber) := fun hboth =>
    hserial (h p (List.mem_append_left _ hp) q (List.mem_append_left _ hq) hboth.1 hboth.2)
  exact ⟨fun heq => hsame (Prod.mk.inj heq), fun heq => hsame (dedupToken_inj heq)⟩

/-- **A run that opens pages only on states that know those of their session sends no two
pageviews under one number.** -/
theorem pages_distinct (sites : List Nat) {actions : List (Nat × TabCall)} {w : World}
    (hrun : exec (World.step config) (World.new sites) actions = some w)
    (hinformed : Meets (World.step config) (OpensInformed config) (World.new sites) actions) :
    Distinct w :=
  distinct_of_unique (exec_invariant_of_meets (P := fun w => Unique w.pages)
    (fun _ _ _ h hC hstep => unique_step config h hC hstep) (unique_new sites) hinformed hrun)

namespace TabsExample

def sdkConfig : SdkConfig := ⟨"w", 1800000⟩

def load (path generated : String) (now : Int) : TabCall :=
  .load none generated path now 0 true

def send (now : Int) : TabCall := .sendPayload {} {} now 0 true

/-- One tab: a page, its payload, a reload, and the payload of the page after it. -/
def reload : List (Nat × TabCall) :=
  [(0, load "/a" "s" 0), (0, send 10), (0, .finalizeForUnload 20 20), (0, .persist false),
    (0, .unload), (0, load "/b" "unused" 30), (0, send 40)]

theorem pages_distinct_reload : ∃ w,
    exec (World.step sdkConfig) (World.new [0]) reload = some w ∧ Distinct w := by
  obtain ⟨w, hw⟩ : ∃ w, exec (World.step sdkConfig) (World.new [0]) reload = some w := ⟨_, rfl⟩
  exact ⟨w, hw, pages_distinct sdkConfig [0] hw (by decide)⟩

/-- A second tab of the site is opened half a minute later. -/
def secondTab : List (Nat × TabCall) :=
  [(0, load "/a" "s" 0), (0, send 10), (1, load "/b" "unused" 30000), (1, send 30010)]

/-- Both pageviews are number one of the session. -/
theorem second_tab_collides : ∃ w,
    exec (World.step sdkConfig) (World.new [0, 0]) secondTab = some w ∧ ¬Distinct w := by
  obtain ⟨w, hw⟩ : ∃ w, exec (World.step sdkConfig) (World.new [0, 0]) secondTab = some w := ⟨_, rfl⟩
  have hsent : w.sent = [⟨"s", 1, 0⟩, ⟨"s", 1, 2⟩] := by
    have hsome := congrArg (Option.map World.sent) hw.symm
    exact Option.some.inj (hsome.trans (by decide))
  refine ⟨w, hw, fun h => ?_⟩
  have hpair := h ⟨"s", 1, 0⟩ (by rw [hsent]; decide) ⟨"s", 1, 2⟩ (by rw [hsent]; decide)
    (by decide)
  exact hpair.1 rfl

end TabsExample

end Veridian.PageNumbers
