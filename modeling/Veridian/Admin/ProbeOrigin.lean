/-
The Origin the verification probe sends, and the gate it names.

A workspace that takes events from some domains only is probed with an Origin made from the
first of them.  `classifyHttpDrop` has a copy of the handler's domain check, and the two
agree on every Origin.  The Origin itself is accepted exactly when the URL parser takes it:
the check of the settings lets labels through that look like Punycode and are none, and what
is no URL has no domain.
-/
import Veridian.Events.Handler
import Veridian.Workspaces.Workspace

namespace Veridian.AdminPlatformService

open WorkspacesService

/-! ### The domains the settings take -/

/-- `[a-zA-Z0-9]([a-zA-Z0-9-]*[a-zA-Z0-9])?` -/
def isLabel (label : List Char) : Bool :=
  label.head?.any Char.isAlphanum && label.getLast?.any Char.isAlphanum &&
    label.all fun c => c.isAlphanum || c = '-'

/-- Labels, each with a dot behind it, and two letters or more. -/
def isDomain (s : String) : Bool :=
  let labels := s.toList.splitOn '.'
  2 ≤ labels.length && labels.dropLast.all isLabel &&
    labels.getLast?.any fun last => 2 ≤ last.length && last.all Char.isAlpha

/-- `first.startsWith('*.') ? first.slice(2) : first` -/
def withoutWildcard (s : String) : String :=
  if Text.startsWith s "*." then String.ofList (s.toList.drop 2) else s

/-- The check of `allowed_domains`: its pattern and `@MaxLength(253)`. -/
def isAllowedDomain (s : String) : Bool :=
  Text.utf16Length s ≤ 253 && isDomain (withoutWildcard s)

/-! ### The probe -/

structure ProbeHost where
  host : Host
  /-- `protocol` and `host` of `new URL(s)`; `none` when it throws. -/
  protocolAndHost : String → Option (String × String)

structure ProbedWorkspace extends Workspace where
  website : String

/-- `none` when the workspace cannot be read. -/
def deriveProbeOrigin (h : ProbeHost) : Option ProbedWorkspace → String
  | none => "https://veridian.invalid"
  | some ws =>
      match ws.settings.allowedDomains with
      | first :: _ => "https://" ++ withoutWildcard (Text.trim first)
      | [] =>
          if ws.website = "" then "https://veridian.invalid"
          else
            match h.protocolAndHost
              (if hasScheme ws.website then ws.website else "https://" ++ ws.website) with
            | some (protocol, host) => protocol ++ "//" ++ host
            | none => "https://veridian.invalid"

inductive TrackingDropReason where
  | workspaceInactive
  | domainNotAllowed
  | validationRejected
  | notRequeryable
  deriving DecidableEq, Repr

def classifyHttpDrop (host : Host) (ws : Option Workspace) (origin : String) :
    TrackingDropReason :=
  match ws with
  | none => .notRequeryable
  | some ws =>
      if ws.status = .inactive ∨ ws.status = .error then .workspaceInactive
      else
        let allowed := ws.settings.allowedDomains
        let hostname :=
          match host.parseUrl origin with
          | some url => host.toLowerCase url.hostname
          | none => ""
        let ok := allowed.any fun pattern =>
          let p := Text.trim (host.toLowerCase pattern)
          if Text.startsWith p "*." then
            let base := String.ofList (p.toList.drop 2)
            hostname == base || Text.endsWith hostname ("." ++ base)
          else hostname == p
        if allowed ≠ [] ∧ ok = false then .domainNotAllowed else .notRequeryable

/-- What the URL parser does with a domain, when it takes it. -/
structure ReadsDomains (host : Host) : Prop where
  empty : host.parseUrl "" = none
  domain : ∀ d, isDomain d = true → ∀ url, host.parseUrl ("https://" ++ d) = some url →
    url.hostname = Text.asciiLower d

/-! ### The characters of a domain -/

def isDomainChar (c : Char) : Bool := c.isAlphanum || c = '-' || c = '.'

theorem toNat_lt_of_isDomainChar {c : Char} (h : isDomainChar c = true) : c.toNat < 128 := by
  -- the upper end of a range bounds the character
  have hrange : ∀ {top : UInt32}, c.val ≤ top → c.toNat ≤ top.toNat := fun hp =>
    UInt32.le_iff_toNat_le.mp hp
  rcases Bool.or_eq_true_iff.mp h with halnum | hdot
  · rcases Bool.or_eq_true_iff.mp halnum with halnum | hdash
    · rcases Bool.or_eq_true_iff.mp halnum with halpha | hdigit
      · rcases Bool.or_eq_true_iff.mp halpha with hupper | hlower
        · exact (hrange (of_decide_eq_true hupper).2).trans_lt (by decide)
        · have htop := (Bool.and_eq_true_iff.mp hlower).2
          exact (hrange (of_decide_eq_true htop)).trans_lt (by decide)
      · have htop := (Bool.and_eq_true_iff.mp hdigit).2
        exact (hrange (of_decide_eq_true htop)).trans_lt (by decide)
    · rw [of_decide_eq_true hdash]
      decide
  · rw [of_decide_eq_true hdot]
    decide

/-- What the checks of an Origin read off a character. -/
structure PlainChar (c : Char) : Prop where
  space : Text.isSpace c = false
  lowerSpace : Text.isSpace c.toLower = false
  lowerStar : c.toLower ≠ '*'
  lowerLower : c.toLower.toLower = c.toLower
  ascii : c.toNat < 128
  lowerAscii : c.toLower.toNat < 128

instance (c : Char) : Decidable (PlainChar c) :=
  decidable_of_iff (Text.isSpace c = false ∧ Text.isSpace c.toLower = false ∧ c.toLower ≠ '*' ∧
      c.toLower.toLower = c.toLower ∧ c.toNat < 128 ∧ c.toLower.toNat < 128)
    ⟨fun ⟨a, b, c, d, e, f⟩ => ⟨a, b, c, d, e, f⟩, fun ⟨a, b, c, d, e, f⟩ => ⟨a, b, c, d, e, f⟩⟩

theorem plainChar {c : Char} (h : isDomainChar c = true) : PlainChar c := by
  have htable : ∀ n : Fin 128, isDomainChar (Char.ofNat n) = true → PlainChar (Char.ofNat n) := by
    decide
  have hc := htable ⟨c.toNat, toNat_lt_of_isDomainChar h⟩
  simp only [Char.ofNat_toNat] at hc
  exact hc h

theorem isDomainChar_of_isDomain {s : String} (h : isDomain s = true) :
    ∀ c ∈ s.toList, isDomainChar c = true := by
  intro c hc
  have hwhole : ['.'].intercalate (s.toList.splitOn '.') = s.toList := List.intercalate_splitOn '.'
  rw [← hwhole] at hc
  rcases Text.mem_intercalate hc with rfl | ⟨part, hpart, hmem⟩
  · decide
  · simp only [isDomain, Bool.and_eq_true, List.all_eq_true] at h
    obtain ⟨⟨-, hlabels⟩, hlast⟩ := h
    have hne : s.toList.splitOn '.' ≠ [] := List.ne_nil_of_mem hpart
    rw [← List.dropLast_append_getLast hne, List.mem_append, List.mem_singleton] at hpart
    rcases hpart with hpart | rfl
    · have hlabel := hlabels part hpart
      simp only [isLabel, Bool.and_eq_true, List.all_eq_true] at hlabel
      have hchar := hlabel.2 c hmem
      simp only [Bool.or_eq_true] at hchar
      unfold isDomainChar
      rcases hchar with hchar | hchar <;> simp [hchar]
    · rw [List.getLast?_eq_some_getLast hne] at hlast
      simp only [Option.any_some, Bool.and_eq_true, List.all_eq_true] at hlast
      have hchar := hlast.2 c hmem
      simp [isDomainChar, Char.isAlphanum, hchar]

theorem ne_empty_of_isDomain {s : String} (h : isDomain s = true) : s ≠ "" := by
  rintro rfl
  exact absurd h (by decide)

/-! ### A pattern of the list -/

/-- `pattern.toLowerCase().trim()` against a host name, as `isDomainAllowed` and
`classifyHttpDrop` do it. -/
def matchesPattern (host : Host) (hostname pattern : String) : Bool :=
  let p := Text.trim (host.toLowerCase pattern)
  if Text.startsWith p "*." then
    let base := String.ofList (p.toList.drop 2)
    hostname == base || Text.endsWith hostname ("." ++ base)
  else hostname == p

theorem trim_eq_self {s : String} (h : ∀ c ∈ s.toList, Text.isSpace c = false) :
    Text.trim s = s := by
  have hdrop : ∀ l : List Char, (∀ c ∈ l, Text.isSpace c = false) →
      l.dropWhile Text.isSpace = l := by
    intro l hl
    cases l with
    | nil => rfl
    | cons c l => exact List.dropWhile_cons_of_neg (by simp [hl c List.mem_cons_self])
  unfold Text.trim
  rw [hdrop _ h, hdrop _ fun c hc => h c (List.mem_reverse.mp hc), List.reverse_reverse,
    String.ofList_toList]

/-- An entry of a checked list is a domain, or a domain behind `*.`. -/
theorem allowedDomain_cases {s : String} (h : isAllowedDomain s = true) :
    ∃ d, isDomain d = true ∧ withoutWildcard s = d ∧ (s = d ∨ s = "*." ++ d) := by
  obtain ⟨-, hdomain⟩ := Bool.and_eq_true_iff.mp h
  refine ⟨withoutWildcard s, hdomain, rfl, ?_⟩
  unfold withoutWildcard
  split_ifs with hstar
  · refine Or.inr (String.toList_injective ?_)
    have hstarts : "*.".toList <+: s.toList := of_decide_eq_true hstar
    obtain ⟨t, ht⟩ := hstarts
    have hrest : t = s.toList.drop 2 := by
      rw [← ht]
      rfl
    rw [String.toList_append, ← hrest]
    exact ht.symm.trans (congrArg _ String.toList_ofList.symm)
  · exact Or.inl rfl

theorem trim_of_allowedDomain {s : String} (h : isAllowedDomain s = true) : Text.trim s = s := by
  obtain ⟨d, hdomain, -, hs⟩ := allowedDomain_cases h
  have hchars := fun c hc => plainChar (isDomainChar_of_isDomain hdomain c hc)
  have hfront : ∀ c ∈ "*.".toList, Text.isSpace c = false := by simp [Text.isSpace]
  refine trim_eq_self fun c hc => ?_
  rcases hs with rfl | rfl
  · exact (hchars c hc).space
  · rw [String.toList_append] at hc
    rcases List.mem_append.mp hc with hc | hc
    · exact hfront c hc
    · exact (hchars c hc).space

section

variable {host : Host}

theorem asciiLower_ne_empty {d : String} (h : isDomain d = true) : Text.asciiLower d ≠ "" := by
  intro hnil
  have hlist : d.toList.map Char.toLower = [] := by
    rw [← String.toList_ofList (l := d.toList.map Char.toLower)]
    exact congrArg String.toList hnil
  exact ne_empty_of_isDomain h (String.toList_injective (List.map_eq_nil_iff.mp hlist))

theorem toLowerCase_of_ascii {s : String} (h : ∀ c ∈ s.toList, c.toNat < 128) :
    host.toLowerCase s = Text.asciiLower s :=
  host.toLowerCase_ascii _ (List.all_eq_true.mpr fun c hc => decide_eq_true (h c hc))

/-- Lower case stays as it is. -/
theorem toLowerCase_asciiLower {d : String} (h : isDomain d = true) :
    host.toLowerCase (Text.asciiLower d) = Text.asciiLower d := by
  have hchars := fun c hc => plainChar (isDomainChar_of_isDomain h c hc)
  have hlist : (Text.asciiLower d).toList = d.toList.map Char.toLower := String.toList_ofList
  rw [toLowerCase_of_ascii]
  · refine String.toList_injective ?_
    show (String.ofList ((Text.asciiLower d).toList.map Char.toLower)).toList = _
    rw [String.toList_ofList, hlist, List.map_map]
    exact List.map_congr_left fun c hc => (hchars c hc).lowerLower
  · intro c hc
    rw [hlist] at hc
    obtain ⟨b, hb, rfl⟩ := List.mem_map.mp hc
    exact (hchars b hb).lowerAscii

/-- A domain matches the entry it comes from, and no entry matches the empty name. -/
theorem matchesPattern_of_domain {s : String} (h : isAllowedDomain s = true) :
    matchesPattern host (Text.asciiLower (withoutWildcard s)) s = true ∧
      matchesPattern host "" s = false := by
  obtain ⟨d, hdomain, hbare, hs⟩ := allowedDomain_cases h
  rw [hbare]
  have hchars := fun c hc => plainChar (isDomainChar_of_isDomain hdomain c hc)
  have hlowerList : (Text.asciiLower d).toList = d.toList.map Char.toLower := String.toList_ofList
  have hne := asciiLower_ne_empty hdomain
  rcases hs with rfl | rfl
  · have hpattern : Text.trim (host.toLowerCase s) = Text.asciiLower s := by
      rw [toLowerCase_of_ascii fun c hc => (hchars c hc).ascii]
      refine trim_eq_self fun c hc => ?_
      rw [hlowerList] at hc
      obtain ⟨b, hb, rfl⟩ := List.mem_map.mp hc
      exact (hchars b hb).lowerSpace
    have hstar : ¬Text.startsWith (Text.asciiLower s) "*." = true := by
      intro hstar
      have hstarts : "*.".toList <+: (Text.asciiLower s).toList := of_decide_eq_true hstar
      rw [hlowerList] at hstarts
      obtain ⟨b, hb, hlower⟩ := List.mem_map.mp (hstarts.subset (List.mem_cons_self : '*' ∈ _))
      exact (hchars b hb).lowerStar hlower
    unfold matchesPattern
    simp only [hpattern]
    rw [if_neg hstar, if_neg hstar]
    exact ⟨beq_self_eq_true _, beq_eq_false_iff_ne.mpr hne.symm⟩
  · have hfront : ∀ c ∈ "*.".toList, Text.isSpace c = false ∧ c.toNat < 128 := by
      simp [Text.isSpace]
    have hpattern : Text.trim (host.toLowerCase ("*." ++ d)) = "*." ++ Text.asciiLower d := by
      have hsplit : Text.asciiLower ("*." ++ d) = "*." ++ Text.asciiLower d :=
        String.toList_injective (by simp [Text.asciiLower])
      rw [toLowerCase_of_ascii, hsplit]
      · refine trim_eq_self fun c hc => ?_
        rw [String.toList_append, hlowerList] at hc
        rcases List.mem_append.mp hc with hc | hc
        · exact (hfront c hc).1
        · obtain ⟨b, hb, rfl⟩ := List.mem_map.mp hc
          exact (hchars b hb).lowerSpace
      · intro c hc
        rw [String.toList_append] at hc
        rcases List.mem_append.mp hc with hc | hc
        · exact (hfront c hc).2
        · exact (hchars c hc).ascii
    have hstar : Text.startsWith ("*." ++ Text.asciiLower d) "*." = true := by
      refine decide_eq_true ?_
      rw [String.toList_append]
      exact List.prefix_append _ _
    have hbase : String.ofList (("*." ++ Text.asciiLower d).toList.drop 2) = Text.asciiLower d :=
      String.toList_injective (by simp)
    unfold matchesPattern
    simp only [hpattern]
    rw [if_pos hstar, if_pos hstar, hbase]
    refine ⟨by rw [beq_self_eq_true, Bool.true_or], ?_⟩
    have hempty : Text.endsWith "" ("." ++ Text.asciiLower d) = false := by
      refine decide_eq_false fun hsuffix => ?_
      have hlength := hsuffix.length_le
      simp at hlength
    rw [hempty, Bool.or_false]
    exact beq_eq_false_iff_ne.mpr hne.symm

theorem isDomainAllowed_eq (domain : String) (allowed : List String) :
    isDomainAllowed host domain allowed =
      (decide (allowed = []) ||
        (decide (domain ≠ "") && allowed.any (matchesPattern host (host.toLowerCase domain)))) := by
  unfold isDomainAllowed
  by_cases hnil : allowed = []
  · simp [hnil]
  · rw [if_neg hnil, decide_eq_false hnil, Bool.false_or]
    by_cases hdomain : domain = ""
    · rw [if_pos hdomain, decide_eq_false (not_not.mpr hdomain), Bool.false_and]
    · rw [if_neg hdomain, decide_eq_true hdomain, Bool.true_and]
      rfl

/-! ### The two checks -/

/-- The name the handler reads off an Origin that comes alone. -/
theorem extractRequestDomain_origin (hurl : ReadsDomains host) (origin : String) :
    extractRequestDomain host (some origin) none =
      ((host.parseUrl origin).map Url.hostname).getD "" := by
  have hread : (parseUrl host (some origin)).1 = (host.parseUrl origin).map Url.hostname := by
    by_cases horigin : origin = ""
    · rw [horigin, hurl.empty]
      rfl
    · simp only [parseUrl, if_neg horigin]
      cases host.parseUrl origin <;> rfl
  unfold extractRequestDomain
  rw [hread]
  cases host.parseUrl origin <;> rfl

theorem any_matchesPattern_empty {allowed : List String}
    (h : ∀ s ∈ allowed, isAllowedDomain s = true) :
    allowed.any (matchesPattern host "") = false :=
  List.any_eq_false.mpr fun s hs => by simp [(matchesPattern_of_domain (h s hs)).2]

/-- **What is dropped is classified as the handler drops it.** -/
theorem classifyHttpDrop_eq (hurl : ReadsDomains host) (ws : Workspace)
    (hdto : ∀ s ∈ ws.settings.allowedDomains, isAllowedDomain s = true) (origin : String) :
    classifyHttpDrop host (some ws) origin =
      if ws.status = .inactive ∨ ws.status = .error then .workspaceInactive
      else if isDomainAllowed host (extractRequestDomain host (some origin) none)
          ws.settings.allowedDomains = true then .notRequeryable
      else .domainNotAllowed := by
  have hempty : host.toLowerCase "" = "" := host.toLowerCase_ascii "" rfl
  have hany : ws.settings.allowedDomains ≠ [] →
      ws.settings.allowedDomains.any (matchesPattern host
        (match host.parseUrl origin with
          | some url => host.toLowerCase url.hostname
          | none => "")) =
      isDomainAllowed host (extractRequestDomain host (some origin) none)
        ws.settings.allowedDomains := by
    intro hne
    rw [isDomainAllowed_eq, extractRequestDomain_origin hurl, decide_eq_false hne, Bool.false_or]
    cases host.parseUrl origin with
    | none => exact any_matchesPattern_empty hdto
    | some url =>
        show _ = (decide (url.hostname ≠ "") && _)
        by_cases hname : url.hostname = ""
        · rw [decide_eq_false (not_not.mpr hname), Bool.false_and]
          simp only [hname, hempty]
          exact any_matchesPattern_empty hdto
        · rw [decide_eq_true hname, Bool.true_and]
          rfl
  unfold classifyHttpDrop
  by_cases hstatus : ws.status = .inactive ∨ ws.status = .error
  · rw [if_pos hstatus]
    exact if_pos hstatus
  · rw [if_neg hstatus]
    refine (if_neg hstatus).trans ?_
    by_cases hnil : ws.settings.allowedDomains = []
    · rw [isDomainAllowed_eq, decide_eq_true hnil, Bool.true_or]
      exact if_neg fun h => h.1 hnil
    · rw [← hany hnil]
      cases hok : ws.settings.allowedDomains.any (matchesPattern host
          (match host.parseUrl origin with
            | some url => host.toLowerCase url.hostname
            | none => "")) with
      | true => exact if_neg fun h => Bool.eq_false_iff.mp h.2 hok
      | false => exact if_pos ⟨hnil, hok⟩

theorem deriveProbeOrigin_cons (h : ProbeHost) {ws : ProbedWorkspace} {first : String}
    {rest : List String} (hlist : ws.settings.allowedDomains = first :: rest) :
    deriveProbeOrigin h (some ws) = "https://" ++ withoutWildcard (Text.trim first) := by
  simp only [deriveProbeOrigin, hlist]

/-- The Origin is made of the first entry of a list. -/
theorem probeOrigin_allowed_iff (h : ProbeHost) (hurl : ReadsDomains h.host)
    (ws : ProbedWorkspace) (hdto : ∀ s ∈ ws.settings.allowedDomains, isAllowedDomain s = true) :
    isDomainAllowed h.host
        (extractRequestDomain h.host (some (deriveProbeOrigin h (some ws))) none)
        ws.settings.allowedDomains = true ↔
      ∀ first rest, ws.settings.allowedDomains = first :: rest →
        (h.host.parseUrl ("https://" ++ withoutWildcard first)).isSome = true := by
  rw [extractRequestDomain_origin hurl, isDomainAllowed_eq]
  cases hlist : ws.settings.allowedDomains with
  | nil => exact iff_of_true rfl fun _ _ hcons => absurd hcons (by simp)
  | cons first rest =>
      rw [deriveProbeOrigin_cons h hlist]
      have hfirst : isAllowedDomain first = true := hdto first (hlist ▸ List.mem_cons_self)
      obtain ⟨d, hdomain, hbare, -⟩ := allowedDomain_cases hfirst
      rw [decide_eq_false (List.cons_ne_nil _ _), Bool.false_or, trim_of_allowedDomain hfirst]
      cases hparse : h.host.parseUrl ("https://" ++ withoutWildcard first) with
      | none =>
          refine iff_of_false (by simp) fun hall => ?_
          have hsome := hall first rest rfl
          rw [hparse] at hsome
          exact absurd hsome (by decide)
      | some url =>
          have hname : url.hostname = Text.asciiLower d := by
            refine hurl.domain d hdomain url ?_
            rw [← hbare]
            exact hparse
          have hne : Text.asciiLower d ≠ "" := asciiLower_ne_empty hdomain
          have hlower : h.host.toLowerCase (Text.asciiLower d) = Text.asciiLower d :=
            toLowerCase_asciiLower hdomain
          refine iff_of_true ?_ fun f r hcons => ?_
          · simp only [Option.map_some, Option.getD_some, hname, hlower, Bool.and_eq_true,
              decide_eq_true_eq, List.any_cons, Bool.or_eq_true]
            exact ⟨hne, Or.inl (hbare ▸ (matchesPattern_of_domain hfirst).1)⟩
          · obtain ⟨rfl, -⟩ := List.cons.inj hcons
            rw [hparse]
            rfl

/-- **The probe and the handler.**

For a workspace whose domains pass their check, the Origin of the probe is accepted and the
classification names the domain exactly when the handler refuses it, if and only if the
first entry of the list, without its wildcard, is one the URL parser takes. -/
theorem probe_speaks_iff (h : ProbeHost) (hurl : ReadsDomains h.host) (ws : ProbedWorkspace)
    (hdto : ∀ s ∈ ws.settings.allowedDomains, isAllowedDomain s = true) :
    (isDomainAllowed h.host
        (extractRequestDomain h.host (some (deriveProbeOrigin h (some ws))) none)
        ws.settings.allowedDomains = true ∧
      ∀ origin, ws.status ≠ .inactive → ws.status ≠ .error →
        (classifyHttpDrop h.host (some ws.toWorkspace) origin = .domainNotAllowed ↔
          isDomainAllowed h.host (extractRequestDomain h.host (some origin) none)
            ws.settings.allowedDomains = false)) ↔
      ∀ first rest, ws.settings.allowedDomains = first :: rest →
        (h.host.parseUrl ("https://" ++ withoutWildcard first)).isSome = true := by
  rw [probeOrigin_allowed_iff h hurl ws hdto]
  refine ⟨fun hboth => hboth.1, fun hfirst => ⟨hfirst, fun origin hactive herror => ?_⟩⟩
  have hstatus : ¬(ws.status = .inactive ∨ ws.status = .error) := fun hor =>
    hor.elim hactive herror
  rw [classifyHttpDrop_eq hurl ws.toWorkspace hdto origin, if_neg hstatus]
  split_ifs with hallowed
  · exact iff_of_false (by decide) (by simp [hallowed])
  · exact iff_of_true rfl (Bool.eq_false_iff.mpr hallowed)

end

namespace ProbeExample

def workspace (allowedDomains : List String) : ProbedWorkspace where
  id := "w"
  status := .active
  settings := { allowedDomains := allowedDomains }
  website := "https://shop.example"

/-- The domain passes its check, but its first label is no Punycode: the URL parser throws. -/
theorem punycode_refused :
    isAllowedDomain "xn--pokxncvks.com" = true ∧
      deriveProbeOrigin ⟨.bare, fun _ => none⟩ (some (workspace ["xn--pokxncvks.com",
        "shop.example"])) = "https://xn--pokxncvks.com" ∧
      isDomainAllowed .bare (extractRequestDomain .bare (some "https://xn--pokxncvks.com") none)
        ["xn--pokxncvks.com", "shop.example"] = false ∧
      classifyHttpDrop .bare (some (workspace ["xn--pokxncvks.com", "shop.example"]).toWorkspace)
        "https://xn--pokxncvks.com" = .domainNotAllowed := by
  decide

/-- A host that takes every name behind `https://`. -/
def host : Host where
  regExp _ := none
  parseUrl s :=
    if Text.startsWith s "https://" then
      some ⟨Text.asciiLower (String.ofList (s.toList.drop 8)), "/", fun _ => none⟩
    else none
  toLowerCase := Text.asciiLower
  toLowerCase_ascii := Host.bare.toLowerCase_ascii

theorem readsDomains_host : ReadsDomains host where
  empty := by decide
  domain d _ url hparse := by
    have hstart : Text.startsWith ("https://" ++ d) "https://" = true := by
      refine decide_eq_true ?_
      rw [String.toList_append]
      exact List.prefix_append _ _
    have hdrop : String.ofList (("https://" ++ d).toList.drop 8) = d :=
      String.toList_injective (by simp)
    have hparsed : host.parseUrl ("https://" ++ d) =
        some ⟨Text.asciiLower d, "/", fun _ => none⟩ := by
      show (if _ then some _ else none) = _
      rw [if_pos hstart, hdrop]
    rw [hparsed] at hparse
    exact (congrArg Url.hostname (Option.some.inj hparse)).symm

theorem wildcard_accepted :
    isDomainAllowed host (extractRequestDomain host (some (deriveProbeOrigin ⟨host, fun _ => none⟩
      (some (workspace ["*.Shop.example", "xn--pokxncvks.com"])))) none)
      ["*.Shop.example", "xn--pokxncvks.com"] = true := by
  have hdto : ∀ s ∈ (workspace ["*.Shop.example", "xn--pokxncvks.com"]).settings.allowedDomains,
      isAllowedDomain s = true := by
    decide
  refine ((probe_speaks_iff ⟨host, fun _ => none⟩ readsDomains_host _ hdto).mpr ?_).1
  intro first rest hcons
  obtain ⟨rfl, -⟩ := List.cons.inj hcons
  decide

end ProbeExample

end Veridian.AdminPlatformService
