/-
Where the two acquisition classifiers of the CRM agree.

`acquisitionSource` reads the event itself, in an order of its own; the stitched first
touch is the channel group that `deriveChannel` gave the same signals, put into the words
of the CRM.  The two orders differ: a search engine as referrer comes before any medium in
the first and after it in the second, a paid medium is `paid_other` in the first and counts
as Google Ads in the second, and of the synonyms of a medium the first knows one each.
`ClassifiersAgree` is what is left of the signals.
-/
import Veridian.Webhooks.TwentyEventMapper
import Veridian.Events.DeriveChannel

namespace Veridian.TwentyEventMapper

/-! ### The classifier of the event -/

/-- What `acquisitionSource` reads of a payload. -/
structure AcquisitionPayload where
  /-- `utm.id_from` -/
  idFrom : Option String
  /-- `utm.medium` -/
  medium : Option String
  /-- `properties.source`, the source of a phone call. -/
  source : Option String
  referrerDomain : Option String

def SEARCH_ENGINES : List String :=
  ["google", "bing", "yahoo", "duckduckgo", "ecosia", "qwant", "yandex", "baidu"]

def SOCIAL_NETWORKS : List String :=
  ["facebook", "instagram", "linkedin", "twitter", "x", "t", "tiktok", "youtube", "pinterest",
    "reddit", "snapchat"]

def SOCIAL_TLDS : List String := ["com", "co", "fr"]

/-- `/(^|\.)(google|…)\./` on `domain + '.'`. -/
def isSearchEngine (domain : String) : Bool :=
  SEARCH_ENGINES.any fun name =>
    Text.startsWith (domain ++ ".") (name ++ ".") ||
      Text.includes (domain ++ ".") ("." ++ name ++ ".")

/-- `/(^|\.)(facebook|…)\.(com|co|fr)$/` -/
def isSocial (domain : String) : Bool :=
  SOCIAL_NETWORKS.any fun name => SOCIAL_TLDS.any fun tld =>
    domain == name ++ "." ++ tld || Text.endsWith domain ("." ++ name ++ "." ++ tld)

def acquisitionSource (host : Host) (p : AcquisitionPayload) : String :=
  let idFrom := host.toLowerCase (p.idFrom.getD "")
  let medium := host.toLowerCase (p.medium.getD "")
  let phoneSource := host.toLowerCase (p.source.getD "")
  let referrerDomain := host.toLowerCase (p.referrerDomain.getD "")
  if idFrom = "gclid" ∨ idFrom = "gbraid" ∨ idFrom = "wbraid" then "google_ads"
  else if phoneSource = "ads" then "google_ads"
  else if referrerDomain ≠ "" ∧ isSearchEngine referrerDomain = true then "organic_seo"
  else if medium = "cpc" ∨ medium = "ppc" ∨ medium = "paid" then "paid_other"
  else if medium = "email" ∨ phoneSource = "email" then "email"
  else if phoneSource = "social" ∨ isSocial referrerDomain = true ∨ medium = "social" then "social"
  else if phoneSource = "seo" then "organic_seo"
  else if phoneSource = "direct" then "direct"
  else if referrerDomain ≠ "" then "referral"
  else if phoneSource ≠ "" ∧ phoneSource ≠ "other" then phoneSource
  else "direct"

/-! ### The signals of an event -/

structure EventSignals where
  utmSource : Option String
  utmMedium : Option String
  utmIdFrom : Option String
  referrer : Option String
  referrerDomain : Option String
  isDirect : Option Bool

def EventSignals.channelSignals (s : EventSignals) : ChannelSignals where
  referrerDomain := s.referrerDomain
  referrer := s.referrer
  utmSource := s.utmSource
  utmMedium := s.utmMedium
  utmIdFrom := s.utmIdFrom
  isDirect := s.isDirect
  referralCode := none

def EventSignals.payload (s : EventSignals) : AcquisitionPayload where
  idFrom := s.utmIdFrom
  medium := s.utmMedium
  source := none
  referrerDomain := s.referrerDomain

/-- The attribution that is stitched when the signals are those of the first touch. -/
def EventSignals.firstTouch (host : Host) (s : EventSignals) : FirstTouchAttribution :=
  let result := deriveChannel host s.channelSignals
  { channelGroup := result.channelGroup.text, channel := result.channel.text, referralCode := "" }

/-- On these signals a source that the stitched first touch names is the event's own. -/
def SameSource (host : Host) (s : EventSignals) : Prop :=
  acquisitionFromFirstTouch host (s.firstTouch host) ≠ "" →
    acquisitionSource host s.payload = acquisitionFromFirstTouch host (s.firstTouch host)

/-! ### The condition -/

/-- What the signals that `deriveChannel` settles alike must be for `acquisitionSource`, in
the order of `deriveChannel`. -/
def ClassifiersAgree (host : Host) (s : EventSignals) : Prop :=
  let medium := norm host s.utmMedium
  let domain := signalDomain host s.channelSignals
  let rawMedium := host.toLowerCase (s.utmMedium.getD "")
  let rawDomain := host.toLowerCase (s.referrerDomain.getD "")
  if norm host s.utmIdFrom ∈ PAID_SEARCH_CLICK_IDS then
    host.toLowerCase (s.utmIdFrom.getD "") ∈ PAID_SEARCH_CLICK_IDS
  else if medium ∈ PAID_MEDIUMS then
    (isSocialDomain domain = true ∨ isSocialSource (norm host s.utmSource) = true) ∧
      rawMedium ∉ ["cpc", "ppc", "paid"] ∧ isSearchEngine rawDomain = false ∧
      isSocial rawDomain = true
  else if medium ∈ SOCIAL_MEDIUMS then
    isSearchEngine rawDomain = false ∧ (isSocial rawDomain = true ∨ rawMedium = "social")
  else if medium ∈ EMAIL_MEDIUMS then isSearchEngine rawDomain = false ∧ rawMedium = "email"
  else if medium ∈ REFERRAL_MEDIUMS then
    isSearchEngine rawDomain = false ∧ isSocial rawDomain = false ∧ rawDomain ≠ ""
  else if medium ∈ ORGANIC_MEDIUMS then isSearchEngine rawDomain = true
  else if isEmailDomain domain = true then False
  else if isSearchEngineDomain domain = true then isSearchEngine rawDomain = true
  else if isSocialDomain domain = true then
    isSearchEngine rawDomain = false ∧ isSocial rawDomain = true
  else domain ≠ "" →
    isSearchEngine rawDomain = false ∧ isSocial rawDomain = false ∧ rawDomain ≠ ""

/-! ### Blanks -/

theorem isSpace_toLower (c : Char) : Text.isSpace c.toLower = Text.isSpace c := by
  unfold Char.toLower
  split
  · rename_i hupper
    have hlow : 65 ≤ c.toNat := hupper.1
    have hhigh : c.toNat ≤ 90 := hupper.2
    unfold Text.isSpace
    rw [Bool.eq_iff_iff]
    simp
    omega
  · rfl

theorem asciiLower_trim (s : String) :
    Text.asciiLower (Text.trim s) = Text.trim (Text.asciiLower s) := by
  have hspace : Text.isSpace ∘ Char.toLower = Text.isSpace := funext isSpace_toLower
  unfold Text.asciiLower Text.trim
  simp only [String.toList_ofList, List.dropWhile_map, hspace, ← List.map_reverse]

section

variable {host : Host} (htrim : ∀ s, host.toLowerCase (Text.trim s) = Text.trim (host.toLowerCase s))
include htrim

/-- A word without blanks around it is read alike with and without trimming. -/
theorem norm_eq_of_lower {v : Option String} {word : String} (hword : Text.trim word = word)
    (h : host.toLowerCase (v.getD "") = word) : norm host v = word := by
  rw [norm, htrim, h, hword]

theorem lower_not_mem {v : Option String} {words : List String}
    (hwords : ∀ w ∈ words, Text.trim w = w) (h : norm host v ∉ words) :
    host.toLowerCase (v.getD "") ∉ words :=
  fun hmem => h (by rwa [norm_eq_of_lower htrim (hwords _ hmem) rfl])

/-! ### Both classifiers, branch by branch -/

/-- The word of the CRM for a channel group. -/
def crmWord : ChannelGroup → String
  | .ads => "google_ads"
  | .seo => "organic_seo"
  | .social => "social"
  | .email => "email"
  | .referral => "referral"
  | .direct | .other => ""

omit htrim in
theorem acquisitionFromFirstTouch_text (g : ChannelGroup) (channel code : String) :
    acquisitionFromFirstTouch host ⟨g.text, channel, code⟩ = crmWord g := by
  have hlower : host.toLowerCase g.text = g.text := by
    rw [host.toLowerCase_ascii _ (by cases g <;> decide)]
    cases g <;> decide
  unfold acquisitionFromFirstTouch
  rw [hlower]
  cases g <;> rfl

omit htrim in
theorem firstTouch_of_channel {s : EventSignals} {channel : Channel}
    (h : deriveChannel host s.channelSignals = finalize channel) :
    acquisitionFromFirstTouch host (s.firstTouch host) = crmWord (toChannelGroup channel) := by
  unfold EventSignals.firstTouch
  rw [h]
  exact acquisitionFromFirstTouch_text _ _ _

omit htrim in
/-- The channel has a word in the CRM. -/
theorem sameSource_iff_of_channel {s : EventSignals} {channel : Channel} {word : String}
    (h : deriveChannel host s.channelSignals = finalize channel)
    (hword : crmWord (toChannelGroup channel) = word) (hne : word ≠ "") :
    SameSource host s ↔ acquisitionSource host s.payload = word := by
  rw [SameSource, firstTouch_of_channel h, hword]
  exact forall_prop_of_true hne

omit htrim in
theorem deriveChannel_of_medium {s : ChannelSignals} {channel : Channel}
    (hid : norm host s.utmIdFrom ∉ PAID_SEARCH_CLICK_IDS)
    (h : channelOfMedium host s = some channel) : deriveChannel host s = finalize channel := by
  unfold deriveChannel
  rw [if_neg (by simpa using hid), h]

omit htrim in
theorem deriveChannel_of_domain {s : ChannelSignals} {channel : Channel}
    (hid : norm host s.utmIdFrom ∉ PAID_SEARCH_CLICK_IDS)
    (hmedium : channelOfMedium host s = none)
    (h : channelOfDomain (signalDomain host s) = some channel) :
    deriveChannel host s = finalize channel := by
  unfold deriveChannel
  rw [if_neg (by simpa using hid), hmedium, h]

omit htrim in
/-- The event of a web page, after the click id. -/
theorem acquisitionSource_web {s : EventSignals}
    (hid : host.toLowerCase (s.utmIdFrom.getD "") ∉ PAID_SEARCH_CLICK_IDS) :
    acquisitionSource host s.payload =
      let medium := host.toLowerCase (s.utmMedium.getD "")
      let domain := host.toLowerCase (s.referrerDomain.getD "")
      if isSearchEngine domain = true then "organic_seo"
      else if medium ∈ ["cpc", "ppc", "paid"] then "paid_other"
      else if medium = "email" then "email"
      else if isSocial domain = true ∨ medium = "social" then "social"
      else if domain ≠ "" then "referral"
      else "direct" := by
  have hphone : host.toLowerCase "" = "" :=
    (host.toLowerCase_ascii "" (by decide)).trans (by decide)
  have hnone : isSearchEngine "" = false := by decide
  unfold acquisitionSource
  simp only [EventSignals.payload, Option.getD_none, hphone]
  have hsearch : ∀ d : String, (d ≠ "" ∧ isSearchEngine d = true) ↔ isSearchEngine d = true := by
    intro d
    refine and_iff_right_of_imp fun hengine hempty => ?_
    rw [hempty, hnone] at hengine
    exact Bool.noConfusion hengine
  rw [if_neg (by simpa [PAID_SEARCH_CLICK_IDS] using hid)]
  simp [hsearch]

/-! ### The agreement -/

section

variable {s : EventSignals} (hid : host.toLowerCase (s.utmIdFrom.getD "") ∉ PAID_SEARCH_CLICK_IDS)
include hid
omit htrim

/-- Which branch names which source. -/
theorem acquisitionSource_cases :
    let medium := host.toLowerCase (s.utmMedium.getD "")
    let domain := host.toLowerCase (s.referrerDomain.getD "")
    let source := acquisitionSource host s.payload
    (isSearchEngine domain = true ∧ source = "organic_seo") ∨
      isSearchEngine domain = false ∧
        ((medium ∈ ["cpc", "ppc", "paid"] ∧ source = "paid_other") ∨
          medium ∉ ["cpc", "ppc", "paid"] ∧
            ((medium = "email" ∧ source = "email") ∨
              medium ≠ "email" ∧
                (((isSocial domain = true ∨ medium = "social") ∧ source = "social") ∨
                  ¬(isSocial domain = true ∨ medium = "social") ∧
                    ((domain ≠ "" ∧ source = "referral") ∨ (domain = "" ∧ source = "direct"))))) := by
  dsimp only
  rw [acquisitionSource_web hid]
  dsimp only
  by_cases hengine : isSearchEngine (host.toLowerCase (s.referrerDomain.getD "")) = true
  · exact Or.inl ⟨hengine, if_pos hengine⟩
  refine Or.inr ⟨Bool.eq_false_of_not_eq_true hengine, ?_⟩
  rw [if_neg hengine]
  by_cases hads : host.toLowerCase (s.utmMedium.getD "") ∈ ["cpc", "ppc", "paid"]
  · exact Or.inl ⟨hads, if_pos hads⟩
  refine Or.inr ⟨hads, ?_⟩
  rw [if_neg hads]
  by_cases hemail : host.toLowerCase (s.utmMedium.getD "") = "email"
  · exact Or.inl ⟨hemail, if_pos hemail⟩
  refine Or.inr ⟨hemail, ?_⟩
  rw [if_neg hemail]
  by_cases hsocial : isSocial (host.toLowerCase (s.referrerDomain.getD "")) = true ∨
      host.toLowerCase (s.utmMedium.getD "") = "social"
  · exact Or.inl ⟨hsocial, if_pos hsocial⟩
  refine Or.inr ⟨hsocial, ?_⟩
  rw [if_neg hsocial]
  by_cases hdomain : host.toLowerCase (s.referrerDomain.getD "") = ""
  · exact Or.inr ⟨hdomain, if_neg (not_not_intro hdomain)⟩
  · exact Or.inl ⟨hdomain, if_pos hdomain⟩

theorem acquisitionSource_eq_organic_seo :
    acquisitionSource host s.payload = "organic_seo" ↔
      isSearchEngine (host.toLowerCase (s.referrerDomain.getD "")) = true := by
  have hcases := acquisitionSource_cases hid
  grind

theorem acquisitionSource_eq_social :
    acquisitionSource host s.payload = "social" ↔
      isSearchEngine (host.toLowerCase (s.referrerDomain.getD "")) = false ∧
        host.toLowerCase (s.utmMedium.getD "") ∉ ["cpc", "ppc", "paid"] ∧
        host.toLowerCase (s.utmMedium.getD "") ≠ "email" ∧
        (isSocial (host.toLowerCase (s.referrerDomain.getD "")) = true ∨
          host.toLowerCase (s.utmMedium.getD "") = "social") := by
  have hcases := acquisitionSource_cases hid
  grind

theorem acquisitionSource_eq_email :
    acquisitionSource host s.payload = "email" ↔
      isSearchEngine (host.toLowerCase (s.referrerDomain.getD "")) = false ∧
        host.toLowerCase (s.utmMedium.getD "") = "email" := by
  have hcases := acquisitionSource_cases hid
  grind

theorem acquisitionSource_eq_referral :
    acquisitionSource host s.payload = "referral" ↔
      isSearchEngine (host.toLowerCase (s.referrerDomain.getD "")) = false ∧
        host.toLowerCase (s.utmMedium.getD "") ∉ ["cpc", "ppc", "paid", "email", "social"] ∧
        isSocial (host.toLowerCase (s.referrerDomain.getD "")) = false ∧
        host.toLowerCase (s.referrerDomain.getD "") ≠ "" := by
  have hcases := acquisitionSource_cases hid
  grind

theorem acquisitionSource_ne_google_ads : acquisitionSource host s.payload ≠ "google_ads" := by
  have hcases := acquisitionSource_cases hid
  grind

end

omit htrim in
variable (host) in
/-- The medium without the two tests that its lists make needless. -/
theorem channelOfMedium_eq (signals : ChannelSignals) :
    channelOfMedium host signals =
      let medium := norm host signals.utmMedium
      if medium ∈ PAID_MEDIUMS then
        some (if isSocialDomain (signalDomain host signals) = true ∨
          isSocialSource (norm host signals.utmSource) = true then .paidSocial else .paidSearch)
      else if medium ∈ SOCIAL_MEDIUMS then
        some (if medium ∈ PAID_SOCIAL_MEDIUMS then .paidSocial else .organicSocial)
      else if medium ∈ EMAIL_MEDIUMS then some .email
      else if medium ∈ REFERRAL_MEDIUMS then some .referral
      else if medium ∈ ORGANIC_MEDIUMS then some .organicSearch
      else none := by
  have hpaid : ∀ m ∈ PAID_MEDIUMS, SOCIAL_MEDIUMS.contains m = false := by decide
  unfold channelOfMedium
  by_cases hempty : norm host signals.utmMedium = ""
  · simp [hempty, PAID_MEDIUMS, SOCIAL_MEDIUMS, PAID_SOCIAL_MEDIUMS, EMAIL_MEDIUMS,
      REFERRAL_MEDIUMS, ORGANIC_MEDIUMS]
  · simp only [if_neg hempty, List.contains_iff_mem]
    by_cases hmem : norm host signals.utmMedium ∈ PAID_MEDIUMS
    · simp only [if_pos hmem, hpaid _ hmem, Bool.false_or, Bool.or_eq_true, apply_ite some]
    · simp only [if_neg hmem]

omit htrim in
/-- The words of the lists have no blanks around them. -/
theorem trim_word : ∀ w ∈ PAID_SEARCH_CLICK_IDS ++ ["cpc", "ppc", "paid", "email", "social"],
    Text.trim w = w := by
  decide

/-- A medium of a list that has none of these words is not written as one of them. -/
theorem raw_medium_not_mem {v : Option String} {list words : List String}
    (hmem : norm host v ∈ list) (hapart : ∀ w ∈ list, w ∉ words)
    (hwords : words ⊆ ["cpc", "ppc", "paid", "email", "social"]) :
    host.toLowerCase (v.getD "") ∉ words :=
  lower_not_mem htrim (fun w hw => trim_word w (List.mem_append_right _ (hwords hw)))
    (hapart _ hmem)

section

variable {s : EventSignals} (hclick : norm host s.utmIdFrom ∉ PAID_SEARCH_CLICK_IDS)
include hclick

theorem raw_click_id : host.toLowerCase (s.utmIdFrom.getD "") ∉ PAID_SEARCH_CLICK_IDS :=
  lower_not_mem htrim (fun w hw => trim_word w (List.mem_append_left _ hw)) hclick

omit htrim in
theorem sameSource_of_medium {channel : Channel} {word : String}
    (h : channelOfMedium host s.channelSignals = some channel)
    (hword : crmWord (toChannelGroup channel) = word) (hne : word ≠ "") :
    SameSource host s ↔ acquisitionSource host s.payload = word :=
  sameSource_iff_of_channel (deriveChannel_of_medium hclick h) hword hne

theorem sameSource_of_paid (hpaid : norm host s.utmMedium ∈ PAID_MEDIUMS) :
    SameSource host s ↔
      (isSocialDomain (signalDomain host s.channelSignals) = true ∨
          isSocialSource (norm host s.utmSource) = true) ∧
        host.toLowerCase (s.utmMedium.getD "") ∉ ["cpc", "ppc", "paid"] ∧
        isSearchEngine (host.toLowerCase (s.referrerDomain.getD "")) = false ∧
        isSocial (host.toLowerCase (s.referrerDomain.getD "")) = true := by
  have hid := raw_click_id htrim hclick
  have hmedium := (channelOfMedium_eq host s.channelSignals).trans (if_pos hpaid)
  have hraw : host.toLowerCase (s.utmMedium.getD "") ∉ ["email", "social"] :=
    raw_medium_not_mem htrim hpaid (by decide) (by decide)
  by_cases hsocial : isSocialDomain (signalDomain host s.channelSignals) = true ∨
      isSocialSource (norm host s.utmSource) = true
  · rw [sameSource_of_medium hclick (hmedium.trans (congrArg some (if_pos hsocial))) rfl
      (by decide)]
    obtain ⟨hemail, hword⟩ : host.toLowerCase (s.utmMedium.getD "") ≠ "email" ∧
        host.toLowerCase (s.utmMedium.getD "") ≠ "social" := by
      simpa using hraw
    refine (acquisitionSource_eq_social hid).trans ?_
    rw [and_iff_right hsocial, and_iff_right hemail, or_iff_left hword, and_left_comm]
  · rw [sameSource_of_medium hclick (hmedium.trans (congrArg some (if_neg hsocial))) rfl
      (by decide)]
    exact iff_of_false (acquisitionSource_ne_google_ads hid) fun h => hsocial h.1

theorem sameSource_of_social (hpaid : norm host s.utmMedium ∉ PAID_MEDIUMS)
    (hsocial : norm host s.utmMedium ∈ SOCIAL_MEDIUMS) :
    SameSource host s ↔
      isSearchEngine (host.toLowerCase (s.referrerDomain.getD "")) = false ∧
        (isSocial (host.toLowerCase (s.referrerDomain.getD "")) = true ∨
          host.toLowerCase (s.utmMedium.getD "") = "social") := by
  have hid := raw_click_id htrim hclick
  have hmedium := ((channelOfMedium_eq host s.channelSignals).trans
    (if_neg hpaid)).trans (if_pos hsocial)
  have hads : host.toLowerCase (s.utmMedium.getD "") ∉ ["cpc", "ppc", "paid"] :=
    raw_medium_not_mem htrim hsocial (by decide) (by decide)
  have hmail : host.toLowerCase (s.utmMedium.getD "") ∉ ["email"] :=
    raw_medium_not_mem htrim hsocial (by decide) (by decide)
  have hword : SameSource host s ↔ acquisitionSource host s.payload = "social" := by
    by_cases hboth : norm host s.utmMedium ∈ PAID_SOCIAL_MEDIUMS
    · exact sameSource_of_medium hclick (hmedium.trans (congrArg some (if_pos hboth))) rfl
        (by decide)
    · exact sameSource_of_medium hclick (hmedium.trans (congrArg some (if_neg hboth))) rfl
        (by decide)
  rw [hword, acquisitionSource_eq_social hid, and_iff_right hads,
    and_iff_right fun h => hmail (List.mem_singleton.mpr h)]

theorem sameSource_of_email (hpaid : norm host s.utmMedium ∉ PAID_MEDIUMS)
    (hsocial : norm host s.utmMedium ∉ SOCIAL_MEDIUMS)
    (hemail : norm host s.utmMedium ∈ EMAIL_MEDIUMS) :
    SameSource host s ↔
      isSearchEngine (host.toLowerCase (s.referrerDomain.getD "")) = false ∧
        host.toLowerCase (s.utmMedium.getD "") = "email" := by
  have hmedium := (((channelOfMedium_eq host s.channelSignals).trans
    (if_neg hpaid)).trans (if_neg hsocial)).trans (if_pos hemail)
  rw [sameSource_of_medium hclick hmedium rfl (by decide)]
  exact acquisitionSource_eq_email (raw_click_id htrim hclick)

theorem sameSource_of_referral (hpaid : norm host s.utmMedium ∉ PAID_MEDIUMS)
    (hsocial : norm host s.utmMedium ∉ SOCIAL_MEDIUMS)
    (hemail : norm host s.utmMedium ∉ EMAIL_MEDIUMS)
    (hreferral : norm host s.utmMedium ∈ REFERRAL_MEDIUMS) :
    SameSource host s ↔
      isSearchEngine (host.toLowerCase (s.referrerDomain.getD "")) = false ∧
        isSocial (host.toLowerCase (s.referrerDomain.getD "")) = false ∧
        host.toLowerCase (s.referrerDomain.getD "") ≠ "" := by
  have hmedium := ((((channelOfMedium_eq host s.channelSignals).trans
    (if_neg hpaid)).trans (if_neg hsocial)).trans (if_neg hemail)).trans (if_pos hreferral)
  have hraw : host.toLowerCase (s.utmMedium.getD "") ∉ ["cpc", "ppc", "paid", "email", "social"] :=
    raw_medium_not_mem htrim hreferral (by decide) (List.Subset.refl _)
  rw [sameSource_of_medium hclick hmedium rfl (by decide)]
  refine (acquisitionSource_eq_referral (raw_click_id htrim hclick)).trans ?_
  rw [and_iff_right hraw]

theorem sameSource_of_organic (hpaid : norm host s.utmMedium ∉ PAID_MEDIUMS)
    (hsocial : norm host s.utmMedium ∉ SOCIAL_MEDIUMS)
    (hemail : norm host s.utmMedium ∉ EMAIL_MEDIUMS)
    (hreferral : norm host s.utmMedium ∉ REFERRAL_MEDIUMS)
    (horganic : norm host s.utmMedium ∈ ORGANIC_MEDIUMS) :
    SameSource host s ↔
      isSearchEngine (host.toLowerCase (s.referrerDomain.getD "")) = true := by
  have hmedium := (((((channelOfMedium_eq host s.channelSignals).trans
    (if_neg hpaid)).trans (if_neg hsocial)).trans (if_neg hemail)).trans
    (if_neg hreferral)).trans (if_pos horganic)
  rw [sameSource_of_medium hclick hmedium rfl (by decide)]
  exact acquisitionSource_eq_organic_seo (raw_click_id htrim hclick)

/-- Signals whose medium is on no list. -/
theorem sameSource_of_referrer (hmedium : channelOfMedium host s.channelSignals = none)
    (hraw : host.toLowerCase (s.utmMedium.getD "") ∉ ["cpc", "ppc", "paid", "email", "social"]) :
    SameSource host s ↔
      let domain := signalDomain host s.channelSignals
      let rawDomain := host.toLowerCase (s.referrerDomain.getD "")
      if isEmailDomain domain = true then False
      else if isSearchEngineDomain domain = true then isSearchEngine rawDomain = true
      else if isSocialDomain domain = true then
        isSearchEngine rawDomain = false ∧ isSocial rawDomain = true
      else domain ≠ "" →
        isSearchEngine rawDomain = false ∧ isSocial rawDomain = false ∧ rawDomain ≠ "" := by
  have hid := raw_click_id htrim hclick
  dsimp only
  by_cases hempty : signalDomain host s.channelSignals = ""
  · have hnone : ∀ suffixes, domainMatches "" suffixes = false := fun _ => rfl
    have hfall : s.channelSignals.fallsThrough host = true := by
      simp [ChannelSignals.fallsThrough, hmedium, hempty]
      exact hclick
    have hdirect : acquisitionFromFirstTouch host (s.firstTouch host) = "" := by
      unfold EventSignals.firstTouch
      rw [deriveChannel_of_fallsThrough host hfall,
        if_neg (not_not_intro (norm_of_empty host rfl))]
      dsimp only
      rw [acquisitionFromFirstTouch_text]
      split <;> rfl
    simp [SameSource, hdirect, hempty, isEmailDomain, isSearchEngineDomain, isSocialDomain, hnone]
  have hdomain : ∀ channel word, channelOfDomain (signalDomain host s.channelSignals) =
      some channel → crmWord (toChannelGroup channel) = word → word ≠ "" →
      (SameSource host s ↔ acquisitionSource host s.payload = word) := fun _ _ h =>
    sameSource_iff_of_channel (deriveChannel_of_domain hclick hmedium h)
  simp only [channelOfDomain, if_neg hempty] at hdomain
  simp only [List.mem_cons, List.not_mem_nil, or_false, not_or] at hraw
  obtain ⟨hcpc, hppc, hpaid, hemail, hsocial⟩ := hraw
  by_cases hmail : isEmailDomain (signalDomain host s.channelSignals) = true
  · rw [if_pos hmail] at hdomain
    rw [if_pos hmail, hdomain .email "email" rfl rfl (by decide), acquisitionSource_eq_email hid]
    simp [hemail]
  rw [if_neg hmail] at hdomain
  rw [if_neg hmail]
  by_cases hengine : isSearchEngineDomain (signalDomain host s.channelSignals) = true
  · rw [if_pos hengine] at hdomain
    rw [if_pos hengine, hdomain .organicSearch "organic_seo" rfl rfl (by decide),
      acquisitionSource_eq_organic_seo hid]
  rw [if_neg hengine] at hdomain
  rw [if_neg hengine]
  by_cases hnetwork : isSocialDomain (signalDomain host s.channelSignals) = true
  · rw [if_pos hnetwork] at hdomain
    rw [if_pos hnetwork, hdomain .organicSocial "social" rfl rfl (by decide),
      acquisitionSource_eq_social hid]
    simp [hcpc, hppc, hpaid, hemail, hsocial]
  · rw [if_neg hnetwork] at hdomain
    rw [if_neg hnetwork, hdomain .referral "referral" rfl rfl (by decide),
      acquisitionSource_eq_referral hid]
    simp [hcpc, hppc, hpaid, hemail, hsocial, hempty]

end

/-- **Where the classifiers agree.**

For every set of signals: whenever the stitched first touch names a source, the event
names the same, if and only if the signals are ones on which the two orders agree. -/
theorem classifiers_agree_iff (s : EventSignals) : SameSource host s ↔ ClassifiersAgree host s := by
  unfold ClassifiersAgree
  by_cases hclick : norm host s.utmIdFrom ∈ PAID_SEARCH_CLICK_IDS
  · have hderive : deriveChannel host s.channelSignals = finalize .paidSearch := by
      unfold deriveChannel
      exact if_pos (List.contains_iff_mem.mpr hclick)
    rw [sameSource_iff_of_channel hderive rfl (by decide)]
    simp only [if_pos hclick]
    refine ⟨fun hsame => ?_, fun hid => ?_⟩
    · by_contra hid
      exact acquisitionSource_ne_google_ads hid hsame
    · have hwords : host.toLowerCase (s.utmIdFrom.getD "") = "gclid" ∨
          host.toLowerCase (s.utmIdFrom.getD "") = "gbraid" ∨
          host.toLowerCase (s.utmIdFrom.getD "") = "wbraid" := by
        simpa [PAID_SEARCH_CLICK_IDS] using hid
      exact if_pos hwords
  simp only [if_neg hclick]
  by_cases hpaid : norm host s.utmMedium ∈ PAID_MEDIUMS
  · rw [if_pos hpaid]
    exact sameSource_of_paid htrim hclick hpaid
  rw [if_neg hpaid]
  by_cases hsocial : norm host s.utmMedium ∈ SOCIAL_MEDIUMS
  · rw [if_pos hsocial]
    exact sameSource_of_social htrim hclick hpaid hsocial
  rw [if_neg hsocial]
  by_cases hemail : norm host s.utmMedium ∈ EMAIL_MEDIUMS
  · rw [if_pos hemail]
    exact sameSource_of_email htrim hclick hpaid hsocial hemail
  rw [if_neg hemail]
  by_cases hreferral : norm host s.utmMedium ∈ REFERRAL_MEDIUMS
  · rw [if_pos hreferral]
    exact sameSource_of_referral htrim hclick hpaid hsocial hemail hreferral
  rw [if_neg hreferral]
  by_cases horganic : norm host s.utmMedium ∈ ORGANIC_MEDIUMS
  · rw [if_pos horganic]
    exact sameSource_of_organic htrim hclick hpaid hsocial hemail hreferral horganic
  rw [if_neg horganic]
  have hnone : channelOfMedium host s.channelSignals = none :=
    (((((channelOfMedium_eq host s.channelSignals).trans (if_neg hpaid)).trans
      (if_neg hsocial)).trans (if_neg hemail)).trans (if_neg hreferral)).trans (if_neg horganic)
  have hapart : ∀ w ∈ ["cpc", "ppc", "paid", "email", "social"],
      w ∈ PAID_MEDIUMS ∨ w ∈ SOCIAL_MEDIUMS ∨ w ∈ EMAIL_MEDIUMS := by decide
  refine sameSource_of_referrer htrim hclick hnone (lower_not_mem htrim
    (fun w hw => trim_word w (List.mem_append_right _ hw)) fun hmem => ?_)
  exact (hapart _ hmem).elim hpaid fun h => h.elim hsocial hemail

end

namespace AcquisitionExample

/-- A visit from a social network. -/
def network : EventSignals where
  utmSource := none
  utmMedium := none
  utmIdFrom := none
  referrer := some "https://www.facebook.com/"
  referrerDomain := some "www.facebook.com"
  isDirect := some false

/-- A paid campaign that is none of Google Ads. -/
def campaign : EventSignals where
  utmSource := some "bing"
  utmMedium := some "cpc"
  utmIdFrom := none
  referrer := none
  referrerDomain := none
  isDirect := some false

end AcquisitionExample

open AcquisitionExample in
theorem network_classifiers_agree : SameSource Host.bare network ∧
    acquisitionSource Host.bare network.payload = "social" := by
  have htrim : ∀ s, Host.bare.toLowerCase (Text.trim s) = Text.trim (Host.bare.toLowerCase s) :=
    asciiLower_trim
  have hsignals : ClassifiersAgree Host.bare network := by
    unfold ClassifiersAgree
    decide
  exact ⟨(classifiers_agree_iff htrim network).mpr hsignals, by decide⟩

open AcquisitionExample in
/-- The event says `paid_other`, the stitched first touch Google Ads. -/
theorem campaign_classifiers_differ : ¬SameSource Host.bare campaign ∧
    acquisitionSource Host.bare campaign.payload = "paid_other" ∧
    acquisitionFromFirstTouch Host.bare (campaign.firstTouch Host.bare) = "google_ads" := by
  have hevent : acquisitionSource Host.bare campaign.payload = "paid_other" := by decide
  have hstitched : acquisitionFromFirstTouch Host.bare (campaign.firstTouch Host.bare) =
      "google_ads" := by decide
  refine ⟨fun hsame => ?_, hevent, hstitched⟩
  have hword := hsame (by rw [hstitched]; decide)
  rw [hevent, hstitched] at hword
  exact absurd hword (by decide)

end Veridian.TwentyEventMapper
