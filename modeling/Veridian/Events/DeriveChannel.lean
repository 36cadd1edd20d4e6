/-
The acquisition channel of a session, derived from the signals it came with.

`deriveChannel` is a cascade: Google Ads click id, explicit `utm_medium`, domain of
the referrer, internal referral code, direct, other.  The first three look at
neither `is_direct` nor the referral code, so both matter only for signals that
fall through them; `deriveChannel_of_settled` and `deriveChannel_of_fallsThrough`
are the two halves of that, and what everything about stored signals rests on.
-/
import Veridian.Host

namespace Veridian

inductive Channel where
  | paidSearch | organicSearch | paidSocial | organicSocial | email | referral | direct | other
  deriving DecidableEq, Repr

inductive ChannelGroup where
  | ads | seo | social | email | referral | direct | other
  deriving DecidableEq, Repr

/-- `CHANNELS`: the strings stored in the `channel` column. -/
def Channel.text : Channel → String
  | .paidSearch => "paid_search"
  | .organicSearch => "organic_search"
  | .paidSocial => "paid_social"
  | .organicSocial => "organic_social"
  | .email => "email"
  | .referral => "referral"
  | .direct => "direct"
  | .other => "other"

/-- `CHANNEL_GROUPS`: the strings stored in the `channel_group` column. -/
def ChannelGroup.text : ChannelGroup → String
  | .ads => "ads"
  | .seo => "seo"
  | .social => "social"
  | .email => "email"
  | .referral => "referral"
  | .direct => "direct"
  | .other => "other"

theorem Channel.text_injective : Function.Injective Channel.text := by
  intro a b h
  cases a <;> cases b <;> first | rfl | simp [Channel.text] at h

theorem ChannelGroup.text_injective : Function.Injective ChannelGroup.text := by
  intro a b h
  cases a <;> cases b <;> first | rfl | simp [ChannelGroup.text] at h

theorem Channel.text_ne_empty (c : Channel) : c.text ≠ "" := by
  cases c <;> decide

theorem ChannelGroup.text_ne_empty (g : ChannelGroup) : g.text ≠ "" := by
  cases g <;> decide

structure ChannelResult where
  channel : Channel
  channelGroup : ChannelGroup
  deriving DecidableEq, Repr

/-- Results that are stored alike are the same. -/
theorem ChannelResult.eq_of_text {a b : ChannelResult} (hchannel : a.channel.text = b.channel.text)
    (hgroup : a.channelGroup.text = b.channelGroup.text) : a = b := by
  cases a
  cases b
  rw [ChannelResult.mk.injEq]
  exact ⟨Channel.text_injective hchannel, ChannelGroup.text_injective hgroup⟩

structure ChannelSignals where
  referrerDomain : Option String
  referrer : Option String
  utmSource : Option String
  utmMedium : Option String
  utmIdFrom : Option String
  isDirect : Option Bool
  referralCode : Option String
  deriving DecidableEq, Repr

/-! ### Reference lists -/

def SEARCH_ENGINE_DOMAINS : List String :=
  ["google.", "bing.", "yahoo.", "duckduckgo.com", "qwant.com", "ecosia.org", "startpage.com",
    "baidu.com", "yandex.", "ask.com", "aol.com", "brave.com", "search.brave.com"]

def SOCIAL_DOMAINS : List String :=
  ["facebook.com", "fb.com", "fb.me", "l.facebook.com", "lm.facebook.com", "m.facebook.com",
    "instagram.com", "l.instagram.com", "linkedin.com", "lnkd.in", "twitter.com", "x.com", "t.co",
    "youtube.com", "youtu.be", "tiktok.com", "pinterest.", "reddit.com", "snapchat.com",
    "tumblr.com", "threads.net", "mastodon.", "whatsapp.com", "wa.me", "messenger.com",
    "discord.com", "discord.gg", "telegram.org", "t.me"]

def EMAIL_DOMAINS : List String :=
  ["mail.google.com", "outlook.", "outlook.live.com", "outlook.office365.com", "mail.yahoo.com",
    "mail.proton.me", "protonmail.com", "mail.com", "gmx.", "laposte.net", "orange.fr", "free.fr",
    "sfr.fr"]

def PAID_SEARCH_CLICK_IDS : List String := ["gclid", "gbraid", "wbraid"]

def PAID_MEDIUMS : List String :=
  ["cpc", "ppc", "paid", "paidsearch", "paid_search", "paid-search", "sem", "cpm", "cpv", "cpa",
    "display", "banner", "retargeting"]

def PAID_SOCIAL_MEDIUMS : List String := ["paidsocial", "paid_social", "paid-social"]

def SOCIAL_MEDIUMS : List String :=
  ["social", "social-media", "social_media", "sm"] ++ PAID_SOCIAL_MEDIUMS

def EMAIL_MEDIUMS : List String := ["email", "e-mail", "newsletter", "mail"]

def REFERRAL_MEDIUMS : List String := ["referral", "referrer", "link", "affiliate", "partner"]

def ORGANIC_MEDIUMS : List String := ["organic", "organic_search"]

def SOCIAL_SOURCES : List String :=
  ["facebook", "instagram", "linkedin", "twitter", "x", "tiktok", "youtube", "pinterest",
    "snapchat", "reddit", "threads"]

/-! ### Helpers -/

def norm (host : Host) (v : Option String) : String :=
  host.toLowerCase (Text.trim (v.getD ""))

theorem norm_of_empty (host : Host) {v : Option String} (h : v.getD "" = "") :
    norm host v = "" := by
  rw [norm, h, Text.trim_empty, host.toLowerCase_ascii "" (by decide)]
  decide

def domainMatches (domain : String) (suffixes : List String) : Bool :=
  if domain = "" then false
  else suffixes.any fun s =>
    if Text.endsWith s "." then
      domain == Text.dropLast s || Text.includes domain s || Text.startsWith domain s
    else domain == s || Text.endsWith domain ("." ++ s)

/-- A text with a slash and no dot matches no list of domains. -/
theorem domainMatches_of_no_dot {domain : String} {suffixes : List String}
    (hdot : '.' ∉ domain.toList) (hslash : '/' ∈ domain.toList)
    (hsuffixes : ∀ s ∈ suffixes, '.' ∈ s.toList ∧ '/' ∉ s.toList) :
    domainMatches domain suffixes = false := by
  unfold domainMatches
  split
  · rfl
  rw [List.any_eq_false]
  intro s hs
  obtain ⟨hin, hout⟩ := hsuffixes s hs
  have hwithin : Text.includes domain s = false :=
    decide_eq_false fun h => hdot (h.subset hin)
  have hstart : Text.startsWith domain s = false :=
    decide_eq_false fun h => hdot (h.subset hin)
  have hend : Text.endsWith domain ("." ++ s) = false :=
    decide_eq_false fun h => hdot (h.subset (by simp))
  have hself : domain ≠ s := fun h => hdot (h ▸ hin)
  have hstem : domain ≠ Text.dropLast s := by
    intro h
    rw [h, Text.dropLast, String.toList_ofList] at hslash
    exact hout (List.mem_of_mem_dropLast hslash)
  split <;> simp [hwithin, hstart, hend, hself, hstem]

def isSearchEngineDomain (domain : String) : Bool := domainMatches domain SEARCH_ENGINE_DOMAINS

def isSocialDomain (domain : String) : Bool := domainMatches domain SOCIAL_DOMAINS

def isEmailDomain (domain : String) : Bool := domainMatches domain EMAIL_DOMAINS

def isSocialSource (source : String) : Bool :=
  if source = "" then false
  else SOCIAL_SOURCES.any fun s => source == s || Text.includes source s

def toChannelGroup : Channel → ChannelGroup
  | .paidSearch => .ads
  | .organicSearch => .seo
  | .paidSocial | .organicSocial => .social
  | .email => .email
  | .referral => .referral
  | .direct => .direct
  | .other => .other

def finalize (channel : Channel) : ChannelResult := ⟨channel, toChannelGroup channel⟩

/-! ### The cascade -/

/-- `refDomain || refRaw`. -/
def signalDomain (host : Host) (signals : ChannelSignals) : String :=
  if norm host signals.referrerDomain = "" then norm host signals.referrer
  else norm host signals.referrerDomain

/-- Branches 2 and 3, an explicit `utm_medium`. -/
def channelOfMedium (host : Host) (signals : ChannelSignals) : Option Channel :=
  let medium := norm host signals.utmMedium
  if medium = "" then none
  else if PAID_MEDIUMS.contains medium then
    if SOCIAL_MEDIUMS.contains medium || isSocialDomain (signalDomain host signals) ||
        isSocialSource (norm host signals.utmSource) then
      some .paidSocial
    else some .paidSearch
  else if SOCIAL_MEDIUMS.contains medium then
    some (if PAID_SOCIAL_MEDIUMS.contains medium then .paidSocial else .organicSocial)
  else if EMAIL_MEDIUMS.contains medium then some .email
  else if REFERRAL_MEDIUMS.contains medium then some .referral
  else if ORGANIC_MEDIUMS.contains medium then some .organicSearch
  else none

/-- Branches 4 and 5, the domain of the referrer. -/
def channelOfDomain (domain : String) : Option Channel :=
  if domain = "" then none
  else if isEmailDomain domain then some .email
  else if isSearchEngineDomain domain then some .organicSearch
  else if isSocialDomain domain then some .organicSocial
  else some .referral

def deriveChannel (host : Host) (signals : ChannelSignals) : ChannelResult :=
  let medium := norm host signals.utmMedium
  let domain := signalDomain host signals
  if PAID_SEARCH_CLICK_IDS.contains (norm host signals.utmIdFrom) then finalize .paidSearch
  else
    match channelOfMedium host signals with
    | some channel => finalize channel
    | none =>
        match channelOfDomain domain with
        | some channel => finalize channel
        | none =>
            -- 5bis, internal referral, then 6 and 7
            if norm host signals.referralCode ≠ "" then finalize .referral
            else if signals.isDirect = some true ∨ (domain = "" ∧ medium = "") then finalize .direct
            else finalize .other

/-! ### What falls through to the last three branches -/

/-- No click id, no recognised medium, no referrer. -/
def ChannelSignals.fallsThrough (host : Host) (signals : ChannelSignals) : Bool :=
  !PAID_SEARCH_CLICK_IDS.contains (norm host signals.utmIdFrom) &&
    (channelOfMedium host signals).isNone && signalDomain host signals == ""

/-- The signals without the two that the cascade reads last. -/
def ChannelSignals.core (signals : ChannelSignals) : ChannelSignals :=
  { signals with isDirect := none, referralCode := none }

@[simp] theorem fallsThrough_core (host : Host) (signals : ChannelSignals) :
    signals.core.fallsThrough host = signals.fallsThrough host := rfl

theorem channelOfDomain_eq_none_iff (domain : String) :
    channelOfDomain domain = none ↔ domain = "" := by
  unfold channelOfDomain
  split
  · simp [*]
  · rename_i h
    simp only [h, iff_false]
    split
    · simp
    · split
      · simp
      · split <;> simp

/-- Signals that an earlier branch settles do not depend on the last two. -/
theorem deriveChannel_of_settled (host : Host) {signals : ChannelSignals}
    (h : signals.fallsThrough host = false) :
    deriveChannel host signals = deriveChannel host signals.core := by
  have hcore : signalDomain host signals.core = signalDomain host signals := rfl
  have hmed : channelOfMedium host signals.core = channelOfMedium host signals := rfl
  have hid : norm host signals.core.utmIdFrom = norm host signals.utmIdFrom := rfl
  unfold deriveChannel
  simp only [hcore, hmed, hid]
  split
  · rfl
  · rename_i hclick
    split
    · rfl
    · rename_i hm
      split
      · rfl
      · rename_i hd
        exfalso
        have hdom := (channelOfDomain_eq_none_iff _).mp hd
        rw [ChannelSignals.fallsThrough, hm, hdom] at h
        simp at h
        exact hclick (by simpa using h)

/-- Signals that fall through are referral, direct or other. -/
theorem deriveChannel_of_fallsThrough (host : Host) {signals : ChannelSignals}
    (h : signals.fallsThrough host = true) :
    deriveChannel host signals =
      if norm host signals.referralCode ≠ "" then finalize .referral
      else if signals.isDirect = some true ∨ norm host signals.utmMedium = "" then finalize .direct
      else finalize .other := by
  simp only [ChannelSignals.fallsThrough, Bool.and_eq_true, Bool.not_eq_true',
    Option.isNone_iff_eq_none, beq_iff_eq] at h
  obtain ⟨⟨hclick, hmed⟩, hdom⟩ := h
  unfold deriveChannel
  simp only [hclick, hmed, hdom, (channelOfDomain_eq_none_iff "").mpr rfl]
  simp

end Veridian
