/-
What a referral code changes.

The code is read behind every branch that looks at a click id, a medium or a referrer, and
before `direct`.  It is also before `other`, so it does not only recover traffic that would
be direct: signals whose `utm_medium` is on no list, with nothing else to go by, are `other`
without a code and `referral` with one.
-/
import Veridian.Events.DeriveChannel

namespace Veridian

/-! ### Signals with and without a code -/

def ChannelSignals.withoutReferral (signals : ChannelSignals) : ChannelSignals :=
  { signals with referralCode := none }

/-- Where the code makes a difference, the channel would be direct and is referral. -/
def RecoversDirect (host : Host) (signals : ChannelSignals) : Prop :=
  deriveChannel host signals ≠ deriveChannel host signals.withoutReferral →
    (deriveChannel host signals.withoutReferral).channel = .direct ∧
      (deriveChannel host signals).channel = .referral

/-- A medium that no list has. -/
def unknownMedium (medium : String) : Bool :=
  medium != "" && !PAID_MEDIUMS.contains medium && !SOCIAL_MEDIUMS.contains medium &&
    !EMAIL_MEDIUMS.contains medium && !REFERRAL_MEDIUMS.contains medium &&
    !ORGANIC_MEDIUMS.contains medium

/-- A code beside a medium that no list has, and nothing else that says where the visit is
from. -/
structure MasksOther (host : Host) (signals : ChannelSignals) : Prop where
  code : norm host signals.referralCode ≠ ""
  medium : unknownMedium (norm host signals.utmMedium) = true
  clickId : PAID_SEARCH_CLICK_IDS.contains (norm host signals.utmIdFrom) = false
  referrerDomain : norm host signals.referrerDomain = ""
  referrer : norm host signals.referrer = ""
  isDirect : signals.isDirect ≠ some true

/-- No signal says anything. -/
structure ChannelSignals.Blank (host : Host) (signals : ChannelSignals) : Prop where
  referrerDomain : norm host signals.referrerDomain = ""
  referrer : norm host signals.referrer = ""
  utmSource : norm host signals.utmSource = ""
  utmMedium : norm host signals.utmMedium = ""
  utmIdFrom : norm host signals.utmIdFrom = ""
  referralCode : norm host signals.referralCode = ""

/-! ### What falls through -/

theorem channelOfMedium_eq_none_iff (host : Host) (signals : ChannelSignals) :
    channelOfMedium host signals = none ↔
      norm host signals.utmMedium = "" ∨ unknownMedium (norm host signals.utmMedium) = true := by
  unfold channelOfMedium unknownMedium
  generalize norm host signals.utmMedium = medium
  by_cases hblank : medium = ""
  · simp [hblank]
  · have hne : (medium != "") = true := by simpa using hblank
    simp only [hblank, hne, false_or, Bool.true_and]
    cases PAID_MEDIUMS.contains medium with
    | true =>
        simp only [if_true, if_false]
        split <;> simp
    | false =>
        cases SOCIAL_MEDIUMS.contains medium with
        | true => simp
        | false =>
            cases EMAIL_MEDIUMS.contains medium with
            | true => simp
            | false =>
                cases REFERRAL_MEDIUMS.contains medium with
                | true => simp
                | false => cases ORGANIC_MEDIUMS.contains medium <;> simp

theorem signalDomain_eq_empty_iff (host : Host) (signals : ChannelSignals) :
    signalDomain host signals = "" ↔
      norm host signals.referrerDomain = "" ∧ norm host signals.referrer = "" := by
  unfold signalDomain
  split
  · rename_i h
    simp [h]
  · rename_i h
    simp [h]

theorem fallsThrough_iff (host : Host) (signals : ChannelSignals) :
    signals.fallsThrough host = true ↔
      PAID_SEARCH_CLICK_IDS.contains (norm host signals.utmIdFrom) = false ∧
        (norm host signals.utmMedium = "" ∨
          unknownMedium (norm host signals.utmMedium) = true) ∧
        norm host signals.referrerDomain = "" ∧ norm host signals.referrer = "" := by
  rw [← channelOfMedium_eq_none_iff, ← signalDomain_eq_empty_iff]
  simp [ChannelSignals.fallsThrough, and_assoc]

/-! ### The law of the code -/

/-- **A code takes from `direct` only, except beside a medium nobody knows.** -/
theorem recoversDirect_iff_not_masksOther (host : Host) (signals : ChannelSignals) :
    RecoversDirect host signals ↔ ¬MasksOther host signals := by
  by_cases hfalls : signals.fallsThrough host = true
  · have hwithout : signals.withoutReferral.fallsThrough host = true := hfalls
    have hnone : norm host signals.withoutReferral.referralCode = "" := norm_of_empty host rfl
    obtain ⟨hclick, hmedium, hdomain, hreferrer⟩ := (fallsThrough_iff host signals).mp hfalls
    unfold RecoversDirect
    rw [deriveChannel_of_fallsThrough host hfalls, deriveChannel_of_fallsThrough host hwithout,
      if_neg (not_not_intro hnone)]
    by_cases hcode : norm host signals.referralCode = ""
    · -- a blank code is no code
      refine iff_of_true (fun hne => ?_) fun h => h.code hcode
      rw [if_neg (not_not_intro hcode)] at hne
      exact absurd rfl hne
    · rw [if_pos hcode]
      by_cases hdirect : signals.isDirect = some true ∨ norm host signals.utmMedium = ""
      · have hdirect' : signals.withoutReferral.isDirect = some true ∨
            norm host signals.withoutReferral.utmMedium = "" := hdirect
        rw [if_pos hdirect']
        refine iff_of_true (fun _ => ⟨rfl, rfl⟩) fun h => ?_
        rcases hdirect with hflag | hblank
        · exact h.isDirect hflag
        · have hunknown := h.medium
          rw [hblank] at hunknown
          exact absurd hunknown (by decide)
      · have hdirect' : ¬(signals.withoutReferral.isDirect = some true ∨
            norm host signals.withoutReferral.utmMedium = "") := hdirect
        obtain ⟨hflag, hblank⟩ := not_or.mp hdirect
        rw [if_neg hdirect']
        refine iff_of_false (fun h => ?_) (not_not_intro ?_)
        · exact absurd (h (by decide)).1 (by decide)
        · exact ⟨hcode, hmedium.resolve_left hblank, hclick, hdomain, hreferrer, hflag⟩
  · have hsettled : signals.fallsThrough host = false := by simpa using hfalls
    have hsettled' : signals.withoutReferral.fallsThrough host = false := hsettled
    have hsame : deriveChannel host signals = deriveChannel host signals.withoutReferral :=
      (deriveChannel_of_settled host hsettled).trans (deriveChannel_of_settled host hsettled').symm
    refine iff_of_true (fun hne => absurd hsame hne) fun h => hfalls ?_
    exact (fallsThrough_iff host signals).mpr
      ⟨h.clickId, Or.inr h.medium, h.referrerDomain, h.referrer⟩

/-- Signals that say nothing are direct. -/
theorem deriveChannel_of_blank {host : Host} {signals : ChannelSignals}
    (h : signals.Blank host) : deriveChannel host signals = finalize .direct := by
  have hclick : PAID_SEARCH_CLICK_IDS.contains (norm host signals.utmIdFrom) = false := by
    rw [h.utmIdFrom]
    decide
  have hfalls : signals.fallsThrough host = true :=
    (fallsThrough_iff host signals).mpr
      ⟨hclick, Or.inl h.utmMedium, h.referrerDomain, h.referrer⟩
  rw [deriveChannel_of_fallsThrough host hfalls, if_neg (not_not_intro h.referralCode),
    if_pos (Or.inr h.utmMedium)]

/--
**A referral code never overrides a better channel, exactly when no unknown medium is all
there is beside it.**

Without a code, signals that say nothing are direct.
-/
theorem referral_code_law (host : Host) :
    (∀ signals, RecoversDirect host signals ↔ ¬MasksOther host signals) ∧
      ∀ signals : ChannelSignals, signals.withoutReferral.Blank host →
        (deriveChannel host signals.withoutReferral).channel = .direct := by
  refine ⟨recoversDirect_iff_not_masksOther host, fun signals h => ?_⟩
  rw [deriveChannel_of_blank h]
  rfl

namespace ReferralExample

/-- A medium that is on no list, and a code. -/
def signals : ChannelSignals where
  referrerDomain := none
  referrer := none
  utmSource := none
  utmMedium := some "qr-code"
  utmIdFrom := none
  isDirect := some false
  referralCode := some "lead-7"

theorem other_becomes_referral :
    (deriveChannel .bare signals.withoutReferral).channel = .other ∧
      (deriveChannel .bare signals).channel = .referral ∧ ¬RecoversDirect .bare signals := by
  have hother : (deriveChannel .bare signals.withoutReferral).channel = .other := by decide
  have hreferral : (deriveChannel .bare signals).channel = .referral := by decide
  refine ⟨hother, hreferral, fun h => ?_⟩
  have hne : deriveChannel .bare signals ≠ deriveChannel .bare signals.withoutReferral := by decide
  exact absurd (hother.symm.trans (h hne).1) (by decide)

/-- Without a medium the code recovers what would be direct. -/
theorem direct_becomes_referral :
    RecoversDirect .bare { signals with utmMedium := some " " } ∧
      (deriveChannel .bare { signals with utmMedium := some " " }.withoutReferral).channel =
        .direct :=
  ⟨((referral_code_law .bare).1 _).mpr fun h => absurd h.medium (by decide),
    (referral_code_law .bare).2 _
      ⟨by decide, by decide, by decide, by decide, by decide, by decide⟩⟩

end ReferralExample

end Veridian
