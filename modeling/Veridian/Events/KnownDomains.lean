/-
Where a known domain stands in a host name.

A list has full domains and names that are open at the end, `google.`.  A full domain is
compared from a dot on.  An open name is looked for anywhere in the text, so a label that
only ends with it counts as well, and the bare name does without any label behind it.
-/
import Veridian.Events.DeriveChannel

namespace Veridian

/-! ### Labels -/

/-- The labels of a host name; the last is empty when a dot is at its end. -/
def labels (h : String) : List (List Char) := h.toList.splitOn '.'

/-- The name is a label of `h`, and a label that is not empty stands behind it. -/
def NamedBeforeTld (h name : String) : Prop :=
  ∃ before after, labels h = before ++ name.toList :: after ∧ ∃ tld ∈ after, tld ≠ []

/-- The domain is `s` or one under it; an open `s` is a name with any top-level domain. -/
def KnownDomain (h s : String) : Prop :=
  if Text.endsWith s "." = true then NamedBeforeTld h (Text.dropLast s)
  else h = s ∨ Text.endsWith h ("." ++ s) = true

def KNOWN_DOMAINS : List String := SEARCH_ENGINE_DOMAINS ++ SOCIAL_DOMAINS ++ EMAIL_DOMAINS

/-- The host name is not the bare name of an open entry; and when a label with a dot behind it
ends with that name, one with a top-level domain behind it is that name. -/
def ReadAtLabels (h s : String) : Prop :=
  Text.endsWith s "." = true →
    h ≠ Text.dropLast s ∧
      ((∃ label ∈ (labels h).dropLast, (Text.dropLast s).toList <:+ label) →
        NamedBeforeTld h (Text.dropLast s))

/-- An open entry is one label and a dot. -/
theorem open_entry : ∀ s ∈ KNOWN_DOMAINS, Text.endsWith s "." = true →
    s = Text.dropLast s ++ "." ∧ '.' ∉ (Text.dropLast s).toList ∧ Text.dropLast s ≠ "" := by
  decide

/-- The last label of a text that ends with a name. -/
theorem splitOn_append_name (front : List Char) {name : List Char} (hname : '.' ∉ name) :
    ∃ before label, (front ++ name).splitOn '.' = before ++ [label ++ name] := by
  induction front with
  | nil => exact ⟨[], [], List.splitOn_eq_singleton hname⟩
  | cons c front ih =>
      obtain ⟨before, label, hsplit⟩ := ih
      rw [List.cons_append, List.splitOn_cons_eq_if_modifyHead, hsplit]
      by_cases hc : c = '.'
      · exact ⟨[] :: before, label, if_pos (by simp [hc])⟩
      · rw [if_neg (by simpa using hc)]
        cases before with
        | nil => exact ⟨[], c :: label, rfl⟩
        | cons first before => exact ⟨(c :: first) :: before, label, rfl⟩

/-- A part that is not the last has the separator behind it. -/
theorem infix_intercalate {label : List Char} {rest : List (List Char)} (hrest : rest ≠ [])
    (before : List (List Char)) :
    label ++ ['.'] <:+: ['.'].intercalate (before ++ label :: rest) := by
  induction before with
  | nil =>
      obtain ⟨next, rest, rfl⟩ := List.exists_cons_of_ne_nil hrest
      rw [List.nil_append, List.intercalate_cons_cons]
      exact (List.prefix_append _ _).isInfix
  | cons first before ih =>
      rw [List.cons_append, List.intercalate_cons_of_ne_nil (by simp)]
      exact ih.trans (List.suffix_append _ _).isInfix

/-- **An open name stands in a text where a label with a dot behind it ends with it.** -/
theorem includes_name_iff {h name : String} (hname : '.' ∉ name.toList) :
    Text.includes h (name ++ ".") = true ↔
      ∃ label ∈ (labels h).dropLast, name.toList <:+ label := by
  have hbefore : Text.includes h (name ++ ".") = true ↔ name.toList ++ ['.'] <:+: h.toList := by
    rw [Text.includes, decide_eq_true_iff, String.toList_append]
    rfl
  rw [hbefore]
  constructor
  · rintro ⟨front, rest, hwhole⟩
    obtain ⟨before, label, hsplit⟩ := splitOn_append_name front hname
    have hlabels : labels h = (before ++ [label ++ name.toList]) ++ rest.splitOn '.' := by
      rw [labels, ← hsplit, ← List.splitOn_append_cons_self, ← hwhole]
      simp
    refine ⟨label ++ name.toList, ?_, List.suffix_append _ _⟩
    rw [hlabels, List.dropLast_append_of_ne_nil (List.splitOn_ne_nil _ _)]
    simp
  · rintro ⟨label, hmem, front, rfl⟩
    obtain ⟨before, after, hsplit⟩ := List.append_of_mem hmem
    have hne : labels h ≠ [] := List.splitOn_ne_nil _ _
    have hwhole : ['.'].intercalate (labels h) = h.toList := List.intercalate_splitOn '.'
    rw [← List.dropLast_append_getLast hne, hsplit, List.append_assoc, List.cons_append] at hwhole
    rw [← hwhole]
    refine List.IsInfix.trans ?_ (infix_intercalate (by simp) before)
    rw [List.append_assoc]
    exact (List.suffix_append _ _).isInfix

theorem domainMatches_singleton (h s : String) :
    domainMatches h [s] = true ↔ h ≠ "" ∧
      if Text.endsWith s "." = true then
        h = Text.dropLast s ∨ Text.includes h s = true
      else h = s ∨ Text.endsWith h ("." ++ s) = true := by
  unfold domainMatches
  by_cases hempty : h = ""
  · simp [hempty]
  · rw [if_neg hempty, List.any_cons, List.any_nil, Bool.or_false]
    by_cases hopen : Text.endsWith s "." = true
    · rw [if_pos hopen, if_pos hopen, Bool.or_eq_true, Bool.or_eq_true, beq_iff_eq, or_assoc]
      refine ⟨fun hmatch => ⟨hempty, ?_⟩, fun hmatch => ?_⟩
      · refine hmatch.imp_right fun hin => hin.elim id fun hstart => ?_
        exact decide_eq_true (of_decide_eq_true hstart).isInfix
      · exact hmatch.2.imp_right Or.inl
    · rw [if_neg hopen, if_neg hopen, Bool.or_eq_true, beq_iff_eq]
      exact ⟨fun hmatch => ⟨hempty, hmatch⟩, fun hmatch => hmatch.2⟩

/-- One entry of the lists. -/
theorem domainMatches_known_iff {s : String} (hs : s ∈ KNOWN_DOMAINS) (h : String) :
    (domainMatches h [s] = true → KnownDomain h s) ↔ ReadAtLabels h s := by
  rw [domainMatches_singleton]
  unfold KnownDomain ReadAtLabels
  by_cases hopen : Text.endsWith s "." = true
  · obtain ⟨hwhole, hname, hne⟩ := open_entry s hs hopen
    have hin : Text.includes h s = true ↔
        ∃ label ∈ (labels h).dropLast, (Text.dropLast s).toList <:+ label := by
      conv_lhs => rw [hwhole]
      exact includes_name_iff hname
    rw [if_pos hopen, if_pos hopen, hin]
    have hbare : h = Text.dropLast s → ¬NamedBeforeTld h (Text.dropLast s) := by
      rintro hbare ⟨before, after, hlabels, tld, htld, -⟩
      have hone : labels h = [(Text.dropLast s).toList] := by
        rw [hbare]
        exact List.splitOn_eq_singleton hname
      have hlength := congrArg List.length (hone.symm.trans hlabels)
      have hafter := List.length_pos_of_mem htld
      simp at hlength
      omega
    have hnonempty : (∃ label ∈ (labels h).dropLast, (Text.dropLast s).toList <:+ label) →
        h ≠ "" := by
      rintro ⟨label, hlabel, -⟩ rfl
      exact absurd hlabel List.not_mem_nil
    constructor
    · intro hmatch _
      refine ⟨fun hname' => hbare hname' (hmatch ⟨hname' ▸ hne, Or.inl hname'⟩), fun hlabel => ?_⟩
      exact hmatch ⟨hnonempty hlabel, Or.inr hlabel⟩
    · rintro hread ⟨-, hname' | hlabel⟩
      · exact absurd hname' (hread hopen).1
      · exact (hread hopen).2 hlabel
  · rw [if_neg hopen, if_neg hopen]
    exact iff_of_true (fun hmatch => hmatch.2) fun hc => absurd hc hopen

/-- **Known domains match on labels.**

For every host name: a match is one at its labels, and what is under no known domain is a
referral, if and only if the name is one that the open entries read at its labels. -/
theorem known_domains_iff (h : String) :
    ((∀ s ∈ KNOWN_DOMAINS, domainMatches h [s] = true → KnownDomain h s) ∧
      (h ≠ "" → (∀ s ∈ KNOWN_DOMAINS, ¬KnownDomain h s) → channelOfDomain h = some .referral)) ↔
      ∀ s ∈ KNOWN_DOMAINS, ReadAtLabels h s := by
  have hentries : (∀ s ∈ KNOWN_DOMAINS, domainMatches h [s] = true → KnownDomain h s) ↔
      ∀ s ∈ KNOWN_DOMAINS, ReadAtLabels h s :=
    forall₂_congr fun s hs => domainMatches_known_iff hs h
  rw [← hentries]
  refine ⟨fun hboth => hboth.1, fun hmatches => ⟨hmatches, fun hne hforeign => ?_⟩⟩
  have hnone : ∀ l, l ⊆ KNOWN_DOMAINS → domainMatches h l = false := by
    intro l hl
    unfold domainMatches
    rw [if_neg hne, List.any_eq_false]
    intro s hs hmatch
    refine hforeign s (hl hs) (hmatches s (hl hs) ?_)
    unfold domainMatches
    rw [if_neg hne, List.any_cons, hmatch, Bool.true_or]
  have hsearch : isSearchEngineDomain h = false := hnone _ fun s hs =>
    List.mem_append_left _ (List.mem_append_left _ hs)
  have hsocial : isSocialDomain h = false := hnone _ fun s hs =>
    List.mem_append_left _ (List.mem_append_right _ hs)
  have hemail : isEmailDomain h = false := hnone _ fun s hs => List.mem_append_right _ hs
  unfold channelOfDomain
  rw [if_neg hne, hemail, hsearch, hsocial]
  rfl

/-- A label that only ends with the name counts as the search engine. -/
theorem notgoogle_is_search :
    domainMatches "notgoogle.com" ["google."] = true ∧ ¬KnownDomain "notgoogle.com" "google." ∧
      channelOfDomain "notgoogle.com" = some .organicSearch := by
  have hread : ¬NamedBeforeTld "notgoogle.com" "google" := by
    rintro ⟨before, after, hlabels, -⟩
    have hlist : labels "notgoogle.com" = ["notgoogle".toList, "com".toList] := by decide
    have hmem : "google".toList ∈ labels "notgoogle.com" := by
      rw [hlabels]
      simp
    rw [hlist] at hmem
    exact absurd hmem (by decide)
  have hopen : Text.endsWith "google." "." = true ∧ Text.dropLast "google." = "google" := by
    decide
  refine ⟨by decide, fun hknown => hread ?_, by decide +kernel⟩
  unfold KnownDomain at hknown
  rw [if_pos hopen.1, hopen.2] at hknown
  exact hknown

end Veridian
