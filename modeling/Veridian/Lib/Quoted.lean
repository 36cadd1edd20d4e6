/-
Text between quotes, read with backslash escapes.

A backslash takes the next character for itself, whatever it is, and the first quote that
is not taken closes the text.  Escaping the quotes alone is enough for a text without
backslashes and for no other (`read_escapeQuotes_iff`): a backslash swallows the character
behind it, be that the backslash of an escaped quote or the closing quote.
-/
import Mathlib.Data.List.Infix

namespace Veridian.Quoted

variable {α : Type*} [DecidableEq α] (quote backslash : α)

/-- What stands in front of the closing quote, and what stands behind it. -/
def read : List α → Option (List α × List α)
  | [] => none
  | c :: rest =>
      if c = quote then some ([], rest)
      else if c = backslash then
        match rest with
        | [] => none
        | e :: rest' => (read rest').map fun result => (e :: result.1, result.2)
      else (read rest).map fun result => (c :: result.1, result.2)

/-- A backslash in front of every quote. -/
def escapeQuotes (l : List α) : List α :=
  l.flatMap fun c => if c = quote then [backslash, quote] else [c]

variable {quote backslash}

theorem read_quote (rest : List α) : read quote backslash (quote :: rest) = some ([], rest) := by
  unfold read
  exact if_pos rfl

theorem read_escaped (h : backslash ≠ quote) (e : α) (rest : List α) :
    read quote backslash (backslash :: e :: rest) =
      (read quote backslash rest).map fun result => (e :: result.1, result.2) := by
  rw [read, if_neg h, if_pos rfl]

theorem read_end (h : backslash ≠ quote) : read quote backslash [backslash] = none := by
  rw [read, if_neg h, if_pos rfl]

theorem read_plain {c : α} (hquote : c ≠ quote) (hback : c ≠ backslash) (rest : List α) :
    read quote backslash (c :: rest) =
      (read quote backslash rest).map fun result => (c :: result.1, result.2) := by
  conv_lhs => rw [read.eq_def]
  exact (if_neg hquote).trans (if_neg hback)

theorem escapeQuotes_cons_quote (l : List α) :
    escapeQuotes quote backslash (quote :: l) =
      backslash :: quote :: escapeQuotes quote backslash l := by
  simp [escapeQuotes]

theorem escapeQuotes_cons {c : α} (h : c ≠ quote) (l : List α) :
    escapeQuotes quote backslash (c :: l) = c :: escapeQuotes quote backslash l := by
  simp [escapeQuotes, h]

/-- Without backslashes the text is read back. -/
theorem read_escapeQuotes (h : backslash ≠ quote) {l : List α} (hl : backslash ∉ l)
    (rest : List α) :
    read quote backslash (escapeQuotes quote backslash l ++ quote :: rest) = some (l, rest) := by
  induction l with
  | nil => exact read_quote rest
  | cons c cs ih =>
      have hcs := ih fun hc => hl (List.mem_cons_of_mem c hc)
      by_cases hc : c = quote
      · subst hc
        rw [escapeQuotes_cons_quote, List.cons_append, List.cons_append, read_escaped h, hcs]
        rfl
      · have hback : c ≠ backslash := by
          rintro rfl
          exact hl List.mem_cons_self
        rw [escapeQuotes_cons hc, List.cons_append, read_plain hc hback, hcs]
        rfl

/-- What is read up to the end is no longer than the text, and shorter when a backslash is
in it: it swallows a character. -/
theorem length_of_read (h : backslash ≠ quote) (l : List α) :
    ∀ {value : List α},
      read quote backslash (escapeQuotes quote backslash l ++ [quote]) = some (value, []) →
      value.length ≤ l.length ∧ (value.length = l.length → backslash ∉ l) := by
  induction hn : l.length using Nat.strong_induction_on generalizing l with
  | _ n ih =>
      intro value hread
      cases l with
      | nil =>
          obtain ⟨rfl, -⟩ := Prod.mk.inj (Option.some.inj ((read_quote []).symm.trans hread))
          exact ⟨hn.le, fun _ => List.not_mem_nil⟩
      | cons c cs =>
          rw [List.length_cons] at hn
          by_cases hc : c = quote
          · subst hc
            rw [escapeQuotes_cons_quote, List.cons_append, List.cons_append,
              read_escaped h] at hread
            obtain ⟨⟨inner, tail⟩, hinner, heq⟩ := Option.map_eq_some_iff.mp hread
            simp only [Prod.mk.injEq] at heq
            obtain ⟨rfl, rfl⟩ := heq
            obtain ⟨hle, hback⟩ := ih cs.length (by omega) cs rfl hinner
            rw [List.length_cons]
            refine ⟨by omega, fun hlen hmem => ?_⟩
            rcases List.mem_cons.mp hmem with heq' | hmem'
            · exact h heq'
            · exact hback (by omega) hmem'
          · rw [escapeQuotes_cons hc, List.cons_append] at hread
            by_cases hback : c = backslash
            · subst hback
              cases cs with
              | nil =>
                  -- the backslash takes the closing quote
                  rw [show escapeQuotes quote c [] = [] from rfl, List.nil_append,
                    read_escaped h] at hread
                  exact absurd hread (by simp [read])
              | cons d ds =>
                  rw [List.length_cons] at hn
                  by_cases hd : d = quote
                  · -- the backslash takes the one that was put in front of the quote
                    subst hd
                    rw [escapeQuotes_cons_quote, List.cons_append, List.cons_append,
                      read_escaped h, read_quote] at hread
                    have htail := (Prod.mk.inj (Option.some.inj hread)).2
                    exact absurd htail (by simp)
                  · rw [escapeQuotes_cons hd, List.cons_append, read_escaped h] at hread
                    obtain ⟨⟨inner, tail⟩, hinner, heq⟩ := Option.map_eq_some_iff.mp hread
                    simp only [Prod.mk.injEq] at heq
                    obtain ⟨rfl, rfl⟩ := heq
                    have hle := (ih ds.length (by omega) ds rfl hinner).1
                    rw [List.length_cons]
                    exact ⟨by omega, fun hlen => absurd hlen (by omega)⟩
            · rw [read_plain hc hback] at hread
              obtain ⟨⟨inner, tail⟩, hinner, heq⟩ := Option.map_eq_some_iff.mp hread
              simp only [Prod.mk.injEq] at heq
              obtain ⟨rfl, rfl⟩ := heq
              obtain ⟨hle, hnot⟩ := ih cs.length (by omega) cs rfl hinner
              rw [List.length_cons]
              refine ⟨by omega, fun hlen hmem => ?_⟩
              rcases List.mem_cons.mp hmem with heq' | hmem'
              · exact hback heq'.symm
              · exact hnot (by omega) hmem'

/-- **Escaping the quotes is enough exactly for a text without backslashes.** -/
theorem read_escapeQuotes_iff (h : backslash ≠ quote) (l : List α) :
    read quote backslash (escapeQuotes quote backslash l ++ [quote]) = some (l, []) ↔
      backslash ∉ l :=
  ⟨fun hread => (length_of_read h l hread).2 rfl, fun hl => read_escapeQuotes h hl []⟩

end Veridian.Quoted
