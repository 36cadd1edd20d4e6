/-
Markup that is written around data.

`step` is the tokenizer of HTML as far as tags, attributes and comments go, one character at
a time; an `Event` is a character that tags and attributes are made of.  A text is written
in pieces, some of the template and some of data, and data are injected when the events of a
piece are not those that it has with plain data.

A template fits when its data stand where text stands, or between the quotes of a value,
and what comes behind them would show that they left that place.  Then no data are injected
exactly when no `<` of a text opens markup and no value has a quote.
-/
import Mathlib.Algebra.Ring.Nat
import Mathlib.Data.List.Basic

namespace Veridian.Markup

/-! ### Characters -/

inductive Kind where
  | lt | gt | slash | bang | question | quote | apostrophe | equals | dash | blank | letter | other
deriving DecidableEq

def kind (c : Char) : Kind :=
  if 97 ≤ c.toNat ∧ c.toNat ≤ 122 ∨ 65 ≤ c.toNat ∧ c.toNat ≤ 90 then .letter
  else match c.toNat with
    | 60 => .lt
    | 62 => .gt
    | 47 => .slash
    | 33 => .bang
    | 63 => .question
    | 34 => .quote
    | 39 => .apostrophe
    | 61 => .equals
    | 45 => .dash
    | 9 | 10 | 12 | 13 | 32 => .blank
    | _ => .other

theorem kind_eq_quote_iff {c : Char} : kind c = .quote ↔ c = '"' := by
  constructor
  · intro h
    have hcode : c.toNat = 34 := by
      unfold kind at h
      split at h
      · exact nomatch h
      · split at h
        all_goals first
          | assumption
          | exact nomatch h
    exact Char.toNat_inj.mp hcode
  · rintro rfl
    rfl

theorem kind_eq_lt_iff {c : Char} : kind c = .lt ↔ c = '<' := by
  constructor
  · intro h
    have hcode : c.toNat = 60 := by
      unfold kind at h
      split at h
      · exact nomatch h
      · split at h
        all_goals first
          | assumption
          | exact nomatch h
    exact Char.toNat_inj.mp hcode
  · rintro rfl
    rfl

/-! ### The tokenizer -/

inductive State where
  | data | tagOpen | endTagOpen | tagName
  | beforeAttr | attrName | afterAttr | beforeValue | valueDouble | valueSingle | valueUnquoted
  | afterValue | selfClosing
  | markupDecl | markupDash | bogusComment
  | commentStart | commentStartDash | comment | commentDash | commentEnd | commentEndBang
deriving DecidableEq

inductive Event where
  /-- The first letter of a tag. -/
  | startTag (c : Char)
  | endTag (c : Char)
  | name (c : Char)
  /-- The first character of the name of an attribute. -/
  | attr (c : Char)
  | attrMore (c : Char)
  | tagEnd
  | selfClose
  | comment
deriving DecidableEq

def stepKind (c : Char) : State → Kind → State × Option Event
  | .data, .lt => (.tagOpen, none)
  | .data, _ => (.data, none)
  | .tagOpen, .letter => (.tagName, some (.startTag c))
  | .tagOpen, .slash => (.endTagOpen, none)
  | .tagOpen, .bang => (.markupDecl, some .comment)
  | .tagOpen, .question => (.bogusComment, some .comment)
  | .tagOpen, .lt => (.tagOpen, none)
  | .tagOpen, _ => (.data, none)
  | .endTagOpen, .letter => (.tagName, some (.endTag c))
  | .endTagOpen, .gt => (.data, none)
  | .endTagOpen, _ => (.bogusComment, some .comment)
  | .tagName, .blank => (.beforeAttr, none)
  | .tagName, .slash => (.selfClosing, none)
  | .tagName, .gt => (.data, some .tagEnd)
  | .tagName, _ => (.tagName, some (.name c))
  | .beforeAttr, .blank => (.beforeAttr, none)
  | .beforeAttr, .slash => (.selfClosing, none)
  | .beforeAttr, .gt => (.data, some .tagEnd)
  | .beforeAttr, _ => (.attrName, some (.attr c))
  | .attrName, .blank => (.afterAttr, none)
  | .attrName, .slash => (.selfClosing, none)
  | .attrName, .gt => (.data, some .tagEnd)
  | .attrName, .equals => (.beforeValue, none)
  | .attrName, _ => (.attrName, some (.attrMore c))
  | .afterAttr, .blank => (.afterAttr, none)
  | .afterAttr, .slash => (.selfClosing, none)
  | .afterAttr, .gt => (.data, some .tagEnd)
  | .afterAttr, .equals => (.beforeValue, none)
  | .afterAttr, _ => (.attrName, some (.attr c))
  | .beforeValue, .blank => (.beforeValue, none)
  | .beforeValue, .quote => (.valueDouble, none)
  | .beforeValue, .apostrophe => (.valueSingle, none)
  | .beforeValue, .gt => (.data, some .tagEnd)
  | .beforeValue, _ => (.valueUnquoted, none)
  | .valueDouble, .quote => (.afterValue, none)
  | .valueDouble, _ => (.valueDouble, none)
  | .valueSingle, .apostrophe => (.afterValue, none)
  | .valueSingle, _ => (.valueSingle, none)
  | .valueUnquoted, .blank => (.beforeAttr, none)
  | .valueUnquoted, .gt => (.data, some .tagEnd)
  | .valueUnquoted, _ => (.valueUnquoted, none)
  | .afterValue, .blank => (.beforeAttr, none)
  | .afterValue, .slash => (.selfClosing, none)
  | .afterValue, .gt => (.data, some .tagEnd)
  | .afterValue, _ => (.attrName, some (.attr c))
  | .selfClosing, .gt => (.data, some .selfClose)
  | .selfClosing, .blank => (.beforeAttr, none)
  | .selfClosing, .slash => (.selfClosing, none)
  | .selfClosing, _ => (.attrName, some (.attr c))
  | .markupDecl, .dash => (.markupDash, none)
  | .markupDecl, .gt => (.data, none)
  | .markupDecl, _ => (.bogusComment, none)
  | .markupDash, .dash => (.commentStart, none)
  | .markupDash, .gt => (.data, none)
  | .markupDash, _ => (.bogusComment, none)
  | .bogusComment, .gt => (.data, none)
  | .bogusComment, _ => (.bogusComment, none)
  | .commentStart, .dash => (.commentStartDash, none)
  | .commentStart, .gt => (.data, none)
  | .commentStart, _ => (.comment, none)
  | .commentStartDash, .dash => (.commentEnd, none)
  | .commentStartDash, .gt => (.data, none)
  | .commentStartDash, _ => (.comment, none)
  | .comment, .dash => (.commentDash, none)
  | .comment, _ => (.comment, none)
  | .commentDash, .dash => (.commentEnd, none)
  | .commentDash, _ => (.comment, none)
  | .commentEnd, .gt => (.data, none)
  | .commentEnd, .dash => (.commentEnd, none)
  | .commentEnd, .bang => (.commentEndBang, none)
  | .commentEnd, _ => (.comment, none)
  | .commentEndBang, .gt => (.data, none)
  | .commentEndBang, .dash => (.commentDash, none)
  | .commentEndBang, _ => (.comment, none)

def step (s : State) (c : Char) : State × Option Event := stepKind c s (kind c)

def after (s : State) : List Char → State
  | [] => s
  | c :: rest => after (step s c).1 rest

def events (s : State) : List Char → List Event
  | [] => []
  | c :: rest => (step s c).2.toList ++ events (step s c).1 rest

theorem after_append (s : State) (a b : List Char) : after s (a ++ b) = after (after s a) b := by
  induction a generalizing s with
  | nil => rfl
  | cons c a ih => exact ih _

theorem events_append (s : State) (a b : List Char) :
    events s (a ++ b) = events s a ++ events (after s a) b := by
  induction a generalizing s with
  | nil => rfl
  | cons c a ih =>
      show (step s c).2.toList ++ events (step s c).1 (a ++ b) = _
      rw [ih, ← List.append_assoc]
      rfl

theorem events_cons_eq_nil {s : State} {c : Char} {l : List Char} :
    events s (c :: l) = [] ↔ (step s c).2 = none ∧ events (step s c).1 l = [] := by
  show (step s c).2.toList ++ events (step s c).1 l = [] ↔ _
  rw [List.append_eq_nil_iff, Option.toList_eq_nil_iff]

/-! ### Values -/

theorem step_valueDouble {c : Char} (h : c ≠ '"') : step .valueDouble c = (.valueDouble, none) := by
  have hkind : kind c ≠ .quote := fun hk => h (kind_eq_quote_iff.mp hk)
  unfold step stepKind
  split <;> simp_all

/-- A value without a quote stays one. -/
theorem value_silent {l : List Char} (h : '"' ∉ l) :
    events .valueDouble l = [] ∧ after .valueDouble l = .valueDouble := by
  induction l with
  | nil => exact ⟨rfl, rfl⟩
  | cons c l ih =>
      have hc : c ≠ '"' := fun hc => h (hc ▸ List.mem_cons_self)
      have hl := ih fun hmem => h (List.mem_cons_of_mem _ hmem)
      have hstep := step_valueDouble hc
      refine ⟨events_cons_eq_nil.mpr ⟨by rw [hstep], by rw [hstep]; exact hl.1⟩, ?_⟩
      show after (step .valueDouble c).1 l = _
      rw [hstep]
      exact hl.2

/-- The states behind a value that has ended. -/
def Ended (s : State) : Prop := s = .afterValue ∨ s = .beforeAttr ∨ s = .selfClosing

theorem ended_step {s : State} {c : Char} (h : Ended s) (hc : (step s c).2 = none) :
    Ended (step s c).1 := by
  unfold step at *
  rcases h with rfl | rfl | rfl <;> cases hk : kind c <;> simp_all [stepKind, Ended]

theorem ended_of_silent {s : State} {l : List Char} (h : Ended s) (hl : events s l = []) :
    Ended (after s l) := by
  induction l generalizing s with
  | nil => exact h
  | cons c l ih =>
      obtain ⟨hc, hrest⟩ := events_cons_eq_nil.mp hl
      exact ih (ended_step h hc) hrest

/-- A value with a quote that shows nothing has ended. -/
theorem ended_of_quote {l : List Char} (h : '"' ∈ l) (hl : events .valueDouble l = []) :
    Ended (after .valueDouble l) := by
  induction l with
  | nil => exact absurd h List.not_mem_nil
  | cons c l ih =>
      obtain ⟨hc, hrest⟩ := events_cons_eq_nil.mp hl
      by_cases hquote : c = '"'
      · subst hquote
        have hended : Ended .afterValue := Or.inl rfl
        show Ended (after .afterValue l)
        exact ended_of_silent hended hrest
      · have hstep := step_valueDouble hquote
        rw [hstep] at hrest
        show Ended (after (step .valueDouble c).1 l)
        rw [hstep]
        exact ih ((List.mem_cons.mp h).resolve_left (Ne.symm hquote)) hrest

/-! ### Texts -/

/-- What stands behind a `<` makes it the start of markup. -/
def opens : List Char → Bool
  | [] => false
  | c :: rest =>
      match kind c with
      | .letter | .bang | .question => true
      | .slash => rest.head?.map kind ≠ some .gt
      | _ => false

/-- No `<` of the text opens markup. -/
def textSafe : List Char → Bool
  | [] => true
  | c :: rest => (kind c ≠ .lt || !opens rest) && textSafe rest

/-- From each state of a text: it shows nothing, and does not end behind `</`. -/
theorem text_silent_iff (l : List Char) :
    (events .data l = [] ∧ after .data l ≠ .endTagOpen ↔ textSafe l = true) ∧
      (events .tagOpen l = [] ∧ after .tagOpen l ≠ .endTagOpen ↔
        opens l = false ∧ textSafe l = true) ∧
      (events .endTagOpen l = [] ∧ after .endTagOpen l ≠ .endTagOpen ↔
        l.head?.map kind = some .gt ∧ textSafe l = true) := by
  induction l with
  | nil => simp [events, after, textSafe, opens]
  | cons c l ih =>
      obtain ⟨hdata, hopen, hend⟩ := ih
      have hopens : opens (c :: l) = match kind c with
          | .letter | .bang | .question => true
          | .slash => l.head?.map kind ≠ some .gt
          | _ => false := rfl
      have hsafe : textSafe (c :: l) = ((kind c ≠ .lt || !opens l) && textSafe l) := rfl
      rw [hopens, hsafe]
      generalize opens l = o at hopen
      simp only [events_cons_eq_nil, after, step, List.head?_cons, Option.map_some]
      cases hk : kind c <;> simp_all [stepKind]

/-! ### Pieces -/

inductive Piece where
  /-- Of the template. -/
  | markup (s : String)
  /-- Data where text stands. -/
  | text (v : String)
  /-- Data between the quotes of a value. -/
  | attr (v : String)

namespace Piece

def string : Piece → String
  | .markup s | .text s | .attr s => s

/-- The piece with a letter as its data. -/
def plain : Piece → Piece
  | .markup s => .markup s
  | .text _ => .text "x"
  | .attr _ => .attr "x"

def Safe : Piece → Prop
  | .markup _ => True
  | .text v => textSafe v.toList = true
  | .attr v => '"' ∉ v.toList

@[simp] theorem safe_markup {s : String} : (markup s).Safe := trivial

@[simp] theorem safe_text {v : String} : (text v).Safe ↔ textSafe v.toList = true := Iff.rfl

@[simp] theorem safe_attr {v : String} : (attr v).Safe ↔ '"' ∉ v.toList := Iff.rfl

/-- A text of which every tag is complete. -/
def Closed : Piece → Prop
  | .text v => after .data v.toList = .data
  | _ => False

/-- How many events a text has of its own. -/
def own : Piece → Nat
  | .text v => (events .data v.toList).length
  | _ => 0

instance decidableSafe : DecidablePred Safe := fun p =>
  match p with
  | .markup _ => inferInstanceAs (Decidable True)
  | .text _ => inferInstanceAs (Decidable (_ = true))
  | .attr _ => inferInstanceAs (Decidable (_ ∉ _))

instance decidableClosed : DecidablePred Closed := fun p =>
  match p with
  | .markup _ => inferInstanceAs (Decidable False)
  | .text _ => inferInstanceAs (Decidable (_ = _))
  | .attr _ => inferInstanceAs (Decidable False)

end Piece

def render (l : List Piece) : String := String.ofList (l.flatMap fun p => p.string.toList)

/-- The events, piece by piece. -/
def pieceEvents (s : State) : List Piece → List (List Event)
  | [] => []
  | p :: rest => events s p.string.toList :: pieceEvents (after s p.string.toList) rest

/-- The events of the text are those of its pieces. -/
theorem events_render (s : State) (l : List Piece) :
    events s (render l).toList = (pieceEvents s l).flatten := by
  unfold render
  rw [String.toList_ofList]
  induction l generalizing s with
  | nil => rfl
  | cons p l ih =>
      rw [List.flatMap_cons, events_append, ih]
      rfl

/-- No data introduce a tag, an attribute or a comment, or end one. -/
def Uninjected (s : State) (l : List Piece) : Prop :=
  pieceEvents s l = pieceEvents s (l.map Piece.plain)

/-- **Text that is not injected has the tags and attributes of its template.** -/
theorem Uninjected.events_eq {s : State} {l : List Piece} (h : Uninjected s l) :
    events s (render l).toList = events s (render (l.map Piece.plain)).toList := by
  rw [events_render, events_render, h]

/-! ### Templates that fit -/

/-- Behind a text: a `<` at its end opens nothing, and a `</` would show. -/
def FollowsText (t : List Char) : Prop :=
  (∃ c ∈ t.head?, kind c ∉ [.letter, .slash, .bang, .question, .gt]) ∧
    (events .data t).head? ≠ some .comment

/-- Behind a value: had it ended, it would show. -/
def FollowsAttr (t : List Char) : Prop :=
  ∀ s ∈ [State.afterValue, .beforeAttr, .selfClosing], events s t ≠ events .valueDouble t

instance decidableFollowsText (t : List Char) : Decidable (FollowsText t) :=
  decidable_of_iff ((t.head?.any fun c => !([.letter, .slash, .bang, .question, .gt] :
      List Kind).contains (kind c)) = true ∧ (events .data t).head? ≠ some .comment) <| by
    unfold FollowsText
    cases t with
    | nil => simp
    | cons c rest => simp

instance decidableFollowsAttr (t : List Char) : Decidable (FollowsAttr t) :=
  List.decidableBAll _ _

/-- The data of the pieces stand where they may, from the state `s` on, and the template
ends in `s'`. -/
def Fits (s : State) : List Piece → State → Prop
  | [], s' => s = s'
  | .markup t :: rest, s' => Fits (after s t.toList) rest s'
  | .text _ :: rest, s' =>
      s = .data ∧ (∃ t r, rest = .markup t :: r ∧ FollowsText t.toList) ∧ Fits .data rest s'
  | .attr _ :: rest, s' =>
      s = .valueDouble ∧ (∃ t r, rest = .markup t :: r ∧ FollowsAttr t.toList) ∧
        Fits .valueDouble rest s'

theorem Fits.append {a b : List Piece} {s s' s'' : State} (ha : Fits s a s')
    (hb : Fits s' b s'') : Fits s (a ++ b) s'' := by
  induction a generalizing s with
  | nil =>
      obtain rfl : s = s' := ha
      exact hb
  | cons p a ih =>
      cases p with
      | markup t => exact ih (s := after s t.toList) ha
      | text v =>
          obtain ⟨hs, ⟨t, r, rfl, ht⟩, ha⟩ := ha
          exact ⟨hs, ⟨t, r ++ b, rfl, ht⟩, ih ha⟩
      | attr v =>
          obtain ⟨hs, ⟨t, r, rfl, ht⟩, ha⟩ := ha
          exact ⟨hs, ⟨t, r ++ b, rfl, ht⟩, ih ha⟩

/-! ### Behind data -/

theorem pieceEvents_tagOpen {t : String} (h : FollowsText t.toList) (r : List Piece) :
    pieceEvents .tagOpen (.markup t :: r) = pieceEvents .data (.markup t :: r) := by
  obtain ⟨⟨c, hc, hkind⟩, -⟩ := h
  obtain ⟨rest, ht⟩ : ∃ rest, t.toList = c :: rest := List.head?_eq_some_iff.mp hc
  have hstep : step .tagOpen c = step .data c := by
    unfold step
    cases hk : kind c <;> simp_all [stepKind]
  have hevents : events .tagOpen t.toList = events .data t.toList := by
    rw [ht]
    unfold events
    rw [hstep]
  have hafter : after .tagOpen t.toList = after .data t.toList := by
    rw [ht]
    unfold after
    rw [hstep]
  show events .tagOpen t.toList :: pieceEvents (after .tagOpen t.toList) r = _
  rw [hevents, hafter]
  rfl

theorem events_endTagOpen_ne {t : List Char} (h : FollowsText t) :
    events .endTagOpen t ≠ events .data t := by
  obtain ⟨⟨c, hc, hkind⟩, hhead⟩ := h
  obtain ⟨rest, rfl⟩ := List.head?_eq_some_iff.mp hc
  have hstep : step .endTagOpen c = (.bogusComment, some .comment) := by
    unfold step
    cases hk : kind c <;> simp_all [stepKind]
  intro heq
  rw [← heq] at hhead
  unfold events at hhead
  rw [hstep] at hhead
  exact hhead rfl

/-- Where a text that shows nothing can stand. -/
def InText (s : State) : Prop := s = .data ∨ s = .tagOpen ∨ s = .endTagOpen

theorem inText_step {s : State} {c : Char} (h : InText s) (hc : (step s c).2 = none) :
    InText (step s c).1 := by
  unfold step at *
  rcases h with rfl | rfl | rfl <;> cases hk : kind c <;> simp_all [stepKind, InText]

theorem inText_of_silent {s : State} {l : List Char} (h : InText s) (hl : events s l = []) :
    InText (after s l) := by
  induction l generalizing s with
  | nil => exact h
  | cons c l ih =>
      obtain ⟨hc, hrest⟩ := events_cons_eq_nil.mp hl
      exact ih (inText_step h hc) hrest

theorem plain_text_silent : events .data "x".toList = [] ∧ after .data "x".toList = .data := by
  decide

theorem plain_value_silent :
    events .valueDouble "x".toList = [] ∧ after .valueDouble "x".toList = .valueDouble := by
  decide

theorem pieceEvents_text {v t : String} {r : List Piece} (ht : FollowsText t.toList)
    (hv : textSafe v.toList = true) :
    pieceEvents .data (.text v :: .markup t :: r) = [] :: pieceEvents .data (.markup t :: r) := by
  obtain ⟨hsilent, hend⟩ := (text_silent_iff v.toList).1.mpr hv
  show events .data v.toList :: pieceEvents (after .data v.toList) (.markup t :: r) = _
  rw [hsilent]
  rcases inText_of_silent (Or.inl rfl) hsilent with hs | hs | hs
  · rw [hs]
  · rw [hs, pieceEvents_tagOpen ht]
  · exact absurd hs hend

theorem pieceEvents_attr {v : String} {r : List Piece} (hv : '"' ∉ v.toList) :
    pieceEvents .valueDouble (.attr v :: r) = [] :: pieceEvents .valueDouble r := by
  obtain ⟨hsilent, hafter⟩ := value_silent hv
  show events .valueDouble v.toList :: pieceEvents (after .valueDouble v.toList) r = _
  rw [hsilent, hafter]

/-- One text and what is behind it. -/
theorem uninjected_text_iff {v t : String} {r : List Piece} (ht : FollowsText t.toList) :
    Uninjected .data (.text v :: .markup t :: r) ↔
      textSafe v.toList = true ∧ Uninjected .data (.markup t :: r) := by
  have hplain : pieceEvents .data ((Piece.text v :: .markup t :: r).map Piece.plain) =
      [] :: pieceEvents .data ((Piece.markup t :: r).map Piece.plain) := by
    show events .data "x".toList :: pieceEvents (after .data "x".toList) _ = _
    rw [plain_text_silent.1, plain_text_silent.2]
  unfold Uninjected
  rw [hplain]
  constructor
  · intro heq
    obtain ⟨hsilent, hrest⟩ := List.cons.inj heq
    have hend : after .data v.toList ≠ .endTagOpen := by
      intro hs
      change pieceEvents (after .data v.toList) _ = _ at hrest
      rw [hs] at hrest
      exact events_endTagOpen_ne ht (List.cons.inj hrest).1
    have hv := (text_silent_iff v.toList).1.mp ⟨hsilent, hend⟩
    rw [pieceEvents_text ht hv] at heq
    exact ⟨hv, (List.cons.inj heq).2⟩
  · rintro ⟨hv, hrest⟩
    rw [pieceEvents_text ht hv, hrest]

/-- One value and what is behind it. -/
theorem uninjected_attr_iff {v t : String} {r : List Piece} (ht : FollowsAttr t.toList) :
    Uninjected .valueDouble (.attr v :: .markup t :: r) ↔
      '"' ∉ v.toList ∧ Uninjected .valueDouble (.markup t :: r) := by
  have hplain : pieceEvents .valueDouble ((Piece.attr v :: .markup t :: r).map Piece.plain) =
      [] :: pieceEvents .valueDouble ((Piece.markup t :: r).map Piece.plain) := by
    show events .valueDouble "x".toList :: pieceEvents (after .valueDouble "x".toList) _ = _
    rw [plain_value_silent.1, plain_value_silent.2]
  unfold Uninjected
  rw [hplain]
  constructor
  · intro heq
    obtain ⟨hsilent, hrest⟩ := List.cons.inj heq
    have hv : '"' ∉ v.toList := by
      intro hquote
      have hended := ended_of_quote hquote hsilent
      have hmem : after .valueDouble v.toList ∈
          [State.afterValue, .beforeAttr, .selfClosing] := by
        rcases hended with hs | hs | hs <;> simp [hs]
      exact ht _ hmem (List.cons.inj hrest).1
    rw [pieceEvents_attr hv] at heq
    exact ⟨hv, (List.cons.inj heq).2⟩
  · rintro ⟨hv, hrest⟩
    rw [pieceEvents_attr hv, hrest]

/-- **When data are not injected.**

In a template that fits: exactly when no `<` of a text opens markup and no value has a
quote. -/
theorem uninjected_iff {s s' : State} {l : List Piece} (h : Fits s l s') :
    Uninjected s l ↔ ∀ p ∈ l, p.Safe := by
  induction l generalizing s with
  | nil => exact iff_of_true rfl fun _ hp => absurd hp List.not_mem_nil
  | cons p l ih =>
      rw [List.forall_mem_cons]
      cases p with
      | markup t =>
          have hl := ih (s := after s t.toList) h
          have hcons : Uninjected s (.markup t :: l) ↔ Uninjected (after s t.toList) l := by
            unfold Uninjected
            show events s t.toList :: pieceEvents _ l =
              events s t.toList :: pieceEvents _ (l.map Piece.plain) ↔ _
            rw [List.cons.injEq]
            exact and_iff_right rfl
          rw [hcons, hl]
          exact (and_iff_right trivial).symm
      | text v =>
          obtain ⟨rfl, ⟨t, r, rfl, ht⟩, hrest⟩ := h
          rw [uninjected_text_iff ht, ih hrest]
          rfl
      | attr v =>
          obtain ⟨rfl, ⟨t, r, rfl, ht⟩, hrest⟩ := h
          rw [uninjected_attr_iff ht, ih hrest]
          rfl

/-- Where every text is safe or has complete tags, the events of these tags are added to
those of the template. -/
theorem Fits.length_events {s s' : State} {l : List Piece} (h : Fits s l s')
    (hl : ∀ p ∈ l, p.Safe ∨ p.Closed) :
    (pieceEvents s l).flatten.length =
      (pieceEvents s (l.map Piece.plain)).flatten.length + (l.map Piece.own).sum := by
  induction l generalizing s with
  | nil => rfl
  | cons p l ih =>
      obtain ⟨hp, hrest⟩ := List.forall_mem_cons.mp hl
      rw [List.map_cons, List.map_cons, List.sum_cons]
      cases p with
      | markup t =>
          have hlength := ih h hrest
          simp only [Piece.plain, Piece.own, Piece.string, pieceEvents, List.flatten_cons,
            List.length_append]
          omega
      | text v =>
          obtain ⟨rfl, ⟨t, r, rfl, ht⟩, hfits⟩ := h
          have hlength := ih hfits hrest
          have hplain : pieceEvents .data
              ((Piece.text v).plain :: (Piece.markup t :: r).map Piece.plain) =
              [] :: pieceEvents .data ((Piece.markup t :: r).map Piece.plain) :=
            pieceEvents_text (v := "x") (r := r.map Piece.plain) ht (by decide)
          rw [hplain, List.flatten_cons, List.nil_append]
          rcases hp with hsafe | hclosed
          · have hown : (Piece.text v).own = 0 :=
              congrArg List.length ((text_silent_iff v.toList).1.mpr hsafe).1
            rw [pieceEvents_text ht hsafe, hown]
            simpa using hlength
          · have htext : pieceEvents .data (.text v :: .markup t :: r) =
                events .data v.toList :: pieceEvents .data (.markup t :: r) := by
              have hafter : after .data v.toList = .data := hclosed
              show _ :: pieceEvents (after .data v.toList) _ = _
              rw [hafter]
              rfl
            rw [htext, List.flatten_cons, List.length_append, hlength]
            exact Nat.add_left_comm _ _ _
      | attr v =>
          obtain ⟨rfl, -, hfits⟩ := h
          have hlength := ih hfits hrest
          have hv : '"' ∉ v.toList := hp.resolve_right (fun hclosed => hclosed)
          have hplain : pieceEvents .valueDouble ((Piece.attr v).plain :: l.map Piece.plain) =
              [] :: pieceEvents .valueDouble (l.map Piece.plain) :=
            pieceEvents_attr (v := "x") (by decide)
          rw [pieceEvents_attr hv, hplain]
          simpa [Piece.own] using hlength

/-- **A complete tag in a text is one more in the markup.** -/
theorem Fits.events_ne {s s' : State} {l : List Piece} (h : Fits s l s')
    (hl : ∀ p ∈ l, p.Safe ∨ p.Closed) {p : Piece} (hp : p ∈ l) (hown : 0 < p.own) :
    events s (render l).toList ≠ events s (render (l.map Piece.plain)).toList := by
  intro heq
  rw [events_render, events_render] at heq
  have hlength := h.length_events hl
  have hsum : 0 < (l.map Piece.own).sum :=
    List.sum_pos_iff_exists_pos_nat.mpr ⟨p.own, List.mem_map_of_mem hp, hown⟩
  rw [heq] at hlength
  omega

/-! ### Literals -/

/-- A literal of the template. -/
theorem Fits.literal {s s₁ s' : State} {rest : List Piece} (l : List Char) (h : after s l = s₁)
    (hrest : Fits s₁ rest s') : Fits s (.markup (String.ofList l) :: rest) s' := by
  show Fits (after s (String.ofList l).toList) rest s'
  rw [String.toList_ofList, h]
  exact hrest

/-- A text and the literal behind it. -/
theorem Fits.text {s₁ s' : State} {v : String} {rest : List Piece} (l : List Char)
    (h : FollowsText l ∧ after .data l = s₁) (hrest : Fits s₁ rest s') :
    Fits .data (.text v :: .markup (String.ofList l) :: rest) s' :=
  ⟨rfl, ⟨_, _, rfl, by rw [String.toList_ofList]; exact h.1⟩, Fits.literal l h.2 hrest⟩

/-- A value and the literal behind it. -/
theorem Fits.attr {s₁ s' : State} {v : String} {rest : List Piece} (l : List Char)
    (h : FollowsAttr l ∧ after .valueDouble l = s₁) (hrest : Fits s₁ rest s') :
    Fits .valueDouble (.attr v :: .markup (String.ofList l) :: rest) s' :=
  ⟨rfl, ⟨_, _, rfl, by rw [String.toList_ofList]; exact h.1⟩, Fits.literal l h.2 hrest⟩

/-! ### Joined pieces -/

/-- The pieces of each part, with the same markup between them: `.join(separator)`. -/
def joined (separator : String) : List (List Piece) → List Piece
  | [] => []
  | [part] => part
  | part :: next :: rest => part ++ .markup separator :: joined separator (next :: rest)

theorem Fits.joined {s : State} (separator : List Char) (hsep : after s separator = s) :
    ∀ {parts : List (List Piece)}, (∀ part ∈ parts, Fits s part s) →
      Fits s (Markup.joined (String.ofList separator) parts) s := by
  intro parts
  induction parts with
  | nil => exact fun _ => rfl
  | cons part rest ih =>
      intro h
      have hpart := h part List.mem_cons_self
      have hrest := ih fun q hq => h q (List.mem_cons_of_mem _ hq)
      cases rest with
      | nil => exact hpart
      | cons next rest =>
          exact hpart.append (Fits.literal separator hsep hrest)

theorem joined_safe_iff {separator : String} {parts : List (List Piece)} :
    (∀ p ∈ joined separator parts, p.Safe) ↔ ∀ part ∈ parts, ∀ p ∈ part, p.Safe := by
  induction parts with
  | nil => simp [joined]
  | cons part rest ih =>
      cases rest with
      | nil => simp [joined]
      | cons next rest =>
          rw [List.forall_mem_cons, ← ih]
          simp only [joined, List.forall_mem_append, List.forall_mem_cons]
          exact and_congr_right fun _ => and_iff_right trivial

/-! ### Safe texts -/

/-- What has no `<` opens nothing in front of a text. -/
theorem textSafe_append_of_not_mem {a : List Char} (h : '<' ∉ a) (b : List Char) :
    textSafe (a ++ b) = textSafe b := by
  induction a with
  | nil => rfl
  | cons c a ih =>
      have hc : kind c ≠ .lt := fun hk => h (kind_eq_lt_iff.mp hk ▸ List.mem_cons_self)
      have ha := ih fun hmem => h (List.mem_cons_of_mem _ hmem)
      show ((kind c ≠ .lt || !opens (a ++ b)) && textSafe (a ++ b)) = textSafe b
      rw [ha, decide_eq_true hc]
      rfl

theorem textSafe_of_not_mem {l : List Char} (h : '<' ∉ l) : textSafe l = true := by
  have happend := textSafe_append_of_not_mem h []
  rw [List.append_nil] at happend
  exact happend

/-- A character that opens nothing keeps two texts apart. -/
theorem textSafe_append_cons {a b : List Char} {c : Char}
    (hc : kind c ∉ [.letter, .slash, .bang, .question, .gt]) :
    textSafe (a ++ c :: b) = (textSafe a && textSafe (c :: b)) := by
  have hopens : ∀ l : List Char, opens (l ++ c :: b) = opens l := by
    intro l
    match l with
    | [] =>
        unfold opens
        cases hk : kind c <;> simp_all
    | [d] =>
        simp only [List.cons_append, List.nil_append, opens, List.head?_cons, List.head?_nil,
          Option.map_some, Option.map_none]
        cases hk : kind d <;> simp_all
    | d :: e :: l => rfl
  induction a with
  | nil => rfl
  | cons d a ih =>
      show ((kind d ≠ .lt || !opens (a ++ c :: b)) && textSafe (a ++ c :: b)) = _
      rw [hopens, ih, ← Bool.and_assoc]
      rfl

/-- Texts with a separator that keeps them apart. -/
theorem textSafe_intercalate_iff {c : Char} {more : List Char}
    (hc : kind c ∉ [.letter, .slash, .bang, .question, .gt]) (hmore : '<' ∉ c :: more)
    {parts : List (List Char)} :
    textSafe (List.intercalate (c :: more) parts) = true ↔
      ∀ part ∈ parts, textSafe part = true := by
  induction parts with
  | nil => simp [textSafe]
  | cons part rest ih =>
      cases rest with
      | nil => simp
      | cons next rest =>
          rw [List.forall_mem_cons, ← ih, List.intercalate_cons_cons, List.append_assoc,
            List.cons_append, textSafe_append_cons hc, ← List.cons_append,
            textSafe_append_of_not_mem hmore, Bool.and_eq_true]

end Veridian.Markup
