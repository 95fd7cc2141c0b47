import Swatchbook.Markdown
import Mathlib.Data.List.Induction
import Mathlib.Data.List.TakeWhile

/-!
# Highlighted code blocks

The events of a code block are held back up to its end, where one piece of
markup comes out for all of them. Main statement: of a document whose code
blocks hold text and are ended, highlighting rewrites the code blocks and
leaves all else as it is.
-/

namespace Swatchbook.Markdown

-- ---------------------------------------------------------------------------
-- Documents and their code blocks
-- ---------------------------------------------------------------------------

def Event.opensCode : Event → Bool
  | .start (.codeBlock _) => true
  | _ => false

/-- Behind the start of every code block there is text and then its end. -/
def Enclosed (events : List Event) : Prop :=
  ∀ before kind after, events = before ++ .start (.codeBlock kind) :: after →
    ∃ (texts : List Text) (other : CodeKind) (rest : List Event),
      after = texts.map .text ++ .stop (.codeBlock other) :: rest

/-- The label of a code block: what its info string has in front of the first comma or space.
Indented blocks and those with a blank info string have none. -/
inductive Labelled : CodeKind → Option Text → Prop
  | indented : Labelled .indented none
  | blank {info : Text} (h : ∀ c ∈ info, Text.isBlank c = true) : Labelled (.fenced info) none
  | info {label rest : Text} (hsaid : ∃ c ∈ label ++ rest, Text.isBlank c = false)
    (hlabel : ∀ c ∈ label, c ≠ ',' ∧ c ≠ ' ') (hrest : ∀ c ∈ rest.head?, c = ',' ∨ c = ' ') :
    Labelled (.fenced (label ++ rest)) (some label)

/-- `Rewritten events out`: the code blocks of `events` are highlighted in `out`, each as one
piece of markup, and all other events are there, in their order. -/
inductive Rewritten : List Event → List Event → Prop
  | nil : Rewritten [] []
  | other {e : Event} {rest out : List Event} (he : e.opensCode = false)
    (h : Rewritten rest out) : Rewritten (e :: rest) (e :: out)
  | block {kind other : CodeKind} {label : Option Text} {rest out : List Event}
    (texts : List Text) (hlabel : Labelled kind label) (h : Rewritten rest out) :
    Rewritten (.start (.codeBlock kind) :: (texts.map .text ++ .stop (.codeBlock other) :: rest))
      (.html (Highlight.render (.block label) texts.flatten) :: out)

-- ---------------------------------------------------------------------------
-- One block, one event
-- ---------------------------------------------------------------------------

variable {kind other : CodeKind} {label : Option Text} {e : Event} {events out rest : List Event}

theorem takeWhile_label {label rest : Text} (hlabel : ∀ c ∈ label, c ≠ ',' ∧ c ≠ ' ')
    (hrest : ∀ c ∈ rest.head?, c = ',' ∨ c = ' ') :
    (label ++ rest).takeWhile (fun c => c != ',' && c != ' ') = label := by
  have hall : ∀ c ∈ label, (c != ',' && c != ' ') = true := by simpa using hlabel
  rw [List.takeWhile_append_of_pos hall]
  cases rest with
  | nil => simp
  | cons c rest =>
    rw [List.takeWhile_cons_of_neg, List.append_nil]
    rcases hrest c rfl with rfl | rfl <;> decide

theorem labelled_codeLabel (kind : CodeKind) : Labelled kind (codeLabel kind) := by
  cases kind with
  | indented => exact .indented
  | fenced info =>
    rw [codeLabel]
    cases hblank : Text.allBlank info with
    | true => exact .blank (List.all_eq_true.mp hblank)
    | false =>
      let inLabel (c : Char) : Bool := c != ',' && c != ' '
      have hsplit : info.takeWhile inLabel ++ info.dropWhile inLabel = info :=
        List.takeWhile_append_dropWhile
      have hinfo : Labelled (.fenced (info.takeWhile inLabel ++ info.dropWhile inLabel))
          (some (info.takeWhile inLabel)) := by
        refine .info ?_ (fun c hc => ?_) (fun c hc => ?_)
        · rw [hsplit]
          simpa using List.all_eq_false.mp hblank
        · simpa [inLabel] using List.mem_takeWhile_imp hc
        · have hstop := List.head?_dropWhile_not inLabel info
          rw [hc] at hstop
          simp [inLabel] at hstop
          by_cases hcomma : c = ','
          · exact .inl hcomma
          · exact .inr (hstop hcomma)
      rwa [hsplit] at hinfo

theorem labelled_iff : Labelled kind label ↔ label = codeLabel kind := by
  constructor
  · intro h
    cases h with
    | indented => rfl
    | blank h => rw [codeLabel, Text.allBlank, List.all_eq_true.mpr h, if_pos rfl]
    | info hsaid hlabel hrest =>
      have hblank : Text.allBlank (_ ++ _) = false := List.all_eq_false.mpr (by simpa using hsaid)
      rw [codeLabel, hblank, if_neg Bool.false_ne_true, takeWhile_label hlabel hrest]
  · rintro rfl
    exact labelled_codeLabel kind

theorem opensCode_iff : e.opensCode = true ↔ ∃ kind, e = .start (.codeBlock kind) := by
  unfold Event.opensCode
  split
  · next kind => exact iff_of_true rfl ⟨kind, rfl⟩
  · next hother =>
    refine iff_of_false Bool.false_ne_true ?_
    rintro ⟨kind, rfl⟩
    exact hother kind rfl

theorem highlightCode_cons (he : e.opensCode = false) (rest : List Event) :
    highlightCode (e :: rest) = e :: highlightCode rest := by
  cases e with
  | start tag =>
    cases tag with
    | codeBlock kind => cases he
    | _ => rfl
  | stop tag => cases tag <;> rfl
  | _ => rfl

theorem highlightFrom_texts (texts : List Text) (code : Text) (rest : List Event) :
    highlightFrom (some (label, code)) (texts.map .text ++ rest) =
      highlightFrom (some (label, code ++ texts.flatten)) rest := by
  induction texts generalizing code with
  | nil => simp
  | cons t texts ih =>
    rw [List.map_cons, List.cons_append, highlightFrom, ih, List.flatten_cons, List.append_assoc]

theorem highlightCode_block (kind other : CodeKind) (texts : List Text) (rest : List Event) :
    highlightCode (.start (.codeBlock kind) ::
        (texts.map .text ++ .stop (.codeBlock other) :: rest)) =
      .html (Highlight.render (.block (codeLabel kind)) texts.flatten) :: highlightCode rest := by
  rw [highlightCode, highlightFrom, highlightFrom_texts, List.nil_append, highlightFrom]
  rfl

-- ---------------------------------------------------------------------------
-- Whole documents
-- ---------------------------------------------------------------------------

theorem Enclosed.of_append (front : List Event) (h : Enclosed (front ++ events)) :
    Enclosed events := by
  rintro before kind after rfl
  exact h (front ++ before) kind after (List.append_assoc _ _ _).symm

theorem Enclosed.cons (he : e.opensCode = false) (h : Enclosed rest) : Enclosed (e :: rest) := by
  intro before kind after hsplit
  cases before with
  | nil =>
    obtain ⟨rfl, -⟩ := List.cons.inj hsplit
    cases he
  | cons d before => exact h before kind after (List.cons.inj hsplit).2

theorem Enclosed.texts (texts : List Text) (h : Enclosed rest) :
    Enclosed (texts.map .text ++ rest) := by
  induction texts with
  | nil => exact h
  | cons t texts ih => exact ih.cons rfl

theorem Enclosed.block (texts : List Text) (h : Enclosed rest) :
    Enclosed (.start (.codeBlock kind) :: (texts.map .text ++ .stop (.codeBlock other) :: rest)) := by
  intro before inner after hsplit
  cases before with
  | nil =>
    obtain ⟨-, rfl⟩ := List.cons.inj hsplit
    exact ⟨texts, other, rest, rfl⟩
  | cons d before =>
    exact (h.cons rfl).texts texts before inner after (List.cons.inj hsplit).2

theorem Rewritten.enclosed (h : Rewritten events out) : Enclosed events := by
  induction h with
  | nil =>
    intro before kind after hsplit
    simp at hsplit
  | other he _ ih => exact ih.cons he
  | block texts _ _ ih => exact ih.block texts

theorem Rewritten.eq (h : Rewritten events out) : out = highlightCode events := by
  induction h with
  | nil => rfl
  | other he _ ih => rw [highlightCode_cons he, ih]
  | block texts hlabel _ ih => rw [highlightCode_block, ih, labelled_iff.mp hlabel]

theorem Enclosed.rewritten (h : Enclosed events) : Rewritten events (highlightCode events) := by
  induction hn : events.length using Nat.strong_induction_on generalizing events with
  | _ n ih =>
    subst hn
    cases events with
    | nil => exact .nil
    | cons e rest =>
      cases he : e.opensCode with
      | false =>
        rw [highlightCode_cons he]
        exact .other he (ih _ (Nat.lt_succ_self _) (Enclosed.of_append [e] h) rfl)
      | true =>
        obtain ⟨kind, rfl⟩ := opensCode_iff.mp he
        obtain ⟨texts, other, more, rfl⟩ := h [] kind rest rfl
        have hmore : Enclosed more := by
          apply Enclosed.of_append
            (.start (.codeBlock kind) :: (texts.map .text ++ [.stop (.codeBlock other)]))
          simpa using h
        rw [highlightCode_block]
        exact .block texts (labelled_codeLabel kind) (ih _ (by simp; omega) hmore rfl)

/-- Highlighting gives the document with its code blocks rewritten, and no other one is that. -/
theorem highlightCode_rewrites (h : Enclosed events) :
    Rewritten events out ↔ out = highlightCode events := by
  constructor
  · exact Rewritten.eq
  · rintro rfl
    exact h.rewritten

/-- Blocks may follow each other, be empty, and stand at the end. -/
theorem highlightCode_rewrites_adjacent :
    let fenced : Tag := .codeBlock (.fenced "css, ignore".toList)
    let indented : Tag := .codeBlock .indented
    let events : List Event := [.rule, .stop indented, .start fenced, .text ['a'], .text ['\n'],
      .stop fenced, .start indented, .stop indented]
    Enclosed events ∧ highlightCode events = [.rule, .stop indented,
      .html (Highlight.render (.block (some "css".toList)) ['a', '\n']),
      .html (Highlight.render (.block none) [])] := by
  intro fenced indented events
  have hfenced : Labelled (.fenced "css, ignore".toList) (some "css".toList) :=
    labelled_iff.mpr (by decide)
  have hlast : Rewritten [.start indented, .stop indented]
      [.html (Highlight.render (.block none) [])] := .block [] .indented .nil
  have hblocks : Rewritten (.start fenced :: ([['a'], ['\n']].map .text ++ .stop fenced ::
      [.start indented, .stop indented])) [.html (Highlight.render (.block (some "css".toList))
        ['a', '\n']), .html (Highlight.render (.block none) [])] := .block _ hfenced hlast
  have hrewritten := Rewritten.other (e := .rule) rfl (.other (e := .stop indented) rfl hblocks)
  exact ⟨hrewritten.enclosed, ((highlightCode_rewrites hrewritten.enclosed).mp hrewritten).symm⟩

end Swatchbook.Markdown
