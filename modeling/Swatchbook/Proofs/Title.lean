import Swatchbook.Proofs.Heading
import Mathlib.Data.List.Induction

/-!
# Titles keep words apart

A heading that goes over several lines is shown with the words of one line
apart from those of the next. Its title is taken from the text and the code
alone, so nothing stands for the breaks. Main statement: a title has the words
of its heading just if no break stands inside a word.
-/

namespace Swatchbook

-- ---------------------------------------------------------------------------
-- Words of texts put together
-- ---------------------------------------------------------------------------

namespace Text

/-- The last word of `s` goes on with the first one of `t`. -/
def Joins (s t : Text) : Prop := Firm s ∧ ∃ c ∈ t.head?, isBlank c = false

instance (s t : Text) : Decidable (Joins s t) :=
  decidable_of_iff (Firm s ∧ t.head?.any (!isBlank ·) = true) (by simp [Joins, Option.any_eq_true])

variable {c : Char} {s t : Text}

theorem trim_eq_nil_iff : trim t = [] ↔ allBlank t = true := by
  constructor
  · intro h
    by_contra hblank
    obtain ⟨c, rest, htrim, hc⟩ := exists_trimStart (by simpa using hblank)
    rw [trim, htrim, trimEnd, dropWhileEnd, List.reverse_eq_nil_iff,
      List.dropWhile_eq_nil_iff] at h
    simpa [hc] using h c (by simp)
  · intro h
    exact trim_append_blank h []

theorem length_words_cons (hc : isBlank c = false) (t : Text) : (words (c :: t)).length =
    (words t).length + (t.head?.all isBlank).toNat := by
  cases t with
  | nil => simp [words, splitBy, hc]
  | cons d t =>
    obtain ⟨piece, pieces, hsplit⟩ := List.exists_cons_of_ne_nil (splitBy_ne_nil isBlank t)
    cases hd : isBlank d <;> simp [words, splitBy, hc, hd, hsplit]

theorem words_append (h : ¬ Joins s t) : words (s ++ t) = words s ++ words t := by
  cases s using List.reverseRecOn with
  | nil => rfl
  | append_singleton s a =>
    cases t with
    | nil => simp
    | cons b t =>
      cases ha : isBlank a with
      | true =>
        rw [List.append_assoc, List.singleton_append, words_append_cons ha,
          words_append_cons ha s [], words_nil, List.append_nil]
      | false =>
        have hb : isBlank b = true := by
          by_contra hb
          refine h ⟨firm_iff.mpr ⟨a, by simp, ha⟩, b, rfl, ?_⟩
          simpa using hb
        rw [words_append_cons hb, words_cons_blank hb]

theorem length_words_append (h : Joins s t) :
    (words (s ++ t)).length + 1 = (words s).length + (words t).length := by
  obtain ⟨hs, b, hb, hblank⟩ := h
  obtain ⟨t, rfl⟩ := List.head?_eq_some_iff.mp hb
  induction s with
  | nil => exact absurd rfl hs.ne_nil
  | cons a s ih =>
    cases s with
    | nil =>
      have ha : isBlank a = false := by simpa [firm_iff] using hs
      rw [List.singleton_append, length_words_cons ha, length_words_cons ha]
      simp [hblank]
      omega
    | cons d s =>
      have hrest := ih (Firm.of_append (a := [a]) hs (List.cons_ne_nil d s))
      cases ha : isBlank a with
      | true => rwa [List.cons_append, words_cons_blank ha, words_cons_blank ha]
      | false =>
        rw [List.cons_append, length_words_cons ha, length_words_cons ha]
        simp only [List.cons_append, List.head?_cons] at hrest ⊢
        omega

theorem joins_append_iff {p : Text} (h : ¬ Joins s (p ++ t)) : Joins (s ++ p) t ↔ Joins p t := by
  cases p with
  | nil =>
    rw [List.append_nil]
    exact iff_of_false h fun hnil => hnil.1.ne_nil rfl
  | cons c p => exact and_congr_left fun _ => ⟨(·.of_append (List.cons_ne_nil c p)), (·.append s)⟩

theorem length_words_append_le (s t : Text) :
    (words (s ++ t)).length ≤ (words s).length + (words t).length := by
  by_cases h : Joins s t
  · have hlength := length_words_append h
    omega
  · rw [words_append h, List.length_append]

end Text

namespace Markdown

-- ---------------------------------------------------------------------------
-- The headings of level one
-- ---------------------------------------------------------------------------

/-- Whether a line ends here inside an element. -/
def Event.breaks : Event → Bool
  | .softBreak | .hardBreak => true
  | _ => false

/-- What an event shows in a heading. -/
def Event.shown (e : Event) : Text := if e.breaks then ['\n'] else e.said

/-- Whether a heading of level one begins or ends. -/
def Event.boundsTop (e : Event) : Bool := e.opensTop || e.closesTop

/-- What stands in each heading of level one, in their order: the events from its start to its
end. A start that another one follows before any end has none. -/
def tops : List Event → List (List Event)
  | [] => []
  | e :: rest =>
    if e.opensTop && (rest.find? Event.boundsTop).any Event.closesTop then
      rest.takeWhile (fun e => !e.boundsTop) :: tops rest
    else tops rest

/-- Whether there is more than blanks in a heading. -/
def speaks (inside : List Event) : Bool := !Text.allBlank (inside.flatMap Event.said)

/-- Behind a text no break stands inside a word. -/
def UnbrokenFrom (s : Text) (inside : List Event) : Prop :=
  ∀ before e after, inside = before ++ e :: after → e.breaks = true →
    ¬ Text.Joins (s ++ before.flatMap Event.said) (after.flatMap Event.said)

def Unbroken (inside : List Event) : Prop := UnbrokenFrom [] inside

section

variable {e start stop : Event} {events inside : List Event} {t : Text}

theorem boundsTop_of_opensTop (h : e.opensTop = true) : e.boundsTop = true := by
  rw [Event.boundsTop, h, Bool.true_or]

theorem boundsTop_of_closesTop (h : e.closesTop = true) : e.boundsTop = true := by
  rw [Event.boundsTop, h, Bool.or_true]

theorem boundsTop_eq_false_iff :
    e.boundsTop = false ↔ e.opensTop = false ∧ e.closesTop = false := Bool.or_eq_false_iff

theorem tops_of_not_opens (h : e.opensTop = false) (rest : List Event) :
    tops (e :: rest) = tops rest := by
  rw [tops, h, Bool.false_and, if_neg Bool.false_ne_true]

section

variable (hinside : ∀ e ∈ inside, e.boundsTop = false)

include hinside

theorem tops_inside (rest : List Event) : tops (inside ++ rest) = tops rest := by
  induction inside with
  | nil => rfl
  | cons e inside ih =>
    rw [List.forall_mem_cons] at hinside
    rw [List.cons_append, tops_of_not_opens (boundsTop_eq_false_iff.mp hinside.1).1,
      ih hinside.2]

theorem find?_boundsTop_inside (rest : List Event) :
    (inside ++ rest).find? Event.boundsTop = rest.find? Event.boundsTop := by
  have hnone : inside.find? Event.boundsTop = none :=
    List.find?_eq_none.mpr fun e he => by simp [hinside e he]
  rw [List.find?_append, hnone, Option.none_or]

/-- A heading that holds no other of level one has the events up to its end. -/
theorem tops_heading (hstart : start.opensTop = true) (hstop : stop.closesTop = true)
    (rest : List Event) : tops (start :: inside ++ stop :: rest) = inside :: tops rest := by
  have hbound := boundsTop_of_closesTop hstop
  have hinner : ∀ e ∈ inside, (!e.boundsTop) = true := fun e he => by simp [hinside e he]
  rw [List.cons_append, tops, hstart, Bool.true_and, find?_boundsTop_inside hinside,
    List.find?_cons_of_pos hbound, Option.any_some, if_pos hstop,
    List.takeWhile_append_of_pos hinner, List.takeWhile_cons_of_neg (by simp [hbound]),
    List.append_nil, tops_inside hinside, tops_of_not_opens (opensTop_of_closesTop hstop)]

/-- A heading that is not ended before another one begins is none. -/
theorem tops_of_not_closed {rest : List Event} (hstart : start.opensTop = true)
    (hrest : ∀ e ∈ rest.head?, e.opensTop = true) :
    tops (start :: inside ++ rest) = tops rest := by
  rw [List.cons_append, tops, hstart, Bool.true_and, find?_boundsTop_inside hinside,
    tops_inside hinside]
  cases rest with
  | nil => rfl
  | cons e rest =>
    have hopens : e.opensTop = true := hrest e rfl
    have hcloses : e.closesTop = false := by
      by_contra hcloses
      simp [opensTop_of_closesTop (by simpa using hcloses)] at hopens
    rw [List.find?_cons_of_pos (boundsTop_of_opensTop hopens), Option.any_some, hcloses,
      if_neg Bool.false_ne_true]

end

theorem exists_inside (events : List Event) : ∃ inside rest, events = inside ++ rest ∧
    (∀ e ∈ inside, e.boundsTop = false) ∧ ∀ e ∈ rest.head?, e.boundsTop = true := by
  refine ⟨events.takeWhile (!·.boundsTop), events.dropWhile (!·.boundsTop),
    List.takeWhile_append_dropWhile.symm, fun e he => ?_, fun e he => ?_⟩
  · simpa using List.mem_takeWhile_imp he
  · have hhead := List.head?_dropWhile_not (fun e => !Event.boundsTop e) events
    rw [he] at hhead
    simpa using hhead

-- ---------------------------------------------------------------------------
-- The title
-- ---------------------------------------------------------------------------

/-- The first heading that speaks, as it is recorded. -/
def titleOf? (events : List Event) : Option Text :=
  ((tops events).find? speaks).map fun inside => Text.trim (inside.flatMap Event.said)

theorem step_reopens (h : e.opensTop = true) : Capture.step ⟨none, some t⟩ e = ⟨none, some []⟩ := by
  obtain ⟨attributes, rfl⟩ := opensTop_iff.mp h
  rfl

theorem titleOf?_heading (hstart : start.opensTop = true)
    (hinside : ∀ e ∈ inside, e.boundsTop = false) (hstop : stop.closesTop = true)
    (rest : List Event) : titleOf? (start :: inside ++ stop :: rest) =
      if Text.trim (inside.flatMap Event.said) = [] then titleOf? rest
      else some (Text.trim (inside.flatMap Event.said)) := by
  rw [titleOf?, tops_heading hinside hstart hstop, List.find?_cons]
  simp only [Text.trim_eq_nil_iff, speaks]
  cases Text.allBlank (inside.flatMap Event.said) <;> rfl

/-- The title is that of the first heading of level one that speaks. -/
theorem title_foldl_step (events : List Event) :
    (events.foldl Capture.step ⟨none, none⟩).title = titleOf? events := by
  induction hn : events.length using Nat.strong_induction_on generalizing events with
  | _ n ih =>
    cases events with
    | nil => rfl
    | cons e rest =>
      subst hn
      cases hopens : e.opensTop with
      | false =>
        rw [List.foldl_cons, step_outside hopens, ih _ (Nat.lt_succ_self _) rest rfl, titleOf?,
          titleOf?, tops_of_not_opens hopens]
      | true =>
        obtain ⟨inside, tail, rfl, hinside, htail⟩ := exists_inside rest
        have hinner := fun e he => boundsTop_eq_false_iff.mp (hinside e he)
        rw [List.foldl_cons, step_opens hopens, List.foldl_append, foldl_step_inside hinner,
          List.nil_append, ← List.cons_append]
        cases tail with
        | nil =>
          rw [titleOf?, tops_of_not_closed hinside hopens (by simp)]
          rfl
        | cons b more =>
          have hshorter : (b :: more).length < (e :: (inside ++ b :: more)).length := by
            simp only [List.length_cons, List.length_append]
            omega
          cases hcloses : b.closesTop with
          | true =>
            rw [List.foldl_cons, step_closes hcloses, titleOf?_heading hopens hinside hcloses]
            split
            · exact ih _ (Nat.lt_trans (Nat.lt_succ_self _) hshorter) more rfl
            · rw [foldl_step_titled]
          | false =>
            have hreopens : b.opensTop = true := by
              simpa [Event.boundsTop, hcloses] using htail b rfl
            rw [List.foldl_cons, step_reopens hreopens, ← step_opens hreopens, ← List.foldl_cons,
              ih _ hshorter (b :: more) rfl, titleOf?, titleOf?,
              tops_of_not_closed hinside hopens (by simpa using hreopens)]

theorem recordHeading_eq (events : List Event) :
    recordHeading events = (events, titleOf? events) := by
  rw [recordHeading, pass_eq, ← title_foldl_step]

-- ---------------------------------------------------------------------------
-- Words of the title
-- ---------------------------------------------------------------------------

@[simp] theorem said_of_breaks (h : e.breaks = true) : e.said = [] := by
  unfold Event.breaks at h
  split at h
  · rfl
  · rfl
  · cases h

theorem shown_of_breaks (h : e.breaks = true) : e.shown = ['\n'] := if_pos h

theorem shown_of_not_breaks (h : e.breaks = false) : e.shown = e.said := by
  rw [Event.shown, h, if_neg Bool.false_ne_true]

theorem words_break (s t : Text) :
    Text.words (s ++ '\n' :: t) = Text.words s ++ Text.words t := Text.words_append_cons rfl s t

theorem length_words_said_le (inside : List Event) (s : Text) :
    (Text.words (s ++ inside.flatMap Event.said)).length ≤
      (Text.words (s ++ inside.flatMap Event.shown)).length := by
  induction inside generalizing s with
  | nil => exact Nat.le_refl _
  | cons e inside ih =>
    rw [List.flatMap_cons, List.flatMap_cons]
    cases he : e.breaks with
    | true =>
      have hle := Text.length_words_append_le s (inside.flatMap Event.said)
      have hrest := ih []
      rw [said_of_breaks he, shown_of_breaks he, List.nil_append, List.singleton_append,
        words_break, List.length_append]
      simp only [List.nil_append] at hrest
      omega
    | false =>
      rw [shown_of_not_breaks he, ← List.append_assoc, ← List.append_assoc]
      exact ih (s ++ e.said)

theorem unbrokenFrom_nil (s : Text) : UnbrokenFrom s [] := by
  intro before b after hsplit
  simp at hsplit

theorem unbrokenFrom_cons {s : Text} : UnbrokenFrom s (e :: inside) ↔
    (e.breaks = true → ¬ Text.Joins s (inside.flatMap Event.said)) ∧
      UnbrokenFrom (s ++ e.said) inside := by
  constructor
  · intro h
    refine ⟨fun he => by simpa using h [] e inside rfl he, fun before b after hsplit hb => ?_⟩
    have hjoins := h (e :: before) b after (by rw [hsplit, List.cons_append]) hb
    rwa [List.flatMap_cons, ← List.append_assoc] at hjoins
  · rintro ⟨hhere, hrest⟩ before b after hsplit hb
    cases before with
    | nil =>
      obtain ⟨rfl, rfl⟩ := List.cons.inj hsplit
      simpa using hhere hb
    | cons d before =>
      obtain ⟨rfl, hinside⟩ := List.cons.inj hsplit
      rw [List.flatMap_cons, ← List.append_assoc]
      exact hrest before b after hinside hb

theorem unbrokenFrom_iff {s : Text} (h : ¬ Text.Joins s (inside.flatMap Event.said)) :
    UnbrokenFrom s inside ↔ UnbrokenFrom [] inside := by
  have hsame (before : List Event) (b : Event) (after : List Event)
      (hsplit : inside = before ++ b :: after) (hb : b.breaks = true) :
      Text.Joins (s ++ before.flatMap Event.said) (after.flatMap Event.said) ↔
        Text.Joins (before.flatMap Event.said) (after.flatMap Event.said) := by
    apply Text.joins_append_iff
    rwa [hsplit, List.flatMap_append, List.flatMap_cons, said_of_breaks hb] at h
  constructor
  · intro hs before b after hsplit hb
    rw [List.nil_append, ← hsame before b after hsplit hb]
    exact hs before b after hsplit hb
  · intro hnil before b after hsplit hb
    rw [hsame before b after hsplit hb]
    exact hnil before b after hsplit hb

theorem words_said_eq_iff (inside : List Event) (s : Text) :
    Text.words (s ++ inside.flatMap Event.said) = Text.words (s ++ inside.flatMap Event.shown) ↔
      UnbrokenFrom s inside := by
  induction inside generalizing s with
  | nil => exact iff_of_true rfl (unbrokenFrom_nil s)
  | cons e inside ih =>
    rw [unbrokenFrom_cons, List.flatMap_cons, List.flatMap_cons]
    cases he : e.breaks with
    | false =>
      rw [shown_of_not_breaks he, ← List.append_assoc, ← List.append_assoc, ih]
      simp
    | true =>
      rw [said_of_breaks he, shown_of_breaks he, List.nil_append, List.singleton_append,
        words_break, List.append_nil]
      by_cases hjoins : Text.Joins s (inside.flatMap Event.said)
      · have hfewer := Text.length_words_append hjoins
        have hle := length_words_said_le inside []
        simp only [List.nil_append] at hle
        refine iff_of_false (fun heq => ?_) (fun h => h.1 rfl hjoins)
        have hlength := congrArg List.length heq
        rw [List.length_append] at hlength
        omega
      · rw [Text.words_append hjoins, List.append_cancel_left_eq, unbrokenFrom_iff hjoins]
        simpa [hjoins] using ih []

/-- If some heading of level one has more than blanks, the first such heading gives the title,
and the title has its words just if no break stands inside one of them. -/
theorem title_words_iff (h : ∃ inside ∈ tops events, speaks inside = true) :
    ∃ inside title, (tops events).find? speaks = some inside ∧
      recordHeading events = (events, some title) ∧
      (Text.words title = Text.words (inside.flatMap Event.shown) ↔ Unbroken inside) := by
  obtain ⟨inside, hfirst⟩ := Option.isSome_iff_exists.mp (List.find?_isSome.mpr h)
  refine ⟨inside, Text.trim (inside.flatMap Event.said), hfirst, ?_, ?_⟩
  · rw [recordHeading_eq, titleOf?, hfirst, Option.map_some]
  · rw [Text.words_trim]
    exact words_said_eq_iff inside []

end

/-- Blanks at the end of a line, or nothing behind it, keep the words apart. -/
theorem title_words_padded :
    let top : Tag := .heading 1 .empty
    let events : List Event := [.start top, .softBreak, .stop top, .start (.heading 2 .empty),
      .start top, .text "The ".toList, .softBreak, .code "b".toList, .hardBreak, .stop top]
    ∃ inside title, (tops events).find? speaks = some inside ∧
      recordHeading events = (events, some title) ∧
      Text.words title = Text.words (inside.flatMap Event.shown) := by
  intro top events
  have hspeaks : ∃ inside ∈ tops events, speaks inside = true := by decide
  obtain ⟨inside, title, hfirst, hrecord, hwords⟩ := title_words_iff hspeaks
  refine ⟨inside, title, hfirst, hrecord, hwords.mpr ?_⟩
  have hknown : (tops events).find? speaks =
      some [.text "The ".toList, .softBreak, .code "b".toList, .hardBreak] := by decide
  obtain rfl := Option.some.inj (hknown.symm.trans hfirst)
  simp only [Unbroken, unbrokenFrom_cons]
  exact ⟨by decide, by decide, by decide, by decide, unbrokenFrom_nil _⟩

/-- The title of a heading over two lines makes one word of the last and the first of them. -/
theorem title_words_lost :
    let top : Tag := .heading 1 .empty
    let inside : List Event := [.text "Multi".toList, .softBreak, .text "line".toList]
    let events : List Event := .start top :: inside ++ [.stop top]
    tops events = [inside] ∧ recordHeading events = (events, some "Multiline".toList) ∧
      Text.words "Multiline" ≠ Text.words (inside.flatMap Event.shown) := by
  decide

end Markdown

end Swatchbook
