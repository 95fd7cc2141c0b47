import Swatchbook.Markdown
import Swatchbook.Proofs.Text

/-!
# First headings

The heading that is recorded on the way through a document is the first one of
level one that says something, whatever else stands between, and the events go
on as they came.
-/

namespace Swatchbook.Markdown

-- ---------------------------------------------------------------------------
-- The headings of a document
-- ---------------------------------------------------------------------------

def Event.said : Event → Text
  | .text t | .code t => t
  | _ => []

def Event.opensTop : Event → Bool
  | .start (.heading 1 _) => true
  | _ => false

def Event.closesTop : Event → Bool
  | .stop (.heading 1 _) => true
  | _ => false

/-- What each heading of level one says, in their order: the text and code from its start to the
next end of one, without the blanks around it. -/
def headings : List Event → List Text
  | [] => []
  | e :: rest =>
    if e.opensTop then
      Text.trim ((rest.takeWhile fun e => !e.closesTop).flatMap Event.said) :: headings rest
    else headings rest

/-- Every heading of level one is ended before another one begins. Headings of other levels may
stand anywhere, and so may ends that nothing begins. -/
inductive Ended : List Event → Prop
  | nil : Ended []
  | other {e : Event} {rest : List Event} (he : e.opensTop = false) (h : Ended rest) :
    Ended (e :: rest)
  | heading {start stop : Event} {inside rest : List Event} (hstart : start.opensTop = true)
    (hinside : ∀ e ∈ inside, e.opensTop = false ∧ e.closesTop = false)
    (hstop : stop.closesTop = true) (h : Ended rest) : Ended (start :: inside ++ stop :: rest)

-- ---------------------------------------------------------------------------
-- One event
-- ---------------------------------------------------------------------------

section

variable {c : Capture} {e : Event} {events inside : List Event} {t : Text}

theorem opensTop_iff : e.opensTop = true ↔ ∃ attributes, e = .start (.heading 1 attributes) := by
  unfold Event.opensTop
  split
  · next attributes => exact iff_of_true rfl ⟨attributes, rfl⟩
  · next hother =>
    refine iff_of_false Bool.false_ne_true ?_
    rintro ⟨attributes, rfl⟩
    exact hother attributes rfl

theorem closesTop_iff : e.closesTop = true ↔ ∃ attributes, e = .stop (.heading 1 attributes) := by
  unfold Event.closesTop
  split
  · next attributes => exact iff_of_true rfl ⟨attributes, rfl⟩
  · next hother =>
    refine iff_of_false Bool.false_ne_true ?_
    rintro ⟨attributes, rfl⟩
    exact hother attributes rfl

theorem opensTop_of_closesTop (h : e.closesTop = true) : e.opensTop = false := by
  obtain ⟨attributes, rfl⟩ := closesTop_iff.mp h
  rfl

theorem step_inside (hopens : e.opensTop = false) (hcloses : e.closesTop = false) :
    c.step e = { c with pending := c.pending.map (· ++ e.said) } := by
  unfold Capture.step
  split
  · cases hopens
  · rfl
  · rfl
  · cases hcloses
  · next htext hcode _ =>
    have hsaid : e.said = [] := by
      unfold Event.said
      split
      · exact absurd rfl (htext _)
      · exact absurd rfl (hcode _)
      · rfl
    cases hpending : c.pending <;> simp [hsaid, ← hpending]

theorem step_titled (e : Event) : Capture.step ⟨some t, none⟩ e = ⟨some t, none⟩ := by
  unfold Capture.step
  split <;> rfl

theorem step_outside (h : e.opensTop = false) : Capture.step ⟨none, none⟩ e = ⟨none, none⟩ := by
  unfold Capture.step
  split
  · cases h
  all_goals rfl

theorem step_opens (h : e.opensTop = true) : Capture.step ⟨none, none⟩ e = ⟨none, some []⟩ := by
  obtain ⟨attributes, rfl⟩ := opensTop_iff.mp h
  rfl

theorem step_closes (h : e.closesTop = true) : Capture.step ⟨none, some t⟩ e =
    if Text.trim t = [] then ⟨none, none⟩ else ⟨some (Text.trim t), none⟩ := by
  obtain ⟨attributes, rfl⟩ := closesTop_iff.mp h
  simp only [Capture.step, List.isEmpty_iff]

-- ---------------------------------------------------------------------------
-- Runs of events
-- ---------------------------------------------------------------------------

theorem pass_eq (c : Capture) (events : List Event) :
    c.pass events = (events, events.foldl Capture.step c) := by
  induction events generalizing c with
  | nil => rfl
  | cons e rest ih => rw [Capture.pass, ih, List.foldl_cons]

theorem foldl_step_titled (events : List Event) :
    events.foldl Capture.step ⟨some t, none⟩ = ⟨some t, none⟩ := by
  induction events with
  | nil => rfl
  | cons e rest ih => rw [List.foldl_cons, step_titled, ih]

section

variable (h : ∀ e ∈ inside, e.opensTop = false ∧ e.closesTop = false)

include h

theorem foldl_step_inside (t : Text) : inside.foldl Capture.step ⟨none, some t⟩ =
    ⟨none, some (t ++ inside.flatMap Event.said)⟩ := by
  induction inside generalizing t with
  | nil => simp
  | cons e rest ih =>
    rw [List.forall_mem_cons] at h
    rw [List.foldl_cons, step_inside h.1.1 h.1.2, Option.map_some, ih h.2, List.append_assoc,
      List.flatMap_cons]

theorem headings_inside (rest : List Event) : headings (inside ++ rest) = headings rest := by
  induction inside with
  | nil => rfl
  | cons e inside ih =>
    rw [List.forall_mem_cons] at h
    rw [List.cons_append, headings, h.1.1, if_neg Bool.false_ne_true, ih h.2]

theorem headings_heading {start stop : Event} (hstart : start.opensTop = true)
    (hstop : stop.closesTop = true) (rest : List Event) :
    headings (start :: inside ++ stop :: rest) =
      Text.trim (inside.flatMap Event.said) :: headings rest := by
  have hinside : ∀ e ∈ inside, (!e.closesTop) = true := fun e hm => by rw [(h e hm).2]; rfl
  rw [List.cons_append, headings, if_pos hstart, List.takeWhile_append_of_pos hinside,
    List.takeWhile_cons_of_neg (by simp [hstop]), List.append_nil, headings_inside h, headings,
    opensTop_of_closesTop hstop, if_neg Bool.false_ne_true]

end

theorem title_of_ended (h : Ended events) :
    (events.foldl Capture.step ⟨none, none⟩).title = (headings events).find? (· ≠ []) := by
  induction h with
  | nil => rfl
  | other he _ ih =>
    rw [List.foldl_cons, step_outside he, ih, headings, he, if_neg Bool.false_ne_true]
  | @heading start stop inside rest hstart hinside hstop _ ih =>
    rw [headings_heading hinside hstart hstop, List.cons_append, List.foldl_cons,
      step_opens hstart, List.foldl_append, foldl_step_inside hinside, List.nil_append,
      List.foldl_cons, step_closes hstop]
    by_cases hempty : Text.trim (inside.flatMap Event.said) = []
    · rw [if_pos hempty, ih, List.find?_cons_of_neg (by simp [hempty])]
    · rw [if_neg hempty, foldl_step_titled, List.find?_cons_of_pos (by simp [hempty])]

/-- On its way through a document whose headings are ended the recorder changes nothing, and
what it has in the end is the first heading of level one that says something, if one does. -/
theorem recordHeading_of_ended (h : Ended events) :
    recordHeading events = (events, (headings events).find? (· ≠ [])) := by
  rw [recordHeading, pass_eq, ← title_of_ended h]

end

/-- Headings of another level, empty ones and text between headings do not count. -/
theorem recordHeading_of_ended_third :
    let top : Tag := .heading 1 .empty
    let sub : Tag := .heading 2 .empty
    let events : List Event := [.start sub, .text "x".toList, .stop sub, .start top,
      .text " ".toList, .stop top, .text "y".toList, .start top, .text " The ".toList,
      .code "b".toList, .softBreak, .stop top, .start top, .text "z".toList, .stop top]
    Ended events ∧ recordHeading events = (events, some "The b".toList) := by
  intro top sub events
  have hlast : Ended [.start top, .text "z".toList, .stop top] :=
    @Ended.heading _ _ [.text "z".toList] [] rfl (by decide) rfl .nil
  have htitle : Ended (.start top :: [.text " The ".toList, .code "b".toList, .softBreak] ++
      .stop top :: [.start top, .text "z".toList, .stop top]) :=
    .heading rfl (by decide) rfl hlast
  have hempty : Ended (.start top :: [.text " ".toList] ++ .stop top :: .text "y".toList :: _) :=
    .heading rfl (by decide) rfl (.other rfl htitle)
  have hended : Ended events := .other rfl (.other rfl (.other rfl hempty))
  refine ⟨hended, ?_⟩
  rw [recordHeading_of_ended hended]
  decide

end Swatchbook.Markdown
