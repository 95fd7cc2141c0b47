import Swatchbook.Session
import Swatchbook.Proofs.Ending
import Swatchbook.Proofs.Report

/-!
# What courses ask

An errand that is served comes to what its parts come to, one after the other.
What a course may ask next is known without a file system, from what it was
told so far: a rule for its requests holds of it whatever the replies are. So
what the serving of each allowed request preserves, the whole course does.
-/

namespace Swatchbook

namespace Course

variable {α β σ : Type} {serve : (request : Request) → StateM σ request.Reply}

theorem run_bind (course : Course α) (next : α → Course β) (state : σ) :
    (course >>= next).run serve state =
      (next (course.run serve state).1).run serve (course.run serve state).2 := by
  induction course generalizing state with
  | done result => rfl
  | ask request further ih => exact ih _ _

-- ---------------------------------------------------------------------------
-- Rules for requests
-- ---------------------------------------------------------------------------

def Asks (rule : Request → Prop) : Course α → Prop
  | done _ => True
  | ask request next => rule request ∧ ∀ reply, Asks rule (next reply)

variable {rule rule' : Request → Prop} {course : Course α}

theorem Asks.mono (h : course.Asks rule) (hrule : ∀ request, rule request → rule' request) :
    course.Asks rule' := by
  induction course with
  | done result => trivial
  | ask request next ih => exact ⟨hrule request h.1, fun reply => ih reply (h.2 reply)⟩

theorem Asks.bind (h : course.Asks rule) {next : α → Course β}
    (hnext : ∀ result, (next result).Asks rule) : (course >>= next).Asks rule := by
  induction course with
  | done result => exact hnext result
  | ask request further ih => exact ⟨h.1, fun reply => ih reply (h.2 reply)⟩

theorem Asks.rel {R : σ → σ → Prop} (hrefl : ∀ a, R a a)
    (htrans : ∀ {a b c}, R a b → R b c → R a c)
    (hserve : ∀ request state, rule request → R state (serve request state).2)
    (h : course.Asks rule) (state : σ) : R state (course.run serve state).2 := by
  induction course generalizing state with
  | done result => exact hrefl state
  | ask request next ih => exact htrans (hserve request state h.1) (ih _ (h.2 _) _)

end Course

-- ---------------------------------------------------------------------------
-- Ancestors
-- ---------------------------------------------------------------------------

/-- A proper ancestor: it has the first parts of the path, and not all of them. -/
def Path.IsAncestor (folder p : Path) : Prop := folder.parts <+: p.parts ∧ folder.parts ≠ p.parts

theorem Path.parts_of_parent? {p parent : Path} (h : p.parent? = some parent) :
    ∃ last, p.parts = parent.parts ++ [last] := by
  cases hlast : p.parts.getLast? with
  | none =>
    rw [parent?, hlast] at h
    cases h
  | some last =>
    have hroot : last ≠ .root := by
      rintro rfl
      rw [parent?, hlast] at h
      cases h
    obtain ⟨init, hinit⟩ := List.getLast?_eq_some_iff.mp hlast
    obtain ⟨other, hother, hparts⟩ := parts_parent? hinit hroot
    obtain rfl : other = parent := Option.some.inj (hother.symm.trans h)
    exact ⟨last, by rw [hparts, hinit]⟩

theorem Path.isAncestor_of_parent? {p parent folder : Path} (h : p.parent? = some parent)
    (hfolder : folder.parts <+: parent.parts) : folder.IsAncestor p := by
  obtain ⟨last, hlast⟩ := parts_of_parent? h
  rw [IsAncestor, hlast]
  refine ⟨hfolder.trans (List.prefix_append _ _), fun heq => ?_⟩
  have hlen := hfolder.length_le
  rw [heq, List.length_append, List.length_singleton] at hlen
  omega

namespace Errand

variable {ε α β σ : Type} {serve : (request : Request) → StateM σ request.Reply}

theorem via_request (request : Request) (state : σ) :
    via serve (Errand.request request : ExceptT ε Course request.Reply) state =
      (.ok (serve request state).1, (serve request state).2) := rfl

theorem via_bind (errand : ExceptT ε Course α) (next : α → ExceptT ε Course β) :
    via serve (errand >>= next) = via serve errand >>= fun a => via serve (next a) := by
  funext state
  refine (Course.run_bind errand.run _ state).trans ?_
  cases h : errand.run.run serve state with
  | mk result after =>
    have hstep : via serve errand state = (result, after) := h
    cases result with
    | error e => exact (Step.bind_of_error hstep).symm
    | ok a =>
      rw [Step.bind_of_ok hstep]
      rfl

theorem via_under (errand : Errand α) (above : Fault) (state : σ) :
    via serve (errand.under above) state =
      (Except.under (via serve errand state).1 above, (via serve errand state).2) :=
  Course.run_bind errand.run _ state

theorem via_under_eq_ok {errand : Errand α} {above : Fault} {a : α} {before after : σ}
    (h : via serve (errand.under above) before = (.ok a, after)) :
    via serve errand before = (.ok a, after) := by
  rw [via_under] at h
  cases hvia : via serve errand before with
  | mk result later =>
    rw [hvia] at h
    cases result with
    | error e => cases h
    | ok b =>
      cases h
      rfl

-- ---------------------------------------------------------------------------
-- Making folders
-- ---------------------------------------------------------------------------

variable {rule : Request → Prop}

theorem asks_bind {errand : ExceptT ε Course α} {next : α → ExceptT ε Course β}
    (h : errand.run.Asks rule) (hnext : ∀ result, (next result).run.Asks rule) :
    (errand >>= next).run.Asks rule := by
  refine Course.Asks.bind h fun result => ?_
  cases result with
  | error e => trivial
  | ok a => exact hnext a

theorem asks_lift {course : Course α} (h : course.Asks rule) :
    (liftM course : ExceptT ε Course α).run.Asks rule := Course.Asks.bind h fun _ => trivial

def Clears (folders : Path → Prop) : Request → Prop
  | .makeFolder folder => folders folder
  | .isFolder _ => True
  | _ => False

theorem Clears.mono {folders folders' : Path → Prop} {request : Request}
    (h : Clears folders request) (hfolders : ∀ folder, folders folder → folders' folder) :
    Clears folders' request := by
  cases request with
  | makeFolder folder => exact hfolders folder h
  | isFolder folder => trivial
  | _ => exact h.elim

theorem asks_isFolder {folders : Path → Prop} (p : Path) (trouble : Trouble) :
    (do if ← request (.isFolder p) then return else throw trouble :
      ExceptT Trouble Course Unit).run.Asks (Clears folders) :=
  ⟨trivial, fun reply => by cases reply <;> trivial⟩

theorem asks_makeFolders (fuel : Nat) (p : Path) :
    (makeFolders fuel p).run.Asks (Clears (·.parts <+: p.parts)) := by
  induction fuel generalizing p with
  | zero => trivial
  | succ fuel ih =>
    unfold makeFolders
    split
    · trivial
    · refine ⟨List.prefix_rfl, fun made => ?_⟩
      cases made with
      | ok done => trivial
      | error trouble =>
        cases trouble with
        | notFound =>
          dsimp only
          cases hparent : p.parent? with
          | none => trivial
          | some parent =>
            obtain ⟨last, hlast⟩ := Path.parts_of_parent? hparent
            have hup : parent.parts <+: p.parts := hlast ▸ List.prefix_append _ _
            refine asks_bind ((ih parent).mono fun _ h => h.mono fun _ h => h.trans hup) ?_
            refine fun _ => ⟨List.prefix_rfl, fun made => ?_⟩
            cases made with
            | ok done => trivial
            | error trouble => exact asks_isFolder p trouble
        | _ => exact asks_isFolder p _

theorem asks_makeWay (p : Path) : (makeWay p).run.Asks (Clears (·.IsAncestor p)) := by
  unfold makeWay
  cases hparent : p.parent? with
  | none => trivial
  | some parent =>
    refine asks_bind (asks_lift ((asks_makeFolders _ parent).mono ?_)) fun result => ?_
    · exact fun _ h => h.mono fun _ => Path.isAncestor_of_parent? hparent
    · cases result <;> trivial

end Errand

-- ---------------------------------------------------------------------------
-- Notes
-- ---------------------------------------------------------------------------

theorem Course.run_tell (notes : List Note) (v : Volume) :
    (Course.tell notes).run Volume.serve v = ((), v) := by
  induction notes with
  | nil => rfl
  | cons note notes ih => exact ih

namespace Errand

theorem via_report {α : Type} (step : Report α) (v : Volume) :
    via Volume.serve (report step) v = (step.outcome.1, v) := by
  rw [report, via_bind]
  refine Step.bind_of_ok (a := ()) ?_
  exact (Course.run_bind (Course.tell _) _ v).trans (by rw [Course.run_tell]; rfl)

end Errand

namespace Work

variable {α : Type} {errand : Errand α}

/-- The notes of a session decide nothing. -/
theorem doing_eq (errand : Errand α) (v : Volume) (notes : List Note) : ∃ later,
    doing errand ⟨v, notes⟩ = ((Errand.via Volume.serve errand v).1,
      ⟨(Errand.via Volume.serve errand v).2, later⟩) := by
  have hrun (course : Course (Except Fault α)) : ∃ later, course.run Session.serve ⟨v, notes⟩ =
      ((course.run Volume.serve v).1, ⟨(course.run Volume.serve v).2, later⟩) := by
    induction course generalizing v notes with
    | done result => exact ⟨notes, rfl⟩
    | ask request next ih => exact ih _ _ _
  exact hrun errand

theorem doing_eq_ok {a : α} {before after : Session} (h : doing errand before = (.ok a, after)) :
    Errand.via Volume.serve errand before.volume = (.ok a, after.volume) := by
  obtain ⟨later, hdoing⟩ := doing_eq errand before.volume before.notes
  cases hvia : Errand.via Volume.serve errand before.volume with
  | mk result w =>
    rw [hvia] at hdoing
    cases h.symm.trans hdoing
    rfl

theorem doing_of_error {fault : Fault} {v w : Volume}
    (h : Errand.via Volume.serve errand v = (.error fault, w)) (notes : List Note) :
    ∃ later, doing errand ⟨v, notes⟩ = (.error fault, ⟨w, later⟩) := by
  obtain ⟨later, hdoing⟩ := doing_eq errand v notes
  rw [h] at hdoing
  exact ⟨later, hdoing⟩

end Work

end Swatchbook
