import Swatchbook.Course

/-!
# Sessions

A volume at work, and what was noted meanwhile. Steps that only read take the
volume as an argument; what changes it is an errand that the session serves.
-/

namespace Swatchbook

structure Session where
  volume : Volume
  notes : List Note

def Session.serve (request : Request) : StateM Session request.Reply := fun session =>
  let (reply, volume) := Volume.serve request session.volume
  (reply, ⟨volume, session.notes ++ request.notes⟩)

/-- Work that can change the volume. What was changed and noted before a fault stays. -/
abbrev Work := ExceptT Fault (StateM Session)

namespace Work

def reading {α : Type} (step : Volume → Report α) : Work α := fun session =>
  let (result, notes) := step session.volume session.notes
  (result, { session with notes })

def doing {α : Type} (errand : Errand α) : Work α := Errand.via Session.serve errand

def note (level : Level) (speaker : Speaker) (text : Text) : Work Unit :=
  reading fun _ => Report.note level speaker text

end Work

end Swatchbook
