import Swatchbook.Fault

/-!
# Notes

What a run tells while it works. A step that can fail and take notes is a
`Report`; its notes are kept when it fails.
-/

namespace Swatchbook

inductive Level
  | debug
  | info
  | warn
  deriving DecidableEq

def Level.name : Level → Text
  | .debug => "debug"
  | .info => "info"
  | .warn => "warn"

inductive Speaker
  | page
  | styleguide
  | renderer
  | program
  deriving DecidableEq

def Speaker.name : Speaker → Text
  | .page => "sassdown::page"
  | .styleguide => "sassdown::styleguide"
  | .renderer => "sassdown::render"
  | .program => "sassdown"

structure Note where
  level : Level
  speaker : Speaker
  text : Text
  deriving DecidableEq

/-- The line of a note: its level in five columns and its speaker in brackets. -/
def Note.line (note : Note) : Text :=
  let level : Text :=
    match note.level with
    | .debug => "DEBUG"
    | .info => "INFO "
    | .warn => "WARN "
  "[" ++ level ++ " " ++ note.speaker.name ++ "] " ++ note.text

abbrev Report := ExceptT Fault (StateM (List Note))

namespace Report

def note (level : Level) (speaker : Speaker) (text : Text) : Report Unit :=
  fun notes => (.ok (), notes ++ [⟨level, speaker, text⟩])

def ofExcept {α : Type} (result : Except Fault α) : Report α := fun notes => (result, notes)

/-- The result and the notes of a step that starts with none. -/
def outcome {α : Type} (step : Report α) : Except Fault α × List Note := step []

end Report

end Swatchbook
