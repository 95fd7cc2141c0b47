import Swatchbook.Markdown.Line

/-!
# Definitions

A definition gives a label the address and the title that references to it
have. It stands at the beginning of a paragraph, may go over several lines of
it, and ends where a line ends.
-/

namespace Swatchbook.Markdown.Definition

def content? (s : Source) (spine : Spine) (i : Nat) : Option Nat :=
  let (inside, m) := spine.enter s i
  let (indented, m) := m.exactly s 4
  if !indented && (interrupts s spine inside m.place || (inside && (underline? s m.place).isSome)) then none
  else some m.place

/-- Blanks with at most one line end among them, which is counted. -/
def gap? (s : Source) (spine : Spine) (feeds : Nat) : Nat → Nat → Option (Nat × Nat)
  | 0, _ => none
  | fuel + 1, i =>
    let i := s.skipGaps i
    match s.lineEnd? i with
    | none => some (feeds, i)
    | some behind =>
      if feeds == 0 then (content? s spine behind).bind (gap? s spine 1 fuel) else none

/-- The place behind a title whose first mark stands at `i`. No blank line is
part of a title. -/
def titleEnd? (s : Source) (closing : Char) : Nat → Nat → Option Nat
  | 0, _ => none
  | fuel + 1, i =>
    match s.at? i with
    | none => none
    | some '\n' =>
      let next := s.skipGaps (i + 1)
      if s.isAt '\n' next then none else titleEnd? s closing fuel next
    | some '\\' => titleEnd? s closing fuel (i + 2)
    | some c => if c == closing then some (i + 1) else titleEnd? s closing fuel (i + 1)

def title? (s : Source) (i : Nat) : Option (Text × Nat) :=
  (s.at? i).bind fun c => (Link.closingMark? c).bind fun closing =>
    (titleEnd? s closing (s.stop - i + 1) (i + 1)).map fun stop =>
      (Link.unescape false (s.slice (i + 1) (stop - 1)), stop)

def nestLimit : Nat := 1

/-- The address and title of a definition, behind the colon. A title that is
not alone on the rest of its line is no part of the definition, and then has
to begin a line. -/
def target? (s : Source) (spine : Spine) (i : Nat) : Option (Target × Nat) := do
  let (_, start) ← gap? s spine 0 3 i
  let (address, stop) ← Link.address? s nestLimit start
  if stop == start then none
  let plain : Target := ⟨Link.unescape false address, []⟩
  match gap? s spine 0 3 stop with
  | none => some (plain, stop)
  | some (feeds, next) =>
    let titled := (title? s next).filter fun (_, behind) => s.isBlankLine behind
    if next == stop then none
    else
      match titled with
      | some (title, behind) => some ({ plain with title }, behind)
      | none => if feeds == 0 then none else some (plain, stop)

def read? (s : Source) (spine : Spine) (i : Nat) : Option (Text × Target × Nat) :=
  if s.isAt '[' i then
    (Link.label? s false (content? s spine) (i + 1)).bind fun (label, behind) =>
      if s.isAt ':' behind then
        (target? s spine (behind + 1)).map fun (target, stop) => (label, target, stop)
      else none
  else none

end Swatchbook.Markdown.Definition
