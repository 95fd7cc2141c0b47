import Swatchbook.Comment.Delimiters

/-!
# Normal comments

The markdown that a raw annotation block stands for. Delimiters, the leading
star and the margin of continuation lines are taken away. A block without a
fence that has a line indented by four columns gets one: it begins at that
line and lasts to the end. Inside a written fence lines lose only the indent
of the line that opens it.
-/

namespace Swatchbook.Comment

def fence : Text := ['\x60', '\x60', '\x60']

def indent : Text := [' ', ' ', ' ', ' ']

def isSpace (c : Char) : Bool := c == ' '

def isFence (body : Text) : Bool := fence.isPrefixOf (Text.trimStart body)

def holdsFence (line : Text) : Bool := Text.holds fence line

/-- A continuation line without its star, if it has one. -/
def unmark? (line : Text) : Option Text :=
  match Text.after? [' ', '*', ' '] line with
  | some rest => some rest
  | none => Text.after? [' ', '*'] line

/-- Three spaces behind a star, and not a fourth, count as four columns. -/
def widen (rest : Text) : Text :=
  match Text.after? [' ', ' ', ' '] rest with
  | some code => if code.head? == some ' ' then rest else indent ++ code
  | none => rest

/-- A prose line without its margin. -/
def collapse (line : Text) : Text :=
  match unmark? line with
  | some rest => widen rest
  | none => if indent.isPrefixOf line then line else Text.dropLead [' '] line

def dropSpaces : Nat → Text → Text
  | n + 1, ' ' :: line => dropSpaces n line
  | _, line => line

def leadingSpaces (line : Text) : Nat := (line.takeWhile isSpace).length

/-- The lines after the first. `opened` is the indent of the fence that is
open, if one is. -/
def collapseRest : Option Nat → List Text → List Text
  | _, [] => []
  | opened, line :: rest =>
    let body := (unmark? line).getD line
    match opened with
    | some n => dropSpaces n body :: collapseRest (if isFence body then none else some n) rest
    | none =>
      if isFence body then
        body.dropWhile isSpace :: collapseRest (some (leadingSpaces body)) rest
      else collapse line :: collapseRest none rest

/-- The first line has no margin. -/
def collapseLines : List Text → List Text
  | [] => []
  | first :: rest =>
    if isFence first then
      first.dropWhile isSpace :: collapseRest (some (leadingSpaces first)) rest
    else first :: collapseRest none rest

def dedent (line : Text) : Text :=
  match Text.after? indent line with
  | some rest => rest
  | none => Text.dropLead [' '] line

/-- Puts the lines from the first indented one on between fences. -/
def inferFence : List Text → List Text
  | [] => []
  | line :: rest =>
    if indent.isPrefixOf line then fence :: (line :: rest).map dedent ++ [fence]
    else line :: inferFence rest

def fenced (lines : List Text) : List Text :=
  if lines.any holdsFence then lines else inferFence lines

/-- The text between the delimiters, without one leading star and the blanks around it. -/
def body (stripped : Text) : Text :=
  (Text.dropLead ['*'] (Text.trim stripped)).dropWhile fun c => c == ' ' || c == '\t'

def ofStripped (stripped : Text) : Text :=
  (Text.unlines (fenced (collapseLines (Text.lines (body stripped))))).dropWhile (· == '\n')

def normalize (d : Delimiters) (raw : Text) : Text := ofStripped (d.strip raw)

end Swatchbook.Comment
