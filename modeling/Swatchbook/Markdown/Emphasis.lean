import Swatchbook.Markdown.Node

/-!
# Emphasis

Runs of stars, underscores and tildes pair up across the parts between them.
A closing run takes the nearest run that may open it; runs in between are
text. Tildes pair up only with as many tildes.
-/

namespace Swatchbook.Markdown

/-- An element of a text before emphasis is known. What belongs to a run
without being one of its marks goes where the last of them goes. -/
inductive Element
  | parts (ps : List Part)
  | run (mark : Char) (length : Nat) (opens closes : Bool) (tail : Text)

def Element.events (es : List Event) : Element := .parts (es.map Part.event)

def Element.text (t : Text) : Element := .events (if t.isEmpty then [] else [.text t])

namespace Emphasis

/-- An opening run with what follows it, backwards. `count` of its `length`
marks are still unmatched. -/
structure Open where
  mark : Char
  count : Nat
  length : Nat
  both : Bool
  tail : Text
  after : List Part

def marks (c : Char) (n : Nat) (tail : Text) : List Part :=
  if n == 0 then [] else [.event (.text (List.replicate n c ++ tail))]

/-- The runs that are open, the innermost first, and the parts before them, backwards. -/
structure Stack where
  openings : List Open
  base : List Part
  /-- How many of the outermost runs no tilde can match any more. -/
  tildeFloor : Nat

namespace Stack

def add (s : Stack) (parts : List Part) : Stack :=
  match s.openings with
  | [] => { s with base := parts ++ s.base }
  | o :: outer => { s with openings := { o with after := parts ++ o.after } :: outer }

def flatten (runs : List Open) : List Part :=
  runs.flatMap fun o => o.after ++ marks o.mark o.count o.tail

def matchesRun (mark : Char) (length : Nat) (both : Bool) (o : Open) : Bool :=
  o.mark == mark && (mark != '~' || length == o.length) &&
    ((!both && !o.both) || (length + o.length) % 3 != 0 || length % 3 == 0)

/-- Splits the open runs at the innermost one that a closing run can match. -/
def find? (s : Stack) (mark : Char) (length : Nat) (both : Bool) : Option (List Open × Open × List Open) :=
  go [] s.openings
where
  go (inner : List Open) : List Open → Option (List Open × Open × List Open)
    | [] => none
    | o :: outer =>
      if mark == '~' && outer.length < s.tildeFloor then none
      else if matchesRun mark length both o then some (inner.reverse, o, outer)
      else go (o :: inner) outer

/-- Puts elements around parts that are given backwards, two marks at a time
from the inside. -/
def wrap (mark : Char) : Nat → List Part → List Part
  | 0, inside => inside
  | 1, inside =>
    let tag := if mark == '~' then Tag.strike else .emphasis
    .event (.stop tag) :: inside ++ [.event (.start tag)]
  | n + 2, inside =>
    let tag := if mark == '~' then Tag.strike else .strong
    wrap mark n (.event (.stop tag) :: inside ++ [.event (.start tag)])

/-- Matches as many of `count` closing marks as it can; gives the number left. -/
def close (mark : Char) (length : Nat) (both : Bool) : Nat → Stack → Nat → Nat × Stack
  | 0, s, count => (count, s)
  | fuel + 1, s, count =>
    if count == 0 then (0, s)
    else
      match s.find? mark length both with
      | none =>
        (count, if mark == '~' then { s with tildeFloor := s.openings.length } else s)
      | some (inner, o, outer) =>
        let matched := min count o.count
        let inside := wrap mark matched (flatten inner ++ o.after)
        let s := { s with openings := outer, tildeFloor := min s.tildeFloor outer.length }
        let s := if matched < o.count then
            { s with openings := { o with count := o.count - matched, after := inside } :: outer }
          else s.add inside
        close mark length both fuel s (count - matched)

def element (s : Stack) : Element → Stack
  | .parts ps => s.add ps.reverse
  | .run mark length opens closes tail =>
    let both := opens && closes
    let (count, s) := if closes then close mark length both (length + 1) s length else (length, s)
    if count == 0 then s
    else if opens then { s with openings := ⟨mark, count, length, both, tail, []⟩ :: s.openings }
    else s.add (marks mark count tail)

end Stack

def resolve (elements : List Element) : List Part :=
  let s := elements.foldl Stack.element ⟨[], [], 0⟩
  (Stack.flatten s.openings ++ s.base).reverse

end Emphasis

end Swatchbook.Markdown
