import Swatchbook.Markdown.Content

/-!
# Headings

A heading is one line behind number signs, or a paragraph above a line of
equals signs or hyphens. Attributes in braces at its end are no part of its
content.
-/

namespace Swatchbook.Markdown.Heading

def isAttributeChar (c : Char) : Bool := !"\x7b\x7d<>\\\n\r".toList.contains c

def isAttributeGap (c : Char) : Bool := c == ' ' || c == '\t' || c == '\x0c'

/-- Attributes of a single byte mean nothing. -/
def readAttributes (t : Text) : Attributes :=
  ((Text.splitBy isAttributeGap t).filter fun a => 1 < Text.byteSize a).foldl (fun found a =>
    match a with
    | '#' :: id => { found with id := some id }
    | '.' :: name => { found with classes := found.classes ++ [name] }
    | a =>
      let entry := match Text.cut? "=" a with
        | some (key, value) => (key, some value)
        | none => (a, none)
      { found with others := found.others ++ [entry] }) .empty

/-- The attributes at the end of the content between two places, and where
they begin. -/
def attributes? (s : Source) (start stop : Nat) : Option (Nat × Attributes) :=
  let close := stop - s.countBack (fun c => isSpace c || c == '\n' || c == '\r') start stop
  if start < close && s.isAt '\x7d' (close - 1) then
    let inner := close - 1 - s.countBack isAttributeChar start (close - 1)
    if start < inner && s.isAt '\x7b' (inner - 1) then
      some (inner - 1, readAttributes (s.slice inner (close - 1)))
    else none
  else none

/-- Lets the last token end at a place. The tokens are held backwards. -/
def endAt (stop : Nat) : List Node → List Node
  | last :: before => last.withStop stop :: before
  | [] => []

/-- Where the content between two places ends if the marks that may close a
heading are taken away. -/
def contentEnd (s : Source) (start stop : Nat) : Nat :=
  let limit := stop - s.countBack (fun c => c == ' ' || c == '\n' || c == '\r') start stop
  let closer := limit - s.countBack (· == '#') start limit
  let spaces := s.countBack (· == ' ') start closer
  if closer == start then start else if 0 < spaces then closer - spaces else limit

def marked (c : Content.Context) (level start : Nat) : Node × Nat :=
  let s := c.source
  match s.lineEnd? (start + level) with
  | some behind => (.block start behind (.heading level .empty) [], behind)
  | none =>
    let inner := s.skipGaps (start + level)
    let behind := s.behindFeed inner
    let (stop, attributes) := (attributes? s inner behind).getD (behind, .empty)
    let (tokens, _, _) := Content.read c .plain inner stop
    let tokens := endAt (contentEnd s inner stop) tokens
    (.block start behind (.heading level attributes) tokens.reverse, behind)

/-- The tokens that begin before a place, the last of them ending there. A
backslash before the place is text. -/
def truncate (s : Source) (stop : Nat) : List Node → List Node
  | [] => []
  | node :: rest =>
    if node.stop < stop then node :: truncate s stop rest
    else if node.stop == stop then [node]
    else if node.start == stop then
      match node with
      | .token _ _ .text =>
        if 0 < stop && s.isAt '\\' (stop - 1) then [.token (stop - 1) stop .text] else []
      | _ => []
    else [node.withStop stop]

/-- The tokens and attributes of a heading that was read as a paragraph.
`whole` tells that blanks at its end are part of it. -/
def ofParagraph (s : Source) (start : Nat) (whole : Bool) (tokens : List Node) : List Node × Attributes :=
  match tokens with
  | [] => ([], .empty)
  | last :: _ =>
    let found := attributes? s start last.stop
    let stop := (found.map Prod.fst).getD last.stop
    let stop := if whole then stop else stop - s.countBack isGap start stop
    match found with
    | some (_, attributes) => (endAt stop (truncate s stop tokens.reverse).reverse, attributes)
    | none => (endAt stop tokens, .empty)

end Swatchbook.Markdown.Heading
