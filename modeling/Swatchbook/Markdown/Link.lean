import Swatchbook.Markdown.Entity
import Swatchbook.Text.Case

/-!
# Links

Addresses, titles and labels of links. Labels are compared without regard to
case and to the amount of blanks in them. Each reader begins at a place and
gives the place behind what it reads. In a cell of a table a bar is written
behind a backslash, which is no part of the text.
-/

namespace Swatchbook.Markdown

structure Target where
  address : Text
  title : Text
  deriving DecidableEq

/-- What labels in a document refer to. All labels are folded. -/
structure References where
  targets : List (Text × Target)
  footnotes : List Text

namespace Link

def unescapeFrom (inTable : Bool) : Nat → Text → Text
  | 0, t => t
  | _, [] => []
  | fuel + 1, '\\' :: t =>
    match inTable, t with
    | true, '\\' :: '|' :: rest => '|' :: unescapeFrom inTable fuel rest
    | _, c :: rest =>
      if isAsciiPunctuation c then c :: unescapeFrom inTable fuel rest
      else '\\' :: unescapeFrom inTable fuel t
    | _, [] => ['\\']
  | fuel + 1, '&' :: t =>
    match Entity.read? t with
    | some (value, rest) => value ++ unescapeFrom inTable fuel rest
    | none => '&' :: unescapeFrom inTable fuel t
  | fuel + 1, '\r' :: t => unescapeFrom inTable fuel t
  | fuel + 1, c :: t => c :: unescapeFrom inTable fuel t

def unescape (inTable : Bool) (t : Text) : Text := unescapeFrom inTable (t.length + 1) t

/-- Whether a backslash at `i` takes away the meaning of the next character. -/
def escapes (s : Source) (i : Nat) : Bool := s.isAt '\\' i && (s.at? (i + 1)).any isAsciiPunctuation

def pointedEnd? (s : Source) : Nat → Nat → Option Nat
  | 0, _ => none
  | fuel + 1, i =>
    if escapes s i then pointedEnd? s fuel (i + 2)
    else
      match s.at? i with
      | none | some '\n' | some '\r' | some '<' => none
      | some '>' => some i
      | some _ => pointedEnd? s fuel (i + 1)

/-- An address without brackets ends at a blank or at a parenthesis that it does not open. -/
def bareEnd? (s : Source) (most : Nat) : Nat → Nat → Nat → Option Nat
  | 0, _, _ => none
  | fuel + 1, nest, i =>
    let closed := if nest == 0 then some i else none
    if escapes s i then bareEnd? s most fuel nest (i + 2)
    else
      match s.at? i with
      | none => closed
      | some '(' => if most < nest then none else bareEnd? s most fuel (nest + 1) (i + 1)
      | some ')' => if nest == 0 then some i else bareEnd? s most fuel (nest - 1) (i + 1)
      | some c => if c.toNat ≤ 32 then closed else bareEnd? s most fuel nest (i + 1)

/-- An address as written, in which parentheses are nested at most `most`
levels below the first. -/
def address? (s : Source) (most i : Nat) : Option (Text × Nat) :=
  let fuel := s.stop - i + 1
  if s.isAt '<' i then
    (pointedEnd? s fuel (i + 1)).map fun stop => (s.slice (i + 1) stop, stop + 1)
  else (bareEnd? s most fuel 0 i).map fun stop => (s.slice i stop, stop)

def closingMark? : Char → Option Char
  | '\x22' => some '\x22'
  | '\x27' => some '\x27'
  | '(' => some ')'
  | _ => none

/-- What the construct at a place inside a title, which begins with `c`, adds
to it, and the place behind the construct. `lines` tells where the content
behind a line end begins. -/
def titlePart (s : Source) (inTable : Bool) (lines : Nat → Option Nat) (c : Char) (i : Nat) : Text × Nat :=
  if c == '\n' || c == '\r' then
    match lines i with
    | some next => (['\n'], next)
    | none => ([c], i + 1)
  else if c == '&' then (Entity.at? s i).getD ([c], i + 1)
  else if inTable && s.atText "\\\\|" i then (['|'], i + 3)
  else if escapes s i then ((s.at? (i + 1)).toList, i + 2)
  else ([c], i + 1)

def titleFrom (s : Source) (inTable : Bool) (lines : Nat → Option Nat) (opening closing : Char) :
    Nat → Text → Nat → Option (Text × Nat)
  | 0, _, _ => none
  | fuel + 1, done, i =>
    match s.at? i with
    | none => none
    | some c =>
      if c == closing then some (done.reverse, i + 1)
      else if c == opening then none
      else
        let (part, next) := titlePart s inTable lines c i
        titleFrom s inTable lines opening closing fuel (part.reverse ++ done) next

def title? (s : Source) (inTable : Bool) (lines : Nat → Option Nat) (i : Nat) : Option (Text × Nat) :=
  (s.at? i).bind fun c => (closingMark? c).bind fun closing =>
    titleFrom s inTable lines c closing (s.stop - i + 1) [] (i + 1)

def labelLimit : Nat := 1000

/-- What a character adds to the length of a label: the letters of ASCII nothing. -/
def weight (c : Char) : Nat := if c.toNat < 128 then 0 else c.utf8Size

/-- Skips the blanks of a label, with at most one line end among them. -/
def labelGap? (s : Source) (lines : Nat → Option Nat) (ended : Bool) : Nat → Nat → Option Nat
  | 0, _ => none
  | fuel + 1, i =>
    let i := s.skipGaps i
    match s.at? i with
    | some '\n' | some '\r' =>
      if ended then none
      else (s.lineEnd? i).bind fun behind =>
        (lines behind).bind fun next => labelGap? s lines true fuel next
    | _ => some i

/-- What the construct at a place inside a label, which begins with `c`, adds to
its text and to its length, and the place behind the construct. -/
def labelPart? (s : Source) (inTable : Bool) (lines : Nat → Option Nat) (c : Char) (i : Nat) :
    Option (Text × Nat × Nat) :=
  if c == '\\' then
    if inTable && s.isAt '|' (i + 1) then some (['|'], 0, i + 2)
    else if inTable && s.atText "\\\\|" i then some (['\\', '|'], 2, i + 3)
    else (s.at? (i + 1)).map fun d => ([c, d], 2 + (weight d - 1), i + 2)
  else if isWide c then
    (labelGap? s lines false (s.stop - i + 1) i).map fun next => ([' '], next - i, next)
  else some ([c], weight c, i + 1)

def labelFrom (s : Source) (inTable : Bool) (lines : Nat → Option Nat) :
    Nat → Nat → Text → Nat → Option (Text × Nat)
  | 0, _, _, _ => none
  | fuel + 1, size, done, i =>
    match s.at? i with
    | none => none
    | some c =>
      if labelLimit ≤ size || c == '[' then none
      else if c == ']' then
        let label := Text.dropWhileEnd isWide (done.reverse.dropWhile isWide)
        if label.isEmpty then none else some (label, i + 1)
      else
        match labelPart? s inTable lines c i with
        | some (part, more, next) => labelFrom s inTable lines fuel (size + more) (part.reverse ++ done) next
        | none => none

/-- A label behind its opening bracket. `lines` tells where the content of the
line that begins at a place begins, if the label may go on there. -/
def label? (s : Source) (inTable : Bool) (lines : Nat → Option Nat) (i : Nat) : Option (Text × Nat) :=
  labelFrom s inTable lines (s.stop - i + 1) 0 [] i

def lineLabel? (s : Source) (inTable : Bool) (i : Nat) : Option (Text × Nat) :=
  label? s inTable (fun _ => none) i

def foldLabel (label : Text) : Text := Text.Case.fold label

def separator (s : Source) (lines : Nat → Nat) (i : Nat) : Nat :=
  let i := s.skipGaps i
  match s.at? i, s.lineEnd? i with
  | some _, some behind => s.skipGaps (lines behind)
  | _, _ => i

def nestLimit : Nat := 5

/-- The part of a link behind its brackets: an address and perhaps a title
between parentheses. `lines` skips what belongs to the containers, and
`content` gives the content of the line behind a line end. -/
def inline? (s : Source) (inTable : Bool) (lines : Nat → Nat) (content : Nat → Option Nat) (i : Nat) :
    Option (Target × Nat) := do
  if !s.isAt '(' i then none
  let i := separator s lines (i + 1)
  let (address, i) ← address? s nestLimit i
  let i := separator s lines i
  let (title, i) := match title? s inTable content i with
    | some (title, i) => (title, separator s lines i)
    | none => ([], i)
  if s.isAt ')' i then some (⟨unescape inTable address, title⟩, i + 1) else none

end Link

end Swatchbook.Markdown
