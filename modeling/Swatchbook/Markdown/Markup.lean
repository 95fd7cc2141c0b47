import Swatchbook.Markdown.Source
import Swatchbook.Text.Case

/-!
# Raw markup

Tags, comments, instructions, declarations and autolinks between angle
brackets. Each reader begins behind the opening bracket and gives the place
behind the construct.
-/

namespace Swatchbook.Markdown.Markup

def isNameChar (c : Char) : Bool := c.isAlphanum || c == '-'

def isAttributeStart (c : Char) : Bool := c.isAlpha || c == '_' || c == ':'

def isAttributeChar (c : Char) : Bool := isAttributeStart c || c.isDigit || c == '.' || c == '-'

def isUnquoted (c : Char) : Bool := !"\x22\x27 =<>\x60\n\r".toList.contains c

/-- A place inside a tag, and the parts before it that belong to the
containers around the tag, backwards. -/
structure Cursor where
  place : Nat
  cuts : List (Nat × Nat)

/-- Where the content of a line begins, if a tag may go over several lines. -/
abbrev Lines := Option (Nat → Nat)

namespace Cursor

def ofPlace (i : Nat) : Cursor := ⟨i, []⟩

/-- Moves to a line end and on to the content of the next line. -/
def newline? (lines : Lines) (c : Cursor) (behind : Nat) : Option Cursor :=
  lines.map fun content =>
    let next := content behind
    if behind < next then ⟨next, (behind, next) :: c.cuts⟩ else { c with place := behind }

def skip? (s : Source) (lines : Lines) : Nat → Cursor → Option Cursor
  | 0, c => some c
  | fuel + 1, c =>
    let i := s.skipGaps c.place
    match s.at? i with
    | some '\n' | some '\r' =>
      match s.lineEnd? i with
      | some behind => (c.newline? lines behind).bind (skip? s lines fuel)
      | none => none
    | _ => some { c with place := i }

def text (s : Source) (c : Cursor) (start : Nat) : Text :=
  let (t, last) := c.cuts.reverse.foldl (fun (t, last) (a, b) => (t ++ s.slice last a, b)) ([], start)
  t ++ s.slice last c.place

end Cursor

def quoted? (s : Source) (lines : Lines) (mark : Char) : Nat → Cursor → Option Cursor
  | 0, _ => none
  | fuel + 1, c =>
    let i := s.skip (fun d => d != mark && d != '\n' && d != '\r') c.place
    match s.at? i with
    | none => none
    | some d =>
      if d == mark then some { c with place := i + 1 }
      else
        match s.lineEnd? i with
        | some behind => (c.newline? lines behind).bind (quoted? s lines mark fuel)
        | none => none

def value? (s : Source) (lines : Lines) (fuel : Nat) (c : Cursor) : Option Cursor :=
  match s.at? c.place with
  | none => none
  | some d =>
    if d == '\x22' || d == '\x27' then quoted? s lines d fuel { c with place := c.place + 1 }
    else
      let stop := s.skip isUnquoted c.place
      if stop == c.place then none else some { c with place := stop }

/-- A name and, if an equals sign follows it, a value. -/
def attribute? (s : Source) (lines : Lines) (fuel : Nat) (c : Cursor) : Option Cursor :=
  if (s.at? c.place).any isAttributeStart then
    let named := { c with place := s.skip isAttributeChar c.place }
    match named.skip? s lines fuel with
    | none => none
    | some after =>
      if s.isAt '=' after.place then
        (Cursor.skip? s lines fuel { after with place := after.place + 1 }).bind (value? s lines fuel)
      else some named
  else none

def attributes? (s : Source) (lines : Lines) : Nat → Cursor → Option Cursor
  | 0, _ => none
  | fuel + 1, c =>
    match c.skip? s lines fuel with
    | none => none
    | some after =>
      match s.at? after.place with
      | none => none
      | some '/' | some '>' => some after
      | some _ =>
        if after.place == c.place then none
        else (attribute? s lines fuel after).bind (attributes? s lines fuel)

def tag? (s : Source) (lines : Lines) (i : Nat) : Option Cursor :=
  let closing := s.isAt '/' i
  let name := if closing then i + 1 else i
  if (s.at? name).any Char.isAlpha then
    let start := Cursor.ofPlace (s.skip isNameChar name)
    let fuel := s.stop - i + 1
    (if closing then some start else attributes? s lines fuel start).bind fun c =>
      let i := s.skipGaps c.place
      let i := if !closing && s.isAt '/' i then i + 1 else i
      if s.isAt '>' i then some { c with place := i + 1 } else none
  else none

def behind? (s : Source) (mark : Text) (i : Nat) : Option Nat := (s.find? mark i).map (· + mark.length)

/-- A comment, a section of character data or a declaration, behind the
exclamation mark. A section ends at the first bracket that closes, or not at all. -/
def bang? (s : Source) (i : Nat) : Option Nat :=
  if s.atText "--" i then behind? s "-->" i
  else if s.atText "[CDATA[" i then
    let first := s.skip (· != ']') (i + 7)
    let after := s.skip (· == ']') first
    if first < after && s.isAt '>' after then some (after + 1) else none
  else if (s.at? i).any Char.isAlpha then behind? s ">" (i + 1)
  else none

def inline? (s : Source) (lines : Lines) (i : Nat) : Option Cursor :=
  match s.at? i with
  | some '!' => (bang? s (i + 1)).map .ofPlace
  | some '?' => (behind? s "?>" (i + 1)).map .ofPlace
  | _ => tag? s lines i

/-! Autolinks. -/

def isSchemeChar (c : Char) : Bool := c.isAlphanum || c == '.' || c == '-' || c == '+'

def address? (s : Source) (i : Nat) : Option Nat :=
  let colon := s.skip isSchemeChar i
  if (s.at? i).any Char.isAlpha && s.isAt ':' colon && 2 ≤ colon - i && colon - i ≤ 32 then
    let stop := s.skip (fun c => 32 < c.toNat && c != '<' && c != '>') (colon + 1)
    if s.isAt '>' stop then some stop else none
  else none

def isMailChar (c : Char) : Bool := c.isAlphanum || ".!#$%&\x27*+/=?^_\x60\x7b|\x7d~-".toList.contains c

def isHostLabel (label : Text) : Bool :=
  label != [] && label.length ≤ 63 && label.head? != some '-' && label.getLast? != some '-'

def mail? (s : Source) (i : Nat) : Option Nat :=
  let user := s.skip isMailChar i
  let stop := s.skip (fun c => isNameChar c || c == '.') (user + 1)
  if i < user && s.isAt '@' user && s.isAt '>' stop &&
      (Text.splitBy (· == '.') (s.slice (user + 1) stop)).all isHostLabel then some stop
  else none

/-! Blocks of markup. -/

/-- The tags whose blocks last to a line that holds the closing tag. -/
def rawTags : List Text := ["pre", "style", "script", "textarea"]

/-- The text that ends a block, if it is one that a blank line does not end. -/
def endMark? (s : Source) (i : Nat) : Option Text :=
  let raw := rawTags.find? fun name =>
    Text.Case.eqAscii (s.slice i (i + name.length)) name &&
      ((s.at? (i + name.length)).all fun c => isWide c || c == '>')
  match raw with
  | some name => some ("</" ++ name ++ ">")
  | none =>
    if s.atText "!--" i then some "-->"
    else if s.isAt '?' i then some "?>"
    else if s.atText "![CDATA[" i then some "]]>"
    else if s.isAt '!' i && (s.at? (i + 1)).any Char.isAlpha then some ">"
    else none

/-- The tags that begin a block wherever they stand at the beginning of a line. -/
def blockTags : List Text :=
  Text.splitBy Text.isBlank
    "address article aside base basefont blockquote body caption center col colgroup dd details
dialog dir div dl dt fieldset figcaption figure footer form frame frameset h1 h2 h3 h4 h5 h6 head
header hr html iframe legend li link main menu menuitem nav noframes ol optgroup option p param
search section summary table tbody td tfoot th thead title tr track ul"

def startsBlock (s : Source) (i : Nat) : Bool :=
  let i := if s.isAt '/' i then i + 1 else i
  let stop := s.skip Char.isAlphanum i
  ((s.at? stop).all (fun c => isSpace c || c == '\n' || c == '\r' || c == '>') || s.atText "/>" stop) &&
    blockTags.contains ((s.slice i stop).map Char.toLower)

/-- A line that holds one tag and nothing else. -/
def isLoneTag (s : Source) (i : Nat) : Bool :=
  match tag? s none i with
  | some c => s.isBlankLine c.place
  | none => false

end Swatchbook.Markdown.Markup
