import Swatchbook.Markdown.Event

/-!
# Events as HTML

Block elements begin on a line of their own: whether one has to be started is
known from the last character written. Footnotes are numbered in the order in
which their labels first come up.
-/

namespace Swatchbook.Markdown.Html

def escapeBody (t : Text) : Text :=
  t.flatMap fun c =>
    if c == '&' then "&amp;" else if c == '<' then "&lt;" else if c == '>' then "&gt;" else [c]

def escapeAttribute (t : Text) : Text :=
  t.flatMap fun c =>
    if c == '&' then "&amp;" else if c == '<' then "&lt;" else if c == '>' then "&gt;"
    else if c == '\x22' then "&quot;" else if c == '\x27' then "&#39;" else [c]

def isAddressChar (c : Char) : Bool := c.isAlphanum || "!#$%()*+,-./:;=?@^_~".toList.contains c

def hexDigit (n : Nat) : Char := "0123456789ABCDEF".toList.getD n '0'

def percent (byte : UInt8) : Text := ['%', hexDigit (byte.toNat / 16), hexDigit (byte.toNat % 16)]

def escapeAddress (t : Text) : Text :=
  t.flatMap fun c =>
    if isAddressChar c then [c]
    else if c == '&' then "&amp;"
    else if c == '\x27' then "&#x27;"
    else (Text.toBytes [c]).toList.flatMap percent

/-- What has been written, as pieces backwards, whether a line has just been
ended, the footnote labels met so far, and the columns, part and cell of the
table being written. -/
structure Page where
  pieces : List Text
  fresh : Bool
  labels : List Text
  columns : List Align
  inHead : Bool
  cell : Nat

def Page.empty : Page := ⟨[], true, [], [], false, 0⟩

namespace Page

def put (p : Page) (t : Text) : Page := { p with pieces := t :: p.pieces }

def write (p : Page) (t : Text) : Page :=
  { p with pieces := t :: p.pieces, fresh := if t.isEmpty then p.fresh else t.getLast? == some '\n' }

def block (p : Page) (t : Text) : Page := if p.fresh then p.write t else p.write ('\n' :: t)

def label (p : Page) (name : Text) : Nat × Page :=
  match p.labels.idxOf? name with
  | some i => (i + 1, p)
  | none => (p.labels.length + 1, { p with labels := p.labels ++ [name] })

def content (p : Page) : Text := p.pieces.reverse.flatten

end Page

def headingName (level : Nat) : Text := 'h' :: Text.ofNat level

def field (name value : Text) : Text := " " ++ name ++ "=\x22" ++ escapeAttribute value ++ "\x22"

def classes (names : List Text) : Text :=
  if names.isEmpty then []
  else " class=\x22" ++ Text.join " " (names.map escapeAttribute) ++ "\x22"

def attributes (a : Attributes) : Text :=
  ((a.id.map (field "id")).getD []) ++ classes a.classes ++
    a.others.flatMap fun (key, value) => field (escapeAttribute key) (value.getD [])

def alignment : Align → Text
  | .none => []
  | .left => " style=\x22text-align: left\x22"
  | .center => " style=\x22text-align: center\x22"
  | .right => " style=\x22text-align: right\x22"

def titleOf (title : Text) : Text :=
  if title.isEmpty then [] else "\x22 title=\x22" ++ escapeAttribute title

def cellName (p : Page) : Text := if p.inHead then "th" else "td"

def start (p : Page) : Tag → Page
  | .paragraph => p.block "<p>"
  | .heading level a => p.block ("<" ++ headingName level ++ attributes a ++ ">")
  | .quote => p.block "<blockquote>\n"
  | .codeBlock .indented => p.block "<pre><code>"
  | .codeBlock (.fenced info) =>
    let language := info.takeWhile (· != ' ')
    if language.isEmpty then p.block "<pre><code>"
    else p.block ("<pre><code class=\x22language-" ++ escapeAttribute language ++ "\x22>")
  | .htmlBlock => p
  | .list none => p.block "<ul>\n"
  | .list (some n) =>
    if n == 1 then p.block "<ol>\n" else p.block ("<ol start=\x22" ++ Text.ofNat n ++ "\x22>\n")
  | .item => p.block "<li>"
  | .footnote name =>
    let (number, p) := p.label name
    p.block ("<div class=\x22footnote-definition\x22 id=\x22" ++ escapeAttribute name ++
      "\x22><sup class=\x22footnote-definition-label\x22>" ++ Text.ofNat number ++ "</sup>")
  | .table columns => { p.write "<table>" with columns }
  | .tableHead => { p.write "<thead><tr>" with inHead := true, cell := 0 }
  | .tableRow => { p.write "<tr>" with cell := 0 }
  | .tableCell => p.write ("<" ++ cellName p ++ alignment (p.columns.getD p.cell .none) ++ ">")
  | .emphasis => p.write "<em>"
  | .strong => p.write "<strong>"
  | .strike => p.write "<del>"
  | .link address title =>
    p.write ("<a href=\x22" ++ escapeAddress address ++ titleOf title ++ "\x22>")
  | .mail address => p.write ("<a href=\x22mailto:" ++ escapeAddress address ++ "\x22>")
  | .image address _ => p.write ("<img src=\x22" ++ escapeAddress address ++ "\x22 alt=\x22")

def stop (p : Page) : Tag → Page
  | .paragraph => p.write "</p>\n"
  | .heading level _ => p.write ("</" ++ headingName level ++ ">\n")
  | .quote => p.write "</blockquote>\n"
  | .codeBlock _ => p.write "</code></pre>\n"
  | .htmlBlock => p
  | .list none => p.write "</ul>\n"
  | .list (some _) => p.write "</ol>\n"
  | .item => p.write "</li>\n"
  | .footnote _ => p.write "</div>\n"
  | .table _ => p.write "</tbody></table>\n"
  | .tableHead => { p.write "</tr></thead><tbody>\n" with inHead := false }
  | .tableRow => p.write "</tr>\n"
  | .tableCell => { p.write ("</" ++ cellName p ++ ">") with cell := p.cell + 1 }
  | .emphasis => p.write "</em>"
  | .strong => p.write "</strong>"
  | .strike => p.write "</del>"
  | .link .. | .mail _ => p.write "</a>"
  | .image _ title => p.write (titleOf title ++ "\x22 />")

/-- Text ends a line by its last character, also when it is empty. -/
def writeText (p : Page) (shown t : Text) : Page :=
  { p.put shown with fresh := t.getLast? == some '\n' }

def event (p : Page) : Event → Page
  | .start tag => start p tag
  | .stop tag => stop p tag
  | .text t => writeText p (escapeBody t) t
  | .code t => p.write ("<code>" ++ escapeBody t ++ "</code>")
  | .html t | .inlineHtml t => p.write t
  | .softBreak => p.write "\n"
  | .hardBreak => p.write "<br />\n"
  | .rule => p.block "<hr />\n"
  | .footnoteMark name =>
    let (number, p) := p.label name
    p.write ("<sup class=\x22footnote-reference\x22><a href=\x22#" ++ escapeAttribute name ++ "\x22>" ++
      Text.ofNat number ++ "</a></sup>")
  | .task true => p.write "<input disabled=\x22\x22 type=\x22checkbox\x22 checked=\x22\x22/>\n"
  | .task false => p.write "<input disabled=\x22\x22 type=\x22checkbox\x22/>\n"

/-- Inside an image only text is written, as part of an attribute. -/
def alternative (p : Page) : Event → Page
  | .text t | .code t | .inlineHtml t => writeText p (escapeAttribute t) t
  | .softBreak | .hardBreak | .rule => p.write " "
  | .footnoteMark name =>
    let (number, p) := p.label name
    p.put ("[" ++ Text.ofNat number ++ "]")
  | .task true => p.write "[x]"
  | .task false => p.write "[ ]"
  | .html _ | .start _ | .stop _ => p

/-- `depth` counts the elements open inside an image, the image included. -/
def writeAll (p : Page) : Nat → List Event → Page
  | _, [] => p
  | 0, e :: rest =>
    match e with
    | .start (.image address title) => writeAll (start p (.image address title)) 1 rest
    | e => writeAll (event p e) 0 rest
  | depth + 1, e :: rest =>
    match e with
    | .start _ => writeAll p (depth + 2) rest
    | .stop tag =>
      if depth == 0 then writeAll (stop p tag) 0 rest else writeAll p depth rest
    | e => writeAll (alternative p e) (depth + 1) rest

def render (events : List Event) : Text := (writeAll .empty 0 events).content

end Swatchbook.Markdown.Html
