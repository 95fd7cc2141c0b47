import Swatchbook.Markdown.Event
import Swatchbook.Markdown.Link
import Swatchbook.Markdown.Margin
import Swatchbook.Markdown.Markup

/-!
# Lines

What a line can begin with, its margin being passed: rules, headings, fences,
list items, footnotes and tables. A line that begins with one of them ends the
paragraph before it.
-/

namespace Swatchbook.Markdown

/-- The place behind a rule: three or more of one mark, with blanks between them. -/
def rule? (s : Source) (i : Nat) : Option Nat :=
  match s.at? i with
  | some c =>
    if c == '*' || c == '-' || c == '_' then
      let stop := s.skip (fun d => d == c || isSpace d) i
      if 3 ≤ (s.slice i stop).count c then s.lineEnd? stop else none
    else none
  | none => none

def headingLevel? (s : Source) (i : Nat) : Option Nat :=
  let level := s.count '#' i
  if 1 ≤ level && level ≤ 6 && (s.at? (i + level)).all isWide then some level else none

def fence? (s : Source) (i : Nat) : Option (Char × Nat) :=
  match s.at? i with
  | some c =>
    if c == '\x60' || c == '~' then
      let n := s.count c i
      let quoted := c == '\x60' && s.isAt c (s.skip (fun d => d != c && d != '\n') (i + n))
      if 3 ≤ n && !quoted then some (c, n) else none
    else none
  | none => none

/-- The place behind a closing fence and the spaces after it. The end of the
source closes any fence. -/
def closingFence? (s : Source) (mark : Char) (length i : Nat) : Option Nat :=
  if s.stop ≤ i then some i
  else if length ≤ s.count mark i then
    let stop := s.skip (· == ' ') (s.skip (· == mark) i)
    (s.lineEnd? stop).map fun _ => stop
  else none

/-- The level of a heading that the line below it makes, and the place behind that line. -/
def underline? (s : Source) (i : Nat) : Option (Nat × Nat) :=
  match s.at? i with
  | some c =>
    if c == '=' || c == '-' then
      (s.blankLine? (s.skip (· == c) i)).map fun behind => (if c == '=' then 1 else 2, behind)
    else none
  | none => none

def itemMark? (s : Source) (i : Nat) : Option (Char × Nat × Nat) :=
  match s.at? i with
  | some c =>
    if c == '-' || c == '+' || c == '*' then some (c, 0, 1)
    else
      let stop := s.skip Text.isDigit i
      match s.at? stop with
      | some d =>
        if i < stop && stop - i ≤ 9 && (d == '.' || d == ')') then
          some (d, Text.toNat (s.slice i stop), stop - i + 1)
        else none
      | none => none
  | none => none

/-- An item that begins here: its character, its number and the place behind its mark. -/
def item? (s : Source) (i : Nat) : Option (Char × Nat × Nat) :=
  match itemMark? s i with
  | some (c, number, width) =>
    let behind := i + width
    if (s.at? behind).any isSpace || (s.lineEnd? behind).isSome then some (c, number, behind) else none
  | none => none

def footnote? (s : Source) (inTable : Bool) (i : Nat) : Option (Text × Nat) :=
  if s.atText "[^" i then
    match Link.lineLabel? s inTable (i + 2) with
    | some (label, behind) => if s.isAt ':' behind then some (label, behind + 1) else none
    | none => none
  else none

/-- Whether a line ends a paragraph, tables apart. In the containers of the
paragraph, and outside of tables, only items that have content and begin a
list at one do. -/
def interruptsPlain (s : Source) (inTable inside : Bool) (i : Nat) : Bool :=
  (s.lineEnd? i).isSome || (rule? s i).isSome || (headingLevel? s i).isSome || (fence? s i).isSome ||
    s.isAt '>' i ||
    ((item? s i).any fun (c, number, behind) =>
      !inside || inTable || ((c != '.' && c != ')' || number == 1) && !s.isBlankLine behind)) ||
    (s.isAt '<' i && ((Markup.endMark? s (i + 1)).isSome || Markup.startsBlock s (i + 1))) ||
    (footnote? s inTable i).isSome

/-! Tables. -/

def alignColon (first : Bool) (a : Align) : Align :=
  match first, a with
  | true, .none => .left
  | false, .left => .center
  | false, .none => .right
  | _, a => a

/-- A delimiter row as far as it has been read: the columns, backwards, the
alignment of the last one, whether nothing of it has come, whether it has a
hyphen, and whether the row has a bar and a hyphen. -/
structure Delimiters where
  columns : List Align
  align : Align
  first : Bool
  dash : Bool
  bars : Bool
  dashes : Bool

def delimitersFrom (s : Source) : Nat → Delimiters → Nat → Option (List Align × Nat)
  | 0, _, _ => none
  | fuel + 1, d, i =>
    match s.at? i with
    | some ' ' => delimitersFrom s fuel d (i + 1)
    | some ':' =>
      delimitersFrom s fuel { d with align := alignColon d.first d.align, first := false } (i + 1)
    | some '-' => delimitersFrom s fuel { d with first := false, dash := true, dashes := true } (i + 1)
    | some '|' =>
      if d.dash then
        delimitersFrom s fuel { d with
          columns := d.align :: d.columns, align := .none, first := true, dash := false, bars := true } (i + 1)
      else none
    | _ =>
      if d.bars && d.dashes then
        let columns := if d.first then d.columns else d.align :: d.columns
        (s.lineEnd? i).map fun behind => (columns.reverse, behind)
      else none

/-- The columns of the delimiter row that begins at a place, and the place behind it. -/
def delimiterRow? (s : Source) (i : Nat) : Option (List Align × Nat) :=
  let (indent, m) := Margin.upTo s 4 (.ofPlace i)
  let bar := s.isAt '|' m.place
  if 3 < indent then none
  else delimitersFrom s (s.stop - i + 1) ⟨[], .none, true, false, bar, false⟩
    (if bar then m.place + 1 else m.place)

/-- The number of cells of a header that has `bars` bars, the last of them at `last`. -/
def headerCount (s : Source) (start bars last : Nat) : Nat :=
  let inner := if s.isAt '|' (s.skipGaps start) then bars - 1 else bars
  if s.isBlankLine (last + 1) then inner else inner + 1

/-- Whether the line that begins at a place is the delimiter row for a header:
its columns, and the place behind it. -/
def tableBelow? (s : Source) (spine : Spine) (start bars last next : Nat) : Option (List Align × Nat) :=
  let (inside, m) := spine.enter s next
  if inside then
    (delimiterRow? s m.place).filter fun (columns, _) => columns.length == headerCount s start bars last
  else none

/-- The bars of a line, of which those behind a backslash do not count: their
number, the place of the last one and that of the next line. -/
def barsFrom (s : Source) : Nat → Bool → Nat → Nat → Nat → Option (Nat × Nat × Nat)
  | 0, _, _, _, _ => none
  | fuel + 1, escaped, bars, last, i =>
    match s.at? i with
    | none => none
    | some '\n' | some '\r' => (s.lineEnd? i).map fun next => (bars, last, next)
    | some '|' =>
      if escaped then barsFrom s fuel false bars last (i + 1)
      else barsFrom s fuel false (bars + 1) i (i + 1)
    | some c => barsFrom s fuel (c == '\\') bars last (i + 1)

def startsTable (s : Source) (spine : Spine) (i : Nat) : Bool :=
  s.isAt '|' i &&
    match barsFrom s (s.stop - i + 1) false 0 0 i with
    | some (bars, last, next) => (tableBelow? s spine i bars last next).isSome
    | none => false

def interrupts (s : Source) (spine : Spine) (inside : Bool) (i : Nat) : Bool :=
  interruptsPlain s false inside i || startsTable s spine i

end Swatchbook.Markdown
