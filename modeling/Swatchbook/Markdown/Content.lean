import Swatchbook.Markdown.Line
import Swatchbook.Markdown.Node

/-!
# Content

One line of a paragraph, a heading or a row as tokens. Blanks at the end of a
line are no part of it; two of them, or a backslash, make the break behind it
a hard one.
-/

namespace Swatchbook.Markdown.Content

/-- A header may turn out to be the first line of a table, and a cell ends at a bar. -/
inductive Mode
  | plain
  | header
  | cell
  deriving DecidableEq

/-- What follows the tokens of a line: a break, or the rest of a table. -/
inductive Ending
  | lineBreak (node : Node)
  | table (columns : List Align)

/-- What has been read: the tokens, backwards, where the text not yet among
them begins, how many bars there were and where the last one was. -/
structure Scan where
  tokens : List Node
  text : Nat
  bars : Nat
  lastBar : Nat

namespace Scan

def flush (r : Scan) (i : Nat) : Scan := { r with tokens := Node.text r.text i ++ r.tokens }

def push (r : Scan) (start stop : Nat) (t : Token) : Scan :=
  let r := r.flush start
  { r with tokens := .token start stop t :: r.tokens, text := stop }

/-- Leaves out what stands between the text so far and a place. -/
def leave (r : Scan) (i next : Nat) : Scan := { r.flush i with text := next }

end Scan

/-- Whether the character before a place is a bar that divides cells. -/
def isBehindBar (s : Source) (start i : Nat) : Bool :=
  start < i && s.isAt '|' (i - 1) && !(start + 1 < i && s.isAt '\\' (i - 2))

/-- Whether a run of marks at `i` can open emphasis, by the characters around
it. The beginning of the line counts as a blank. -/
def canOpen (s : Source) (mode : Mode) (start i : Nat) (mark : Char) (length : Nat) : Bool :=
  match s.at? (i + length) with
  | none => false
  | some next =>
    if Text.isBlank next then false
    else if i == start then true
    else if mode == .cell && isBehindBar s start i then true
    else if mode == .cell && next == '|' then false
    else
      (mark == '*' && !isPunctuation next) || (mark == '~' && 1 < length) ||
        (s.at? (i - 1)).any fun previous => Text.isBlank previous || isPunctuation previous

def canClose (s : Source) (mode : Mode) (start i : Nat) (mark : Char) (length : Nat) : Bool :=
  if i == start then false
  else
    match s.at? (i - 1), s.at? (i + length) with
    | some previous, some next =>
      if Text.isBlank previous then false
      else if mode == .cell && isBehindBar s start i then false
      else if mode == .cell && next == '|' then true
      else
        ((mark == '*' || (mark == '~' && 1 < length)) && !isPunctuation previous) ||
          Text.isBlank next || isPunctuation next
    | some previous, none => !Text.isBlank previous
    | none, _ => false

def isSpecial (c : Char) : Bool := "\n\r\\*_~\x60&<![]|".toList.contains c

structure Context where
  source : Source
  spine : Spine

def finish (s : Source) (r : Scan) (i : Nat) : Scan := r.flush (i - s.countBack isGap r.text i)

/-- The end of a line. A backslash before it is a break only if something follows. -/
def endLine (c : Context) (mode : Mode) (start : Nat) (r : Scan) (i behind : Nat) :
    Scan × Nat × Option Ending :=
  let s := c.source
  let brk (start : Nat) (t : Token) : Scan × Nat × Option Ending :=
    (r.flush start, behind, some (.lineBreak (.token start behind t)))
  let blanks := s.countBack isGap 0 i
  let table := if mode == .header && 0 < r.bars then tableBelow? s c.spine start r.bars r.lastBar behind
    else none
  if mode == .cell then (finish s r i, i, none)
  else if s.countBack (· == '\\') 0 i % 2 == 1 && behind < s.stop then brk (i - 1) .hardBreak
  else
    match table with
    | some (columns, next) => (r, next, some (.table columns))
    | none =>
      if 2 ≤ blanks then brk (i - blanks) .hardBreak
      else (r.flush (i - blanks), behind, some (.lineBreak (.token i behind .softBreak)))

/-- A backslash and the character it takes the meaning of. A bar in a cell
loses one backslash, or two. -/
def escape (s : Source) (mode : Mode) (r : Scan) (i : Nat) : Scan × Nat :=
  if s.isAt '\x60' (i + 1) then
    let length := s.count '\x60' (i + 1)
    ((r.leave i (i + 1)).push (i + 1) (i + 1 + length) (.backticks length true), i + 1 + length)
  else if mode == .cell && s.atText "\\\\|" i then (r.leave i (i + 2), i + 3)
  else (r.leave i (i + 1), i + 2)

/-- The construct at a place, which begins with `c`; `s` ends where the content does. -/
def step (all s : Source) (mode : Mode) (start : Nat) (r : Scan) (c : Char) (i : Nat) : Scan × Nat :=
  match c with
  | '\\' => if Link.escapes s i then escape s mode r i else (r, i + 1)
  | '\x60' =>
    let length := s.count c i
    (r.push i (i + length) (.backticks length false), i + length)
  | '&' =>
    match Entity.at? s i with
    | some (value, next) => (r.push i next (.literal value), next)
    | none => (r, i + 1)
  | '<' => (if s.isAt '\\' (i + 1) then r else r.push i (i + 1) .angle, i + 1)
  | '!' => if s.isAt '[' (i + 1) then (r.push i (i + 2) (.opening true), i + 2) else (r, i + 1)
  | '[' => (r.push i (i + 1) (.opening false), i + 1)
  | ']' => (r.push i (i + 1) (.closing true), i + 1)
  | '|' => ({ r with bars := r.bars + 1, lastBar := i }, i + 1)
  | '*' | '_' | '~' =>
    let length := all.count c i
    let opens := canOpen all mode start i c length
    let closes := canClose all mode start i c length
    (if (opens || closes) && (c != '~' || length ≤ 2) then r.push i (i + length) (.run c length opens closes)
      else r, i + length)
  | _ => (r, i + 1)

/-- Each round takes a character, so the length of the source bounds them. -/
def readFrom (c : Context) (s : Source) (mode : Mode) (start : Nat) :
    Nat → Scan → Nat → Scan × Nat × Option Ending
  | 0, r, i => (r, i, none)
  | fuel + 1, r, i =>
    let i := s.skip (fun c => !isSpecial c) i
    match s.at? i with
    | none => (finish s r i, i, none)
    | some '\n' | some '\r' => endLine c mode start r i ((s.lineEnd? i).getD i)
    | some d =>
      if d == '|' && mode == .cell then (finish s r i, i, none)
      else
        let (r, i) := step c.source s mode start r d i
        readFrom c s mode start fuel r i

/-- The tokens, backwards, of the line that begins at `start` and ends before
`stop`, the place behind it and what follows there. -/
def read (c : Context) (mode : Mode) (start stop : Nat) : List Node × Nat × Option Ending :=
  let (r, next, ending) :=
    readFrom c (c.source.before stop) mode start (stop - start + 1) ⟨[], start, 0, 0⟩ start
  (r.tokens, next, ending)

def readLine (c : Context) (mode : Mode) (start : Nat) : List Node × Nat × Option Ending :=
  read c mode start c.source.stop

end Swatchbook.Markdown.Content
