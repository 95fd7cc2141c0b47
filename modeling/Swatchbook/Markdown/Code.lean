import Swatchbook.Markdown.Line
import Swatchbook.Markdown.Node

/-!
# Code and markup

Blocks that keep their lines as they are: indented and fenced code, and markup
that begins a line. Their lines end with a line feed, and a carriage return
before it is dropped. Each reader gives the tokens of its lines, backwards, the
place where the block ends and the place behind it.
-/

namespace Swatchbook.Markdown.Code

/-- A line with the spaces that are left of a tab before it. The carriage
return before the last character is dropped. -/
def line (s : Source) (kind : Token) (spaces start stop : Nat) : List Node :=
  let lead := if spaces == 0 then [] else [Node.token start start (.literal (Text.spaces spaces))]
  let dropped := 2 ≤ stop && s.isAt '\r' (stop - 2) && (s.at? (stop - 1)).any (·.utf8Size == 1)
  let parts := if dropped then [(start, stop - 2), (stop - 1, stop)] else [(start, stop)]
  (lead ++ (parts.filter fun p => p.1 < p.2).map fun p => Node.token p.1 p.2 kind).reverse

/-- Indented lines as far as they have been read. `kept` are the lines up to
`keptStop`, the last one that is not blank. -/
structure Indented where
  tokens : List Node
  kept : List Node
  keptStop : Nat
  blank : Bool
  stop : Nat

def indentedFrom (s : Source) (spine : Spine) : Nat → Indented → Nat → Nat → Indented
  | 0, found, _, _ => found
  | fuel + 1, found, spaces, i =>
    let stop := s.behindFeed i
    let tokens := line s .text spaces i stop ++ found.tokens
    let found := if found.blank then { found with tokens, stop }
      else { found with tokens, kept := tokens, keptStop := stop, stop }
    let (inside, m) := spine.enter s stop
    let (indented, m) := m.exactly s 4
    if !inside || !(indented || m.isAtEnd s) || m.place == s.stop then found
    else indentedFrom s spine fuel { found with blank := s.isBlankLine m.place } m.spaces m.place

def indented (s : Source) (spine : Spine) (m : Margin) : Indented :=
  indentedFrom s spine (s.stop - m.place + 1) ⟨[], [], m.place, false, m.place⟩ m.spaces m.place

/-- The lines up to the closing fence. They lose at most `indent` columns. -/
def fencedFrom (s : Source) (spine : Spine) (indent : Nat) (mark : Char) (length : Nat) :
    Nat → List Node → Nat → List Node × Nat
  | 0, tokens, i => (tokens, i)
  | fuel + 1, tokens, i =>
    let (inside, m) := spine.enter s i
    let (_, m) := m.exactly s indent
    let (deep, close) := m.exactly s (4 - indent)
    if !inside then (tokens, i)
    else
      match if deep then none else closingFence? s mark length close.place with
      | some behind => (tokens, behind)
      | none =>
        let stop := s.behindFeed m.place
        fencedFrom s spine indent mark length fuel (line s .text m.spaces m.place stop ++ tokens) stop

def fenced (s : Source) (spine : Spine) (indent : Nat) (mark : Char) (length start : Nat) : Node × Nat :=
  let inner := s.skipGaps (start + length)
  let behind := s.behindFeed inner
  let info := Link.unescape false (s.slice inner (behind - s.countBack isWide inner behind))
  let (tokens, stop) := fencedFrom s spine indent mark length (s.stop - behind + 1) [] behind
  (.block start stop (.code (.fenced info)) tokens.reverse, (s.blankLine? stop).getD stop)

/-- The lines of markup up to one that holds `mark`, or, without a mark, up to
a blank one. -/
def markupFrom (s : Source) (spine : Spine) (mark : Option Text) :
    Nat → List Node → Nat → Nat → List Node × Nat × Nat
  | 0, tokens, _, i => (tokens, i, i)
  | fuel + 1, tokens, spaces, i =>
    let stop := s.behindFeed i
    let tokens := line s .html spaces i stop ++ tokens
    let (inside, m) := spine.enter s stop
    let isLast := match mark with
      | some mark => Text.holds mark (s.slice i stop)
      | none => m.isAtEnd s
    if !inside || isLast then (tokens, stop, stop)
    else if m.place == s.stop || (mark.isNone && s.isBlankLine m.place) then (tokens, m.place, stop)
    else markupFrom s spine mark fuel tokens m.spaces m.place

/-- The block of markup that begins at `start` behind `spaces` blanks, and the
place behind it. -/
def markup (s : Source) (spine : Spine) (mark : Option Text) (spaces start : Nat) : Node × Nat :=
  let (tokens, stop, behind) := markupFrom s spine mark (s.stop - start + 1) [] spaces start
  (.block start stop .html tokens.reverse, behind)

end Swatchbook.Markdown.Code
