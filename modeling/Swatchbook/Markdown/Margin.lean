import Swatchbook.Markdown.Source

/-!
# Margins

The beginning of a line belongs to the containers around it: a quote has its
mark, and what stands in an item or a footnote is indented. Tabs stop every
four columns, and a part of one can be taken.
-/

namespace Swatchbook.Markdown

/-- The rest of a line whose beginning is being read. `column` counts from the
last tab stop, and `spaces` are left of a tab that was taken in part. -/
structure Margin where
  place : Nat
  column : Nat
  spaces : Nat

namespace Margin

def ofPlace (i : Nat) : Margin := ⟨i, 0, 0⟩

/-- Takes up to `n` spaces; gives how many of them were missing. -/
def takeFrom (s : Source) (n column place : Nat) : Nat × Margin :=
  if n = 0 then (0, ⟨place, column, 0⟩)
  else
    match s.at? place with
    | some ' ' => takeFrom s (n - 1) (column + 1) (place + 1)
    | some '\t' =>
      let width := 4 - column % 4
      if n ≤ width then (0, ⟨place + 1, 0, width - n⟩) else takeFrom s (n - width) 0 (place + 1)
    | _ => (n, ⟨place, column, 0⟩)
termination_by n
decreasing_by all_goals omega

def take (s : Source) (n : Nat) (m : Margin) : Nat × Margin :=
  if n ≤ m.spaces then (0, { m with spaces := m.spaces - n })
  else takeFrom s (n - m.spaces) m.column m.place

def upTo (s : Source) (n : Nat) (m : Margin) : Nat × Margin :=
  let (missing, m) := m.take s n
  (n - missing, m)

/-- Whether there are `n` spaces, and the margin behind as many as there are. -/
def exactly (s : Source) (n : Nat) (m : Margin) : Bool × Margin :=
  let (missing, m) := m.take s n
  (missing == 0, m)

def skipAll (s : Source) (m : Margin) : Margin := ⟨s.skip isSpace m.place, m.column, 0⟩

def isAtEnd (s : Source) (m : Margin) : Bool := (s.lineEnd? m.place).isSome

def drop (n : Nat) (m : Margin) : Margin := ⟨m.place + n, m.column + n, m.spaces⟩

def quote? (s : Source) (m : Margin) : Option Margin :=
  let (_, m) := m.upTo s 3
  if s.isAt '>' m.place then some ((m.drop 1).upTo s 1).2 else none

end Margin

inductive Container
  | quote
  | footnote (label : Text)
  | list (mark : Char) (start : Nat) (tight : Bool)
  /-- Its content stands at least `indent` columns in. -/
  | item (indent : Nat)

abbrev Spine := List Container

namespace Spine

/-- A line that ends in the margin reaches any indent. -/
def indented (s : Source) (n : Nat) (m : Margin) : Option Margin :=
  let (enough, after) := m.exactly s n
  if enough || after.isAtEnd s then some after else none

/-- How many containers a line reaches, and the margin behind them. -/
def reachFrom (s : Source) : Spine → Margin → Nat × Margin
  | [], m => (0, m)
  | c :: inner, m =>
    let next := match c with
      | .quote => m.quote? s
      | .item indent => indented s indent m
      | .footnote _ => indented s 4 m
      | .list .. => some m
    match next with
    | some m => let (n, m) := reachFrom s inner m; (n + 1, m)
    | none => (0, m)

def reach (spine : Spine) (s : Source) (i : Nat) : Nat × Margin := reachFrom s spine (.ofPlace i)

/-- Whether a line reaches all containers, and the margin behind those it reaches. -/
def enter (spine : Spine) (s : Source) (i : Nat) : Bool × Margin :=
  let (n, m) := spine.reach s i
  (n == spine.length, m)

def behind (spine : Spine) (s : Source) (i : Nat) : Nat := (spine.reach s i).2.place

end Spine

end Swatchbook.Markdown
