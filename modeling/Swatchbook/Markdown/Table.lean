import Swatchbook.Markdown.Content

/-!
# Tables

Rows are lines whose cells are divided by bars; bars at the edges make no
cells. Every row has as many cells as there are columns: further ones are
dropped, and missing ones are empty.
-/

namespace Swatchbook.Markdown.Table

open Content (Context)

/-- The cells of a row, backwards, and the place behind the row. -/
def cellsFrom (c : Context) : Nat → List Node → Nat → List Node × Nat
  | 0, cells, i => (cells, i)
  | fuel + 1, cells, i =>
    let start := if c.source.isAt '|' i then i + 1 else i
    let inner := c.source.skipGaps start
    match c.source.lineEnd? inner with
    | some behind => (cells, behind)
    | none =>
      let (tokens, stop, _) := Content.readLine c .cell inner
      cellsFrom c fuel (.block start stop .tableCell tokens.reverse :: cells) stop

def row (c : Context) (kind : Block) (columns i : Nat) : Node × Bool × Nat :=
  let (cells, stop) := cellsFrom c (c.source.stop - i + 1) [] i
  let cells := cells.reverse
  let kept := if columns == 0 then cells else cells.take columns
  let missing := List.replicate (columns - cells.length) (Node.block stop stop .tableCell [])
  (.block i stop kind (kept ++ missing), cells.isEmpty, stop)

def rowsFrom (c : Context) (columns : Nat) : Nat → List Node → Nat → List Node × Nat
  | 0, rows, i => (rows, i)
  | fuel + 1, rows, i =>
    let (inside, m) := c.spine.enter c.source i
    let m := m.skipAll c.source
    if !inside || interruptsPlain c.source true inside m.place then (rows, i)
    else
      let (node, isEmpty, next) := row c .tableRow columns m.place
      if isEmpty then (rows, i) else rowsFrom c columns fuel (node :: rows) next

/-- The table whose head begins at `head` and whose rows begin at `body`, and
the place behind it. -/
def read (c : Context) (columns : List Align) (head body : Nat) : Node × Nat :=
  let (first, _, _) := row c .tableHead columns.length head
  let (rows, stop) := rowsFrom c columns.length (c.source.stop - body + 1) [] body
  (.block head stop (.table columns) (first :: rows.reverse), stop)

end Swatchbook.Markdown.Table
