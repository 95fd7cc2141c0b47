import Swatchbook.Comment.Delimiters

/-!
# Annotation blocks

A stylesheet is cut into its annotation blocks, each with the source text that
follows it up to the next beginning of a comment.
-/

namespace Swatchbook

/-- A block as it stands in the source, delimiters included, the text before
it, and its style: the source behind it. -/
structure Block where
  before : Text
  raw : Text
  style : Text
  deriving DecidableEq

namespace Block

def span (b : Block) : Nat × Nat :=
  let start := Text.byteSize b.before
  (start, start + Text.byteSize b.raw)

end Block

namespace Delimiters

/-- The style search starts afresh behind the block, as if the text began there. -/
def styleIn (d : Delimiters) (after : Text) : Text :=
  match d.start.find? after with
  | some next => next.before
  | none => after

def blocks (d : Delimiters) (source : Text) : List Block :=
  (d.block.findAll source).map fun found => ⟨found.before, found.raw, d.styleIn found.after⟩

end Delimiters

end Swatchbook
