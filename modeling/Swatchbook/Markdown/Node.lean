import Swatchbook.Markdown.Event
import Swatchbook.Markdown.Margin

/-!
# The tree of a document

Blocks hold blocks or tokens. A token is a stretch of the source whose meaning
may still depend on its neighbours: brackets, backticks and runs of marks are
paired only when the tree is read, as references may be defined after their
use. Every node knows where it begins and ends.
-/

namespace Swatchbook.Markdown

inductive Token
  | text
  /-- A text that stands for what is written. -/
  | literal (t : Text)
  | html
  | softBreak
  | hardBreak
  | rule
  | task (done : Bool)
  | run (mark : Char) (length : Nat) (opens closes : Bool)
  /-- Backticks, of which the first may stand behind a backslash. -/
  | backticks (length : Nat) (escaped : Bool)
  | angle
  | opening (image : Bool)
  /-- A closing bracket whose pair may be a reference while it is live. -/
  | closing (live : Bool)

inductive Block
  | container (c : Container)
  | paragraph
  | heading (level : Nat) (attributes : Attributes)
  | code (kind : CodeKind)
  | html
  | table (columns : List Align)
  | tableHead
  | tableRow
  | tableCell

def Block.tag : Block → Tag
  | .container .quote => .quote
  | .container (.footnote label) => .footnote label
  | .container (.list mark start _) => .list (if mark == '.' || mark == ')' then some start else none)
  | .container (.item _) => .item
  | .paragraph => .paragraph
  | .heading level attributes => .heading level attributes
  | .code kind => .codeBlock kind
  | .html => .htmlBlock
  | .table columns => .table columns
  | .tableHead => .tableHead
  | .tableRow => .tableRow
  | .tableCell => .tableCell

inductive Node
  | token (start stop : Nat) (t : Token)
  | block (start stop : Nat) (b : Block) (children : List Node)

namespace Node

def start : Node → Nat
  | .token start _ _ | .block start _ _ _ => start

def stop : Node → Nat
  | .token _ stop _ | .block _ stop _ _ => stop

def withStart (start : Nat) : Node → Node
  | .token _ stop t => .token start stop t
  | .block _ stop b children => .block start stop b children

def withStop (stop : Nat) : Node → Node
  | .token start _ t => .token start stop t
  | .block start _ b children => .block start stop b children

def text (start stop : Nat) : List Node := if start < stop then [.token start stop .text] else []

/-- What a block is in an item of a tight list: of a paragraph only the content stays. -/
def loosened : Node → List Node
  | .block start stop .paragraph [] => [.block start stop .paragraph []]
  | .block _ _ .paragraph children => children
  | node => [node]

/-- The item of a tight list. One that begins with an empty paragraph is empty. -/
def tightened : Node → Node
  | .block start stop b children =>
    match children with
    | .block _ _ .paragraph [] :: _ => .block start stop b []
    | _ => .block start stop b (children.flatMap loosened)
  | node => node

/-- Whether the meaning of a node depends on those behind it. -/
def isOpen : Node → Bool
  | .token _ _ (.run ..) | .token _ _ (.backticks ..) | .token _ _ .angle
  | .token _ _ (.opening _) | .token _ _ (.closing _) => true
  | _ => false

end Node

inductive Part
  | event (e : Event)
  | block (stop : Nat) (b : Block) (children : List Node)

end Swatchbook.Markdown
