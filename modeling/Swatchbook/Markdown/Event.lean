import Swatchbook.Text

/-!
# Markdown events

A document is the sequence of its events: elements start and stop, and text,
code and breaks stand between them. Everything that reads or changes a
document after parsing works on this sequence.
-/

namespace Swatchbook.Markdown

inductive CodeKind
  | indented
  /-- A fenced block with its info string. -/
  | fenced (info : Text)
  deriving DecidableEq

inductive Align
  | none
  | left
  | center
  | right
  deriving DecidableEq

structure Attributes where
  id : Option Text
  classes : List Text
  others : List (Text × Option Text)
  deriving DecidableEq

def Attributes.empty : Attributes := ⟨Option.none, [], []⟩

inductive Tag
  | paragraph
  | heading (level : Nat) (attributes : Attributes)
  | quote
  | codeBlock (kind : CodeKind)
  | htmlBlock
  /-- Ordered lists have a first number. -/
  | list (start : Option Nat)
  | item
  | footnote (label : Text)
  | table (columns : List Align)
  | tableHead
  | tableRow
  | tableCell
  | emphasis
  | strong
  | strike
  | link (address title : Text)
  | mail (address : Text)
  | image (address title : Text)
  deriving DecidableEq

inductive Event
  | start (tag : Tag)
  | stop (tag : Tag)
  | text (t : Text)
  | code (t : Text)
  /-- A piece of raw markup that stands by itself. -/
  | html (t : Text)
  | inlineHtml (t : Text)
  | softBreak
  | hardBreak
  | rule
  | footnoteMark (label : Text)
  | task (done : Bool)
  deriving DecidableEq

end Swatchbook.Markdown
