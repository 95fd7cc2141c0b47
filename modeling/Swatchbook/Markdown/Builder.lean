import Swatchbook.Markdown.Content

/-!
# Building the tree of a document

The open containers with their blocks so far. A list stays open between its
items; a blank line between the blocks of an item, or between two items, makes
it loose, and the paragraphs of a tight one are not marked.
-/

namespace Swatchbook.Markdown

/-- An open container and its blocks so far, backwards. -/
structure Frame where
  container : Container
  start : Nat
  children : List Node

def Frame.toNode (f : Frame) (stop : Nat) : Node :=
  let children := f.children.reverse
  match f.container with
  | .list _ _ true => .block f.start stop (.container f.container) (children.map Node.tightened)
  | _ => .block f.start stop (.container f.container) children

/-- The open containers, the innermost first, and the blocks outside of them.
`blank` tells that the last line was blank, and `emptyItem` where the last item
ends if it began with nothing behind its mark. A task mark waits for its
paragraph. Definitions are held backwards. -/
structure Builder where
  source : Source
  frames : List Frame
  roots : List Node
  blank : Bool
  emptyItem : Option Nat
  task : Option Node
  definitions : List (Text × Target)
  footnotes : List Text

namespace Builder

def ofSource (source : Source) : Builder := ⟨source, [], [], false, none, none, [], []⟩

def innermost (b : Builder) : Option Container := b.frames.head?.map Frame.container

def spine (b : Builder) : Spine := b.frames.reverse.map Frame.container

def context (b : Builder) : Content.Context := ⟨b.source, b.spine⟩

def add (b : Builder) (node : Node) : Builder :=
  match b.frames with
  | f :: outer => { b with frames := { f with children := node :: f.children } :: outer }
  | [] => { b with roots := node :: b.roots }

def enter (b : Builder) (c : Container) (start : Nat) : Builder :=
  { b with frames := ⟨c, start, []⟩ :: b.frames }

def close (b : Builder) (stop : Nat) : Builder :=
  match b.frames with
  | f :: outer =>
    let b := { b with frames := outer }.add (f.toNode stop)
    match f.container with
    | .list _ _ true => { b with emptyItem := none }
    | _ => b
  | [] => b

def closeTo (b : Builder) (n stop : Nat) : Builder :=
  (List.replicate (b.frames.length - n) ()).foldl (fun b _ => b.close stop) b

/-- An item may begin with one blank line, and not with two. -/
def finishEmptyItem (b : Builder) : Builder :=
  let b := match b.emptyItem, b.blank, b.innermost with
    | some stop, true, some (.item _) => b.close stop
    | _, _, _ => b
  { b with emptyItem := none }

def loosen (frames : List Frame) : List Frame :=
  match frames with
  | f :: g :: outer =>
    match g.container with
    | .list mark start _ => f :: { g with container := .list mark start false } :: outer
    | _ => frames
  | _ => frames

/-- Called before a block that is no item: a list at this place ends, and a
blank line before the block makes the list around it loose. -/
def finishList (b : Builder) (stop : Nat) : Builder :=
  let b := b.finishEmptyItem
  let b := match b.innermost with
    | some (.list ..) => b.close stop
    | _ => b
  if b.blank then { b with frames := loosen b.frames, blank := false } else b

def continueList (b : Builder) (mark : Char) (number start : Nat) : Builder :=
  let b := b.finishEmptyItem
  let begun (b : Builder) : Builder := { b.enter (.list mark number true) start with blank := false }
  match b.frames with
  | [] => begun b
  | f :: outer =>
    match f.container with
    | .list old number tight =>
      if old == mark then
        let f := { f with container := .list old number (tight && !b.blank) }
        { b with frames := f :: outer, blank := false }
      else begun (b.finishList start)
    | _ => begun (b.finishList start)

/-- A blank line before anything else in an item takes away its indent. -/
def addBlank (b : Builder) : Builder :=
  match b.frames with
  | f :: outer =>
    match f.container with
    | .quote => b
    | .item _ =>
      if b.emptyItem.isSome then
        { b with frames := { f with container := .item 0 } :: outer, blank := true }
      else { b with blank := true }
    | _ => { b with blank := true }
  | [] => { b with blank := true }

/-- The first definition of a label counts. -/
def define (b : Builder) (label : Text) (target : Target) : Builder :=
  { b with definitions := (Link.foldLabel label, target) :: b.definitions }

def references (b : Builder) : References := ⟨b.definitions.reverse, b.footnotes⟩

end Builder

end Swatchbook.Markdown
