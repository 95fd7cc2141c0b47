import Swatchbook.Language
import Swatchbook.Markdown.Document
import Swatchbook.Markdown.Html

/-!
# Markdown

A text rendered as HTML, with the first heading of level one that says
something. Code blocks are highlighted on request.
-/

namespace Swatchbook.Markdown

/-- The heading found so far and the text of the heading being read. -/
structure Capture where
  title : Option Text
  pending : Option Text

/-- Only text and code count, not the breaks between lines. -/
def Capture.step (c : Capture) : Event → Capture
  | .start (.heading 1 _) => if c.title.isNone then { c with pending := some [] } else c
  | .text t | .code t => { c with pending := c.pending.map (· ++ t) }
  | .stop (.heading 1 _) =>
    match c.pending with
    | some t =>
      let t := Text.trim t
      if t.isEmpty then { c with pending := none } else ⟨some t, none⟩
    | none => c
  | _ => c

/-- Hands the events on as they come, and takes note of each. -/
def Capture.pass (c : Capture) : List Event → List Event × Capture
  | [] => ([], c)
  | e :: rest =>
    let (handed, c) := (c.step e).pass rest
    (e :: handed, c)

/-- The events, and the first heading of level one that says something. -/
def recordHeading (events : List Event) : List Event × Option Text :=
  let (handed, c) := Capture.pass ⟨none, none⟩ events
  (handed, c.title)

/-- The label of a code block: its info string up to the first comma or space. -/
def codeLabel : CodeKind → Option Text
  | .indented => none
  | .fenced info =>
    if Text.allBlank info then none else some (info.takeWhile fun c => c != ',' && c != ' ')

/-- `block` holds the label and the code of the block being read, if one is. -/
def highlightFrom : Option (Option Text × Text) → List Event → List Event
  | _, [] => []
  | block, e :: rest =>
    match e, block with
    | .start (.codeBlock kind), _ => highlightFrom (some (codeLabel kind, [])) rest
    | .text t, some (label, code) => highlightFrom (some (label, code ++ t)) rest
    | .stop (.codeBlock _), some (label, code) =>
      .html (Highlight.render (.block label) code) :: highlightFrom none rest
    | e, block => e :: highlightFrom block rest

def highlightCode (events : List Event) : List Event := highlightFrom none events

structure Rendered where
  html : Text
  heading : Option Text

def parse (t : Text) : List Event := (Document.ofText t).events

def render (t : Text) : Rendered :=
  let (events, heading) := recordHeading (parse t)
  ⟨Html.render events, heading⟩

def renderHighlighted (t : Text) : Rendered :=
  let (events, heading) := recordHeading (parse t)
  ⟨Html.render (highlightCode events), heading⟩

end Swatchbook.Markdown
