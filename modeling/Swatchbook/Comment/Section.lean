import Swatchbook.Comment.Normal
import Swatchbook.Markdown

/-!
# Sections

A normal comment and the style behind it, rendered. The text before the first
fence is documentation. What stands between the first two fences is the
example, and only a comment with an example shows its style.
-/

namespace Swatchbook

structure Section where
  /-- The documentation as HTML. -/
  comment : Text
  /-- The example as written, to be shown live. -/
  sample : Option Text
  /-- The example as highlighted markup. -/
  markup : Option Text
  /-- The style as highlighted source. -/
  styles : Option Text
  /-- The first heading of level one. -/
  heading : Option Text
  deriving DecidableEq

namespace Section

/-- A label on the line of the opening fence is dropped; markup there is not. -/
def dropLabel (inside : Text) : Text :=
  match Text.cut? ['\n'] inside with
  | some (label, rest) => if Text.allBlank label || label.contains '<' then inside else rest
  | none => inside

/-- The texts before and inside the first fence, if there is one. -/
def splitFence (content : Text) : Option (Text × Text) :=
  (Text.cut? Comment.fence content).map fun (before, rest) =>
    match Text.cut? Comment.fence rest with
    | some (inside, _) => (before, inside)
    | none => (before, rest)

def styleOf (extension style : Text) : Option Text :=
  if Text.allBlank style then none
  else some (Highlight.render (.stylesheet extension) (Text.trim style))

def format (extension content style : Text) : Section :=
  match splitFence content with
  | none =>
    let rendered := Markdown.render content
    ⟨rendered.html, none, none, none, rendered.heading⟩
  | some (before, inside) =>
    let rendered := Markdown.render before
    let code := Text.trim (dropLabel inside)
    ⟨rendered.html, some code, some (Highlight.render .markup code), styleOf extension style,
      rendered.heading⟩

end Section

end Swatchbook
