import Swatchbook.Comment.Block
import Swatchbook.Comment.Section
import Swatchbook.Note
import Swatchbook.Path

/-!
# Pages

A page shows the annotation blocks of one source file. It is addressed by
where the file stands below the source root: the same place below the output
root, with the extension `html`.
-/

namespace Swatchbook

structure SourceFile where
  path : Path
  text : Text

structure Page where
  title : Text
  slug : Text
  src : Path
  dest : Path
  /-- The destination from the output root on. -/
  href : Text
  sections : List Section
  /-- Excluded pages are neither rendered nor listed. -/
  excluded : Bool
  deriving DecidableEq

/-- Where sources are read from and pages go to, and how comments are told. -/
structure Layout where
  delimiters : Delimiters
  source : Path
  output : Path
  /-- Whether sources without comments are left out. -/
  excludeMissing : Bool

namespace Page

def address (source output path : Path) : Except Fault (Path × Text) :=
  match path.rebase? source output with
  | none => .error (.of "source file is outside of the source root"
      [("path", path.spelling), ("source root", source.spelling)])
  | some dest =>
    let dest := dest.withExtension "html"
    match dest.relativeTo? output with
    | none => .error (.of "page destination is not relative to the output root"
        [("destination", dest.spelling), ("output root", output.spelling)])
    | some relative => .ok (dest, relative.slash)

def titleOf? (sections : List Section) : Option Text := sections.findSome? Section.heading

def extensionOf (path : Path) : Text := path.extension?.getD "css"

def sectionsOf (layout : Layout) (file : SourceFile) (blocks : List Block) : List Section :=
  blocks.map fun block =>
    Section.format (extensionOf file.path) (Comment.normalize layout.delimiters block.raw) block.style

def ofBlocks (layout : Layout) (file : SourceFile) (dest : Path) (href : Text)
    (blocks : List Block) : Page :=
  let sections := sectionsOf layout file blocks
  { title := (titleOf? sections).getD file.path.stem
    slug := file.path.stem
    src := file.path.normalize
    dest, href, sections
    excluded := blocks.isEmpty && layout.excludeMissing }

def notes (file : SourceFile) (blocks : List Block) (page : Page) : Report Unit := do
  if blocks.isEmpty then
    Report.note .warn .page ("comment missing: " ++ file.path.spelling)
  else
    Report.note .debug .page
      (Text.ofNat blocks.length ++ " comment(s) found: " ++ file.path.spelling)
  match titleOf? page.sections with
  | some title => Report.note .debug .page ("heading found: " ++ title)
  | none =>
    if !page.excluded then Report.note .info .page ("heading missing: " ++ file.path.spelling)

def build (layout : Layout) (file : SourceFile) : Report Page := do
  let (dest, href) ← Report.ofExcept (address layout.source layout.output file.path)
  let blocks := layout.delimiters.blocks file.text
  let page := ofBlocks layout file dest href blocks
  notes file blocks page
  return page

end Page

end Swatchbook
