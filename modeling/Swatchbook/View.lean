import Swatchbook.Navigation
import Swatchbook.Template.Builtin
import Swatchbook.Template.Run

/-!
# Views

A page as a template sees it: its fields, the navigation tree and what
surrounds it. Fields of a record stand in the order of their names.
-/

namespace Swatchbook

/-- What a page is rendered with besides itself. -/
structure Surroundings where
  /-- The way from the page to the output root. -/
  root : Text
  /-- Tags for stylesheets, and for scripts among the assets. -/
  assets : Text
  /-- A style block with the theme. -/
  theme : Text
  /-- A style block for highlighted code. -/
  highlight : Text
  /-- Tags for scripts. -/
  scripts : Text
  deriving DecidableEq

namespace View

open Template (Value)

def optionalField (name : Text) (t : Option Text) : List (Text × Value) :=
  (t.map fun t => (name, Value.plain t)).toList

/-- A part that is missing is no field at all. -/
def ofSection (s : Section) : Value :=
  .ofNames (optionalField "comment" (some s.comment) ++ optionalField "example" s.sample ++
    optionalField "markup" s.markup ++ optionalField "styles" s.styles)

def sections (page : Page) : Value := .list (page.sections.map ofSection)

def ofPage (page : Page) : Value :=
  .ofNames [
    ("dest", .plain page.dest.spelling),
    ("href", .plain page.href),
    ("sections", sections page),
    ("slug", .plain page.slug),
    ("src", .plain page.src.spelling),
    ("title", .plain page.title)]

mutual

/-- A node has a kind, and a file the fields of its page. -/
def ofNode : Navigation.Node → Value
  | .directory name pages =>
    .ofNames [
      ("kind", .plain "directory"),
      ("name", .plain name),
      ("pages", .list (ofNodes pages))]
  | .file page =>
    .ofNames [
      ("dest", .plain page.dest.spelling),
      ("href", .plain page.href),
      ("kind", .plain "file"),
      ("sections", sections page),
      ("slug", .plain page.slug),
      ("src", .plain page.src.spelling),
      ("title", .plain page.title)]

def ofNodes : List Navigation.Node → List Value
  | [] => []
  | node :: rest => ofNode node :: ofNodes rest

end

/-- The names that a page template starts with. -/
def names (title : Text) (page : Page) (tree : List Navigation.Node) (around : Surroundings) :
    Template.Names := [
  ("title", .plain title),
  ("page", ofPage page),
  ("pages", .list (ofNodes tree)),
  ("root", .plain around.root),
  ("assets", .plain around.assets),
  ("theme", .plain around.theme),
  ("highlight", .plain around.highlight),
  ("scripts", .plain around.scripts)]

end View

namespace Template

def compile (t : Text) : Except Fault Template :=
  match Template.read t with
  | .ok template => .ok template
  | .error fault => .error ((Fault.foreign fault.message).chain
      (.of "failed to compile page template" []))

def renderPage (template : Template) (title : Text) (page : Page) (tree : List Navigation.Node)
    (around : Surroundings) : Except Fault Text :=
  match Template.run template (View.names title page tree around) with
  | .ok html => .ok html
  | .error fault => .error ((Fault.foreign fault.message).chain
      (.of "failed to render page" [("page", page.href)]))

end Template

end Swatchbook
