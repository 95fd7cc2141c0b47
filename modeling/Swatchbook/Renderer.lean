import Swatchbook.Session
import Swatchbook.Styleguide
import Swatchbook.View

/-!
# Rendering

Everything that the pages of one run share, and writing them. Pages are linked
to each other and to the assets by relative paths; scripts are copied to the
output root.
-/

namespace Swatchbook

structure Renderer where
  config : Config
  template : Template
  /-- A style block with the theme. -/
  theme : Text
  /-- A style block for highlighted code. -/
  highlight : Text
  assets : List Include
  scripts : List Include

namespace Renderer

/-- A text that was read for some purpose, or the fault that it cannot be read. -/
def readAs (what : Text) (path : Path) : Except Trouble Text → Except Fault Text
  | .ok text => .ok text
  | .error trouble => .error (trouble.fault.chain
      (.of ("failed to read " ++ what) [("path", path.spelling)]))

def readFor (v : Volume) (what : Text) (path : Path) : Except Fault Text :=
  readAs what path (v.readText path)

def styleBlock (css : Text) : Text := "<style>\n" ++ css ++ "\n</style>"

def loadTemplate (v : Volume) (config : Config) : Report Template := do
  match config.template with
  | some path =>
    let text ← Report.ofExcept (readFor v "template" path)
    Report.ofExcept (Template.compile text)
  | none =>
    Report.note .warn .renderer "template not specified; using default"
    Report.ofExcept (Template.compile Template.Builtin.template)

def loadTheme (v : Volume) (config : Config) : Report Text := do
  match config.theme with
  | some path => Report.ofExcept (readFor v "theme" path)
  | none =>
    Report.note .warn .renderer "theme not specified; using default"
    return Template.Builtin.theme

def unknownHighlight (name : Text) : Text :=
  "highlight theme " ++ Text.Quoted.quote name ++ " not found; using " ++ Highlight.defaultTheme ++
    " (available: " ++ Text.join ", " Highlight.themes ++ ")"

def loadHighlight (config : Config) : Report Text := do
  match Highlight.stylesheet? config.highlight with
  | some css => return css
  | none =>
    Report.note .warn .renderer (unknownHighlight config.highlight)
    match Highlight.stylesheet? Highlight.defaultTheme with
    | some css => return css
    | none => throw (.of "default highlight theme is missing" [])

/-- Collects what the pages share. Patterns of assets and scripts are relative to the
working directory. -/
def load (v : Volume) (config : Config) (directory : Path) : Report Renderer := do
  let template ← loadTemplate v config
  let theme ← loadTheme v config
  let highlight ← loadHighlight config
  if config.assets.isEmpty then
    Report.note .warn .renderer "assets not specified; pages will not include project styles"
  let assets ← Styleguide.resolveIncludes v directory config.assets
  let scripts ← Styleguide.resolveIncludes v directory config.scripts
  return ⟨config, template, styleBlock theme, styleBlock highlight, assets, scripts⟩

/-- The one section of the index: the readme, if there is one. The text of the readme is given
if there is a file of its name. -/
def indexSections (config : Config) (readme? : Option (Except Trouble Text)) :
    Report (List Section) := do
  match config.readme with
  | none =>
    Report.note .warn .renderer "readme not specified"
    return []
  | some path =>
    match readme? with
    | some text =>
      let text ← Report.ofExcept (readAs "readme" path text)
      return [⟨(Markdown.renderHighlighted text).html, none, none, none, none⟩]
    | none =>
      Report.note .warn .renderer ("readme not found: " ++ path.spelling)
      return []

def indexPage (config : Config) (sections : List Section) : Page where
  title := config.title
  slug := "index"
  src := config.readme.getD .empty
  dest := config.dest.join "index.html"
  href := "index.html"
  sections
  excluded := false

def readme? (v : Volume) (config : Config) : Option (Except Trouble Text) :=
  config.readme.bind fun path => if v.isFile path then some (v.readText path) else none

def index (v : Volume) (config : Config) : Report Page := do
  return indexPage config (← indexSections config (readme? v config))

def directoryOf (config : Config) (page : Page) : Path := page.dest.parent?.getD config.dest

/-- The way from a page to the output root: a point if the page is right below it. -/
def rootOf (config : Config) (page : Page) : Text :=
  match (config.dest.relativeTo? (directoryOf config page)).map Path.slash with
  | some root => if root.isEmpty then ['.'] else root
  | none => ['.']

def scriptTag (address : Text) : Text := "<script src=\"" ++ address ++ "\"></script>"

def linkTag (address : Text) : Text := "<link rel=\"stylesheet\" href=\"" ++ address ++ "\">"

/-- Addresses of scripts get a script tag, all others the tag of a stylesheet. Query
and fragment do not count. -/
def assetTag (address : Text) : Text :=
  let path : Path := ⟨address.takeWhile fun c => c != '?' && c != '#'⟩
  match path.extension? with
  | some extension => if extension == "js" || extension == "mjs" then scriptTag address else linkTag address
  | none => linkTag address

def assetAddress (config : Config) (page : Page) : Include → Text
  | .url address => address
  | .file path => ((path.relativeTo? (directoryOf config page)).getD path).slash

/-- How a page refers to a script, which lies in the output root. -/
def scriptAddress (config : Config) (page : Page) : Include → Text
  | .url address => address
  | .file path => rootOf config page ++ "/" ++ path.fileName?.getD []

def surroundings (r : Renderer) (page : Page) : Surroundings where
  root := rootOf r.config page
  assets := Text.unlines (r.assets.map fun asset => assetTag (assetAddress r.config page asset))
  theme := r.theme
  highlight := r.highlight
  scripts := Text.unlines (r.scripts.map fun script => scriptTag (scriptAddress r.config page script))

theorem surroundings_root (r : Renderer) (page : Page) :
    (r.surroundings page).root = rootOf r.config page := rfl

theorem surroundings_assets (r : Renderer) (page : Page) : (r.surroundings page).assets =
    Text.unlines (r.assets.map fun asset => assetTag (assetAddress r.config page asset)) := rfl

theorem surroundings_scripts (r : Renderer) (page : Page) : (r.surroundings page).scripts =
    Text.unlines (r.scripts.map fun script => scriptTag (scriptAddress r.config page script)) :=
  rfl

def render (r : Renderer) (guide : Styleguide) (page : Page) : Except Fault Text :=
  r.template.renderPage r.config.title page guide.tree (r.surroundings page)

/-- Asks for the text of the readme, if there is a file of its name. -/
def askReadme (config : Config) : Errand (Option (Except Trouble Text)) := do
  match config.readme with
  | none => return none
  | some path =>
    if ← Errand.request (.isFile path) then
      return some ((← Errand.request (.read path)) >>= Volume.textOf)
    else return none

def writeIndex (r : Renderer) (guide : Styleguide) : Errand Unit := do
  let text ← askReadme r.config
  let page := indexPage r.config (← Errand.report (indexSections r.config text))
  let html ← Errand.ofExcept (r.render guide page)
  Errand.write page.dest (Text.toBytes html)

def writePage (r : Renderer) (guide : Styleguide) (page : Page) : Errand Unit := do
  let html ← Errand.ofExcept (r.render guide page)
  (Errand.write page.dest (Text.toBytes html)).under
    (.of "failed to write page" [("source path", page.src.spelling)])
  Errand.note .debug .renderer ("wrote " ++ page.dest.spelling)

def scriptTarget (config : Config) (path : Path) : Path :=
  config.dest.join ⟨path.fileName?.getD []⟩

def copyScript (r : Renderer) : Include → Errand Unit
  | .url _ => return
  | .file path =>
    (Errand.copy path (scriptTarget r.config path)).under
      (.of "failed to copy script" [("source path", path.spelling)])

/-- The index, the pages, and each of the scripts. The errands of a stage are done side by side,
in any order, and none of the next stage begins before all of them have succeeded. -/
def stages (r : Renderer) (guide : Styleguide) : List (List (Errand Unit)) :=
  [r.writeIndex guide] :: guide.pages.map (r.writePage guide) ::
    r.scripts.map fun script => [r.copyScript script]

/-- Writes the index, every page and the scripts, the pages in their order. -/
def write (r : Renderer) (guide : Styleguide) : Work Unit :=
  (r.stages guide).forM fun stage => stage.forM Work.doing

end Renderer

end Swatchbook
