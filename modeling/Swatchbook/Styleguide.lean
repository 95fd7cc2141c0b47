import Swatchbook.Config
import Swatchbook.Glob
import Swatchbook.Navigation

/-!
# Styleguides

Finding the sources that a configuration selects, and building their pages and
the navigation tree over them.
-/

namespace Swatchbook

structure Styleguide where
  /-- In the order of their sources. -/
  pages : List Page
  /-- Sources that are left out because they have no comments. -/
  excluded : List Path
  tree : List Navigation.Node

/-- A stylesheet or script that every page includes. -/
inductive Include
  | url (address : Text)
  | file (path : Path)
  deriving DecidableEq

namespace Styleguide

/-- Appends the paths that are not there yet, one after the other. -/
def addNew (found new : List Path) : List Path :=
  new.foldl (fun found path => if found.any path.same then found else found ++ [path]) found

end Styleguide

/-- What patterns see of a file system: the paths that each of them finds, in order, with a
fault in the place of a folder that cannot be listed, and the paths that lead to regular files. -/
structure Outlook where
  found : Glob → List (Except Fault Path)
  isFile : Path → Bool

namespace Outlook

/-- The files that one pattern below a directory finds, as normal paths. -/
def expandOne (o : Outlook) (base : Path) (pattern : Text) : Except Fault (List Path) :=
  match Glob.read (base.join ⟨pattern⟩).spelling with
  | .error fault => .error ((Fault.foreign fault.message).chain
      (.of "invalid glob pattern" [("pattern", pattern)]))
  | .ok glob => do
    let paths ← (o.found glob).mapM id
    return (paths.map Path.normalize).filter o.isFile

/-- The files that patterns below a directory find, each once, in the order in which
they are first found. -/
def expand (o : Outlook) (base : Path) (patterns : List Text) : Except Fault (List Path) :=
  patterns.foldlM (fun found pattern => do
    return Styleguide.addNew found (← o.expandOne base pattern)) []

end Outlook

/-- All folders of a volume can be listed. -/
def Volume.outlook (v : Volume) : Outlook := ⟨fun glob => (glob.find v).map .ok, v.isFile⟩

namespace Styleguide

def expand (v : Volume) (base : Path) (patterns : List Text) : Except Fault (List Path) :=
  v.outlook.expand base patterns

def discover (v : Volume) (config : Config) : Report (List Path) := do
  let files ← Report.ofExcept (expand v config.src config.files)
  Report.note .debug .styleguide
    (Text.ofNat files.length ++ " source file(s) found under " ++ config.src.spelling)
  return files

/-- Addresses are kept as they are, all else is a pattern below a directory. An entry
that finds nothing is noted and skipped. -/
def resolveInclude (v : Volume) (base : Path) (entry : Text) : Report (List Include) := do
  if isUrl entry then return [.url entry]
  let files ← Report.ofExcept (expand v base [entry])
  if files.isEmpty then Report.note .warn .styleguide ("no files match " ++ entry)
  return files.map .file

def resolveIncludes (v : Volume) (base : Path) (entries : List Text) : Report (List Include) := do
  return (← entries.mapM (resolveInclude v base)).flatten

end Styleguide

def SourceFile.read (v : Volume) (path : Path) : Except Fault SourceFile :=
  match v.readText path with
  | .ok text => .ok ⟨path, text⟩
  | .error trouble => .error (trouble.fault.chain
      (.of "failed to read source file" [("path", path.spelling)]))

def Config.layout (config : Config) : Except Fault Layout := do
  return ⟨← config.delimiters, config.src, config.dest, config.excludesMissing⟩

namespace Styleguide

def buildPage (v : Volume) (layout : Layout) (path : Path) : Report Page := do
  let file ← Report.ofExcept (SourceFile.read v path)
  Page.build layout file

/-- Builds a page for each file, and the tree over the source directory. That there
is no file at all is a fault. -/
def build (v : Volume) (config : Config) (files : List Path) : Report Styleguide := do
  if files.isEmpty then
    throw (.of "no files found to process" [
      ("source directory", config.src.spelling),
      ("patterns", Text.join ", " config.files)])
  let layout ← Report.ofExcept config.layout
  let built ← files.mapM (buildPage v layout)
  let pages := built.filter fun page => !page.excluded
  let excluded := (built.filter Page.excluded).map Page.src
  let catalog ← Report.ofExcept (Catalog.build v config.src)
  let tree := Navigation.build catalog pages excluded
  Report.note .info .styleguide
    (Text.ofNat pages.length ++ " page(s) built, " ++ Text.ofNat excluded.length ++ " excluded")
  return ⟨pages, excluded, tree⟩

end Styleguide

end Swatchbook
