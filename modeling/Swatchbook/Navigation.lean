import Swatchbook.Catalog
import Swatchbook.Junk
import Swatchbook.Page

/-!
# Navigation

The tree that leads to the pages: directories with what they list, and files
with a page. It is the tree of a catalog in which only what leads to a page is
left. Junk, what is excluded and files without a page are skipped, and so is a
folder in which nothing is left. The root itself is no node.
-/

namespace Swatchbook.Navigation

inductive Node
  | directory (name : Text) (pages : List Node)
  | file (page : Page)

namespace Node

mutual

def leaves : Node → List Page
  | .directory _ pages => leavesAll pages
  | .file page => [page]

def leavesAll : List Node → List Page
  | [] => []
  | node :: rest => node.leaves ++ leavesAll rest

end

end Node

/-- The page of a source, by its normal path. Of two pages the later one counts. -/
def pageOf? (pages : List Page) (path : Path) : Option Page :=
  pages.reverse.find? fun page => page.src.normalize.same path.normalize

def isExcluded (excluded : List Path) (path : Path) : Bool :=
  excluded.any fun other => other.normalize.same path.normalize

/-- The node of an entry, if it leads to a page. -/
def node? (c : Catalog) (pages : List Page) (excluded : List Path) : Nat → Nat → Option Node
  | 0, _ => none
  | fuel + 1, id =>
    match c.entry? id with
    | none => none
    | some entry =>
      if isJunk entry.name then none
      else
        match entry.kind with
        | .folder =>
          let listed := entry.children.filter fun child =>
            !((c.entry? child).any fun entry => isExcluded excluded entry.path)
          let nodes := listed.filterMap (node? c pages excluded fuel)
          if nodes.isEmpty then none else some (.directory entry.name nodes)
        | .file => (pageOf? pages entry.path).map .file
        | .other => none

def build (c : Catalog) (pages : List Page) (excluded : List Path) : List Node :=
  match node? c pages excluded (c.entries.length + 1) 0 with
  | some (.directory _ nodes) => nodes
  | _ => []

end Swatchbook.Navigation
