import Swatchbook.Volume

/-!
# Catalogs

A walk goes through everything below a root, each folder right before what is
in it, names in order. A catalog numbers what a walk finds and ties every
entry to its folder: the entry that was recorded last under the path of the
folder. Paths compare by their parts.
-/

namespace Swatchbook

/-- What stands at a path. Links, pipes, sockets and devices are neither files nor folders. -/
inductive FileKind
  | file
  | folder
  | other
  deriving DecidableEq

/-- Something that a walk comes by. -/
structure Sighting where
  /-- The path of the folder it is in, as spelled by the walk. -/
  parentPath : Path
  name : Text
  kind : FileKind
  /-- How far below the root it is. -/
  depth : Nat

def Sighting.path (s : Sighting) : Path := s.parentPath.join ⟨s.name⟩

namespace Walk

/-- Everything below a place, where `path` is its spelling. -/
def below (v : Volume) : Nat → Nat → Location → Path → List Sighting
  | 0, _, _, _ => []
  | fuel + 1, depth, place, path =>
    (v.namesAt place).flatMap fun name =>
      match v.at? (place ++ [name]) with
      | none => []
      | some (.file _) => [⟨path, name, .file, depth⟩]
      | some .folder =>
        ⟨path, name, .folder, depth⟩ :: below v fuel (depth + 1) (place ++ [name]) (path.join ⟨name⟩)

/-- The root is named by its last name. A root that ends in none is named by its
whole spelling, and its recorded path is then another one. -/
def rootSighting (root : Path) (kind : FileKind) : Sighting :=
  ⟨root.parent?.getD .empty, root.fileName?.getD root.spelling, kind, 0⟩

def fault (root : Path) (trouble : Trouble) : Fault :=
  .of "failed to walk source directory" [
    ("search root", root.spelling),
    ("reason", "IO error for operation on " ++ root.spelling ++ ": " ++ trouble.message)]

def sightings (v : Volume) (root : Path) : Except Fault (List Sighting) :=
  match v.locate root with
  | .error trouble => .error (fault root trouble)
  | .ok place =>
    match v.at? place with
    | none => .error (fault root .notFound)
    | some (.file _) => .ok [rootSighting root .file]
    | some .folder =>
      .ok (rootSighting root .folder :: below v (v.items.length + 1) 1 place root)

end Walk

/-- An entry of a catalog, which is known by its number. -/
structure Entry where
  id : Nat
  path : Path
  name : Text
  kind : FileKind
  parent : Option Nat
  children : List Nat
  depth : Nat

def Entry.isFolder (entry : Entry) : Bool := entry.kind == .folder

/-- The entries in the order of their numbers. -/
structure Catalog where
  entries : List Entry

namespace Catalog

def empty : Catalog := ⟨[]⟩

def entry? (c : Catalog) (id : Nat) : Option Entry := c.entries[id]?

/-- The entry that was recorded last under a path. -/
def find? (c : Catalog) (path : Path) : Option Entry :=
  c.entries.reverse.find? fun entry => entry.path.same path

def addChild (child : Nat) (entry : Entry) : Entry :=
  { entry with children := entry.children ++ [child] }

def insert (c : Catalog) (s : Sighting) : Catalog :=
  let id := c.entries.length
  let parent := (c.find? s.parentPath).map Entry.id
  let entry : Entry := ⟨id, s.path, s.name, s.kind, parent, [], s.depth⟩
  match parent with
  | none => ⟨c.entries ++ [entry]⟩
  | some p => ⟨c.entries.modify p (addChild id) ++ [entry]⟩

def ofSightings (sightings : List Sighting) : Catalog := sightings.foldl insert empty

def build (v : Volume) (root : Path) : Except Fault Catalog :=
  (Walk.sightings v root).map ofSightings

def reach (c : Catalog) : Nat → Nat → List Entry
  | 0, _ => []
  | fuel + 1, id =>
    match c.entry? id with
    | none => []
    | some entry => entry :: entry.children.flatMap (c.reach fuel)

def reachable (c : Catalog) : List Entry := c.reach (c.entries.length + 1) 0

end Catalog

end Swatchbook
