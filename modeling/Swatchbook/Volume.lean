import Swatchbook.Fault
import Swatchbook.Path

/-!
# Volumes

A file system as a value: what stands at each location, and where relative
paths start. There are files and folders and no links. A path is looked up
piece by piece, so every piece but the last has to name a folder, also before
a double point or a slash at the end.
-/

namespace Swatchbook

/-- The names from the root on. -/
abbrev Location := List Text

inductive Item
  | file (bytes : ByteArray)
  | folder

structure Volume where
  /-- Where relative paths start. -/
  base : Location
  items : List (Location × Item)

/-- Why something cannot be found, read or made. -/
inductive Trouble
  | notFound
  | notFolder
  | isFolder
  | taken
  | notText
  /-- Whatever else a file system may say. -/
  | other (message : Text)
  deriving DecidableEq

def Trouble.message : Trouble → Text
  | .notFound => "No such file or directory (os error 2)"
  | .notFolder => "Not a directory (os error 20)"
  | .isFolder => "Is a directory (os error 21)"
  | .taken => "File exists (os error 17)"
  | .notText => "stream did not contain valid UTF-8"
  | .other message => message

def Trouble.fault (trouble : Trouble) : Fault := .foreign trouble.message

namespace Volume

/-- What stands at a location. The root is a folder. -/
def at? (v : Volume) (place : Location) : Option Item :=
  if place.isEmpty then some .folder
  else (v.items.find? fun entry => entry.1 == place).map Prod.snd

def put (v : Volume) (place : Location) (item : Item) : Volume :=
  { v with items := (place, item) :: v.items.filter fun entry => entry.1 != place }

theorem at?_put (v : Volume) (place other : Location) (item : Item) (h : place ≠ []) :
    (v.put place item).at? other = if other = place then some item else v.at? other := by
  by_cases same : other = place
  · subst same
    simp [at?, put, h]
  · have differ : (place == other) = false := by simpa using Ne.symm same
    have drop (items : List (Location × Item)) :
        (items.filter fun entry => entry.1 != place).find? (fun entry => entry.1 == other) =
          items.find? fun entry => entry.1 == other := by
      induction items with
      | nil => rfl
      | cons entry items ih =>
        by_cases here : entry.1 = place
        · simp [here, differ, ih]
        · have keep : (entry.1 != place) = true := by simpa using here
          simp [List.find?_cons, keep, ih]
    simp [at?, put, same, differ, drop]

def step (v : Volume) (place : Location) (piece : Text) : Except Trouble Location :=
  match v.at? place with
  | none => .error .notFound
  | some (.file _) => .error .notFolder
  | some .folder =>
    if piece == [] || piece == ['.'] then .ok place
    else if piece == ['.', '.'] then .ok place.dropLast
    else if (v.at? (place ++ [piece])).isSome then .ok (place ++ [piece])
    else .error .notFound

def start (v : Volume) (p : Path) : Location := if p.isAbsolute then [] else v.base

def pieces (p : Path) : List Text := Text.splitBy (· == '/') p.spelling

/-- The pieces of a path without the empty ones at its end. -/
def named (p : Path) : List Text := ((pieces p).reverse.dropWhile List.isEmpty).reverse

/-- Where a path leads. The empty path leads nowhere. -/
def locate (v : Volume) (p : Path) : Except Trouble Location :=
  if p.spelling.isEmpty then .error .notFound
  else (pieces p).foldlM v.step (v.start p)

def look (v : Volume) (p : Path) : Except Trouble Item := do
  let place ← v.locate p
  match v.at? place with
  | some item => return item
  | none => throw .notFound

def isFile (v : Volume) (p : Path) : Bool :=
  match v.look p with
  | .ok (.file _) => true
  | _ => false

def isFolder (v : Volume) (p : Path) : Bool :=
  match v.look p with
  | .ok .folder => true
  | _ => false

def holds (v : Volume) (p : Path) : Bool := (v.look p).isOk

def read (v : Volume) (p : Path) : Except Trouble ByteArray := do
  match ← v.look p with
  | .file bytes => return bytes
  | .folder => throw .isFolder

def textOf (bytes : ByteArray) : Except Trouble Text :=
  match Text.ofBytes? bytes with
  | some t => .ok t
  | none => .error .notText

def readText (v : Volume) (p : Path) : Except Trouble Text := v.read p >>= textOf

def nameBelow? (place : Location) (entry : Location × Item) : Option Text :=
  match List.isPrefixOf? place entry.1 with
  | some [name] => some name
  | _ => none

def namesAt (v : Volume) (place : Location) : List Text :=
  (v.items.filterMap (nameBelow? place)).mergeSort Text.le

def names (v : Volume) (p : Path) : List Text :=
  match v.locate p with
  | .ok place => v.namesAt place
  | .error _ => []

/-- The volume with something at a location and folders on the way to it. -/
def plant (v : Volume) (place : Location) (item : Item) : Volume :=
  let ways := (List.range place.length).drop 1 |>.map place.take
  let v := ways.foldl (fun v way => if (v.at? way).isSome then v else v.put way .folder) v
  match v.at? place, item with
  | some _, .folder => v
  | _, item => v.put place item

/-- The place a new thing is made at: the folder and the name in it. A path that
ends in a point or a double point names no new thing. -/
def newPlace (v : Volume) (p : Path) (pieces : List Text) (dotted : Trouble) :
    Except Trouble Location := do
  match pieces.getLast? with
  | none => throw dotted
  | some name =>
    let parent ← pieces.dropLast.foldlM v.step (v.start p)
    let parent ← v.step parent []
    if name == [] || name == ['.'] || name == ['.', '.'] then throw dotted
    else return parent ++ [name]

def makeFolder (v : Volume) (p : Path) : Except Trouble Volume := do
  if p.spelling.isEmpty then throw .notFound
  let place ← v.newPlace p (named p) .taken
  if (v.at? place).isSome then throw .taken
  return v.put place .folder

/-- The place of the file that a path leads to, or at which one can be made. -/
def filePlace (v : Volume) (p : Path) : Except Trouble Location := do
  if p.spelling.isEmpty then throw .notFound
  let place ← v.newPlace p (pieces p) .isFolder
  match v.at? place with
  | some .folder => throw .isFolder
  | _ => return place

end Volume

end Swatchbook
