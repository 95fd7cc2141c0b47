import Swatchbook.Course

/-!
# Disks

A file system with links, on which several courses may be under way. What
stands at a location is a folder, a file, a symbolic link, or something else,
such as a pipe. One file may stand at several locations and is known by one of
them. Paths lead through symbolic links, and a double point leads up from
where the links before it have led.
-/

namespace Swatchbook

inductive Thing
  | folder
  | file (id : Location)
  | link (target : Path)
  | other
  deriving DecidableEq

def Thing.id? : Thing → Option Location
  | .file id => some id
  | _ => none

/-- What stands where a handle was opened. -/
def Handle.thing : Handle → Thing
  | .file id => .file id
  | .other => .other

@[ext]
structure Disk where
  /-- Where relative paths start. -/
  base : Location
  at? : Location → Option Thing
  bytes : Location → ByteArray
  /-- A file is known by a location at which it stands. -/
  known : ∀ {here id}, at? here = some (.file id) → at? id = some (.file id)

namespace Disk

/-- A disk of a list of things, every file of which is known by a location of the list. -/
def ofList (things : List (Location × Thing)) (bytes : Location → ByteArray)
    (known : ∀ entry ∈ things, ∀ id ∈ entry.2.id?, things.lookup id = some (.file id)) :
    Disk where
  base := []
  at? here := things.lookup here
  bytes := bytes
  known {here id} h := by
    obtain ⟨front, back, rfl, -⟩ := List.lookup_eq_some_iff.mp h
    exact known (here, .file id) (by simp) id rfl

-- ---------------------------------------------------------------------------
-- Places
-- ---------------------------------------------------------------------------

/-- Goes on to a name in a folder. There need not be anything of that name yet. -/
def enter (d : Disk) (onLink : Location → Path → Except Trouble Location) (here : Location)
    (name : Text) : Except Trouble Location :=
  match d.at? (here ++ [name]) with
  | some (.link target) => onLink here target
  | _ => .ok (here ++ [name])

def step (d : Disk) (onLink : Location → Path → Except Trouble Location) (here : Location)
    (piece : Text) : Except Trouble Location :=
  match d.at? here with
  | some .folder =>
    if piece == [] || piece == ['.'] then .ok here
    else if piece == ['.', '.'] then .ok here.dropLast
    else d.enter onLink here piece
  | some _ => .error .notFolder
  | none => .error .notFound

def start (here : Location) (p : Path) : Location := if p.isAbsolute then [] else here

/-- Where a path leads from a folder, with so many links at most inside one another. -/
def follow (d : Disk) : Nat → Location → Path → Except Trouble Location
  | 0, _, _ => .error (.other "Too many levels of symbolic links (os error 40)")
  | limit + 1, here, p =>
    if p.spelling.isEmpty then .error .notFound
    else (Volume.pieces p).foldlM (d.step (d.follow limit)) (start here p)

def linkLimit : Nat := 40

/-- Where a path leads. Nothing need be there, but the folder above is. -/
def locate (d : Disk) (p : Path) : Except Trouble Location := d.follow (linkLimit + 1) d.base p

/-- Where a new folder would be: a link of its name is not followed. -/
def room (d : Disk) (p : Path) : Except Trouble Location :=
  match (Volume.named p).getLast? with
  | none => .error .taken
  | some name => do
    let parent ← (Volume.named p).dropLast.foldlM (d.step (d.follow linkLimit)) (start d.base p)
    let parent ← d.step (d.follow linkLimit) parent []
    if name == ['.'] || name == ['.', '.'] then .error .taken else .ok (parent ++ [name])

def look (d : Disk) (p : Path) : Option Thing := (d.locate p).toOption.bind d.at?

def isFile (d : Disk) (p : Path) : Bool :=
  match d.look p with
  | some (.file _) => true
  | _ => false

def isFolder (d : Disk) (p : Path) : Bool := d.look p == some .folder

def read (d : Disk) (p : Path) : Except Trouble ByteArray :=
  match d.look p with
  | some (.file id) => .ok (d.bytes id)
  | some .folder => .error .isFolder
  | _ => .error .notFound

-- ---------------------------------------------------------------------------
-- Changes
-- ---------------------------------------------------------------------------

def addFolder (d : Disk) (place : Location) (hnew : d.at? place = none) : Disk where
  base := d.base
  at? here := if here = place then some .folder else d.at? here
  bytes := d.bytes
  known := by
    intro here id h
    split at h
    · cases h
    · have hid := d.known h
      rw [if_neg, hid]
      rintro rfl
      rw [hnew] at hid
      cases hid

def addFile (d : Disk) (place : Location) (hnew : d.at? place = none) : Disk where
  base := d.base
  at? here := if here = place then some (.file place) else d.at? here
  bytes id := if id = place then .empty else d.bytes id
  known := by
    intro here id h
    split at h
    · cases h
      rw [if_pos rfl]
    · have hid := d.known h
      rw [if_neg, hid]
      rintro rfl
      rw [hnew] at hid
      cases hid

def fill (d : Disk) (id : Location) (content : ByteArray) : Disk :=
  { d with bytes := fun other => if other = id then content else d.bytes other }

/-- What a disk replies, and what becomes of it, if nothing goes wrong. -/
def serve : (request : Request) → StateM Disk request.Reply
  | .isFile p => fun d => (d.isFile p, d)
  | .isFolder p => fun d => (d.isFolder p, d)
  | .read p => fun d => (d.read p, d)
  | .makeFolder p => fun d =>
    match d.room p with
    | .error trouble => (.error trouble, d)
    | .ok place =>
      if hnew : d.at? place = none then (.ok (), d.addFolder place hnew) else (.error .taken, d)
  | .create p => fun d =>
    match d.locate p with
    | .error trouble => (.error trouble, d)
    | .ok place =>
      if hnew : d.at? place = none then (.ok (.file place), d.addFile place hnew)
      else
        match d.at? place with
        | some (.file id) => (.ok (.file id), d.fill id .empty)
        | some .other => (.ok .other, d)
        | _ => (.error .isFolder, d)
  | .fill (.file id) bytes => fun d => (.ok (), d.fill id bytes)
  | .fill .other _ => fun d => (.ok (), d)
  | .note _ => fun d => ((), d)

theorem serve_makeFolder (d : Disk) (p : Path) : serve (.makeFolder p) d =
    match d.room p with
    | .error trouble => (.error trouble, d)
    | .ok place =>
      if hnew : d.at? place = none then (.ok (), d.addFolder place hnew)
      else (.error .taken, d) := rfl

theorem serve_create (d : Disk) (p : Path) : serve (.create p) d =
    match d.locate p with
    | .error trouble => (.error trouble, d)
    | .ok place =>
      if hnew : d.at? place = none then (.ok (.file place), d.addFile place hnew)
      else
        match d.at? place with
        | some (.file id) => (.ok (.file id), d.fill id .empty)
        | some .other => (.ok .other, d)
        | _ => (.error .isFolder, d) := rfl

/-- All that can come of a request. Each can fail, before or after it has had its effect, and
what is in a file that is being written is left open: others may be writing it as well. -/
inductive Serves (d : Disk) : (request : Request) → request.Reply → Disk → Prop
  | granted (request : Request) : Serves d request (serve request d).1 (serve request d).2
  | refused (request : Request) (trouble : Trouble) :
      Serves d request (request.refusal trouble) d
  | stopped (request : Request) (trouble : Trouble) :
      Serves d request (request.refusal trouble) (serve request d).2
  | written (id : Location) (bytes content : ByteArray) (reply : Except Trouble Unit) :
      Serves d (.fill (.file id) bytes) reply (d.fill id content)

end Disk

def Item.thing (here : Location) : Item → Thing
  | .file _ => .file here
  | .folder => .folder

def Item.bytes : Item → ByteArray
  | .file bytes => bytes
  | .folder => .empty

/-- A volume as a disk without links. -/
def Volume.toDisk (v : Volume) : Disk where
  base := v.base
  at? here := (v.at? here).map (Item.thing here)
  bytes id := (v.at? id).elim .empty Item.bytes
  known := by
    intro here id h
    obtain ⟨item, hitem, hthing⟩ := Option.map_eq_some_iff.mp h
    cases item with
    | folder => cases hthing
    | file bytes =>
      cases hthing
      exact h

theorem Volume.at?_toDisk (v : Volume) (here : Location) :
    v.toDisk.at? here = (v.at? here).map (Item.thing here) := rfl

theorem Volume.bytes_toDisk (v : Volume) (id : Location) :
    v.toDisk.bytes id = (v.at? id).elim .empty Item.bytes := rfl

end Swatchbook
