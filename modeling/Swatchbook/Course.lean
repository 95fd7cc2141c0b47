import Swatchbook.Note
import Swatchbook.Volume

/-!
# Courses

What a part of the program asks of a file system, one request after the other,
each of them depending on the replies to those before. A course says nothing
of what the replies are. A volume gives them one way; a disk that other
programs share, or on which several courses are under way, may give others.
-/

namespace Swatchbook

/-- What was opened for writing: a file, known by the place it was made at, or something that
keeps nothing, such as a pipe. -/
inductive Handle
  | file (id : Location)
  | other
  deriving DecidableEq

inductive Request
  | isFile (p : Path)
  | isFolder (p : Path)
  | read (p : Path)
  | makeFolder (p : Path)
  /-- Opens a file for writing, which is emptied, or made if there is none. -/
  | create (p : Path)
  /-- Writes bytes to what was opened. -/
  | fill (handle : Handle) (bytes : ByteArray)
  | note (note : Note)

abbrev Request.Reply : Request → Type
  | .isFile _ | .isFolder _ => Bool
  | .read _ => Except Trouble ByteArray
  | .create _ => Except Trouble Handle
  | .makeFolder _ | .fill .. => Except Trouble Unit
  | .note _ => Unit

/-- The reply that a request has failed. -/
def Request.refusal (trouble : Trouble) : (request : Request) → request.Reply
  | .isFile _ | .isFolder _ => false
  | .read _ | .makeFolder _ | .create _ | .fill .. => .error trouble
  | .note _ => ()

def Request.notes : Request → List Note
  | .note told => [told]
  | _ => []

inductive Course (α : Type) : Type
  | done (result : α)
  | ask (request : Request) (next : request.Reply → Course α)

namespace Course

variable {α β σ : Type}

def bind : Course α → (α → Course β) → Course β
  | done result, next => next result
  | ask request further, next => ask request fun reply => (further reply).bind next

instance : Monad Course where
  pure := done
  bind := bind

/-- Goes through a course with the replies that are given to its requests. -/
def run (serve : (request : Request) → StateM σ request.Reply) : Course α → StateM σ α
  | done result => pure result
  | ask request next => fun state =>
    let (reply, state) := serve request state
    (next reply).run serve state

def tell : List Note → Course Unit
  | [] => done ()
  | note :: notes => ask (.note note) fun _ => tell notes

end Course

/-- A course that can end in a fault. -/
abbrev Errand (α : Type) := ExceptT Fault Course α

namespace Errand

def request {ε : Type} (q : Request) : ExceptT ε Course q.Reply := ExceptT.lift (.ask q .done)

def note (level : Level) (speaker : Speaker) (text : Text) : Errand Unit :=
  request (.note ⟨level, speaker, text⟩)

/-- What comes of an errand, and of those who serve it. -/
def via {σ ε α : Type} (serve : (request : Request) → StateM σ request.Reply)
    (errand : ExceptT ε Course α) : ExceptT ε (StateM σ) α := errand.run.run serve

def ofExcept {α : Type} (result : Except Fault α) : Errand α := ExceptT.mk (.done result)

/-- Gives what a step gives that only takes notes. -/
def report {α : Type} (step : Report α) : Errand α := do
  ExceptT.lift (.tell step.outcome.2)
  ofExcept step.outcome.1

def under {α : Type} (errand : Errand α) (above : Fault) : Errand α :=
  ExceptT.mk do return Except.under (← errand.run) above

def makeFolders : Nat → Path → ExceptT Trouble Course Unit
  | 0, _ => throw .notFound
  | fuel + 1, p => do
    if p.spelling.isEmpty then return
    match ← request (.makeFolder p) with
    | .ok () => return
    | .error .notFound =>
      match p.parent? with
      | none => throw .notFound
      | some parent =>
        makeFolders fuel parent
        match ← request (.makeFolder p) with
        | .ok () => return
        | .error trouble => if ← request (.isFolder p) then return else throw trouble
    | .error trouble => if ← request (.isFolder p) then return else throw trouble

def makeWay (p : Path) : Errand Unit := do
  if let some parent := p.parent? then
    if let .error trouble ← (makeFolders (parent.spelling.length + 1) parent).run then
      throw (trouble.fault.chain (.of "failed to create output directory"
        [("directory path", parent.spelling)]))

def fillFile (p : Path) (bytes : ByteArray) : Errand Unit := do
  match ← request (.create p) with
  | .error trouble =>
    throw (trouble.fault.chain (.of "failed to open/create file for writing"
      [("file path", p.spelling)]))
  | .ok handle =>
    if let .error trouble ← request (.fill handle bytes) then throw trouble.fault

def write (p : Path) (bytes : ByteArray) : Errand Unit := do
  makeWay p
  fillFile p bytes

def copy (source target : Path) : Errand Unit := do
  match ← request (.read source) with
  | .ok bytes => write target bytes
  | .error trouble =>
    throw (trouble.fault.chain (.of "failed to open file for reading"
      [("file path", source.spelling)]))

end Errand

namespace Volume

def serve : (request : Request) → StateM Volume request.Reply
  | .isFile p => fun v => (v.isFile p, v)
  | .isFolder p => fun v => (v.isFolder p, v)
  | .read p => fun v => (v.read p, v)
  | .makeFolder p => fun v =>
    match v.makeFolder p with
    | .ok w => (.ok (), w)
    | .error trouble => (.error trouble, v)
  | .create p => fun v =>
    match v.filePlace p with
    | .ok place => (.ok (.file place), v.put place (.file .empty))
    | .error trouble => (.error trouble, v)
  | .fill handle bytes => fun v =>
    match handle with
    | .file place =>
      match v.at? place with
      | some (.file _) => (.ok (), v.put place (.file bytes))
      | _ => (.error .notFound, v)
    | .other => (.ok (), v)
  | .note _ => fun v => ((), v)

theorem serve_isFile (v : Volume) (p : Path) : serve (.isFile p) v = (v.isFile p, v) := rfl

theorem serve_isFolder (v : Volume) (p : Path) : serve (.isFolder p) v = (v.isFolder p, v) := rfl

theorem serve_read (v : Volume) (p : Path) : serve (.read p) v = (v.read p, v) := rfl

theorem serve_makeFolder (v : Volume) (p : Path) : serve (.makeFolder p) v =
    match v.makeFolder p with
    | .ok w => (.ok (), w)
    | .error trouble => (.error trouble, v) := rfl

theorem serve_create (v : Volume) (p : Path) : serve (.create p) v =
    match v.filePlace p with
    | .ok place => (.ok (.file place), v.put place (.file .empty))
    | .error trouble => (.error trouble, v) := rfl

theorem serve_fill (v : Volume) (place : Location) (bytes : ByteArray) :
    serve (.fill (.file place) bytes) v =
      match v.at? place with
      | some (.file _) => (.ok (), v.put place (.file bytes))
      | _ => (.error .notFound, v) := rfl

def write (p : Path) (bytes : ByteArray) : ExceptT Fault (StateM Volume) Unit :=
  Errand.via serve (Errand.write p bytes)

def copy (source target : Path) : ExceptT Fault (StateM Volume) Unit :=
  Errand.via serve (Errand.copy source target)

end Volume

end Swatchbook
