import Swatchbook.Template.Argument
import Swatchbook.Template.Node

/-!
# Scopes

Where a running template is: frames of names, the innermost first, and what it
has put out. A loop has a frame of its own, which lasts through all its rounds.
Macros keep what they need of the frame they are defined in; what is assigned
there later they see, too. So these names are held apart from the frames, as
are the loops and the macros that values refer to.
-/

namespace Swatchbook.Template

abbrev Names := List (Text × Value)

/-- Gives a name a value, in place of one it has. -/
def Names.store (names : Names) (name : Text) (v : Value) : Names :=
  (name, v) :: names.filter fun entry => entry.1 != name

/-- The loop of a frame: its place, and what a recursive call runs again. -/
structure LoopFrame where
  place : Nat
  again : Option (Target × List Node)

structure Frame where
  names : Names := []
  loop : Option LoopFrame := none
  /-- The names that the macros defined in this frame share. -/
  closure : Option Nat := none

structure LoopState where
  round : Round
  /-- The last values that it was asked about a change of. -/
  seen : Option (List Value)

structure Routine where
  signature : Signature
  /-- Those of the last parameters. -/
  defaults : List Expr
  body : List Node
  closure : Nat

structure Scope where
  frames : List Frame
  /-- How deep the frames are inside others that cannot be seen. -/
  outer : Nat := 0
  loops : Array LoopState := #[]
  routines : Array Routine := #[]
  closures : Array Names := #[]
  /-- Whether output is escaped. -/
  escapes : Bool := true
  /-- Whether blocks can be called. -/
  hasBlocks : Bool := true
  /-- Whether what is put out is thrown away. -/
  discards : Bool := false
  /-- What has been put out, the last first. -/
  out : List Text := []

/-- Running changes a scope or stops at a fault. -/
abbrev Running := StateT Scope (Except RunFault)

namespace Scope

def loopValue? (scope : Scope) (place : Nat) : Option Value :=
  scope.loops[place]?.map fun l => .loop place l.round

/-- A loop is always seen in its present round. -/
def refresh (scope : Scope) (v : Value) : Value :=
  match v with
  | .loop place _ => (scope.loopValue? place).getD v
  | v => v

def frameValue? (scope : Scope) (name : Text) (frame : Frame) : Option Value :=
  match frame.names.lookup name with
  | some v => some v
  | none => if name == "loop" then frame.loop.bind fun l => scope.loopValue? l.place else none

/-- What a name means in the innermost frame that knows it, or everywhere. -/
def find? (scope : Scope) (name : Text) : Option Value :=
  match scope.frames.findSome? (scope.frameValue? name) with
  | some v => some (scope.refresh v)
  | none => (Function.all.find? (·.name == name)).map .function

def loop? (scope : Scope) : Option LoopFrame := scope.frames.findSome? Frame.loop

def depth (scope : Scope) : Nat := scope.outer + scope.frames.length

/-- More frames than this are a fault. -/
def limit : Nat := 500

def assign (scope : Scope) (name : Text) (v : Value) : Scope :=
  match scope.frames with
  | [] => scope
  | frame :: rest =>
    let closures := match frame.closure with
      | some place => scope.closures.modify place (·.store name v)
      | none => scope.closures
    { scope with frames := { frame with names := frame.names.store name v } :: rest, closures }

/-- Keeps names for the macros of the innermost frame, unless they have them. -/
def enclose (scope : Scope) (names : List Text) : Scope × Nat :=
  match scope.frames with
  | [] => (scope, 0)
  | frame :: rest =>
    let place := frame.closure.getD scope.closures.size
    let closures := if frame.closure.isSome then scope.closures else scope.closures.push []
    let missing (known : Names) (name : Text) : Names :=
      if (known.lookup name).isSome then known
      else (name, (scope.find? name).getD .undefined) :: known
    let closures := closures.modify place fun known => names.foldl missing known
    ({ scope with frames := { frame with closure := some place } :: rest, closures }, place)

end Scope

namespace Running

def push (frame : Frame) : Running Unit := do
  let scope ← get
  if Scope.limit < scope.depth then throw .tooDeep
  set { scope with frames := frame :: scope.frames }

def pop : Running Unit := modify fun scope => { scope with frames := scope.frames.tail }

def framed {α : Type} (frame : Frame) (action : Running α) : Running α := do
  push frame
  let a ← action
  pop
  return a

def assign (name : Text) (v : Value) : Running Unit := modify fun scope => scope.assign name v

def put (t : Text) : Running Unit := modify fun scope => { scope with out := t :: scope.out }

/-- Puts a value out, escaped if that is asked for. -/
def emit (v : Value) : Running Unit := do
  put (if (← get).escapes then v.written else v.display)

/-- What an action puts out, as a value. It is markup if output is escaped. -/
def capture (action : Running Unit) : Running Value := do
  let before ← get
  set { before with out := [], discards := false }
  action
  let after ← get
  set { after with out := before.out, discards := before.discards }
  return .text after.escapes after.out.reverse.flatten

def silently {α : Type} (action : Running α) : Running α := do
  let before ← get
  set { before with out := [], discards := true }
  let a ← action
  modify fun after => { after with out := before.out, discards := before.discards }
  return a

mutual

/-- Gives the parts of a value to the parts of a target. -/
def unpack : Target → Value → Running Unit
  | .name n, v => assign n v
  | .tuple parts, .list items => unpackAll parts items
  | .tuple _, _ => throw .cannotUnpack

def unpackAll : List Target → List Value → Running Unit
  | [], [] => return ()
  | part :: parts, v :: items => do
    unpack part v
    unpackAll parts items
  | _, _ => throw .cannotUnpack

end

def addLoop (round : Round) : Running Nat := do
  let scope ← get
  set { scope with loops := scope.loops.push ⟨round, none⟩ }
  return scope.loops.size

def setIndex (place index : Nat) : Running Unit := modify fun scope =>
  { scope with loops := scope.loops.modify place fun l => { l with round.index := index } }

/-- Whether the values differ from those that the loop was asked about last. -/
def changed (place : Nat) (values : List Value) : Running Bool := do
  let scope ← get
  let same := match scope.loops[place]?.bind LoopState.seen with
    | some seen => Value.equalAll seen values
    | none => false
  if same then return false
  set { scope with loops := scope.loops.modify place fun l => { l with seen := some values } }
  return true

def addRoutine (signature : Signature) (defaults : List Expr) (body : List Node)
    (free : List Text) : Running Value := do
  let (scope, closure) := (← get).enclose free
  set { scope with routines := scope.routines.push ⟨signature, defaults, body, closure⟩ }
  return .routine scope.routines.size signature

end Running

end Swatchbook.Template
