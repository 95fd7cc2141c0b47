import Swatchbook.Template.Scope

/-!
# Functions

The functions that every template knows, and what macros and loops make of
their arguments.
-/

namespace Swatchbook.Template

/-- A link below a root, escaped for an attribute. -/
def link (root path : Text) : Text := escapeAttribute (root ++ '/' :: path)

/-- More numbers than this are a fault. -/
def rangeLimit : Nat := 10000

def steps (start stop step : Nat) : List Nat :=
  (List.range ((stop - start + step - 1) / step)).map fun i => start + i * step

def range (lower : Value) (upper step : Option Value) : Run Value := do
  let word (v : Value) : Run Nat := do return (← intOf 0 (Int.pow 2 32) v).toNat
  let lower ← word lower
  let upper ← optional word upper
  let step := (← optional word step).getD 1
  if step == 0 then throw .badArgument
  let (start, stop) := match upper with
    | some stop => (lower, stop)
    | none => (0, lower)
  if (stop - start + step - 1) / step > rangeLimit then throw .badArgument
  return .list ((steps start stop step).map fun (n : Nat) => .int n)

def dict (arguments : Arguments) : Run Value := do
  let base ← match ← optionalArgument arguments.positional with
    | none => pure []
    | some (.record fields) => pure fields
    | some _ => throw .wrongKind
  let named := arguments.named.map fun (name, v) => (Value.plain name, v)
  return .ofFields (base ++ named)

def debug (scope : Scope) (arguments : List Value) : Value :=
  match arguments with
  | [] => .plain ((Value.ofNames (scope.frames.flatMap Frame.names)).layout 0)
  | [v] => .plain (v.layout 0)
  | vs => .plain ((Value.list vs).layout 0)

def callFunction (scope : Scope) (f : Function) (arguments : Arguments) : Run Value :=
  match f with
  | .url => do
    let path ← textOf (← oneArgument arguments.values)
    match scope.find? "root" with
    | none | some .undefined => throw .missingRoot
    | some root => return .markup (link (root.text?.getD ".") path)
  | .range =>
    match arguments.values with
    | [] => .error .missingArgument
    | [lower] => range lower none none
    | [lower, upper] => range lower (some upper) none
    | [lower, upper, step] => range lower (some upper) (some step)
    | _ => .error .surplusArgument
  | .dict => dict arguments
  | .debug => .ok (debug scope arguments.values)

def bindParameter (arguments : Arguments) (place : Nat) (name : Text) : Run Value :=
  match arguments.positional[place]?, arguments.named? name with
  | some _, some _ => .error (.repeatedArgument name)
  | some v, none | none, some v => .ok v
  | none, none => .ok .undefined

def bindParameters (signature : Signature) (arguments : Arguments) : Run (List Value) := do
  if arguments.positional.length > signature.parameters.length then throw .surplusArgument
  let values ← signature.parameters.zipIdx.mapM fun (name, i) => bindParameter arguments i name
  let known (name : Text) : Bool :=
    signature.parameters.contains name || (signature.calls && name == "caller")
  match arguments.named.find? fun (name, _) => !known name with
  | some (name, _) => throw (.unknownArgument name)
  | none => return values

def callLoop (place : Nat) (round : Round) (name : Text) (arguments : List Value) : Running Value :=
  if name == "changed" then do return .bool (← Running.changed place arguments)
  else if name == "cycle" then
    match arguments[round.index % arguments.length]? with
    | some v => return v
    | none => throw .missingArgument
  else throw (.unknownMethod name)

end Swatchbook.Template
