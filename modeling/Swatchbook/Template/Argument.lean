import Swatchbook.Template.Value

/-!
# Arguments

What filters, tests, functions and macros are called with, and what can go
wrong when a template runs. An argument that is undefined or none counts as
missing where it is optional.
-/

namespace Swatchbook.Template

inductive RunFault
  | unknownFilter (name : Text)
  | unknownTest (name : Text)
  | unknownFunction (name : Text)
  | unknownMethod (name : Text)
  | unknownBlock (name : Text)
  | unknownArgument (name : Text)
  | repeatedArgument (name : Text)
  | missingArgument
  | surplusArgument
  | wrongKind
  | badArgument
  | undefinedField (name : Text)
  | notIterable
  | cannotUnpack
  | badOperand
  | overflow
  | notCallable
  | noLoop
  | notRecursive
  | noParent
  | missingTemplate
  | missingRoot
  | tooDeep
  deriving DecidableEq

def RunFault.message : RunFault → Text
  | .unknownFilter name => "unknown filter: " ++ name
  | .unknownTest name => "unknown test: " ++ name
  | .unknownFunction name => "unknown function: " ++ name
  | .unknownMethod name => "unknown method: " ++ name
  | .unknownBlock name => "unknown block: " ++ name
  | .unknownArgument name => "unknown keyword argument: " ++ name
  | .repeatedArgument name => "duplicate argument: " ++ name
  | .missingArgument => "missing argument"
  | .surplusArgument => "too many arguments"
  | .wrongKind => "value of the wrong kind"
  | .badArgument => "invalid argument"
  | .undefinedField name => "undefined value has no field " ++ name
  | .notIterable => "value is not iterable"
  | .cannotUnpack => "cannot unpack value"
  | .badOperand => "unsupported operand"
  | .overflow => "number out of range"
  | .notCallable => "value is not callable"
  | .noLoop => "cannot recurse outside of loop"
  | .notRecursive => "cannot recurse outside of recursive loop"
  | .noParent => "no parent block exists"
  | .missingTemplate => "template not found"
  | .missingRoot => "expected root in context but it was not found"
  | .tooDeep => "recursion limit exceeded"

abbrev Run (α : Type) := Except RunFault α

def orFault {α : Type} (fault : RunFault) : Option α → Run α
  | some a => .ok a
  | none => .error fault

structure Arguments where
  positional : List Value
  named : List (Text × Value)

namespace Arguments

/-- Arguments by name are one record behind the others, if they are not asked for. -/
def values (a : Arguments) : List Value :=
  if a.named.isEmpty then a.positional else a.positional ++ [.ofNames a.named]

/-- The argument with a name; the last one counts. -/
def named? (a : Arguments) (name : Text) : Option Value :=
  (a.named.reverse.find? fun (key, _) => key == name).map Prod.snd

/-- No arguments by place, and only these by name. -/
def allow (a : Arguments) (names : List Text) : Run Unit := do
  if !a.positional.isEmpty then throw .surplusArgument
  match a.named.find? fun (key, _) => !names.contains key with
  | some (key, _) => throw (.unknownArgument key)
  | none => return ()

end Arguments

def textOf (v : Value) : Run Text := orFault .wrongKind v.text?

def boolOf : Value → Run Bool
  | .bool b => .ok b
  | _ => .error .wrongKind

/-- A whole number between bounds, the upper one excluded. -/
def intOf (low high : Int) (v : Value) : Run Int :=
  match v.int? with
  | some n => if low ≤ n && n < high then .ok n else .error .wrongKind
  | none => .error .wrongKind

/-- A place or a count: a number of 64 bits without a sign. -/
def countOf (v : Value) : Run Nat := do return (← intOf 0 (Int.pow 2 64) v).toNat

def itemsOf (v : Value) : Run (List Value) := orFault .notIterable v.items?

def optional {α : Type} (convert : Value → Run α) : Option Value → Run (Option α)
  | none => .ok none
  | some v => if v.isMissing then .ok none else some <$> convert v

def noArgument : List Value → Run Unit
  | [] => .ok ()
  | _ => .error .surplusArgument

def oneArgument : List Value → Run Value
  | [] => .error .missingArgument
  | [v] => .ok v
  | _ => .error .surplusArgument

def optionalArgument : List Value → Run (Option Value)
  | [] => .ok none
  | [v] => optional pure (some v)
  | _ => .error .surplusArgument

end Swatchbook.Template
