import Swatchbook.Template.Argument

/-!
# Tests

What can be asked of a value behind `is`, and of the items of a list by the
filters that select among them.
-/

namespace Swatchbook.Template

abbrev Test := Value → List Value → Run Bool

namespace Test

def plain (p : Value → Bool) : Test := fun v arguments => do
  noArgument arguments
  return p v

def binary (p : Value → Value → Run Bool) : Test := fun v arguments => do
  p v (← oneArgument arguments)

def ofOrder (p : Ordering → Bool) : Test := binary fun a b => pure (p (a.order b))

def ofTexts (p : Text → Text → Bool) : Test := binary fun a b => pure (p a.display b.display)

/-- Whether a whole number leaves a remainder by two. -/
def parity (odd : Bool) : Test := plain fun v =>
  (v.int?.map fun n => (n % 2 != 0) == odd).getD false

def divides (a b : Value) : Bool :=
  match a.pair? b with
  | some (.ints m n) => n != 0 && m % n == 0
  | some (.floats x y) => Text.Decimal.remainder x y == 0
  | _ => false

def isSequence : Value → Bool
  | .list _ => true
  | _ => false

def isInteger : Value → Bool
  | .int _ => true
  | _ => false

def isFloat : Value → Bool
  | .float _ => true
  | _ => false

def isBool (b : Bool) : Value → Bool
  | .bool c => b == c
  | _ => false

/-- The names of the filters, about which a test can be asked. -/
def filterNames : List String := ["safe", "escape", "e", "lower", "upper", "title", "capitalize",
  "replace", "length", "count", "dictsort", "items", "reverse", "trim", "join", "default", "d",
  "round", "abs", "int", "float", "attr", "first", "last", "min", "max", "sort", "list", "bool",
  "batch", "slice", "indent", "select", "reject", "selectattr", "rejectattr", "map", "unique",
  "pprint", "deslug", "split"]

/-- The tests that ask nothing about filters and tests. -/
def basic : List (String × Test) := [
  ("undefined", plain Value.isUndefined),
  ("defined", plain (!·.isUndefined)),
  ("none", plain Value.isNone),
  ("safe", plain Value.isSafe),
  ("escaped", plain Value.isSafe),
  ("odd", parity true),
  ("even", parity false),
  ("divisibleby", binary fun a b => pure (divides a b)),
  ("number", plain Value.isNumber),
  ("integer", plain isInteger),
  ("int", plain isInteger),
  ("float", plain isFloat),
  ("string", plain (·.text?.isSome)),
  ("sequence", plain isSequence),
  ("iterable", plain (·.items?.isSome)),
  ("mapping", plain (·.fields?.isSome)),
  ("boolean", plain fun v => isBool true v || isBool false v),
  ("true", plain (isBool true)),
  ("false", plain (isBool false)),
  ("startingwith", ofTexts fun t lead => (Text.after? lead t).isSome),
  ("endingwith", ofTexts fun t trail => trail.isSuffixOf t),
  ("eq", binary fun a b => pure (a.equal b)),
  ("equalto", binary fun a b => pure (a.equal b)),
  ("==", binary fun a b => pure (a.equal b)),
  ("ne", binary fun a b => pure !(a.equal b)),
  ("!=", binary fun a b => pure !(a.equal b)),
  ("lt", ofOrder (· == .lt)),
  ("lessthan", ofOrder (· == .lt)),
  ("<", ofOrder (· == .lt)),
  ("le", ofOrder (· != .gt)),
  ("<=", ofOrder (· != .gt)),
  ("gt", ofOrder (· == .gt)),
  ("greaterthan", ofOrder (· == .gt)),
  (">", ofOrder (· == .gt)),
  ("ge", ofOrder (· != .lt)),
  (">=", ofOrder (· != .lt)),
  ("in", binary fun a b => orFault .badOperand (b.holds? a))]

/-- Whether a name, and nothing but a name, is one of some. -/
def isAmong (names : List String) (v : Value) : Run Bool := do
  return names.contains (String.ofList (← textOf v))

def names : List String := "filter" :: "test" :: basic.map Prod.fst

def all : List (String × Test) :=
  ("filter", fun v arguments => do noArgument arguments; isAmong filterNames v) ::
    ("test", fun v arguments => do noArgument arguments; isAmong names v) :: basic

def find (name : Text) : Run Test := orFault (.unknownTest name) (all.lookup (String.ofList name))

end Test

end Swatchbook.Template
