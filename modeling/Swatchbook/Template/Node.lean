import Swatchbook.Template.Value

/-!
# Template nodes

The expressions of a template and the nodes it consists of.
-/

namespace Swatchbook.Template

inductive Operator
  | either | both | eq | ne | lt | le | gt | ge | isIn | add | sub | mul | div | quotient | remainder
  | power | concat
  deriving DecidableEq

/-- Arguments stand in two lists: those by place, then those by name. -/
inductive Expr
  | const (v : Value)
  | name (n : Text)
  | list (items : List Expr)
  | record (fields : List (Expr × Expr))
  | field (e : Expr) (name : Text)
  | item (e index : Expr)
  | slice (e start stop step : Expr)
  | call (e : Expr) (arguments : List Expr) (named : List (Text × Expr))
  | filter (name : Text) (e : Expr) (arguments : List Expr) (named : List (Text × Expr))
  | test (name : Text) (e : Expr) (arguments : List Expr) (named : List (Text × Expr))
  | not (e : Expr)
  | negate (e : Expr)
  | binary (op : Operator) (left right : Expr)
  | choice (condition yes no : Expr)

/-- What a loop or an assignment gives values to. -/
inductive Target
  | name (n : Text)
  | tuple (parts : List Target)

/-- A filter with its arguments, which waits for a value. -/
structure Stage where
  name : Text
  arguments : List Expr
  named : List (Text × Expr)

inductive Node
  | data (t : Text)
  | output (e : Expr)
  | choose (condition : Expr) (yes no : List Node)
  | each (target : Target) (source : Expr) (condition : Option Expr) (recursive : Bool)
      (body otherwise : List Node)
  /-- Names for its body alone. -/
  | scoped (assignments : List (Target × Expr)) (body : List Node)
  | assign (target : Target) (e : Expr)
  /-- Gives a name to the output of its body, after the filters. -/
  | capture (name : Text) (filters : List Stage) (body : List Node)
  | filtered (filters : List Stage) (body : List Node)
  | escaped (condition : Expr) (body : List Node)
  /-- The block with a name, where it stands. -/
  | block (name : Text)
  | include (e : Expr) (ignoreMissing : Bool)
  | extend (e : Expr)
  /-- Another template's names, as a record. -/
  | importAll (e : Expr) (target : Target)
  /-- Some of another template's names, each with the name it gets here. -/
  | importNames (e : Expr) (names : List (Text × Text))
  /-- A macro. The defaults are those of the last parameters. -/
  | define (name : Text) (parameters : List Text) (defaults : List Expr) (body : List Node)
  /-- A call that is handed its body as a macro. -/
  | callBlock (e : Expr) (arguments : List Expr) (named : List (Text × Expr))
      (parameters : List Text) (defaults : List Expr) (body : List Node)
  | perform (e : Expr)

end Swatchbook.Template

namespace Swatchbook

structure Template where
  nodes : List Template.Node
  blocks : List (Text × List Template.Node)
  /-- How deep the nodes can nest, at most. -/
  depth : Nat

end Swatchbook
