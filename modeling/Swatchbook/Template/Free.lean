import Swatchbook.Template.Node

/-!
# Free names

The names that a macro takes from the place where it is defined: those that it
uses and has not assigned before. The condition of an escaped part and the
arguments of filters around a part are left out of account, and an assignment
counts before its own expression does.
-/

namespace Swatchbook.Template

mutual

def Expr.names : Expr → List Text
  | .const _ => []
  | .name n => [n]
  | .list items => namesOfAll items
  | .record fields => namesOfFields fields
  | .field e _ => e.names
  | .item e index => e.names ++ index.names
  | .slice e start stop step => e.names ++ start.names ++ stop.names ++ step.names
  | .call e arguments named => e.names ++ namesOfAll arguments ++ namesOfNamed named
  | .filter _ e arguments named => e.names ++ namesOfAll arguments ++ namesOfNamed named
  | .test _ e arguments named => e.names ++ namesOfAll arguments ++ namesOfNamed named
  | .not e => e.names
  | .negate e => e.names
  | .binary _ left right => left.names ++ right.names
  | .choice condition yes no => condition.names ++ yes.names ++ no.names

def namesOfAll : List Expr → List Text
  | [] => []
  | e :: rest => e.names ++ namesOfAll rest

def namesOfFields : List (Expr × Expr) → List Text
  | [] => []
  | (key, e) :: rest => key.names ++ e.names ++ namesOfFields rest

def namesOfNamed : List (Text × Expr) → List Text
  | [] => []
  | (_, e) :: rest => e.names ++ namesOfNamed rest

end

mutual

def Target.names : Target → List Text
  | .name n => [n]
  | .tuple parts => namesOfTargets parts

def namesOfTargets : List Target → List Text
  | [] => []
  | target :: rest => target.names ++ namesOfTargets rest

end

/-- What has been assigned so far, and what has been used without that. -/
structure Usage where
  assigned : List Text
  free : List Text

namespace Usage

def assign (u : Usage) (names : List Text) : Usage := { u with assigned := names ++ u.assigned }

def use (u : Usage) (names : List Text) : Usage :=
  names.foldl
    (fun u n =>
      if u.assigned.contains n || u.free.contains n then u else { u with free := n :: u.free })
    u

/-- What is assigned inside is forgotten behind. -/
def inside (u : Usage) (f : Usage → Usage) : Usage := { f u with assigned := u.assigned }

mutual

def visit (u : Usage) : Node → Usage
  | .data _ => u
  | .output e => u.use e.names
  | .choose condition yes no =>
    let u := u.use condition.names
    let u := u.inside fun u => visitAll u yes
    u.inside fun u => visitAll u no
  | .each target source condition _ body otherwise =>
    let u := u.inside fun u =>
      let u := (u.assign ["loop"]).use source.names
      let u := u.assign target.names
      let u := match condition with
        | some e => u.use e.names
        | none => u
      visitAll u body
    u.inside fun u => visitAll u otherwise
  | .scoped assignments body =>
    u.inside fun u =>
      let u := assignments.foldl (fun u (target, e) => (u.assign target.names).use e.names) u
      visitAll u body
  | .assign target e => (u.assign target.names).use e.names
  | .capture name _ body => (u.assign [name]).inside fun u => visitAll u body
  | .filtered _ body => u.inside fun u => visitAll u body
  | .escaped _ body => u.inside fun u => visitAll u body
  | .block _ | .include .. | .extend _ => u
  | .importAll _ target => u.assign target.names
  | .importNames _ names => u.assign (names.map Prod.snd)
  | .define name parameters defaults body =>
    visitAll (((u.assign [name]).assign parameters).use (namesOfAll defaults)) body
  | .callBlock e arguments named parameters defaults body =>
    let u := u.use (e.names ++ namesOfAll arguments ++ namesOfNamed named)
    visitAll ((u.assign parameters).use (namesOfAll defaults)) body
  | .perform e => u.use e.names

def visitAll (u : Usage) : List Node → Usage
  | [] => u
  | node :: rest => visitAll (visit u node) rest

end

def ofMacro (parameters : List Text) (defaults : List Expr) (body : List Node) : List Text :=
  (visitAll (Usage.use ⟨parameters, []⟩ (namesOfAll defaults)) body).free

end Usage

end Swatchbook.Template
