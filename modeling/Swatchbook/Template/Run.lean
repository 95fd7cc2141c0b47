import Swatchbook.Template.Arithmetic
import Swatchbook.Template.Filter
import Swatchbook.Template.Free
import Swatchbook.Template.Function
import Swatchbook.Template.Reader

/-!
# Running templates

Expressions are evaluated and nodes executed in a scope. A recursive loop can be
called again from inside; the call runs the body over other items, on top of the
frames that are there. A macro runs in a frame that holds its closure, and sees
no other. There is one template, which can include itself by its name.
-/

namespace Swatchbook.Template

open Running

/-- The name of the template itself. -/
def ownName : Text := "page.html"

/-- Whether one of these names is the template's own. Those before it are missing;
a name is a text. -/
def findOwn : List Value → Run Bool
  | [] => .ok false
  | v :: rest => do
    if (← textOf v) == ownName then return true else findOwn rest

/-- How much deeper a macro or an included template is than its caller. -/
def macroCost : Nat := 5

def includeCost : Nat := 10

/-- What escaping turns into by a value. -/
def escapesBy (v : Value) : Run Bool :=
  match v with
  | .text _ t =>
    if t == "html" then .ok true else if t == "none" then .ok false else .error .badArgument
  | v => .ok (v.equal (.bool true))

def partOf (v : Value) (found : Option Value) (name : Text) : Run Value :=
  match found with
  | some part => .ok part
  | none => if v.isUndefined then .error (.undefinedField name) else .ok .undefined

/-- The signature of a macro and its free names. It uses its caller if that is
one of them. -/
def signatureOf (name : Text) (parameters : List Text) (defaults : List Expr) (body : List Node) :
    Signature × List Text :=
  let free := Usage.ofMacro parameters defaults body
  (⟨name, parameters, free.contains "caller"⟩, free.filter (· != "caller"))

def define (name : Text) (parameters : List Text) (defaults : List Expr) (body : List Node) :
    Running Value :=
  let (signature, free) := signatureOf name parameters defaults body
  addRoutine signature defaults body free

def macroFrame (routine : Routine) (scope : Scope) (arguments : Arguments) : Frame :=
  let known := (scope.closures[routine.closure]?).getD []
  let caller := if routine.signature.calls
    then [(("caller" : Text), (arguments.named? "caller").getD .undefined)] else []
  { names := caller ++ known }

/-- The parameters of a macro with their values and defaults, the last first. -/
def Routine.slots (routine : Routine) (values : List Value) : List (Text × Value × Option Expr) :=
  let defaults := routine.defaults.reverse
  (routine.signature.parameters.zip values).reverse.zipIdx.map fun ((name, v), i) =>
    (name, v, defaults[i]?)

mutual

def evaluate (template : Template) : Nat → Expr → Running Value
  | 0, _ => throw .tooDeep
  | fuel + 1, e => do
    match e with
    | .const v => return v
    | .name n => return ((← get).find? n).getD .undefined
    | .list items => return .list (← items.mapM (evaluate template fuel))
    | .record fields =>
      let fields ← fields.mapM fun (key, e) => do
        let key ← evaluate template fuel key
        let v ← evaluate template fuel e
        return (key, v)
      return .ofFields fields
    | .field e name =>
      let v ← evaluate template fuel e
      partOf v (v.field? name) name
    | .item e index =>
      let v ← evaluate template fuel e
      let index ← evaluate template fuel index
      partOf v (v.item? index) index.display
    | .slice e start stop step =>
      let v ← evaluate template fuel e
      let start ← evaluate template fuel start
      let stop ← evaluate template fuel stop
      let step ← evaluate template fuel step
      slice v start stop step
    | .call e arguments named => call template fuel e arguments named []
    | .filter name e arguments named =>
      let v ← evaluate template fuel e
      let arguments ← evaluateArguments template fuel arguments named
      Filter.apply name v arguments.named arguments.positional
    | .test name e arguments named =>
      let v ← evaluate template fuel e
      let arguments ← evaluateArguments template fuel arguments named
      return .bool (← (← Test.find name) v arguments.values)
    | .not e => return .bool !(← evaluate template fuel e).isTrue
    | .negate e => negate (← evaluate template fuel e)
    | .binary .either left right =>
      let v ← evaluate template fuel left
      if v.isTrue then return v else evaluate template fuel right
    | .binary .both left right =>
      let v ← evaluate template fuel left
      if v.isTrue then evaluate template fuel right else return v
    | .binary op left right =>
      let a ← evaluate template fuel left
      let b ← evaluate template fuel right
      operate op a b
    | .choice condition yes no =>
      let v ← evaluate template fuel condition
      if v.isTrue then evaluate template fuel yes else evaluate template fuel no

def evaluateArguments (template : Template) : Nat → List Expr → List (Text × Expr) →
    Running Arguments
  | 0, _, _ => throw .tooDeep
  | fuel + 1, arguments, named => do
    let positional ← arguments.mapM (evaluate template fuel)
    let named ← named.mapM fun (key, e) => do
      let v ← evaluate template fuel e
      return (key, v)
    return ⟨positional, named⟩

/-- Calls what an expression stands for: the enclosing loop, a block, a method, or
a value. A call block adds its body by name. -/
def call (template : Template) : Nat → Expr → List Expr → List (Text × Expr) →
    List (Text × Value) → Running Value
  | 0, _, _, _, _ => throw .tooDeep
  | fuel + 1, .name n, arguments, named, added => do
    let arguments ← evaluateArguments template fuel arguments named
    let arguments := { arguments with named := arguments.named ++ added }
    if n == "super" then throw .noParent
    else if n == "loop" then
      let source ← oneArgument arguments.values
      capture (recur template fuel source)
    else callValue template fuel (← orFault (.unknownFunction n) ((← get).find? n)) arguments
  | fuel + 1, .field e n, arguments, named, added => do
    match e with
    | .name base =>
      if base == "self" then capture (runBlock template fuel n)
      else callMethod template fuel e n arguments named added
    | e => callMethod template fuel e n arguments named added
  | fuel + 1, e, arguments, named, added => do
    let v ← evaluate template fuel e
    let arguments ← evaluateArguments template fuel arguments named
    callValue template fuel v { arguments with named := arguments.named ++ added }

def callMethod (template : Template) : Nat → Expr → Text → List Expr → List (Text × Expr) →
    List (Text × Value) → Running Value
  | 0, _, _, _, _, _ => throw .tooDeep
  | fuel + 1, e, name, arguments, named, added => do
    let v ← evaluate template fuel e
    let arguments ← evaluateArguments template fuel arguments named
    let arguments := { arguments with named := arguments.named ++ added }
    match v with
    | .loop place round => callLoop place round name arguments.values
    | .record _ => callValue template fuel ((v.field? name).getD .undefined) arguments
    | _ => throw (.unknownMethod name)

def callValue (template : Template) : Nat → Value → Arguments → Running Value
  | 0, _, _ => throw .tooDeep
  | fuel + 1, v, arguments => do
    match v with
    | .function f => callFunction (← get) f arguments
    | .routine place _ =>
      let routine ← orFault .notCallable ((← get).routines[place]?)
      callRoutine template fuel routine arguments
    | _ => throw .notCallable

/-- Runs a macro in a frame of its own. Parameters get their values from the last
on, so a default sees only the parameters behind it. -/
def callRoutine (template : Template) : Nat → Routine → Arguments → Running Value
  | 0, _, _ => throw .tooDeep
  | fuel + 1, routine, arguments => do
    let values ← bindParameters routine.signature arguments
    let before ← get
    let outer := before.depth + macroCost
    if Scope.limit < outer + 1 then throw .tooDeep
    set { before with frames := [macroFrame routine before arguments], outer, hasBlocks := false }
    let result ← capture do
      (routine.slots values).forM fun (name, v, default) => do
        match v, default with
        | .undefined, some e => assign name (← evaluate template fuel e)
        | v, _ => assign name v
      routine.body.forM (execute template fuel)
    modify fun after =>
      { after with frames := before.frames, outer := before.outer, hasBlocks := before.hasBlocks }
    return result

/-- Calls the enclosing loop again, over other items. -/
def recur (template : Template) : Nat → Value → Running Unit
  | 0, _ => throw .tooDeep
  | fuel + 1, source => do
    let running ← orFault .noLoop (← get).loop?
    let (target, body) ← orFault .notRecursive running.again
    let _ ← repeatBody template fuel target running.again body source

/-- Runs a body once for each item, in one frame. -/
def repeatBody (template : Template) : Nat → Target → Option (Target × List Node) → List Node →
    Value → Running Nat
  | 0, _, _, _, _ => throw .tooDeep
  | fuel + 1, target, again, body, source => do
    let items ← itemsOf source
    let scope ← get
    let depth := match scope.loop? with
      | some outer =>
        if outer.again.isSome then
          ((scope.loops[outer.place]?).map (·.round.depth + 1)).getD 0 else 0
      | none => 0
    let place ← addLoop ⟨0, items.length, depth⟩
    framed { loop := some ⟨place, again⟩ } do
      items.zipIdx.forM fun (item, i) => do
        setIndex place i
        unpack target item
        body.forM (execute template fuel)
    return items.length

/-- Runs a block. Nothing is run whose output is thrown away. -/
def runBlock (template : Template) : Nat → Text → Running Unit
  | 0, _ => throw .tooDeep
  | fuel + 1, name => do
    let scope ← get
    if scope.discards then return ()
    if !scope.hasBlocks then throw (.unknownBlock name)
    let body ← orFault (.unknownBlock name) (template.blocks.lookup name)
    framed {} do body.forM (execute template fuel)

def passThrough (template : Template) : Nat → List Stage → Value → Running Value
  | 0, _, _ => throw .tooDeep
  | fuel + 1, stages, v =>
    stages.foldlM
      (fun v stage => do
        let arguments ← evaluateArguments template fuel stage.arguments stage.named
        Filter.apply stage.name v arguments.named arguments.positional)
      v

/-- Runs the template itself, if it is the one that is named. -/
def runIncluded (template : Template) : Nat → Value → Bool → Running Unit
  | 0, _, _ => throw .tooDeep
  | fuel + 1, v, ignoreMissing => do
    let choices := v.list?.getD [v]
    if ← findOwn choices then
      let before ← get
      if Scope.limit < before.depth + includeCost then throw .tooDeep
      let hide (closure : Option Nat) (frames : List Frame) : List Frame :=
        match frames with
        | [] => []
        | frame :: rest => { frame with closure } :: rest
      let closure := before.frames.head?.bind Frame.closure
      set { before with
        frames := hide none before.frames, outer := before.outer + includeCost, escapes := true,
        hasBlocks := true }
      template.nodes.forM (execute template fuel)
      modify fun after => { after with
        frames := hide closure after.frames, outer := before.outer, escapes := before.escapes,
        hasBlocks := before.hasBlocks }
    else if choices.isEmpty || ignoreMissing then return ()
    else throw .missingTemplate

def choose (template : Template) : Nat → Target → Expr → Value → Running Value
  | 0, _, _, _ => throw .tooDeep
  | fuel + 1, target, condition, source => do
    let items ← itemsOf source
    framed {} do
      let kept ← items.filterM fun item => do
        unpack target item
        return (← evaluate template fuel condition).isTrue
      return .list kept

def execute (template : Template) : Nat → Node → Running Unit
  | 0, _ => throw .tooDeep
  | fuel + 1, node => do
    match node with
    | .data t => put t
    | .output e => emit (← evaluate template fuel e)
    | .choose condition yes no =>
      let v ← evaluate template fuel condition
      (if v.isTrue then yes else no).forM (execute template fuel)
    | .each target source condition recursive body otherwise =>
      let source ← evaluate template fuel source
      let source ← match condition with
        | none => pure source
        | some condition => choose template fuel target condition source
      let again := if recursive then some (target, body) else none
      let rounds ← repeatBody template fuel target again body source
      if rounds == 0 then otherwise.forM (execute template fuel)
    | .scoped assignments body =>
      framed {} do
        assignments.forM fun (target, e) => do unpack target (← evaluate template fuel e)
        body.forM (execute template fuel)
    | .assign target e => unpack target (← evaluate template fuel e)
    | .capture name stages body =>
      let v ← capture (body.forM (execute template fuel))
      assign name (← passThrough template fuel stages v)
    | .filtered stages body =>
      let v ← capture (body.forM (execute template fuel))
      emit (← passThrough template fuel stages v)
    | .escaped condition body =>
      let before := (← get).escapes
      let escapes ← escapesBy (← evaluate template fuel condition)
      modify fun scope => { scope with escapes }
      body.forM (execute template fuel)
      modify fun scope => { scope with escapes := before }
    | .block name => runBlock template fuel name
    | .include e ignoreMissing =>
      runIncluded template fuel (← evaluate template fuel e) ignoreMissing
    | .extend e =>
      let _ ← evaluate template fuel e
      throw .missingTemplate
    | .importAll e target =>
      let names ← silently (framed {} do
        runIncluded template fuel (← evaluate template fuel e) false
        return ((← get).frames.head?.map Frame.names).getD [])
      unpack target (.ofNames names)
    | .importNames e names =>
      let values ← silently (framed {} do
        runIncluded template fuel (← evaluate template fuel e) false
        names.mapM fun (name, other) => do
          return (other, ((← get).find? name).getD .undefined))
      values.forM fun (other, v) => assign other v
    | .define name parameters defaults body =>
      assign name (← define name parameters defaults body)
    | .callBlock e arguments named parameters defaults body =>
      let caller ← define "caller" parameters defaults body
      emit (← call template fuel e arguments named [("caller", caller)])
    | .perform e =>
      let _ ← evaluate template fuel e

end

/-- Runs a template with names for its values. Nodes nest no deeper than the
template is long, and frames no deeper than their limit. -/
def run (template : Template) (names : Names) : Run Text := do
  let fuel := (8 * template.depth + 64) * (Scope.limit + 2)
  let (_, scope) ← (template.nodes.forM (execute template fuel)).run { frames := [{ names }] }
  return scope.out.reverse.flatten

end Swatchbook.Template
