import Swatchbook.Template.Node
import Swatchbook.Template.Token

/-!
# Reading templates

From tokens to nodes. Operators bind, from the loosest on: the inline choice,
`or`, `and`, `not`, comparisons, sums, joining, products, powers, the minus, and
then fields, items, calls, filters and tests. Comparisons are not chained.
-/

namespace Swatchbook.Template

/-- What is left to read, and what has been met on the way. -/
structure ReaderState where
  tokens : List Token
  /-- How many expressions, operands and tags are being read inside each other. -/
  depth : Nat
  inMacro : Bool
  blockNames : List Text
  blocks : List (Text × List Node)

abbrev Reading := StateT ReaderState (Except SyntaxFault)

namespace Reading

def fail {α : Type} (fault : SyntaxFault) : Reading α := throw fault

def peek : Reading (Option Token) := do return (← get).tokens.head?

def skip : Reading Unit := modify fun s => { s with tokens := s.tokens.tail }

/-- Consumes a token if it comes next. -/
def accept (token : Token) : Reading Bool := do
  if (← peek) == some token then
    skip
    return true
  else return false

/-- Consumes a token that belongs to one level of operators, if that level is being read. -/
def acceptAt (level own : Nat) (token : Token) : Reading Bool :=
  if level == own then accept token else return false

def take : Reading Token := do
  match ← peek with
  | none => fail .unexpectedEnd
  | some token =>
    skip
    return token

def expect (token : Token) : Reading Unit := do
  let found ← take
  if found != token then fail (.unexpected found)

def takeName : Reading Text := do
  match ← take with
  | .name n => return n
  | token => fail (.unexpected token)

def word (s : Text) : Token := .name s

/-- Expressions, operands and tags nest no deeper than this. -/
def limit : Nat := 150

def nested {α : Type} (inner : Reading α) : Reading α := do
  let before ← get
  if before.depth ≥ limit then fail .tooDeep
  set { before with depth := before.depth + 1 }
  let a ← inner
  modify fun s => { s with depth := s.depth - 1 }
  return a

end Reading

open Reading

/-- How tightly operators bind; the numbers only order them. -/
def operatorAt (level : Nat) (token : Token) : Option Operator :=
  match level, token with
  | 0, .name n => if n == "or" then some .either else none
  | 1, .name n => if n == "and" then some .both else none
  | 2, .sign .eq => some .eq
  | 2, .sign .ne => some .ne
  | 2, .sign .lt => some .lt
  | 2, .sign .le => some .le
  | 2, .sign .gt => some .gt
  | 2, .sign .ge => some .ge
  | 2, .name n => if n == "in" then some .isIn else none
  | 3, .sign .plus => some .add
  | 3, .sign .minus => some .sub
  | 4, .sign .tilde => some .concat
  | 5, .sign .times => some .mul
  | 5, .sign .slash => some .div
  | 5, .sign .doubleSlash => some .quotient
  | 5, .sign .percent => some .remainder
  | 6, .sign .power => some .power
  | _, _ => none

/-- Names that stand for themselves and cannot be given a value. -/
def reservedNames : List Text :=
  ["true", "True", "false", "False", "none", "None", "loop", "self"]

def nameExpr (n : Text) : Expr :=
  if n == "true" || n == "True" then .const (.bool true)
  else if n == "false" || n == "False" then .const (.bool false)
  else if n == "none" || n == "None" then .const .none
  else .name n

/-- More arguments than this are a fault. -/
def argumentLimit : Nat := 2000

abbrev ArgumentList := List Expr × List (Text × Expr)

mutual

def readExpr : Nat → Reading Expr
  | 0 => fail .tooDeep
  | fuel + 1 => nested do readChoice fuel (← readLevel fuel 0)

def readChoice : Nat → Expr → Reading Expr
  | 0, _ => fail .tooDeep
  | fuel + 1, yes => do
    if ← accept (word "if") then
      let condition ← readLevel fuel 0
      let no ← if ← accept (word "else") then do readChoice fuel (← readLevel fuel 0)
        else pure (.const .undefined)
      readChoice fuel (.choice condition yes no)
    else return yes

/-- An expression without operators looser than a level. -/
def readLevel : Nat → Nat → Reading Expr
  | 0, _ => fail .tooDeep
  | fuel + 1, level => do
    if level == 7 then readSuffixed fuel
    else if ← acceptAt level 2 (word "not") then
      let e ← readLevel fuel 2
      return .not e
    else
      let left ← readLevel fuel (level + 1)
      readOperators fuel level left

/-- Goes on with the operators of a level, from the left. -/
def readOperators : Nat → Nat → Expr → Reading Expr
  | 0, _, _ => fail .tooDeep
  | fuel + 1, level, left => do
    match (← peek).bind (operatorAt level) with
    | some op =>
      skip
      let right ← readLevel fuel (level + 1)
      readOperators fuel level (.binary op left right)
    | none =>
      if ← acceptAt level 2 (word "not") then
        expect (word "in")
        let right ← readLevel fuel 3
        readOperators fuel 2 (.not (.binary .isIn left right))
      else return left

/-- An operand with its fields, items and calls, and then its filters and tests. -/
def readSuffixed : Nat → Reading Expr
  | 0 => fail .tooDeep
  | fuel + 1 => do
    let e ← readNegated fuel
    let e ← readParts fuel e
    readFilters fuel e

def readNegated : Nat → Reading Expr
  | 0 => fail .tooDeep
  | fuel + 1 => do
    if ← accept (.sign .minus) then return .negate (← readNegated fuel)
    else nested (readPrimary fuel)

def readParts : Nat → Expr → Reading Expr
  | 0, _ => fail .tooDeep
  | fuel + 1, e => do
    if ← accept (.sign .point) then
      let name ← takeName
      readParts fuel (.field e name)
    else if ← accept (.sign .openBracket) then
      let part ← readIndex fuel e
      expect (.sign .closeBracket)
      readParts fuel part
    else if (← peek) == some (.sign .openParen) then
      let (arguments, named) ← readArguments fuel
      readParts fuel (.call e arguments named)
    else return e

/-- What stands between brackets behind an operand: an index, or the ends and the
step of a slice. -/
def readIndex : Nat → Expr → Reading Expr
  | 0, _ => fail .tooDeep
  | fuel + 1, e => do
    let start ← if (← peek) == some (.sign .colon) then pure none else some <$> readExpr fuel
    if ← accept (.sign .colon) then
      let stop ← match ← peek with
        | some (.sign .closeBracket) | some (.sign .colon) => pure (.const .none)
        | _ => readExpr fuel
      let step ← if ← accept (.sign .colon) then
          if (← peek) == some (.sign .closeBracket) then pure (.const .none) else readExpr fuel
        else pure (.const .none)
      return .slice e (start.getD (.const .none)) stop step
    else
      match start with
      | some index => return .item e index
      | none => fail .noIndex

def readFilters : Nat → Expr → Reading Expr
  | 0, _ => fail .tooDeep
  | fuel + 1, e => do
    if ← accept (.sign .pipe) then
      let stage ← readStage fuel
      readFilters fuel (.filter stage.name e stage.arguments stage.named)
    else if ← accept (word "is") then
      let negated ← accept (word "not")
      let stage ← readStage fuel
      let test := Expr.test stage.name e stage.arguments stage.named
      readFilters fuel (if negated then .not test else test)
    else return e

def readStage : Nat → Reading Stage
  | 0 => fail .tooDeep
  | fuel + 1 => do
    let name ← takeName
    if (← peek) == some (.sign .openParen) then
      let (arguments, named) ← readArguments fuel
      return ⟨name, arguments, named⟩
    else return ⟨name, [], []⟩

def readPrimary : Nat → Reading Expr
  | 0 => fail .tooDeep
  | fuel + 1 => do
    match ← take with
    | .name n => return nameExpr n
    | .text t => return .const (.plain t)
    | .number n => return .const (.int n)
    | .decimal t => return .const (.float ((Text.Decimal.read? t).getD 0))
    | .sign .openParen =>
      if ← accept (.sign .closeParen) then return .list []
      let first ← readExpr fuel
      if ← accept (.sign .comma) then
        let rest ← readItems fuel (.sign .closeParen)
        return .list (first :: rest)
      expect (.sign .closeParen)
      return first
    | .sign .openBracket => return .list (← readItems fuel (.sign .closeBracket))
    | .sign .openBrace => return .record (← readFields fuel)
    | token => fail (.unexpected token)

def readItems : Nat → Token → Reading (List Expr)
  | 0, _ => fail .tooDeep
  | fuel + 1, closing => do
    if ← accept closing then return []
    let first ← readExpr fuel
    if ← accept closing then return [first]
    expect (.sign .comma)
    return first :: (← readItems fuel closing)

def readFields : Nat → Reading (List (Expr × Expr))
  | 0 => fail .tooDeep
  | fuel + 1 => do
    if ← accept (.sign .closeBrace) then return []
    let key ← readExpr fuel
    expect (.sign .colon)
    let v ← readExpr fuel
    if ← accept (.sign .closeBrace) then return [(key, v)]
    expect (.sign .comma)
    return (key, v) :: (← readFields fuel)

def readArguments : Nat → Reading ArgumentList
  | 0 => fail .tooDeep
  | fuel + 1 => do
    expect (.sign .openParen)
    let (arguments, named) ← readArgumentList fuel
    if arguments.length + (if named.isEmpty then 0 else 1) > argumentLimit then
      fail .surplusArgument
    else return (arguments, named)

def readArgumentList : Nat → Reading ArgumentList
  | 0 => fail .tooDeep
  | fuel + 1 => do
    if ← accept (.sign .closeParen) then return ([], [])
    let e ← readExpr fuel
    let keyword ← match e with
      | .name n => do
        if ← accept (.sign .assign) then pure (some n) else pure none
      | _ => pure none
    let value ← match keyword with
      | some _ => readLevel fuel 0
      | none => pure e
    let (arguments, named) ←
      if ← accept (.sign .closeParen) then pure ([], [])
      else do
        expect (.sign .comma)
        readArgumentList fuel
    match keyword with
    | some key =>
      if arguments.isEmpty then return ([], (key, value) :: named)
      else fail .misplacedArgument
    | none => return (value :: arguments, named)

end

def readTargetName : Reading Text := do
  let n ← takeName
  if reservedNames.contains n then fail (.reservedName n) else return n

/-- One target, or several between commas. -/
def readTargets : Nat → List Target → Bool → Reading Target
  | 0, _, _ => fail .tooDeep
  | fuel + 1, done, tuple => do
    let ends := match ← peek with
      | some (.sign .closeParen) | some .closeOutput | some .closeTag => true
      | some token => token == word "in"
      | none => false
    if ends then return .tuple done
    let part ← if ← accept (.sign .openParen) then do
        let inner ← readTargets fuel [] false
        expect (.sign .closeParen)
        pure inner
      else do
        let n ← readTargetName
        pure (.name n)
    if ← accept (.sign .comma) then readTargets fuel (done ++ [part]) true
    else if tuple then return .tuple (done ++ [part])
    else return part

def readTarget (fuel : Nat) : Reading Target := do
  if ← accept (.sign .openParen) then
    let target ← readTargets fuel [] false
    expect (.sign .closeParen)
    return target
  else return .name (← readTargetName)

mutual

def targetOf? : Expr → Option Target
  | .name n => some (.name n)
  | .list items => (targetsOf? items).map .tuple
  | _ => none

def targetsOf? : List Expr → Option (List Target)
  | [] => some []
  | e :: rest => do return (← targetOf? e) :: (← targetsOf? rest)

end

/-- Filters between bars, up to the end of the tag. -/
def readStages : Nat → Reading (List Stage)
  | 0 => fail .tooDeep
  | fuel + 1 => do
    let stage ← readStage fuel
    if (← peek) == some .closeTag then return [stage]
    expect (.sign .pipe)
    return stage :: (← readStages fuel)

/-- The parameters of a macro up to the closing bracket, and the defaults of the
last ones. -/
def readParameters : Nat → List Text → List Expr → Reading (List Text × List Expr)
  | 0, _, _ => fail .tooDeep
  | fuel + 1, parameters, defaults => do
    if ← accept (.sign .closeParen) then return (parameters, defaults)
    if !parameters.isEmpty then
      expect (.sign .comma)
      if ← accept (.sign .closeParen) then return (parameters, defaults)
    let name ← readTargetName
    if ← accept (.sign .assign) then
      let default ← readExpr fuel
      readParameters fuel (parameters ++ [name]) (defaults ++ [default])
    else
      if !defaults.isEmpty then expect (.sign .assign)
      readParameters fuel (parameters ++ [name]) defaults

/-- The assignments at the head of a tag, between commas. -/
def readAssignments : Nat → Bool → Reading (List (Target × Expr))
  | 0, _ => fail .tooDeep
  | fuel + 1, more => do
    if ← accept .closeTag then return []
    if more then expect (.sign .comma)
    let target ← readTarget fuel
    expect (.sign .assign)
    let e ← readExpr fuel
    return (target, e) :: (← readAssignments fuel true)

/-- Names to take over, each with another one if it is to get it. -/
def readImports : Nat → Bool → Reading (List (Text × Text))
  | 0, _ => fail .tooDeep
  | fuel + 1, more => do
    if (← peek) == some .closeTag then return []
    if more then expect (.sign .comma)
    if (← peek) == some .closeTag then return []
    let name ← readTargetName
    let other ← if ← accept (word "as") then readTargetName else pure name
    return (name, other) :: (← readImports fuel true)

/-- Whether the names of the including template are seen is fixed; the words that
ask for it are read all the same. -/
def skipContext : Reading Unit := do
  let asked ← accept (word "with")
  let refused ← if asked then pure false else accept (word "without")
  if asked || refused then expect (word "context")

/-- The tags that end a list of nodes; which one does is left to be read. -/
abbrev Ends := List Text

mutual

/-- Nodes up to a tag that ends them, whose name is the next token then, or to the
end of the template. -/
def readNodes : Nat → Ends → Reading (List Node)
  | 0, _ => fail .tooDeep
  | fuel + 1, ends => do
    match (← get).tokens with
    | [] => return []
    | .data t :: _ =>
      skip
      return .data t :: (← readNodes fuel ends)
    | .openOutput :: _ =>
      skip
      let e ← readExpr fuel
      expect .closeOutput
      return .output e :: (← readNodes fuel ends)
    | .openTag :: rest =>
      skip
      match rest with
      | [] => fail .unexpectedEnd
      | token :: _ =>
        if ends.any fun n => word n == token then return []
        else
          let node ← nested (readTag fuel)
          expect .closeTag
          return node :: (← readNodes fuel ends)
    | token :: _ => fail (.unexpected token)

/-- The nodes behind the head of a tag, and the name that ends them. -/
def readBody : Nat → Text → Reading (List Node)
  | 0, _ => fail .tooDeep
  | fuel + 1, ending => do
    expect .closeTag
    let body ← readNodes fuel [ending]
    skip
    return body

def readTag : Nat → Reading Node
  | 0 => fail .tooDeep
  | fuel + 1 => do
    let n ← takeName
    match String.ofList n with
    | "for" => readEach fuel
    | "if" => readChoose fuel
    | "with" => do
      let assignments ← readAssignments fuel false
      let body ← readNodes fuel ["endwith"]
      skip
      return .scoped assignments body
    | "set" => readAssign fuel
    | "autoescape" => do
      let condition ← readExpr fuel
      return .escaped condition (← readBody fuel "endautoescape")
    | "filter" => do
      let stages ← readStages fuel
      return .filtered stages (← readBody fuel "endfilter")
    | "block" => readBlock fuel
    | "extends" => return .extend (← readExpr fuel)
    | "include" => do
      let e ← readExpr fuel
      skipContext
      if ← accept (word "ignore") then
        expect (word "missing")
        skipContext
        return .include e true
      else return .include e false
    | "import" => do
      let e ← readExpr fuel
      expect (word "as")
      match targetOf? (← readExpr fuel) with
      | some target => return .importAll e target
      | none => fail .badTarget
    | "from" => do
      let e ← readExpr fuel
      expect (word "import")
      return .importNames e (← readImports fuel false)
    | "macro" => do
      let name ← takeName
      expect (.sign .openParen)
      let (parameters, defaults) ← readParameters fuel [] []
      return .define name parameters defaults (← readMacroBody fuel "endmacro")
    | "call" => do
      let (parameters, defaults) ← if ← accept (.sign .openParen) then readParameters fuel [] []
        else pure ([], [])
      match ← readExpr fuel with
      | .call e arguments named =>
        return .callBlock e arguments named parameters defaults (← readMacroBody fuel "endcall")
      | _ => fail .noCall
    | "do" => do
      match ← readExpr fuel with
      | .call e arguments named => return .perform (.call e arguments named)
      | _ => fail .noCall
    | _ => fail (.unknownTag n)

/-- Blocks cannot stand in the body of a macro. -/
def readMacroBody : Nat → Text → Reading (List Node)
  | 0, _ => fail .tooDeep
  | fuel + 1, ending => do
    let before := (← get).inMacro
    modify fun s => { s with inMacro := true }
    let body ← readBody fuel ending
    modify fun s => { s with inMacro := before }
    return body

def readBlock : Nat → Reading Node
  | 0 => fail .tooDeep
  | fuel + 1 => do
    if (← get).inMacro then fail .misplacedBlock
    let name ← takeName
    if (← get).blockNames.contains name then fail (.repeatedBlock name)
    modify fun s => { s with blockNames := name :: s.blockNames }
    let body ← readBody fuel "endblock"
    match ← peek with
    | some (.name other) => if other == name then skip else fail (.mismatchedBlock other)
    | _ => pure ()
    modify fun s => { s with blocks := (name, body) :: s.blocks }
    return .block name

def readEach : Nat → Reading Node
  | 0 => fail .tooDeep
  | fuel + 1 => do
    let target ← readTargets fuel [] false
    expect (word "in")
    let source ← readLevel fuel 0
    let condition ← if ← accept (word "if") then some <$> readExpr fuel else pure none
    let recursive ← accept (word "recursive")
    expect .closeTag
    let body ← readNodes fuel ["endfor", "else"]
    let otherwise ← if ← accept (word "else") then do
        expect .closeTag
        readNodes fuel ["endfor"]
      else pure []
    skip
    return .each target source condition recursive body otherwise

/-- The condition of a tag is no inline choice. -/
def readChoose : Nat → Reading Node
  | 0 => fail .tooDeep
  | fuel + 1 => do
    let condition ← readLevel fuel 0
    expect .closeTag
    let yes ← readNodes fuel ["endif", "else", "elif"]
    if ← accept (word "else") then return .choose condition yes (← readBody fuel "endif")
    else if ← accept (word "elif") then return .choose condition yes [← readChoose fuel]
    else
      skip
      return .choose condition yes []

def readAssign : Nat → Reading Node
  | 0 => fail .tooDeep
  | fuel + 1 => do
    let bracketed := (← peek) == some (.sign .openParen)
    let target ← readTarget fuel
    match bracketed, target, ← peek with
    | false, .name n, some .closeTag => return .capture n [] (← readBody fuel "endset")
    | false, .name n, some (.sign .pipe) => do
      skip
      let stages ← readStages fuel
      return .capture n stages (← readBody fuel "endset")
    | _, target, _ => do
      expect (.sign .assign)
      return .assign target (← readExpr fuel)

end

/-- Every reader hands the next a smaller bound, and one token is read after at
most a dozen of them. -/
def read (t : Text) : Except SyntaxFault Template := do
  let tokens ← Token.scan t
  let bound := 16 * tokens.length + 16
  let (nodes, state) ← (readNodes bound []).run ⟨tokens, 0, false, [], []⟩
  return ⟨nodes, state.blocks, bound⟩

end Swatchbook.Template
