import Swatchbook.Template.Test
import Swatchbook.Text.Case

/-!
# Filters

What can be done to a value behind a bar. Where a filter wants a text, other
values are taken as they would be put out, unless the filter is strict.
-/

namespace Swatchbook.Template

abbrev Filter := Value → Arguments → Run Value

namespace Filter

def plain (f : Value → Run Value) : Filter := fun v arguments => do
  noArgument arguments.values
  f v

def ofText (f : Text → Text) : Filter := plain fun v => pure (.plain (f v.display))

/-! ### Texts -/

/-- The pieces between the places where a mark stands. The empty mark stands
before and after every character. -/
def pieces (mark t : Text) : List Text :=
  if mark.isEmpty then [] :: t.map (fun c => [c]) ++ [[]] else Text.splitOn mark t

def deslug (t : Text) : Text :=
  Text.trim (t.map fun c => if c == '-' || c == '_' then ' ' else c)

def isPunctuation (c : Char) : Bool := '!' ≤ c && c ≤ '~' && !c.isAlphanum

/-- Every word begins with a capital; blanks and punctuation end words. -/
def titleFrom (begins : Bool) : Text → Text
  | [] => []
  | c :: t =>
    if isPunctuation c || Text.isBlank c then c :: titleFrom true t
    else if begins then Text.Case.upper [c] ++ titleFrom false t
    else Text.Case.lowerTable.image c ++ titleFrom false t

def capitalize : Text → Text
  | [] => []
  | c :: t => Text.Case.upper [c] ++ Text.Case.lower t

/-- Nothing is put before the first piece that is not empty. -/
def joinPieces (between : Text) (pieces : List Text) : Text :=
  Text.join between (pieces.dropWhile List.isEmpty)

def trimOf (chars : Text) (t : Text) : Text :=
  Text.dropWhileEnd chars.contains (t.dropWhile chars.contains)

def trim : Filter := fun v arguments => do
  match ← optionalArgument arguments.values with
  | some chars => return .plain (trimOf chars.display v.display)
  | none => return .plain (Text.trim v.display)

def split : Filter := fun v arguments => do
  let t ← textOf v
  match arguments.values with
  | [] => throw .missingArgument
  | mark :: rest =>
    let mark ← textOf mark
    match ← optionalArgument rest with
    | some place =>
      let n ← countOf place
      return ((pieces mark t)[n]?.map Value.plain).getD .undefined
    | none => return .list ((pieces mark t).map Value.plain)

def replace : Filter := fun v arguments =>
  match arguments.values with
  | [mark, other] => .ok (.plain (Text.join other.display (pieces mark.display v.display)))
  | [] | [_] => .error .missingArgument
  | _ => .error .surplusArgument

def dropLineEnd (t : Text) : Text :=
  let t := if t.getLast? == some '\n' then t.dropLast else t
  if t.getLast? == some '\r' then t.dropLast else t

/-- Indents lines, the first one and empty ones only if that is asked for. -/
def indentLines (width : Nat) (first blank : Bool) (t : Text) : Text :=
  let lines := (Text.lines (dropLineEnd t)).zipIdx.map fun (line, i) =>
    if i == 0 && !first then line
    else if line.isEmpty && !blank then []
    else Text.spaces width ++ line
  dropLineEnd (lines.flatMap (· ++ ['\n']))

def indent : Filter := fun v arguments => do
  match arguments.values with
  | [] => throw .missingArgument
  | width :: rest =>
    let width ← countOf width
    let first ← optional boolOf rest.head?
    let blank ← optional boolOf rest[1]?
    if rest.length > 2 then throw .surplusArgument
    return .plain (indentLines width (first.getD false) (blank.getD false) v.display)

/-! ### Numbers -/

def round : Filter := fun v arguments => do
  let places ← optional (intOf (-Int.pow 2 31) (Int.pow 2 31)) (← optionalArgument arguments.values)
  match v with
  | .int n => return .int n
  | .float x =>
    let scale := Text.Decimal.power 10 (places.getD 0)
    return .float ((scale * x).round / scale)
  | _ => throw .wrongKind

def abs (v : Value) : Run Value :=
  match v with
  | .int n => if n == -Int.pow 2 127 then .error .overflow else .ok (.int n.natAbs)
  | .float x => .ok (.float x.abs)
  | _ => .error .wrongKind

/-- The whole part of a float, within the word. -/
def wholeOf (x : Float) : Int :=
  match Text.Decimal.shape x with
  | .infinite negative => if negative then -Int.pow 2 127 else Int.pow 2 127 - 1
  | _ => max (-Int.pow 2 127) (min (Int.pow 2 127 - 1) (Text.Decimal.truncate x))

/-- Digits, perhaps behind a sign. -/
def readInt? (t : Text) : Option Int :=
  let (negative, digits) := match t with
    | '-' :: t => (true, t)
    | '+' :: t => (false, t)
    | t => (false, t)
  let n : Int := Text.toNat digits
  let n := if negative then -n else n
  if !digits.isEmpty && digits.all Text.isDigit && Value.inWord n then some n else none

def toInt (v : Value) : Run Value :=
  match v with
  | .undefined | .none => .ok (.int 0)
  | .bool b => .ok (.int (if b then 1 else 0))
  | .int n => .ok (.int n)
  | .float x => .ok (.int (wholeOf x))
  | .text _ t =>
    match readInt? t, Text.Decimal.read? t with
    | some n, _ => .ok (.int n)
    | none, some x => .ok (.int (wholeOf x))
    | none, none => .error .wrongKind
  | _ => .error .wrongKind

def toFloat (v : Value) : Run Value :=
  match v with
  | .undefined | .none => .ok (.float 0)
  | .text _ t => do return .float (← orFault .wrongKind (Text.Decimal.read? t))
  | v => do return .float (← orFault .wrongKind v.float?)

/-! ### Sequences -/

def joined (v : Value) (between : Text) : Run Value :=
  match v with
  | .undefined | .none => .ok (.plain [])
  | .text _ t => .ok (.plain (joinPieces between (t.map fun c => [c])))
  | .list items => .ok (.plain (joinPieces between (items.map Value.display)))
  | _ => .error .wrongKind

def join : Filter := fun v arguments => do
  let between ← optionalArgument arguments.values
  joined v ((between.map Value.display).getD [])

def endOf (last : Bool) (v : Value) : Run Value :=
  match v with
  | .text _ t =>
    let c := if last then t.getLast? else t.head?
    .ok ((c.map fun c => Value.plain [c]).getD .undefined)
  | .list items => .ok ((if last then items.getLast? else items.head?).getD .undefined)
  | _ => .error .wrongKind

def reverse (v : Value) : Run Value :=
  match v with
  | .text _ t => .ok (.plain t.reverse)
  | .list items => .ok (.list items.reverse)
  | _ => .error .wrongKind

/-- The first of the least items. -/
def least (items : List Value) : Value :=
  match items with
  | [] => .undefined
  | v :: rest => rest.foldl (fun best item => if item.order best == .lt then item else best) v

def greatest (items : List Value) : Value :=
  match items with
  | [] => .undefined
  | v :: rest => rest.foldl (fun best item => if item.order best == .lt then best else item) v

/-- Each item where it first occurs. -/
def distinct (items : List Value) : List Value :=
  items.foldl
    (fun done item => if done.any fun v => v.order item == .eq then done else done ++ [item]) []

/-- Pieces of one length; the last one may be shorter. -/
def chunks {α : Type} (size : Nat) : Nat → List α → List (List α)
  | 0, _ => []
  | _, [] => []
  | fuel + 1, items => items.take size :: chunks size fuel (items.drop size)

def batches (size : Nat) (fill : Option Value) (items : List Value) : List (List Value) :=
  (chunks size items.length items).map fun piece =>
    match fill with
    | some v => piece ++ List.replicate (size - piece.length) v
    | none => piece

/-- A number of pieces; the first ones have one item more if they do not come out even,
and the others are filled up. -/
def columns (count : Nat) (fill : Option Value) (items : List Value) : List (List Value) :=
  let size := items.length / count
  let extra := items.length % count
  (List.range count).map fun i =>
    let piece := (items.drop (i * size + min i extra)).take (size + if i < extra then 1 else 0)
    match fill with
    | some v => if i < extra then piece else piece ++ [v]
    | none => piece

def pieceFilter (f : Nat → Option Value → List Value → List (List Value)) : Filter :=
  fun v arguments => do
    match arguments.values with
    | [] => throw .missingArgument
    | count :: rest =>
      let count ← countOf count
      let fill ← optionalArgument rest
      if count == 0 then throw .badArgument
      return .list ((f count fill (← itemsOf v)).map .list)

/-! ### Keys -/

/-- Texts compare without regard to case, unless it matters. -/
def sortKey (caseSensitive : Bool) (v : Value) : Value :=
  match v with
  | .text _ t => if caseSensitive then v else .plain (Text.Case.lowerAscii t)
  | v => v

/-- Follows names and places between points. -/
def followPath (v : Value) (path : Text) : Run Value :=
  (Text.splitBy (· == '.') path).foldlM
    (fun v part =>
      if v.isUndefined then .error (.undefinedField part)
      else
        let digits := Text.dropLead ['+'] part
        let found := if !digits.isEmpty && digits.all Text.isDigit
          then v.item? (.int (Text.toNat digits)) else v.field? part
        .ok (found.getD .undefined))
    v

/-- An item that has nothing at a path counts as equal to every other. -/
def sortByPath (caseSensitive : Bool) (path : Text) (items : List Value) : List Value :=
  items.mergeSort fun a b =>
    match followPath a path, followPath b path with
    | .ok a, .ok b => (sortKey caseSensitive a).order (sortKey caseSensitive b) != .gt
    | _, _ => true

def sort : Filter := fun v arguments => do
  let items ← itemsOf v
  arguments.allow ["case_sensitive", "attribute", "reverse"]
  let caseSensitive := (← optional boolOf (arguments.named? "case_sensitive")).getD false
  let path ← optional textOf (arguments.named? "attribute")
  let backward := (← optional boolOf (arguments.named? "reverse")).getD false
  let sorted := match path with
    | some path => sortByPath caseSensitive path items
    | none => Value.sort (sortKey caseSensitive) items
  return .list (if backward then sorted.reverse else sorted)

def fieldsOf (v : Value) : Run (List Value) := do
  let fields ← orFault .wrongKind v.fields?
  return fields.map fun (key, w) => .list [key, w]

def dictsort : Filter := fun v arguments => do
  let pairs ← fieldsOf v
  arguments.allow ["by", "case_sensitive", "reverse"]
  let place ← match ← optional textOf (arguments.named? "by") with
    | none => pure 0
    | some part =>
      if part == "key" then pure 0 else if part == "value" then pure 1 else throw .badArgument
  let caseSensitive := (← optional boolOf (arguments.named? "case_sensitive")).getD false
  let backward := (← optional boolOf (arguments.named? "reverse")).getD false
  let key (pair : Value) : Value :=
    sortKey caseSensitive ((pair.item? (.int place)).getD .undefined)
  let sorted := Value.sort key pairs
  return .list (if backward then sorted.reverse else sorted)

def attr : Filter := fun v arguments => do
  let key ← oneArgument arguments.values
  if v.isUndefined then throw (.undefinedField key.display)
  return (v.item? key).getD .undefined

/-- Keeps the items for which a test, or the item itself, has the truth value `keep`. -/
def keep (keep : Bool) (path : Option Text) (v : Value) (arguments : List Value) : Run Value := do
  let test ← match ← optional pure arguments.head? with
    | some name => some <$> Test.find name.display
    | none => pure none
  let kept ← (← itemsOf v).filterM fun item => do
    let subject ← match path with
      | some path => followPath item path
      | none => pure item
    let passed ← match test with
      | some test => test subject arguments.tail
      | none => pure subject.isTrue
    return passed == keep
  return .list kept

def select (kept : Bool) : Filter := fun v arguments => keep kept none v arguments.values

def selectAttr (kept : Bool) : Filter := fun v arguments =>
  match arguments.values with
  | [] => .error .missingArgument
  | path :: rest => keep kept (some path.display) v rest

/-- The part of every item at a path; a default stands in where there is none. -/
def mapAttr (v key other : Value) : Run Value := do
  let parts ← (← itemsOf v).mapM fun item => do
    let found := match key.text? with
      | some path => followPath item path
      | none => if item.isUndefined then .error (.undefinedField key.display)
        else .ok ((item.item? key).getD .undefined)
    match found with
    | .ok part => return if part.isUndefined then other else part
    | .error fault => if other.isUndefined then throw fault else return other
  return .list parts

/-! ### All of them -/

def escape (v : Value) : Value := if v.isSafe then v else .markup v.written

def default : Filter := fun v arguments => do
  let other ← optionalArgument arguments.values
  return if v.isUndefined then other.getD (.plain []) else v

/-- The filters that do not apply other filters. -/
def all : List (String × Filter) := [
  ("safe", plain fun v => pure (.markup v.display)),
  ("escape", plain fun v => pure (escape v)),
  ("e", plain fun v => pure (escape v)),
  ("lower", ofText Text.Case.lower),
  ("upper", ofText Text.Case.upper),
  ("title", ofText (titleFrom true)),
  ("capitalize", ofText capitalize),
  ("replace", replace),
  ("length", plain fun v => do return .int (← orFault .wrongKind v.length?)),
  ("count", plain fun v => do return .int (← orFault .wrongKind v.length?)),
  ("dictsort", dictsort),
  ("items", plain fun v => .list <$> fieldsOf v),
  ("reverse", plain reverse),
  ("trim", trim),
  ("join", join),
  ("default", default),
  ("d", default),
  ("round", round),
  ("abs", plain abs),
  ("int", plain toInt),
  ("float", plain toFloat),
  ("attr", attr),
  ("first", plain (endOf false)),
  ("last", plain (endOf true)),
  ("min", plain fun v => least <$> itemsOf v),
  ("max", plain fun v => greatest <$> itemsOf v),
  ("sort", sort),
  ("list", plain fun v => .list <$> itemsOf v),
  ("bool", plain fun v => pure (.bool v.isTrue)),
  ("batch", pieceFilter batches),
  ("slice", pieceFilter columns),
  ("indent", indent),
  ("select", select true),
  ("reject", select false),
  ("selectattr", selectAttr true),
  ("rejectattr", selectAttr false),
  ("unique", plain fun v => do return .list (distinct (← orFault .wrongKind v.list?))),
  ("pprint", plain fun v => pure (.plain (v.layout 0))),
  ("deslug", plain fun v => do return .plain (deslug (← textOf v))),
  ("split", split)]

/-- The argument that names the part of every item that is asked for. -/
def partKey (named : List (Text × Value)) : Option Value :=
  ((Arguments.mk [] named).named? "attribute").filter (!·.isMissing)

def findBasic (name : Text) : Run Filter :=
  orFault (.unknownFilter name) (all.lookup (String.ofList name))

/-- Applies a filter to a value. One filter applies another one, whose name is its
first argument, to every item. -/
def apply (name : Text) (v : Value) (named : List (Text × Value)) : List Value → Run Value
  | [] =>
    if name == "map" then
      match partKey named with
      | some key => mapAttr v key (((Arguments.mk [] named).named? "default").getD .undefined)
      | none => .error .missingArgument
    else do (← findBasic name) v ⟨[], named⟩
  | first :: rest =>
    if name == "map" then do
      if (partKey named).isSome then throw .surplusArgument
      let other ← textOf first
      if other != "map" then let _ ← findBasic other
      let items ← itemsOf v
      return .list (← items.mapM fun item => apply other item [] rest)
    else do (← findBasic name) v ⟨first :: rest, named⟩

end Filter

end Swatchbook.Template
