import Swatchbook.Text.Decimal
import Swatchbook.Text.Property

/-!
# Template values

What a template computes with. A text is safe if it is markup already; every
other text is escaped when it is put out. Undefined is a value: the result of
looking for what is not there. Records hold their fields in the order of their
keys. Functions, macros and the rounds of loops are values, too.
-/

namespace Swatchbook.Template

structure Round where
  index : Nat
  length : Nat
  depth : Nat
  deriving DecidableEq

def Round.show (round : Round) : Text :=
  "<loop " ++ Text.ofNat round.index ++ "/" ++ Text.ofNat round.length ++ ">"

/-- The functions that every template knows. -/
inductive Function
  | url
  | range
  | dict
  | debug
  deriving DecidableEq

def Function.name : Function → Text
  | .url => "url"
  | .range => "range"
  | .dict => "dict"
  | .debug => "debug"

def Function.all : List Function := [.url, .range, .dict, .debug]

structure Signature where
  name : Text
  parameters : List Text
  /-- Whether it uses what a call block hands it. -/
  calls : Bool
  deriving DecidableEq

inductive Value
  | undefined
  | none
  | bool (b : Bool)
  | int (n : Int)
  | float (x : Float)
  | text (safe : Bool) (t : Text)
  | list (items : List Value)
  | record (fields : List (Value × Value))
  | function (f : Function)
  /-- A macro, by its place among those that a run has met. -/
  | routine (place : Nat) (signature : Signature)
  /-- A loop, by its place among those that a run has met, in one of its rounds. -/
  | loop (place : Nat) (round : Round)

namespace Value

def plain (t : Text) : Value := .text false t

def markup (t : Text) : Value := .text true t

def isUndefined : Value → Bool
  | .undefined => true
  | _ => false

def isNone : Value → Bool
  | .none => true
  | _ => false

/-- Undefined and none stand for a missing argument. -/
def isMissing (v : Value) : Bool := v.isUndefined || v.isNone

def isSafe : Value → Bool
  | .text safe _ => safe
  | _ => false

def text? : Value → Option Text
  | .text _ t => some t
  | _ => Option.none

def list? : Value → Option (List Value)
  | .list items => some items
  | _ => Option.none

def isTrue : Value → Bool
  | .undefined | .none => false
  | .bool b => b
  | .int n => n != 0
  | .float x => x != 0
  | .text _ t => !t.isEmpty
  | .list items => !items.isEmpty
  | .record fields => !fields.isEmpty
  | .function _ | .routine .. | .loop .. => true

/-! ### Numbers -/

/-- Whole numbers are held in words of 128 bits. -/
def inWord (n : Int) : Bool := -Int.pow 2 127 ≤ n && n < Int.pow 2 127

/-- A float that is whole, as far as 64 bits go. -/
def wholeFloat? (x : Float) : Option Int :=
  let n := max (-Int.pow 2 63) (min (Int.pow 2 63 - 1) (Text.Decimal.truncate x))
  if Float.ofInt n == x then some n else Option.none

/-- Whole numbers, with truth values counted as one and zero. -/
def int? : Value → Option Int
  | .int n => if inWord n then some n else Option.none
  | .bool b => some (if b then 1 else 0)
  | .float x => wholeFloat? x
  | _ => Option.none

def float? : Value → Option Float
  | .int n => some (Float.ofInt n)
  | .bool b => some (if b then 1 else 0)
  | .float x => some x
  | _ => Option.none

def isNumber : Value → Bool
  | .int _ | .float _ => true
  | _ => false

/-- Two operands, brought to one kind. -/
inductive Pair
  | ints (m n : Int)
  | floats (x y : Float)
  | texts (s t : Text)

/-- Two numbers that both need more than 64 bits are taken as they stand in their
words; a float makes both operands floats. -/
def pair? : Value → Value → Option Pair
  | .text _ s, .text _ t => some (.texts s t)
  | .float x, b => b.float?.map (.floats x)
  | a, .float y => a.float?.map (.floats · y)
  | .int m, .int n =>
    if Int.pow 2 64 ≤ m && Int.pow 2 64 ≤ n then
      some (.ints (m.bmod (Nat.pow 2 128)) (n.bmod (Nat.pow 2 128)))
    else if inWord m && inWord n then some (.ints m n)
    else Option.none
  | a, b => do return .ints (← a.int?) (← b.int?)

/-! ### Text -/

def showInt (n : Int) : Text :=
  if n < 0 then '-' :: Text.ofNat n.natAbs else Text.ofNat n.natAbs

mutual

def inspect : Value → Text
  | .undefined => "undefined"
  | .none => "none"
  | .bool b => if b then "true" else "false"
  | .int n => showInt n
  | .float x => Text.Decimal.writeBrief x
  | .text _ t => Text.Quoted.quote t
  | .list items => "[" ++ Text.join ", " (inspectAll items) ++ "]"
  | .record fields => "\x7b" ++ Text.join ", " (inspectFields fields) ++ "\x7d"
  | .function f => f.name
  | .routine _ signature => "<macro " ++ signature.name ++ ">"
  | .loop _ round => round.show

def inspectAll : List Value → List Text
  | [] => []
  | v :: rest => inspect v :: inspectAll rest

def inspectFields : List (Value × Value) → List Text
  | [] => []
  | (key, v) :: rest => (inspect key ++ ": " ++ inspect v) :: inspectFields rest

end

def display : Value → Text
  | .undefined => []
  | .float x => Text.Decimal.write x
  | .text _ t => t
  | v => inspect v

/-- Parts on lines of their own, indented below brackets. -/
def block (depth : Nat) (opening closing : Text) (parts : List Text) : Text :=
  if parts.isEmpty then opening ++ closing
  else
    let line (part : Text) : Text := Text.spaces (4 * depth + 4) ++ part ++ [',', '\n']
    opening ++ '\n' :: parts.flatMap line ++ Text.spaces (4 * depth) ++ closing

mutual

/-- How a value is written over several lines. -/
def layout (depth : Nat) : Value → Text
  | .list items => block depth "[" "]" (layoutAll (depth + 1) items)
  | .record fields => block depth "\x7b" "\x7d" (layoutFields (depth + 1) fields)
  | v => inspect v

def layoutAll (depth : Nat) : List Value → List Text
  | [] => []
  | v :: rest => layout depth v :: layoutAll depth rest

def layoutFields (depth : Nat) : List (Value × Value) → List Text
  | [] => []
  | (key, v) :: rest => (layout depth key ++ ": " ++ layout depth v) :: layoutFields depth rest

end

/-! ### Comparison -/

/-- The kinds of values in their order, by which values compare that have no other order. -/
def rank : Value → Nat
  | .undefined => 0
  | .none => 1
  | .bool _ => 2
  | .int _ | .float _ => 3
  | .text .. => 4
  | .list _ => 6
  | .record _ | .function _ | .routine .. | .loop .. => 7

def compareText : Text → Text → Ordering
  | [], [] => .eq
  | [], _ => .lt
  | _, [] => .gt
  | a :: as, b :: bs => (compare a.toNat b.toNat).then (compareText as bs)

def Pair.order : Pair → Ordering
  | .ints m n => compare m n
  | .floats x y => compare (Text.Decimal.rank x) (Text.Decimal.rank y)
  | .texts s t => compareText s t

def Pair.equal : Pair → Bool
  | .ints m n => m == n
  | .floats x y => x == y
  | .texts s t => s == t

mutual

/-- Values of one kind compare as such, numbers and truth values as numbers; all
else compares by rank alone. -/
def order : Value → Value → Ordering
  | .list a, .list b => orderAll a b
  | .record a, .record b => orderFields a b
  | a, b => (((pair? a b).map Pair.order).getD .eq).then (compare (rank a) (rank b))

def orderAll : List Value → List Value → Ordering
  | [], [] => .eq
  | [], _ => .lt
  | _, [] => .gt
  | a :: as, b :: bs => (order a b).then (orderAll as bs)

def orderFields : List (Value × Value) → List (Value × Value) → Ordering
  | [], [] => .eq
  | [], _ => .lt
  | _, [] => .gt
  | (j, a) :: as, (k, b) :: bs => ((order j k).then (order a b)).then (orderFields as bs)

end

mutual

/-- Functions cannot be told apart. -/
def equal : Value → Value → Bool
  | .undefined, .undefined => true
  | .none, .none => true
  | .list a, .list b => equalAll a b
  | .record a, .record b => equalFields a b
  | .function _, .function _ => true
  | .routine _ a, .routine _ b => a == b
  | .loop _ a, .loop _ b => a == b
  | a, b => ((pair? a b).map Pair.equal).getD false

def equalAll : List Value → List Value → Bool
  | [], [] => true
  | a :: as, b :: bs => equal a b && equalAll as bs
  | _, _ => false

def equalFields : List (Value × Value) → List (Value × Value) → Bool
  | [], [] => true
  | (j, a) :: as, (k, b) :: bs => order j k == .eq && equal a b && equalFields as bs
  | _, _ => false

end

def sort (key : Value → Value) (items : List Value) : List Value :=
  items.mergeSort fun a b => order (key a) (key b) != .gt

/-! ### Parts -/

/-- Puts a field in its place; one with the same key gets the new value. -/
def insertField (key v : Value) : List (Value × Value) → List (Value × Value)
  | [] => [(key, v)]
  | (k, w) :: rest =>
    match order key k with
    | .lt => (key, v) :: (k, w) :: rest
    | .eq => (k, v) :: rest
    | .gt => (k, w) :: insertField key v rest

/-- A record with these fields; of two with one key the later counts. -/
def ofFields (fields : List (Value × Value)) : Value :=
  .record (fields.foldl (fun done (key, v) => insertField key v done) [])

def ofNames (names : List (Text × Value)) : Value :=
  ofFields (names.map fun (name, v) => (plain name, v))

def roundFields (round : Round) : List (Value × Value) := [
  (plain "index0", .int round.index),
  (plain "index", .int (round.index + 1)),
  (plain "length", .int round.length),
  (plain "revindex", .int (round.length - round.index : Nat)),
  (plain "revindex0", .int (round.length - round.index - 1 : Nat)),
  (plain "first", .bool (round.index == 0)),
  (plain "last", .bool (round.length == 0 || round.index + 1 == round.length)),
  (plain "depth", .int (round.depth + 1)),
  (plain "depth0", .int round.depth)]

def signatureFields (signature : Signature) : List (Value × Value) := [
  (plain "name", plain signature.name),
  (plain "arguments", .list (signature.parameters.map plain)),
  (plain "caller", .bool signature.calls)]

def fields? : Value → Option (List (Value × Value))
  | .record fields => some fields
  | .function _ => some []
  | .routine _ signature => some (signatureFields signature)
  | .loop _ round => some (roundFields round)
  | _ => Option.none

def fieldAt? (v key : Value) : Option Value := do
  let fields ← v.fields?
  (fields.find? fun f => order f.1 key == .eq).map Prod.snd

def field? (v : Value) (name : Text) : Option Value := v.fieldAt? (plain name)

/-- The place in a sequence; negative ones count from its end. -/
def place? (length : Nat) (index : Value) : Option Nat := do
  let n ← index.int?
  if n < 0 then if n.natAbs ≤ length then some (length - n.natAbs) else Option.none
  else some n.toNat

/-- An item of a list, a character of a text, or a field. -/
def item? (v index : Value) : Option Value :=
  match v with
  | .list items => (place? items.length index).bind fun i => items[i]?
  | .text _ t => ((place? t.length index).bind fun i => t[i]?).map fun c => plain [c]
  | v => v.fieldAt? index

/-- What a loop goes through: the items of a list, the characters of a text, the
keys of a record, nothing if there is no value. -/
def items? : Value → Option (List Value)
  | .undefined | .none => some []
  | .list items => some items
  | .text _ t => some (t.map fun c => plain [c])
  | .bool _ | .int _ | .float _ => Option.none
  | v => v.fields?.map (·.map Prod.fst)

def length? : Value → Option Nat
  | .text _ t => some t.length
  | .list items => some items.length
  | .function _ => Option.none
  | v => v.fields?.map List.length

/-- Whether `v` is in a container; only texts, lists and records hold anything,
and undefined holds nothing. -/
def holds? (container v : Value) : Option Bool :=
  match container with
  | .undefined => some false
  | .text _ t => some (Text.holds v.display t)
  | .list items => some (items.any fun item => item.equal v)
  | .record fields => some (fields.any fun f => order f.1 v == .eq)
  | _ => Option.none

/-- Where a part of a sequence begins, and how long it is. An end before the
beginning of the sequence is as good as none, and a start there leaves nothing. -/
def span (start : Int) (stop : Option Int) (length : Nat) : Nat × Nat :=
  let fromEnd (n : Int) : Option Nat :=
    if n < 0 then if n.natAbs ≤ length then some (length - n.natAbs) else Option.none
    else some n.toNat
  let bounded := match stop with
    | some n => (fromEnd n).getD length
    | Option.none => length
  match fromEnd start with
  | some first => (first, bounded - first)
  | Option.none => (0, 0)

/-- Every item whose place is a multiple of a step. -/
def stride {α : Type} (step : Nat) (items : List α) : List α :=
  items.zipIdx.filterMap fun (a, i) => if i % step == 0 then some a else Option.none

end Value

/-- The characters that would end a text or an attribute, as references. -/
def escapeMark : Char → Option Text
  | '<' => some "&lt;"
  | '>' => some "&gt;"
  | '&' => some "&amp;"
  | '"' => some "&quot;"
  | '\x27' => some "&#x27;"
  | _ => none

/-- Escaping for an attribute, which keeps slashes. -/
def escapeAttribute (t : Text) : Text := t.flatMap fun c => (escapeMark c).getD [c]

/-- Escaping for output, slashes included. -/
def escapeOutput (t : Text) : Text :=
  t.flatMap fun c => if c == '/' then "&#x2f;" else (escapeMark c).getD [c]

def Value.written (v : Value) : Text :=
  if v.isSafe then v.display else escapeOutput v.display

end Swatchbook.Template
