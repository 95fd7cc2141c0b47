import Swatchbook.Text

/-!
# Decimal texts of binary numbers

A finite number is a mantissa times a power of two. It is written with the
fewest digits that read back to it: on one decimal grid after the other, from
the leading digit on, its two neighbours are tried, and the first grid wins that
has one inside the interval of what is rounded to the number.
-/

namespace Swatchbook.Text.Decimal

/-- The magnitude `mantissa * 2 ^ exponent`, with a sign. -/
structure Binary where
  negative : Bool
  mantissa : Nat
  exponent : Int
  deriving DecidableEq

inductive Shape
  | finite (b : Binary)
  | infinite (negative : Bool)
  | notNumber
  deriving DecidableEq

def shape (x : Float) : Shape :=
  let bits := x.toBits.toNat
  let negative := bits ≥ Nat.pow 2 63
  let exponent : Nat := bits / Nat.pow 2 52 % 2048
  let fraction := bits % Nat.pow 2 52
  if exponent == 2047 then if fraction == 0 then .infinite negative else .notNumber
  else if exponent == 0 then .finite ⟨negative, fraction, -1074⟩
  else .finite ⟨negative, fraction + Nat.pow 2 52, exponent - 1075⟩

/-- A decimal `digits * 10 ^ exponent`. -/
structure Digits where
  digits : Nat
  exponent : Int
  deriving DecidableEq

/-- Numbers over a common denominator: the magnitude, and the ends of the interval
of what is rounded to it. -/
structure Interval where
  low : Nat
  value : Nat
  high : Nat
  denominator : Nat
  /-- Whether the ends are rounded to the magnitude, too. -/
  closed : Bool
  deriving DecidableEq

/-- Below a power of two numbers are twice as dense. -/
def Interval.of (b : Binary) : Interval :=
  let below := if b.mantissa == Nat.pow 2 52 && b.exponent > -1074 then 1 else 2
  let up := Nat.pow 2 (b.exponent - 2).toNat
  { low := (4 * b.mantissa - below) * up
    value := 4 * b.mantissa * up
    high := (4 * b.mantissa + 2) * up
    denominator := Nat.pow 2 (2 - b.exponent).toNat
    closed := b.mantissa % 2 == 0 }

/-- Whether a point of a grid, given as a numerator over the interval's
denominator, is rounded to the magnitude. -/
def Interval.holds (i : Interval) (scale point : Nat) : Bool :=
  if i.closed then i.low * scale ≤ point && point ≤ i.high * scale
  else i.low * scale < point && point < i.high * scale

/-- The neighbour on the grid `10 ^ exponent` that reads back, the upper one if
both do and it is not farther away. -/
def Interval.onGrid (i : Interval) (exponent : Int) : Option Digits :=
  let step := i.denominator * Nat.pow 10 exponent.toNat
  let scale := Nat.pow 10 (-exponent).toNat
  let below := i.value * scale / step
  let remainder := i.value * scale % step
  let down := i.holds scale (below * step)
  let up := i.holds scale ((below + 1) * step)
  if up && (!down || 2 * remainder ≥ step) then some ⟨below + 1, exponent⟩
  else if down then some ⟨below, exponent⟩
  else none

/-- The exponent of the leading digit, within one of the truth on either side. -/
def leadingExponent (b : Binary) : Int :=
  ((Nat.log2 b.mantissa : Int) + b.exponent) * 30103 / 100000

/-- Trailing zeros go into the exponent. -/
def Digits.reduce : Nat → Digits → Digits
  | 0, d => d
  | fuel + 1, d =>
    if d.digits != 0 && d.digits % 10 == 0 then reduce fuel ⟨d.digits / 10, d.exponent + 1⟩ else d

/-- The fewest digits that read back, of a magnitude that is not zero. -/
def shortest (b : Binary) : Digits :=
  let i := Interval.of b
  let first := leadingExponent b + 1
  let found := (List.range 20).findSome? fun (n : Nat) => (i.onGrid (first - n)).filter (·.digits != 0)
  (found.getD ⟨0, 0⟩).reduce 20

def positional (d : Digits) : Text :=
  let digits := Text.ofNat d.digits
  let point := (digits.length : Int) + d.exponent
  if d.exponent ≥ 0 then digits ++ List.replicate d.exponent.toNat '0' ++ ".0"
  else if point > 0 then digits.take point.toNat ++ '.' :: digits.drop point.toNat
  else ("0." : Text) ++ List.replicate (-point).toNat '0' ++ digits

def scientific (d : Digits) : Text :=
  let digits := Text.ofNat d.digits
  let exponent := d.exponent + digits.length - 1
  let sign := if exponent < 0 then ['-'] else []
  let fraction := if digits.length > 1 then '.' :: digits.drop 1 else []
  digits.take 1 ++ fraction ++ 'e' :: sign ++ Text.ofNat exponent.natAbs

def signed (negative : Bool) (t : Text) : Text := if negative then '-' :: t else t

/-- A number with all its places; one that is whole has a zero behind its point. -/
def write (x : Float) : Text :=
  match shape x with
  | .notNumber => "NaN"
  | .infinite negative => signed negative "inf"
  | .finite b => signed b.negative (positional (if b.mantissa == 0 then ⟨0, 0⟩ else shortest b))

/-- A number with an exponent, if it is below a tenth of a thousandth or not below
ten to the sixteenth. -/
def writeBrief (x : Float) : Text :=
  match shape x with
  | .finite b =>
    if b.mantissa == 0 then write x
    else
      let d := shortest b
      let leading := d.exponent + (Text.ofNat d.digits).length - 1
      if leading < -4 || leading ≥ 16 then signed b.negative (scientific d) else write x
  | _ => write x

/-- The whole part of a number, zero if it is none. -/
def truncate (x : Float) : Int :=
  match shape x with
  | .finite b =>
    let whole := b.mantissa * Nat.pow 2 b.exponent.toNat / Nat.pow 2 (-b.exponent).toNat
    if b.negative then -(whole : Int) else whole
  | _ => 0

/-- The power of ten is bounded by what a number can hold. -/
def ofDigits (negative : Bool) (digits : Nat) (exponent : Int) : Float :=
  let leading := (Text.ofNat digits).length + exponent
  let magnitude :=
    if digits == 0 || leading < -400 then 0.0
    else if leading > 400 then 1.0 / 0.0
    else Float.ofScientific digits (exponent < 0) exponent.natAbs
  if negative then -magnitude else magnitude

def exponent? (t : Text) : Option Int :=
  match t with
  | [] => some 0
  | mark :: t =>
    let (negative, digits) := match t with
      | '-' :: t => (true, t)
      | '+' :: t => (false, t)
      | t => (false, t)
    if (mark == 'e' || mark == 'E') && !digits.isEmpty && digits.all Text.isDigit then
      some (if negative then -(Text.toNat digits : Int) else Text.toNat digits)
    else none

/-- Reads digits with at most one point among them, and an exponent. -/
def readMagnitude? (negative : Bool) (t : Text) : Option Float := do
  let whole := t.takeWhile Text.isDigit
  let rest := t.dropWhile Text.isDigit
  let behind := if rest.head? == some '.' then rest.tail else []
  let fraction := behind.takeWhile Text.isDigit
  let rest := if rest.head? == some '.' then behind.dropWhile Text.isDigit else rest
  if whole.isEmpty && fraction.isEmpty then none
  else
    let exponent ← exponent? rest
    return ofDigits negative (Text.toNat (whole ++ fraction)) (exponent - fraction.length)

/-- Reads a number, which may be infinite or none at all by its name. -/
def read? (t : Text) : Option Float :=
  let (negative, t) := match t with
    | '-' :: t => (true, t)
    | '+' :: t => (false, t)
    | t => (false, t)
  let name := String.ofList (t.map Char.toLower)
  if name == "inf" || name == "infinity" then some (if negative then -1.0 / 0.0 else 1.0 / 0.0)
  else if name == "nan" then some (0.0 / 0.0)
  else readMagnitude? negative t

/-- What is left of `a` after whole multiples of `b`, with the sign of `a`. -/
def remainder (a b : Float) : Float :=
  match shape a, shape b with
  | .finite m, .finite n =>
    if n.mantissa == 0 then 0.0 / 0.0
    else
      let low := min m.exponent n.exponent
      let whole := m.mantissa * Nat.pow 2 (m.exponent - low).toNat
      let divisor := n.mantissa * Nat.pow 2 (n.exponent - low).toNat
      let magnitude := (Float.ofNat (whole % divisor)).scaleB low
      if m.negative then -magnitude else magnitude
  | .finite _, .infinite _ => a
  | _, _ => 0.0 / 0.0

def wholePart (x : Float) : Float := if x < 0 then x.ceil else x.floor

/-- How often `b` goes into `a` so that what is left is not negative. -/
def quotient (a b : Float) : Float :=
  let q := wholePart (a / b)
  if remainder a b < 0 then if b > 0 then q - 1 else q + 1 else q

/-- A whole power, by repeated squaring. -/
def power (base : Float) (exponent : Int) : Float :=
  let rec go : Nat → Float → Nat → Float → Float
    | 0, _, _, done => done
    | fuel + 1, base, n, done =>
      let done := if n % 2 == 1 then done * base else done
      if n / 2 == 0 then done else go fuel (base * base) (n / 2) done
  let magnitude := go (exponent.natAbs + 1) base exponent.natAbs 1.0
  if exponent < 0 then 1.0 / magnitude else magnitude

/-- A key by which numbers stand in their order, with the negative zero before the
positive one and what is no number at the ends. -/
def rank (x : Float) : Int :=
  let bits := x.toBits.toNat
  if bits ≥ Nat.pow 2 63 then -((bits - Nat.pow 2 63 : Nat) : Int) - 1 else bits

end Swatchbook.Text.Decimal
