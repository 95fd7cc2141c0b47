import Swatchbook.Template.Argument
import Swatchbook.Template.Node

/-!
# Operators

What operators make of their operands. Whole numbers stay in their words, so
that a result outside of them is a fault; a float makes the result a float.
-/

namespace Swatchbook.Template

def wordOf (n : Int) : Run Value := if Value.inWord n then .ok (.int n) else .error .overflow

def arithmetic (ints : Int → Int → Run Value) (floats : Float → Float → Float) (a b : Value) :
    Run Value :=
  match a.pair? b with
  | some (.ints m n) => ints m n
  | some (.floats x y) => .ok (.float (floats x y))
  | _ => .error .badOperand

/-- The quotient that leaves a remainder which is not negative. -/
def quotient (m n : Int) : Run Value := if n == 0 then .error .overflow else wordOf (m / n)

def remainder (m n : Int) : Run Value :=
  if n == 0 || !Value.inWord (m / n) then .error .overflow else wordOf (m % n)

/-- A whole power; no base but these three has a power beyond 128 in its word. -/
def power (m n : Int) : Run Value :=
  if n < 0 || Int.pow 2 32 ≤ n then .error .overflow
  else if m == 0 || m == 1 || m == -1 then .ok (.int (Int.pow m (if n == 0 then 0 else 2 - (n % 2).toNat)))
  else if n > 128 then .error .overflow
  else wordOf (Int.pow m n.toNat)

def divide (a b : Value) : Run Value :=
  match a.float?, b.float? with
  | some x, some y => .ok (.float (x / y))
  | _, _ => .error .badOperand

def negate (v : Value) : Run Value :=
  match v with
  | .float x => .ok (.float (-x))
  | .int n => if n ≤ Int.pow 2 127 then wordOf (-n) else .error .badOperand
  | _ => .error .badOperand

def operate (op : Operator) (a b : Value) : Run Value :=
  match op with
  | .either => .ok (if a.isTrue then a else b)
  | .both => .ok (if a.isTrue then b else a)
  | .eq => .ok (.bool (a.equal b))
  | .ne => .ok (.bool !(a.equal b))
  | .lt => .ok (.bool (a.order b == .lt))
  | .le => .ok (.bool (a.order b != .gt))
  | .gt => .ok (.bool (a.order b == .gt))
  | .ge => .ok (.bool (a.order b != .lt))
  | .isIn => do return .bool (← orFault .badOperand (b.holds? a))
  | .add =>
    match a, b with
    | .text _ s, .text _ t => .ok (.plain (s ++ t))
    | a, b => arithmetic (fun m n => wordOf (m + n)) (· + ·) a b
  | .sub => arithmetic (fun m n => wordOf (m - n)) (· - ·) a b
  | .mul => arithmetic (fun m n => wordOf (m * n)) (· * ·) a b
  | .div => divide a b
  | .quotient => arithmetic quotient Text.Decimal.quotient a b
  | .remainder => arithmetic remainder Text.Decimal.remainder a b
  | .power => arithmetic power Float.pow a b
  | .concat => .ok (.plain (a.display ++ b.display))

def slice (v start stop step : Value) : Run Value := do
  let word := intOf (-Int.pow 2 63) (Int.pow 2 63)
  let start ← if start.isNone then pure 0 else word start
  let stop ← if stop.isNone then pure none else some <$> word stop
  let step ← if step.isNone then pure 1 else countOf step
  if step == 0 then throw .badOperand
  let part {α : Type} (items : List α) : List α :=
    let (first, count) := Value.span start stop items.length
    Value.stride step ((items.drop first).take count)
  match v with
  | .text _ t => return .plain (part t)
  | .undefined | .none => return .list []
  | .list items => return .list (part items)
  | _ => throw .badOperand

end Swatchbook.Template
