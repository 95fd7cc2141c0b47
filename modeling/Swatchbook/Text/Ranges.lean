import Swatchbook.Text

/-!
# Sets of code points

A set of code points by the places, in increasing order, at which membership
changes. Tables write the distances between them in base 36.
-/

namespace Swatchbook.Text

def base36 (digits : Text) : Nat :=
  digits.foldl (fun n c => 36 * n +
    if isDigit c then digitValue c else c.toNat - 'a'.toNat + 10) 0

/-- Nothing below the first place is in the set. -/
structure Ranges where
  places : Array Nat
  deriving DecidableEq

namespace Ranges

/-- The places that follow each other at the given distances. -/
def placesAt (distances : List Text) : Array Nat :=
  (distances.foldl (fun (last, done) d => let next := last + base36 d; (next, done.push next))
    (0, #[])).2

def ofText (table : String) : Ranges :=
  ⟨placesAt ((splitBy isBlank table).filter (! ·.isEmpty))⟩

/-- Halves the part of an increasing array that still has to be looked at:
what stands before `low` is at most `n`, what stands from `high` on is above. -/
def countBetween (a : Array Nat) (n low high : Nat) : Nat :=
  if low < high then
    let middle := (low + high) / 2
    if a.getD middle 0 ≤ n then countBetween a n (middle + 1) high
    else countBetween a n low middle
  else low
termination_by high - low

/-- How many entries of an increasing array are at most `n`. -/
def countUpTo (a : Array Nat) (n : Nat) : Nat := countBetween a n 0 a.size

def has (r : Ranges) (c : Char) : Bool := countUpTo r.places c.toNat % 2 == 1

end Ranges

end Swatchbook.Text
