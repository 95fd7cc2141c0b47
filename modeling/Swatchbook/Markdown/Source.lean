import Swatchbook.Text.Age
import Swatchbook.Text.Category

/-!
# Source

The characters of a document, read by their places. A line ends with a line
feed, a carriage return, or one behind the other; the end of the source ends a
line too.
-/

namespace Swatchbook.Markdown

def isGap (c : Char) : Bool := c == ' ' || c == '\t' || c == '\x0b' || c == '\x0c'

def isWide (c : Char) : Bool := isGap c || c == '\n' || c == '\r'

def isSpace (c : Char) : Bool := c == ' ' || c == '\t'

def asciiPunctuation : Text := "!\x22#$%&\x27()*+,-./:;<=>?@[\\]^_\x60\x7b|\x7d~"

def isAsciiPunctuation (c : Char) : Bool := asciiPunctuation.contains c

/-- Punctuation and symbols, those of the latest version of the standard left out. -/
def isPunctuation (c : Char) : Bool :=
  if c.toNat < 128 then isAsciiPunctuation c
  else (Text.Category.isIn "P" c || Text.Category.isIn "S" c) && !Text.Age.latest.has c

/-- The characters before the place `stop`. -/
structure Source where
  chars : Array Char
  stop : Nat

namespace Source

def ofText (t : Text) : Source := ⟨t.toArray, t.length⟩

def before (s : Source) (stop : Nat) : Source := { s with stop := min s.stop stop }

def at? (s : Source) (i : Nat) : Option Char := if i < s.stop then s.chars[i]? else none

def isAt (s : Source) (c : Char) (i : Nat) : Bool := s.at? i == some c

def slice (s : Source) (start stop : Nat) : Text := (s.chars.extract start (min stop s.stop)).toList

/-- The first place from `i` on whose character does not satisfy `p`. -/
def skip (s : Source) (p : Char → Bool) (i : Nat) : Nat :=
  if i < s.stop then
    if (s.chars[i]?).any p then s.skip p (i + 1) else i
  else i
termination_by s.stop - i

/-- How many characters before the place `i`, and not before `low`, satisfy `p`. -/
def countBack (s : Source) (p : Char → Bool) (low : Nat) : Nat → Nat
  | 0 => 0
  | i + 1 => if low ≤ i && (s.chars[i]?).any p then s.countBack p low i + 1 else 0

def count (s : Source) (c : Char) (i : Nat) : Nat := s.skip (· == c) i - i

def skipGaps (s : Source) (i : Nat) : Nat := s.skip isGap i

def atText (s : Source) (t : Text) (i : Nat) : Bool := s.slice i (i + t.length) == t

def lineEnd? (s : Source) (i : Nat) : Option Nat :=
  match s.at? i with
  | none => some i
  | some '\n' => some (i + 1)
  | some '\r' => some (if s.isAt '\n' (i + 1) then i + 2 else i + 1)
  | some _ => none

def blankLine? (s : Source) (i : Nat) : Option Nat := s.lineEnd? (s.skipGaps i)

def isBlankLine (s : Source) (i : Nat) : Bool := (s.blankLine? i).isSome

def behindFeed (s : Source) (i : Nat) : Nat := min s.stop (s.skip (· != '\n') i + 1)

def findFrom (s : Source) (mark : Text) (first : Char) : Nat → Nat → Option Nat
  | 0, _ => none
  | fuel + 1, i =>
    let i := s.skip (· != first) i
    if s.stop ≤ i then none
    else if s.atText mark i then some i
    else s.findFrom mark first fuel (i + 1)

def find? (s : Source) (mark : Text) (i : Nat) : Option Nat :=
  match mark with
  | [] => some i
  | first :: _ => s.findFrom mark first (s.stop - i + 1) i

end Source

end Swatchbook.Markdown
