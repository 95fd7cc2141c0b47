import Swatchbook.Pattern.Class

/-!
# Patterns

Regular expressions. Alternatives are tried in the order they are written, a
greedy repetition tries one more round first and a lazy one tries it last.
Patterns look at the character before a match, never further back.
-/

namespace Swatchbook

/-- Where words begin or end. A half of an edge asks on one side only. -/
inductive WordEdge
  | either
  | neither
  | start
  | stop
  | startHalf
  | stopHalf
  deriving DecidableEq

inductive Look
  | textStart
  | textEnd
  | lineStart
  | lineEnd
  /-- Line ends of either kind, a carriage return and a line feed together being one. -/
  | anyLineStart
  | anyLineEnd
  /-- An edge of a word of the given letters. -/
  | word (edge : WordEdge) (letters : Class)
  deriving DecidableEq

inductive Pattern
  | empty
  | set (c : Class)
  | look (here : Look)
  | seq (a b : Pattern)
  | alt (a b : Pattern)
  | repeated (least : Nat) (most : Option Nat) (greedy : Bool) (a : Pattern)
  deriving DecidableEq

namespace Pattern

def seqOf : List Pattern → Pattern
  | [] => .empty
  | [p] => p
  | p :: ps => .seq p (seqOf ps)

def altOf : List Pattern → Pattern
  | [] => .empty
  | [p] => p
  | p :: ps => .alt p (altOf ps)

/-- How much room a pattern takes when every round of a counted repetition is
written out, roughly in bytes. -/
def bulk : Pattern → Nat
  | .empty | .look _ => 32
  | .set c => c.bulk
  | .seq a b => a.bulk + b.bulk
  | .alt a b => a.bulk + b.bulk + 40
  | .repeated least none _ a => max least 1 * a.bulk + 80
  | .repeated least (some most) _ a => most * a.bulk + (most - least) * 40 + 32

end Pattern

end Swatchbook
