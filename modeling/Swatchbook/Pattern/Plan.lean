import Std.Data.HashSet
import Swatchbook.Pattern

/-!
# Matching

A plan is a pattern with its counted repetitions written out and its choices
numbered. At one place of a text each choice is taken up once: a second visit
could only repeat what has failed already, or turn in a circle of rounds that
take no character. So matching takes time in proportion to the size of the
plan and the length of the text.
-/

namespace Swatchbook

/-- A place in a text: how many characters were passed, the last of them, and
what is still to come. -/
structure Cursor where
  passed : Nat
  before : Option Char
  rest : Text

namespace Cursor

def advance (c : Char) (here : Cursor) (rest : Text) : Cursor := ⟨here.passed + 1, some c, rest⟩

def isEdge (here : Cursor) (letters : Class) (edge : WordEdge) : Bool :=
  let left := here.before.any letters.has
  let right := here.rest.head?.any letters.has
  match edge with
  | .either => left != right
  | .neither => left == right
  | .start => !left && right
  | .stop => left && !right
  | .startHalf => !left
  | .stopHalf => !right

def satisfies (here : Cursor) : Look → Bool
  | .textStart => here.before.isNone
  | .textEnd => here.rest.isEmpty
  | .lineStart => here.before.all (· == '\n')
  | .lineEnd => here.rest.head?.all (· == '\n')
  | .anyLineStart => here.before.all fun c => c == '\n' || (c == '\r' && here.rest.head? != some '\n')
  | .anyLineEnd => here.rest.head?.all fun c => c == '\r' || (c == '\n' && here.before != some '\r')
  | .word edge letters => here.isEdge letters edge

end Cursor

inductive Plan
  | done
  | set (c : Class)
  | look (here : Look)
  | seq (a b : Plan)
  /-- `a`, and if that leads nowhere `b`. -/
  | fork (place : Nat) (a b : Plan)
  /-- One round of `a` and then, at the numbered choice, any number of others. -/
  | rounds (place : Nat) (greedy : Bool) (a : Plan)

namespace Plan

/-- The choices that were taken up: which, and after how many characters. -/
abbrev Tried := Std.HashSet (Nat × Nat)

/-- An end of a match, if one is found, and the choices taken up on the way. -/
abbrev Attempt := Tried → Option Cursor × Tried

abbrev Goal := Cursor → Attempt

def Attempt.fail : Attempt := fun tried => (none, tried)

def Attempt.orElse (a b : Attempt) : Attempt := fun tried =>
  match a tried with
  | (some stop, tried) => (some stop, tried)
  | (none, tried) => b tried

/-- Takes up a choice unless it was taken up here before. -/
def once (place : Nat) (here : Cursor) (a : Attempt) : Attempt := fun tried =>
  if tried.contains (place, here.passed) then (none, tried)
  else a (tried.insert (place, here.passed))

/-- Behind a round: another one or the goal. As the choice is taken up once at
each place, there are no more rounds than places. -/
def more (place : Nat) (greedy : Bool) (round : Cursor → Goal → Attempt) :
    Nat → Cursor → Goal → Attempt
  | 0, _, _ => .fail
  | n + 1, here, goal =>
    let another : Attempt := round here fun next => more place greedy round n next goal
    once place here (if greedy then another.orElse (goal here) else (goal here).orElse another)

/-- The end of the preferred match at a place that lets the goal succeed, if
there are at most `places` places from here to the end of the text. -/
def run (places : Nat) : Plan → Cursor → Goal → Attempt
  | .done, here, goal => goal here
  | .set c, here, goal =>
    match here.rest with
    | [] => .fail
    | d :: rest => if c.has d then goal (here.advance d rest) else .fail
  | .look l, here, goal => if here.satisfies l then goal here else .fail
  | .seq a b, here, goal => a.run places here fun next => b.run places next goal
  | .fork place a b, here, goal =>
    once place here ((a.run places here goal).orElse (b.run places here goal))
  | .rounds place greedy a, here, goal =>
    a.run places here fun next => more place greedy (a.run places) places next goal

def option (place : Nat) (greedy : Bool) (a : Plan) : Plan :=
  if greedy then .fork place a .done else .fork place .done a

/-- `n` plans in a row, each with numbers of its own. -/
def copies (make : Nat → Plan × Nat) : Nat → Nat → Plan × Nat
  | 0, free => (.done, free)
  | n + 1, free =>
    let (a, free) := make free
    let (others, free) := copies make n free
    (.seq a others, free)

/-- Up to `n` plans in a row: who leaves one out leaves out those behind it. -/
def options (greedy : Bool) (make : Nat → Plan × Nat) : Nat → Nat → Plan × Nat
  | 0, free => (.done, free)
  | n + 1, free =>
    let (a, next) := make (free + 1)
    let (others, next) := options greedy make n next
    (option free greedy (.seq a others), next)

end Plan

namespace Pattern

/-- The plan whose choices are numbered from `free` on, and the next number.
Any number of rounds is written as one or more rounds or none, so that leaving
off before the first round differs from leaving off behind an empty one. -/
def planFrom : Pattern → Nat → Plan × Nat
  | .empty, free => (.done, free)
  | .set c, free => (.set c, free)
  | .look l, free => (.look l, free)
  | .seq a b, free =>
    let (a, free) := a.planFrom free
    let (b, free) := b.planFrom free
    (.seq a b, free)
  | .alt a b, free =>
    let (a, next) := a.planFrom (free + 1)
    let (b, next) := b.planFrom next
    (.fork free a b, next)
  | .repeated 0 none greedy a, free =>
    let (a, next) := a.planFrom (free + 2)
    (.option free greedy (.rounds (free + 1) greedy a), next)
  | .repeated (n + 1) none greedy a, free =>
    let (first, free) := Plan.copies a.planFrom n free
    let (last, next) := a.planFrom (free + 1)
    (.seq first (.rounds free greedy last), next)
  | .repeated least (some most) greedy a, free =>
    let (first, free) := Plan.copies a.planFrom least free
    let (others, free) := Plan.options greedy a.planFrom (most - least) free
    (.seq first others, free)

def plan (p : Pattern) : Plan := (p.planFrom 0).1

end Pattern

end Swatchbook
