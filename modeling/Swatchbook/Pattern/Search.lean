import Swatchbook.Pattern.Plan

/-!
# Searching

The leftmost match of a pattern in a text, and all matches from left to right.
-/

namespace Swatchbook

/-- A match and the text around it. -/
structure Found where
  before : Text
  raw : Text
  after : Text
  deriving DecidableEq

namespace Plan

/-- The number of characters of the match that begins at a place, in a text of
at most `places` places. -/
def lengthAt? (p : Plan) (places : Nat) (before : Option Char) (rest : Text) : Option Nat :=
  (p.run places ⟨0, before, rest⟩ (fun stop tried => (some stop, tried)) ∅).1.map Cursor.passed

/-- Goes through a text whose passed characters are given backwards. `skip`
characters still belong to the match before; `fresh` is false where that match
ended, and no empty match is taken there. -/
def scan (p : Plan) (places : Nat) (fresh : Bool) (skip : Nat) (passed : Text) : Text → List Found
  | [] =>
    if skip == 0 && fresh && (p.lengthAt? places passed.head? []).isSome then [⟨passed.reverse, [], []⟩]
    else []
  | c :: t =>
    match skip with
    | k + 1 => scan p places (k != 0) k (c :: passed) t
    | 0 =>
      match p.lengthAt? places passed.head? (c :: t) with
      | some (n + 1) =>
        ⟨passed.reverse, (c :: t).take (n + 1), (c :: t).drop (n + 1)⟩ ::
          scan p places (n != 0) n (c :: passed) t
      | some 0 =>
        let later := scan p places true 0 (c :: passed) t
        if fresh then ⟨passed.reverse, [], c :: t⟩ :: later else later
      | none => scan p places true 0 (c :: passed) t

/-- As the head of `scan`, found without looking for the others. -/
def seek (p : Plan) (places : Nat) (passed : Text) : Text → Option Found
  | [] => (p.lengthAt? places passed.head? []).map fun _ => ⟨passed.reverse, [], []⟩
  | c :: t =>
    match p.lengthAt? places passed.head? (c :: t) with
    | some n => some ⟨passed.reverse, (c :: t).take n, (c :: t).drop n⟩
    | none => seek p places (c :: passed) t

end Plan

namespace Pattern

def findAll (p : Pattern) (t : Text) : List Found := p.plan.scan (t.length + 1) true 0 [] t

def find? (p : Pattern) (t : Text) : Option Found := p.plan.seek (t.length + 1) [] t

def isIn (p : Pattern) (t : Text) : Bool := (p.find? t).isSome

def removeFirst (p : Pattern) (t : Text) : Text :=
  match p.find? t with
  | some found => found.before ++ found.after
  | none => t

end Pattern

end Swatchbook
