import Swatchbook.Text

/-!
# Paths

A path keeps the spelling it was given. Its parts are what the spelling means:
empty parts and all points but a leading one are dropped. Everything that
compares paths or computes with them works on the parts.
-/

namespace Swatchbook

structure Path where
  spelling : Text
  deriving DecidableEq

inductive Part
  | root
  | here
  | up
  | name (text : Text)
  deriving DecidableEq

def Part.text : Part → Text
  | .root => ['/']
  | .here => ['.']
  | .up => ['.', '.']
  | .name text => text

namespace Path

instance : Coe String Path := ⟨fun s => ⟨s.toList⟩⟩

def empty : Path := ⟨[]⟩

def isAbsolute (p : Path) : Bool := p.spelling.head? == some '/'

/-- The part that a piece between slashes stands for, if it stands for one. -/
def partOf? (piece : Text) : Option Part :=
  if piece == [] || piece == ['.'] then none
  else if piece == ['.', '.'] then some .up
  else some (.name piece)

def parts (p : Path) : List Part :=
  let pieces := Text.splitBy (· == '/') p.spelling
  let lead := if p.isAbsolute then [Part.root]
    else if pieces.head? == some ['.'] then [Part.here] else []
  lead ++ pieces.filterMap partOf?

/-- Puts `p` behind `base`; an absolute `p` replaces it. -/
def join (base p : Path) : Path :=
  if p.isAbsolute || base.spelling == [] then p
  else if base.spelling.getLast? == some '/' then ⟨base.spelling ++ p.spelling⟩
  else ⟨base.spelling ++ '/' :: p.spelling⟩

def ofParts (parts : List Part) : Path :=
  parts.foldl (fun p part => p.join ⟨part.text⟩) empty

/-- Takes one more part into a path that is already normal. -/
def fold (done : List Part) : Part → List Part
  | .here => done
  | .root => [.root]
  | .up =>
    match done.getLast? with
    | some (.name _) => done.dropLast
    | some .root => done
    | _ => done ++ [.up]
  | .name text => done ++ [.name text]

def normalParts (parts : List Part) : List Part := parts.foldl fold []

def normalize (p : Path) : Path := ofParts (normalParts p.parts)

def slash (p : Path) : Text := Text.join ['/'] (p.parts.map Part.text)

/-- The parts that lead from `base` to `target`. While `fresh`, only common
parts have been passed. -/
def between (fresh : Bool) : List Part → List Part → Option (List Part)
  | [], [] => some []
  | target, [] => some target
  | [], _ :: base => (between false [] base).map (.up :: ·)
  | a :: target, b :: base =>
    if fresh && a == b then between true target base
    else if b == .here then (between false target base).map (a :: ·)
    else if b == .up then none
    else some (.up :: base.map (fun _ => .up) ++ a :: target)

/-- The relative path from `base` to `p`: none if only one of them is
absolute, or if `base` climbs where `p` does not. -/
def relativeTo? (p base : Path) : Option Path :=
  if p.isAbsolute != base.isAbsolute then none
  else (between true p.parts base.parts).map ofParts

/-- What follows `lead` in a list of parts. -/
def below? (lead parts : List Part) : Option (List Part) := lead.isPrefixOf? parts

def rebase? (p source target : Path) : Option Path :=
  (below? (normalParts source.parts) (normalParts p.parts)).map fun rest =>
    target.join (ofParts rest)

def fileName? (p : Path) : Option Text :=
  match p.parts.getLast? with
  | some (.name text) => some text
  | _ => none

/-- The texts before and after the last point of a name. A point at the very
beginning does not count. -/
def splitName (name : Text) : Text × Option Text :=
  let reversed := name.reverse
  let extension := (reversed.takeWhile (· != '.')).reverse
  match reversed.dropWhile (· != '.') with
  | [] => (name, none)
  | [_] => (name, none)
  | _ :: stem => (stem.reverse, some extension)

def stem? (p : Path) : Option Text := p.fileName?.map fun name => (splitName name).1

def extension? (p : Path) : Option Text := p.fileName?.bind fun name => (splitName name).2

def stem (p : Path) : Text := p.stem?.getD []

/-- Whether the piece at a place of the spelling stands for a part. -/
def isPart (pieceIndex : Nat) (piece : Text) : Bool :=
  (partOf? piece).isSome || (pieceIndex == 0 && piece == ['.'])

/-- The pieces of a spelling up to its last part. -/
def significant (pieces : List Text) : List Text :=
  (pieces.zipIdx.reverse.dropWhile fun (piece, i) => !isPart i piece).reverse.map Prod.fst

def ofPieces (p : Path) (pieces : List Text) : Path :=
  let spelling := Text.join ['/'] (significant pieces)
  if p.isAbsolute && spelling == [] then ⟨['/']⟩ else ⟨spelling⟩

/-- The path without its last part, in the spelling it had; a root has none. -/
def parent? (p : Path) : Option Path :=
  match p.parts.getLast? with
  | none | some .root => none
  | _ => some (ofPieces p (significant (Text.splitBy (· == '/') p.spelling)).dropLast)

/-- The path with an extension after its stem. -/
def setExtension (p : Path) (extension : Text) : Path :=
  match p.fileName? with
  | none => p
  | some name =>
    let pieces := significant (Text.splitBy (· == '/') p.spelling)
    let point := if extension == [] then [] else '.' :: extension
    ⟨Text.join ['/'] (pieces.dropLast ++ [(splitName name).1 ++ point])⟩

/-- The path with another extension. The old one is taken off first, so a name
that begins with two points and has no other becomes a double point, which is
no name and takes no extension. -/
def withExtension (p : Path) (extension : Text) : Path :=
  match p.extension? with
  | none => p.setExtension extension
  | some old => (⟨p.spelling.take (p.spelling.length - old.length)⟩ : Path).setExtension extension

/-- Whether two spellings mean the same parts. -/
def same (p q : Path) : Bool := p.parts == q.parts

end Path

/-- Names of remote resources: a scheme or none, then two slashes. -/
def isUrl (t : Text) : Bool :=
  let rest := ([("https:" : Text), "http:", "file:"].findSome? fun scheme => Text.after? scheme t).getD t
  List.isPrefixOf "//" rest

end Swatchbook
