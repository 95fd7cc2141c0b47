import Swatchbook.Volume

/-!
# Globs

A pattern of paths, component by component. Within a component a star stands
for any characters, a question mark for one, and brackets for one of a class;
two stars are a component of their own and stand for any number of folders.
Matches come in the order of a walk through the names.
-/

namespace Swatchbook

namespace Glob

/-- One character or a range of them. -/
structure Span where
  first : Char
  last : Char
  deriving DecidableEq

def Span.holds (s : Span) (c : Char) : Bool := s.first ≤ c && c ≤ s.last

inductive Token
  | char (c : Char)
  | any
  | anyText
  | within (negated : Bool) (spans : List Span)
  deriving DecidableEq

inductive Component
  | name (tokens : List Token)
  | folders
  deriving DecidableEq

inductive ReadFault
  | stars
  | folders
  | badClass
  deriving DecidableEq

def ReadFault.message : ReadFault → Text
  | .stars => "wildcards are either regular `*` or recursive `**`"
  | .folders => "recursive wildcards must form a single path component"
  | .badClass => "invalid range pattern"

def spansOf : Text → List Span
  | a :: '-' :: b :: rest => ⟨a, b⟩ :: spansOf rest
  | a :: rest => ⟨a, a⟩ :: spansOf rest
  | [] => []

/-- The inside of a class and what follows it. The first character is always inside. -/
def cutClass : Text → Option (Text × Text)
  | [] => none
  | c :: t => (Text.cut? [']'] t).map fun (inside, rest) => (c :: inside, rest)

def readTokens : Nat → Text → Except ReadFault (List Token)
  | 0, _ | _, [] => .ok []
  | fuel + 1, c :: t =>
    match c with
    | '?' => (readTokens fuel t).map (.any :: ·)
    | '*' =>
      match t with
      | '*' :: '*' :: _ => .error .stars
      | '*' :: _ => .error .folders
      | t => (readTokens fuel t).map (.anyText :: ·)
    | '[' =>
      let negated := t.head? == some '!'
      match cutClass (if negated then t.drop 1 else t) with
      | none => .error .badClass
      | some (inside, rest) => (readTokens fuel rest).map (.within negated (spansOf inside) :: ·)
    | c => (readTokens fuel t).map (.char c :: ·)

def readComponent (t : Text) : Except ReadFault Component :=
  if t == ['*', '*'] then .ok .folders else (readTokens t.length t).map .name

def Token.accepts : Token → Char → Bool
  | .char d, c => c == d
  | .any, _ | .anyText, _ => true
  | .within negated spans, c => spans.any (·.holds c) != negated

/-- Whether some ending of a text, the whole of it included, has a property. -/
def someEnding (p : Text → Bool) : Text → Bool
  | [] => p []
  | c :: t => p (c :: t) || someEnding p t

def accepts : List Token → Text → Bool
  | [], t => t.isEmpty
  | .anyText :: rest, t => someEnding (accepts rest) t
  | _ :: _, [] => false
  | token :: rest, c :: t => token.accepts c && accepts rest t

def literalOf? : List Token → Option Text
  | [] => some []
  | .char c :: rest => (literalOf? rest).map (c :: ·)
  | _ => none

namespace Component

/-- The one name that a component stands for, if it has no wildcards. -/
def literal? : Component → Option Text
  | .name tokens => literalOf? tokens
  | .folders => none

def accepts (c : Component) (name : Text) : Bool :=
  match c with
  | .name tokens => Glob.accepts tokens name
  | .folders => false

/-- A point or a double point is found only by a component that begins with a point. -/
def dots (c : Component) : List Text :=
  match c with
  | .name (.char '.' :: _) =>
    ([['.', '.'], ['.']] : List Text).filter fun dots => c.accepts dots
  | _ => []

end Component

end Glob

structure Glob where
  /-- The root, or the place relative paths start from. -/
  scope : Path
  components : List Glob.Component
  /-- Whether the pattern ends in a slash and so finds folders only. -/
  folderOnly : Bool

namespace Glob

def piecesOf (t : Text) : List Text :=
  let pieces := Text.splitBy (· == '/') t
  if pieces.getLast? == some [] then pieces.dropLast else pieces

def read (t : Text) : Except ReadFault Glob := do
  let absolute := t.head? == some '/'
  let rest := if absolute then t.drop 1 else t
  let components ← (piecesOf rest).mapM readComponent
  return {
    scope := if absolute then "/" else "."
    components := if rest.isEmpty then [.name []] else components
    folderOnly := t.getLast? == some '/' }

/-- A name below a path; the place where relative paths start is not spelled out. -/
def child (path : Path) (name : Text) : Path :=
  if path.same "." then ⟨name⟩ else path.join ⟨name⟩

mutual

/-- What the components find below a path. -/
def below : Nat → Volume → Bool → List Component → Path → List Path
  | 0, _, _, _, _ => []
  | _, _, _, [], _ => []
  | fuel + 1, v, folderOnly, c :: rest, path =>
    let further (next : Path) : List Path :=
      if rest.isEmpty then if folderOnly && !v.isFolder next then [] else [next]
      else below fuel v folderOnly rest next
    match c.literal? with
    | some name =>
      let special := name == ['.'] || name == ['.', '.']
      let next := child path name
      if (if special then v.isFolder path else v.holds next) then further next else []
    | none =>
      if v.isFolder path then
        (c.dots.flatMap fun dots => further (path.join ⟨dots⟩)) ++
          (v.names path).flatMap fun name => visit fuel v folderOnly (c :: rest) (child path name)
      else []

/-- What the components find at a path and below it, the first one being for its name. -/
def visit : Nat → Volume → Bool → List Component → Path → List Path
  | 0, _, _, _, _ => []
  | fuel + 1, v, folderOnly, components, path =>
    let named (components : List Component) : List Path :=
      match components with
      | [] => []
      | c :: rest =>
        match path.fileName? with
        | none => []
        | some name =>
          if !c.accepts name then []
          else if rest.isEmpty then if folderOnly && !v.isFolder path then [] else [path]
          else below fuel v folderOnly rest path
    match components with
    | .folders :: rest =>
      let rest := rest.dropWhile (· == .folders)
      let deeper := if v.isFolder path then below fuel v folderOnly (.folders :: rest) path else []
      if rest.isEmpty then if v.isFolder path then path :: deeper else []
      else named rest ++ deeper
    | components => named components

end

/-- The paths that a pattern finds. Every step goes on to the next component or one
folder down. -/
def find (v : Volume) (glob : Glob) : List Path :=
  below (2 * (glob.components.length + 1) * (v.items.length + 2)) v glob.folderOnly
    glob.components glob.scope

end Glob

end Swatchbook
