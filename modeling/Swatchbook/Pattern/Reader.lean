import Swatchbook.Pattern.Search

/-!
# Reading patterns

The notation of regular expressions. A reader holds the groups that are still
open; reading goes through the text once. Groups only group: what they match
is not kept, so a back-reference is a fault, and so is looking around.
-/

namespace Swatchbook.Pattern

inductive ReadFault
  | unclosedGroup
  | unopenedGroup
  | nothingToRepeat
  | badCount
  | badEscape
  | badClass
  | badFlag
  | badGroupName
  | badProperty
  | lookAround
  | notUnicode
  | tooDeep
  | tooLarge
  deriving DecidableEq

def ReadFault.message : ReadFault → Text
  | .unclosedGroup => "unclosed group"
  | .unopenedGroup => "unopened group"
  | .nothingToRepeat => "repetition operator missing expression"
  | .badCount => "invalid repetition count"
  | .badEscape => "invalid escape sequence"
  | .badClass => "invalid character class"
  | .badFlag => "invalid flag"
  | .badGroupName => "invalid capture group name"
  | .badProperty => "Unicode property not found"
  | .lookAround => "look-around is not supported"
  | .notUnicode => "pattern can match invalid UTF-8"
  | .tooDeep => "exceeds the maximum number of nested groups"
  | .tooLarge => "compiled pattern exceeds the size limit"

/-- The flags that hold at a place of a pattern, and the letters of its words. -/
structure Modes where
  letters : Class
  ignoreCase : Bool
  multiLine : Bool
  pointAll : Bool
  swapGreed : Bool
  verbose : Bool
  unicode : Bool
  anyLineEnd : Bool

def Modes.initial : Modes := ⟨.word, false, false, false, false, false, true, false⟩

abbrev Read (α : Type) := Except ReadFault α

def skipVerbose (on : Bool) (t : Text) : Text :=
  if !on then t else go false t
where
  go (comment : Bool) : Text → Text
    | [] => []
    | c :: t =>
      if comment then go (c != '\n') t
      else if Text.isBlank c then go false t
      else if c == '#' then go true t
      else c :: t

def metaChars : Text := "\\.+*?()|[]\x7b\x7d^$#&-~"

/-- The characters that stand for themselves behind a backslash. -/
def isEscapable (c : Char) : Bool :=
  metaChars.contains c || (c.toNat < 128 && !c.isAlphanum && c != '<' && c != '>')

inductive Escaped
  | char (c : Char)
  | cls (c : Class)
  | look (l : Look)

def charOf (digits : Text) : Read Char :=
  match Text.char? (Text.ofHex digits) with
  | some c => .ok c
  | none => .error .badEscape

/-- Up to `most` characters of a kind, with what a verbose pattern skips between them. -/
def takeOf (kind : Char → Bool) (verbose : Bool) : Nat → Text → Text × Text
  | 0, t => ([], t)
  | most + 1, t =>
    match skipVerbose verbose t with
    | c :: rest =>
      if kind c then
        let (others, rest) := takeOf kind verbose most rest
        (c :: others, rest)
      else ([], c :: rest)
    | [] => ([], [])

/-- A character by its code point: `width` digits, or any number in braces. -/
def readHex (modes : Modes) (width : Nat) (t : Text) : Read (Char × Text) :=
  match skipVerbose modes.verbose t with
  | '\x7b' :: t =>
    match takeOf Text.isHex modes.verbose t.length t with
    | ([], _) => .error .badEscape
    | (digits, rest) =>
      match skipVerbose modes.verbose rest with
      | '\x7d' :: rest => (charOf digits).map fun c => (c, rest)
      | _ => .error .badEscape
  | t =>
    let (digits, rest) := takeOf Text.isHex modes.verbose width t
    if digits.length < width then .error .badEscape
    else
      match charOf digits with
      | .error e => .error e
      | .ok c =>
        -- Without Unicode two digits stand for a byte, and a byte above 0x7f is no character.
        if width == 2 && !modes.unicode && 0x7f < c.toNat then .error .notUnicode else .ok (c, rest)

def foldIf (modes : Modes) (c : Class) : Class :=
  if !modes.ignoreCase then c else if modes.unicode then .folded c else .asciiFolded c

/-- The key of a property, if one is written, its value, and whether the value is excluded. -/
def splitProperty (t : Text) : Option Text × Text × Bool :=
  match Text.cut? "!=" t with
  | some (key, value) => (some key, value, true)
  | none =>
    match (Text.cut? ":" t).or (Text.cut? "=" t) with
    | some (key, value) => (some key, value, false)
    | none => (none, t, false)

/-- The class of a property, by one letter or by a name in braces. -/
def readProperty (modes : Modes) (negated : Bool) (t : Text) : Read (Class × Text) := do
  if !modes.unicode then throw .notUnicode
  let (name, rest) ← match skipVerbose modes.verbose t with
    | [] => throw .badEscape
    | '\x7b' :: t =>
      let (name, rest) := takeOf (· != '\x7d') modes.verbose t.length t
      match skipVerbose modes.verbose rest with
      | [] => throw .badEscape
      | _ :: rest => pure (name, rest)
    | c :: rest => pure ([c], rest)
  let (key, value, unequal) := splitProperty name
  let found := match key with
    | some key => Class.propertyValue? key value
    | none => Class.property? value
  match found with
  | some c =>
    let c := foldIf modes c
    return (if negated != unequal then .not c else c, rest)
  | none => throw .badProperty

def wordClass (modes : Modes) : Class := if modes.unicode then modes.letters else .asciiWord

def wordLook (modes : Modes) (edge : WordEdge) : Look := .word edge (wordClass modes)

/-- The named word edges, `\b\x7bstart\x7d` and the like. What is no name in
braces is left for a repetition. -/
def readEdge (modes : Modes) (t : Text) : Read (Look × Text) :=
  let isName := fun c : Char => c.isAlpha || c == '-'
  match t with
  | '\x7b' :: inside =>
    if inside.isEmpty then .error .badEscape
    else
      match takeOf isName modes.verbose inside.length inside with
      | ([], _) => .ok (wordLook modes .either, t)
      | (name, rest) =>
        match skipVerbose modes.verbose rest with
        | '\x7d' :: rest =>
          if name == "start" then .ok (wordLook modes .start, rest)
          else if name == "end" then .ok (wordLook modes .stop, rest)
          else if name == "start-half" then .ok (wordLook modes .startHalf, rest)
          else if name == "end-half" then .ok (wordLook modes .stopHalf, rest)
          else .error .badEscape
        | _ => .error .badEscape
  | t => .ok (wordLook modes .either, t)

def perlClass (modes : Modes) (c : Char) : Read Class :=
  let wide := modes.unicode
  match c with
  | 'd' => .ok (if wide then .digit else .asciiDigit)
  | 's' => .ok (if wide then .blank else .asciiBlank)
  | 'w' => .ok (wordClass modes)
  | 'D' => if wide then .ok (.not .digit) else .error .notUnicode
  | 'S' => if wide then .ok (.not .blank) else .error .notUnicode
  | 'W' => if wide then .ok (.not (wordClass modes)) else .error .notUnicode
  | _ => .error .badEscape

def readEscape (modes : Modes) : Text → Read (Escaped × Text)
  | [] => .error .badEscape
  | c :: t =>
    match c with
    | 'x' => (readHex modes 2 t).map fun (c, t) => (.char c, t)
    | 'u' => (readHex modes 4 t).map fun (c, t) => (.char c, t)
    | 'U' => (readHex modes 8 t).map fun (c, t) => (.char c, t)
    | 'p' => (readProperty modes false t).map fun (c, t) => (.cls c, t)
    | 'P' => (readProperty modes true t).map fun (c, t) => (.cls c, t)
    | 'a' => .ok (.char '\x07', t)
    | 'f' => .ok (.char '\x0c', t)
    | 't' => .ok (.char '\t', t)
    | 'n' => .ok (.char '\n', t)
    | 'r' => .ok (.char '\r', t)
    | 'v' => .ok (.char '\x0b', t)
    | 'A' => .ok (.look .textStart, t)
    | 'z' => .ok (.look .textEnd, t)
    | 'b' => (readEdge modes t).map fun (edge, t) => (.look edge, t)
    | 'B' => .ok (.look (wordLook modes .neither), t)
    | '<' => .ok (.look (wordLook modes .start), t)
    | '>' => .ok (.look (wordLook modes .stop), t)
    | c =>
      if isEscapable c then .ok (.char c, t)
      else (perlClass modes c).map fun cls => (.cls cls, t)

/-! Bracketed classes. -/

inductive ClassOp
  | both
  | minus
  | differ

def ClassOp.apply (modes : Modes) (op : ClassOp) (a b : Class) : Class :=
  let a := foldIf modes a
  let b := foldIf modes b
  match op with
  | .both => .both a b
  | .minus => .both a (.not b)
  | .differ => .union (.both a (.not b)) (.both b (.not a))

/-- A part of a class: its value, how deep the brackets and operators in it are
nested, and how many items it lists. -/
structure ClassPart where
  value : Class
  depth : Nat
  items : Nat

namespace ClassPart

def empty : ClassPart := ⟨.none, 0, 0⟩

def add (p : ClassPart) (c : Class) (depth : Nat) : ClassPart :=
  ⟨.union p.value c, max p.depth depth, p.items + 1⟩

/-- Listing several items is a level of its own. -/
def level (p : ClassPart) : Nat := if p.items ≤ 1 then p.depth else p.depth + 1

end ClassPart

/-- A class whose closing bracket has not come yet: what stands left of the
last operator, with its level, and the items after it. -/
structure OpenClass where
  negated : Bool
  left : Option (Class × Nat × ClassOp)
  part : ClassPart

namespace OpenClass

def add (o : OpenClass) (c : Class) (depth : Nat) : OpenClass :=
  { o with part := o.part.add c depth }

/-- The value and the level of what was read so far. -/
def value (modes : Modes) (o : OpenClass) : Class × Nat :=
  match o.left with
  | some (left, level, op) => (op.apply modes left o.part.value, max level o.part.level + 1)
  | none => (o.part.value, o.part.level)

def operator (modes : Modes) (op : ClassOp) (o : OpenClass) : OpenClass :=
  let (left, level) := o.value modes
  { o with left := some (left, level, op), part := .empty }

/-- Without Unicode a class may not hold what is no character of its own. -/
def close (modes : Modes) (o : OpenClass) : Read (Class × Nat) :=
  let (c, level) := o.value modes
  let c := foldIf modes c
  let c := if o.negated then .not c else c
  if !modes.unicode && c.has '\x80' then .error .notUnicode else .ok (c, level + 1)

end OpenClass

/-- Hyphens at the beginning of a class stand for themselves. -/
def readHyphens (verbose : Bool) : Nat → ClassPart → Text → ClassPart × Text
  | 0, part, t => (part, t)
  | fuel + 1, part, t =>
    match skipVerbose verbose t with
    | '-' :: t => readHyphens verbose fuel (part.add (.char '-') 0) t
    | t => (part, t)

/-- The opening bracket is passed. Hyphens, or else a closing bracket, stand
for themselves at the beginning. -/
def openClass (modes : Modes) (t : Text) : OpenClass × Text :=
  let (negated, t) := match skipVerbose modes.verbose t with
    | '^' :: t => (true, t)
    | t => (false, t)
  let (part, t) := readHyphens modes.verbose (t.length + 1) .empty t
  match part.items, skipVerbose modes.verbose t with
  | 0, ']' :: t => (⟨negated, none, part.add (.char ']') 0⟩, t)
  | _, t => (⟨negated, none, part⟩, t)

/-- A class with a name between colons, the opening bracket being passed. -/
def asciiClass? (modes : Modes) (t : Text) : Option (Class × Text) := do
  let t ← Text.after? ":" t
  let (negated, t) := match t with
    | '^' :: t => (true, t)
    | t => (false, t)
  let (name, rest) ← Text.cut? ":]" t
  if name.contains ':' then none
  let c ← Class.named? name
  let c := foldIf modes c
  return (if negated then .not c else c, rest)

def readItem (modes : Modes) : Text → Read (Escaped × Text)
  | [] => .error .badClass
  | '\\' :: t => readEscape modes t
  | c :: t => .ok (.char c, t)

/-- Without Unicode a class has no place for a character of several bytes. -/
def checkChar (modes : Modes) (c : Char) : Read Char :=
  if !modes.unicode && 0x7f < c.toNat then .error .notUnicode else .ok c

/-- An item, or a range if a hyphen and another item follow. -/
def readRange (modes : Modes) (t : Text) : Read (Class × Text) := do
  let (first, t) ← readItem modes t
  let t := skipVerbose modes.verbose t
  let behind := match t with
    | '-' :: rest => (skipVerbose modes.verbose rest).head?
    | _ => some ']'
  if behind == some ']' || behind == some '-' || behind == none then
    match first with
    | .char c => return (.char (← checkChar modes c), t)
    | .cls c => return (c, t)
    | .look _ => throw .badClass
  else
    let (last, t) ← readItem modes (skipVerbose modes.verbose (t.drop 1))
    match first, last with
    | .char a, .char b =>
      let a ← checkChar modes a
      let b ← checkChar modes b
      if a ≤ b then return (.range a b, t) else throw .badClass
    | _, _ => throw .badClass

/-- Reads up to the bracket that closes the outermost open class. -/
def readClass (modes : Modes) :
    Nat → List OpenClass → OpenClass → Text → Read (Class × Nat × Text)
  | 0, _, _, _ => .error .badClass
  | fuel + 1, outer, o, t =>
    match skipVerbose modes.verbose t with
    | [] => .error .badClass
    | '[' :: t =>
      match asciiClass? modes t with
      | some (c, t) => readClass modes fuel outer (o.add c 0) t
      | none =>
        let (inner, t) := openClass modes t
        readClass modes fuel (o :: outer) inner t
    | ']' :: t =>
      match o.close modes with
      | .error e => .error e
      | .ok (c, depth) =>
        match outer with
        | [] => .ok (c, depth, t)
        | parent :: outer => readClass modes fuel outer (parent.add c depth) t
    | '&' :: '&' :: t => readClass modes fuel outer (o.operator modes .both) t
    | '-' :: '-' :: t => readClass modes fuel outer (o.operator modes .minus) t
    | '~' :: '~' :: t => readClass modes fuel outer (o.operator modes .differ) t
    | t =>
      match readRange modes t with
      | .error e => .error e
      | .ok (c, t) => readClass modes fuel outer (o.add c 0) t

/-! Groups and repetition. -/

/-- A part of a pattern and how deep it is nested. Sequences, alternatives,
groups, repetitions and classes in brackets are a level each. -/
structure Nested where
  pattern : Pattern
  depth : Nat

/-- Several parts make a level, one does not. -/
def Nested.ofList (join : List Pattern → Pattern) (parts : List Nested) : Nested :=
  let depth := parts.foldl (fun d part => max d part.depth) 0
  ⟨join (parts.map Nested.pattern), if parts.length ≤ 1 then depth else depth + 1⟩

/-- An item of a sequence. A change of flags is an item that cannot be repeated. -/
inductive Item
  | part (p : Nested)
  | flags

def Item.toNested : Item → Nested
  | .part p => p
  | .flags => ⟨.empty, 0⟩

/-- An open group: the modes to return to behind it, the alternatives that are
complete and the items of the one being read, both backwards. -/
structure Frame where
  outside : Modes
  alternatives : List Nested
  items : List Item

def Frame.fresh (outside : Modes) : Frame := ⟨outside, [], []⟩

def Frame.current (f : Frame) : Nested := .ofList seqOf (f.items.reverse.map Item.toNested)

def Frame.close (f : Frame) : Nested := .ofList altOf (f.current :: f.alternatives).reverse

def Frame.add (f : Frame) (p : Nested) : Frame := { f with items := .part p :: f.items }

structure Reader where
  modes : Modes
  frame : Frame
  outer : List Frame
  names : List Text

def Reader.add (r : Reader) (p : Pattern) (depth : Nat) : Reader :=
  { r with frame := r.frame.add ⟨p, depth⟩ }

def Reader.repeatLast (r : Reader) (least : Nat) (most : Option Nat) (greedy : Bool) : Read Reader :=
  match r.frame.items with
  | .part p :: items =>
    let p := ⟨.repeated least most (greedy != r.modes.swapGreed) p.pattern, p.depth + 1⟩
    .ok { r with frame := { r.frame with items := .part p :: items } }
  | _ => .error .nothingToRepeat

def readGreed : Text → Bool × Text
  | '?' :: t => (false, t)
  | t => (true, t)

def readCount (verbose : Bool) (t : Text) : Option Nat × Text :=
  let t := Text.trimStart t
  let (digits, rest) := takeOf Text.isDigit verbose t.length t
  (if digits.isEmpty then none else some (Text.toNat digits), Text.trimStart rest)

def readCounts (verbose : Bool) (t : Text) : Read (Nat × Option Nat × Text) :=
  let skip := skipVerbose verbose
  match readCount verbose (skip t) with
  | (none, _) => .error .badCount
  | (some least, t) =>
    if Nat.pow 2 32 ≤ least then .error .badCount
    else
      match skip t with
      | '\x7d' :: t => .ok (least, some least, t)
      | ',' :: t =>
        match skip t with
        | '\x7d' :: t => .ok (least, none, t)
        | t =>
          match readCount verbose t with
          | (some most, t) =>
            match skip t with
            | '\x7d' :: t =>
              if most < least || Nat.pow 2 32 ≤ most then .error .badCount else .ok (least, some most, t)
            | _ => .error .badCount
          | (none, _) => .error .badCount
      | _ => .error .badCount

def readFlags (modes : Modes) (on : Bool) (dangling : Bool) (seen : Text) :
    Text → Read (Modes × Text × Text)
  | [] => .error .badFlag
  | c :: t =>
    if c == ':' || c == ')' then
      if dangling then .error .badFlag else .ok (modes, seen, c :: t)
    else if seen.contains c then .error .badFlag
    else
      match c with
      | '-' => if on then readFlags modes false true ('-' :: seen) t else .error .badFlag
      | 'i' => readFlags { modes with ignoreCase := on } on false (c :: seen) t
      | 'm' => readFlags { modes with multiLine := on } on false (c :: seen) t
      | 's' => readFlags { modes with pointAll := on } on false (c :: seen) t
      | 'U' => readFlags { modes with swapGreed := on } on false (c :: seen) t
      | 'u' => readFlags { modes with unicode := on } on false (c :: seen) t
      | 'R' => readFlags { modes with anyLineEnd := on } on false (c :: seen) t
      | 'x' => readFlags { modes with verbose := on } on false (c :: seen) t
      | _ => .error .badFlag

def isNameStart (c : Char) : Bool := c == '_' || Text.Property.alphabetic.has c

def isNameChar (c : Char) : Bool :=
  isNameStart c || c == '.' || c == '[' || c == ']' || Text.Category.isIn "N" c

def Reader.openGroup (r : Reader) (modes : Modes) : Reader :=
  { r with modes, frame := .fresh r.modes, outer := r.frame :: r.outer }

/-- A group with a name, the opening angle bracket being passed. -/
def readNamed (r : Reader) (t : Text) : Read (Reader × Text) :=
  let name := t.takeWhile (· != '>')
  match name, t.dropWhile (· != '>') with
  | first :: others, _ :: rest =>
    if isNameStart first && others.all isNameChar && !r.names.contains name then
      .ok ({ r.openGroup r.modes with names := name :: r.names }, rest)
    else .error .badGroupName
  | _, _ => .error .badGroupName

def readGroup (r : Reader) (t : Text) : Read (Reader × Text) :=
  match t with
  | '?' :: '=' :: _ | '?' :: '!' :: _ | '?' :: '<' :: '=' :: _ | '?' :: '<' :: '!' :: _ =>
    .error .lookAround
  | '?' :: 'P' :: '<' :: t => readNamed r t
  | '?' :: '<' :: t => readNamed r t
  | '?' :: t =>
    match readFlags r.modes true false [] t with
    | .error e => .error e
    | .ok (modes, seen, t) =>
      if t.head? == some ')' then
        if seen.isEmpty then .error .nothingToRepeat
        else .ok ({ r with modes, frame := { r.frame with items := .flags :: r.frame.items } }, t.drop 1)
      else .ok (r.openGroup modes, t.drop 1)
  | t => .ok (r.openGroup r.modes, t)

def charPattern (modes : Modes) (c : Char) : Pattern :=
  if !modes.ignoreCase then .set (.char c)
  else if modes.unicode then .set (.ofChars (Text.Case.twins c))
  else .set (.asciiFolded (.char c))

def pointPattern (modes : Modes) : Read Pattern :=
  if !modes.unicode then .error .notUnicode
  else if modes.pointAll then .ok (.set .any)
  else if modes.anyLineEnd then .ok (.set (.not (.union (.char '\n') (.char '\r'))))
  else .ok (.set (.not (.char '\n')))

def startLook (modes : Modes) : Look :=
  if !modes.multiLine then .textStart else if modes.anyLineEnd then .anyLineStart else .lineStart

def endLook (modes : Modes) : Look :=
  if !modes.multiLine then .textEnd else if modes.anyLineEnd then .anyLineEnd else .lineEnd

def depthLimit : Nat := 250

def sizeLimit : Nat := 10 * Nat.pow 2 20

def step (r : Reader) (c : Char) (t : Text) : Read (Reader × Text) :=
  match c with
  | '(' => readGroup r (skipVerbose r.modes.verbose t)
  | ')' =>
    match r.outer with
    | [] => .error .unopenedGroup
    | parent :: outer =>
      let inside := r.frame.close
      let group := ⟨inside.pattern, inside.depth + 1⟩
      .ok ({ r with modes := r.frame.outside, frame := parent.add group, outer }, t)
  | '|' =>
    .ok ({ r with frame :=
      { r.frame with alternatives := r.frame.current :: r.frame.alternatives, items := [] } }, t)
  | '[' =>
    let (o, t) := openClass r.modes t
    (readClass r.modes (t.length + 1) [] o t).map fun (c, depth, t) => (r.add (.set c) depth, t)
  | '?' => let (greedy, t) := readGreed t; (r.repeatLast 0 (some 1) greedy).map (·, t)
  | '*' => let (greedy, t) := readGreed t; (r.repeatLast 0 none greedy).map (·, t)
  | '+' => let (greedy, t) := readGreed t; (r.repeatLast 1 none greedy).map (·, t)
  | '\x7b' =>
    match r.frame.items with
    | .part _ :: _ =>
      match readCounts r.modes.verbose t with
      | .error e => .error e
      | .ok (least, most, t) =>
        let (greedy, t) := readGreed (skipVerbose r.modes.verbose t)
        (r.repeatLast least most greedy).map (·, t)
    | _ => .error .nothingToRepeat
  | '\\' =>
    match readEscape r.modes t with
    | .error e => .error e
    | .ok (.char c, t) => .ok (r.add (charPattern r.modes c) 0, t)
    | .ok (.cls c, t) => .ok (r.add (.set c) 0, t)
    | .ok (.look l, t) => .ok (r.add (.look l) 0, t)
  | '.' => (pointPattern r.modes).map fun p => (r.add p 0, t)
  | '^' => .ok (r.add (.look (startLook r.modes)) 0, t)
  | '$' => .ok (r.add (.look (endLook r.modes)) 0, t)
  | c => .ok (r.add (charPattern r.modes c) 0, t)

/-- Each round takes a character, so the length of the text bounds them. -/
def readAll : Nat → Reader → Text → Read Nested
  | 0, _, _ => .error .unclosedGroup
  | fuel + 1, r, t =>
    match skipVerbose r.modes.verbose t with
    | [] => if r.outer.isEmpty then .ok r.frame.close else .error .unclosedGroup
    | c :: t =>
      match step r c t with
      | .error e => .error e
      | .ok (r, t) => readAll fuel r t

def readWith (modes : Modes) (t : Text) : Read Pattern := do
  let whole ← readAll (t.length + 1) ⟨modes, .fresh modes, [], []⟩ t
  if depthLimit < whole.depth then throw .tooDeep
  if sizeLimit < whole.pattern.bulk then throw .tooLarge
  return whole.pattern

def read (t : Text) : Read Pattern := readWith .initial t

end Swatchbook.Pattern
