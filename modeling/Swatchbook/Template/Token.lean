import Swatchbook.Text.Decimal

/-!
# Template tokens

A template is text with marked places: output, tags and comments. A minus
inside a mark drops the blanks on its outer side, a plus changes nothing. The
blanks that a closing mark drops are those of the next text, wherever it comes;
raw text is passed over.
-/

namespace Swatchbook.Template

inductive Sign
  | eq | ne | ge | le | gt | lt | plus | minus | times | slash | doubleSlash | percent | power
  | tilde | pipe | assign | point | comma | colon | openParen | closeParen | openBracket
  | closeBracket | openBrace | closeBrace
  deriving DecidableEq

inductive Token
  | data (t : Text)
  | openOutput
  | closeOutput
  | openTag
  | closeTag
  | name (t : Text)
  | text (t : Text)
  | number (n : Nat)
  /-- A number with a point or an exponent, as it is spelled. -/
  | decimal (t : Text)
  | sign (s : Sign)
  deriving DecidableEq

inductive SyntaxFault
  | unclosedComment
  | unclosedRaw
  | unclosedText
  | badEscape
  | badNumber (t : Text)
  | badChar (c : Char)
  | unexpected (token : Token)
  | unexpectedEnd
  | unknownTag (name : Text)
  | reservedName (name : Text)
  | misplacedArgument
  | surplusArgument
  | noFilter
  | noCall
  | noIndex
  | badTarget
  | misplacedBlock
  | repeatedBlock (name : Text)
  | mismatchedBlock (name : Text)
  | tooDeep
  deriving DecidableEq

def SyntaxFault.message : SyntaxFault → Text
  | .unclosedComment => "unexpected end of comment"
  | .unclosedRaw => "unexpected end of raw block"
  | .unclosedText => "unexpected end of string"
  | .badEscape => "bad string escape"
  | .badNumber t => "invalid number " ++ t
  | .badChar c => "unexpected character " ++ [c]
  | .unexpected _ => "unexpected token"
  | .unexpectedEnd => "unexpected end of input"
  | .unknownTag name => "unknown statement " ++ name
  | .reservedName name => "cannot assign to reserved variable name " ++ name
  | .misplacedArgument => "non-keyword arg after keyword arg"
  | .surplusArgument => "too many arguments in function call"
  | .noFilter => "expected a filter"
  | .noCall => "expected call expression"
  | .noIndex => "empty subscript"
  | .badTarget => "cannot assign to expression"
  | .misplacedBlock => "block tags in macros are not allowed"
  | .repeatedBlock name => "block defined twice: " ++ name
  | .mismatchedBlock name => "mismatching name on block: " ++ name
  | .tooDeep => "template exceeds maximum recursion limits"

namespace Token

/-- Blanks between the words of a tag. -/
def isGap (c : Char) : Bool := c == ' ' || c == '\t' || c == '\n' || c == '\r' || c == '\x0c'

def isNameStart (c : Char) : Bool := c == '_' || ('a' ≤ c && c ≤ 'z') || ('A' ≤ c && c ≤ 'Z')

def isNamePart (c : Char) : Bool := isNameStart c || Text.isDigit c

/-- What stands behind the minus or plus of a mark, if it has one. -/
def dropSign : Text → Text
  | '-' :: t | '+' :: t => t
  | t => t

/-- What follows a tag that holds only `word`, read from behind its opening mark,
and whether its closing mark has a minus. -/
def afterTag? (word t : Text) : Option (Text × Bool) := do
  let t ← Text.after? word ((dropSign t).dropWhile isGap)
  let t := t.dropWhile isGap
  let minus := t.head? == some '-'
  let t ← Text.after? "%\x7d" (dropSign t)
  return (t, minus)

/-- The raw text up to its closing tag, whether blanks at its end are dropped, what
follows the tag, and whether blanks there are dropped. -/
def cutRaw : Text → Option (Text × Bool × Text × Bool)
  | [] => none
  | c :: t =>
    match (Text.after? "\x7b%" (c :: t)).bind (afterTag? "endraw") with
    | some (rest, minus) => some ([], (c :: t).drop 2 |>.head? |> (· == some '-'), rest, minus)
    | none => (cutRaw t).map fun (raw, found) => (c :: raw, found)

def cutData : Text → Text × Text
  | [] => ([], [])
  | c :: t =>
    if c == '\x7b' && (t.head? == some '\x7b' || t.head? == some '%' || t.head? == some '#') then
      ([], c :: t)
    else
      let (before, rest) := cutData t
      (c :: before, rest)

/-- The text between quotes, with its escapes, and what follows it. -/
def cutText (quote : Char) : Bool → Text → Option (Text × Text)
  | _, [] => none
  | escaped, c :: t =>
    if !escaped && c == quote then some ([], t)
    else (cutText quote (!escaped && c == '\\') t).map fun (before, rest) => (c :: before, rest)

/-- A unit of four digits, the first of which may be a plus. -/
def unit? (t : Text) : Option Nat :=
  let four := t.take 4
  let digits := Text.dropLead ['+'] four
  if four.length == 4 && digits.all Text.isHex then some (Text.ofHex digits) else none

/-- Resolves the escapes of a text. A character beyond the first plane is written
as a pair of units. -/
def unescape : Nat → Text → Option Text
  | 0, _ => some []
  | _, [] => some []
  | fuel + 1, '\\' :: 'u' :: t => do
    let high ← unit? t
    if 0xD800 ≤ high && high < 0xDC00 then
      let low ← (Text.after? "\\u" (t.drop 4)).bind unit?
      if 0xDC00 ≤ low && low < 0xE000 then
        let c ← Text.char? (0x10000 + (high - 0xD800) * 0x400 + (low - 0xDC00))
        return c :: (← unescape fuel (t.drop 10))
      else none
    else
      let c ← Text.char? high
      return c :: (← unescape fuel (t.drop 4))
  | fuel + 1, '\\' :: c :: t => do
    let c ← match c with
      | 'b' => some '\x08'
      | 'f' => some '\x0c'
      | 'n' => some '\n'
      | 'r' => some '\r'
      | 't' => some '\t'
      | '"' | '\\' | '/' | '\x27' => some c
      | _ => none
    return c :: (← unescape fuel t)
  | fuel + 1, c :: t => (unescape fuel t).map (c :: ·)

def pairSign? : Text → Option Sign
  | '/' :: '/' :: _ => some .doubleSlash
  | '*' :: '*' :: _ => some .power
  | '=' :: '=' :: _ => some .eq
  | '!' :: '=' :: _ => some .ne
  | '>' :: '=' :: _ => some .ge
  | '<' :: '=' :: _ => some .le
  | _ => none

def sign? : Char → Option Sign
  | '+' => some .plus
  | '-' => some .minus
  | '*' => some .times
  | '/' => some .slash
  | '%' => some .percent
  | '~' => some .tilde
  | '|' => some .pipe
  | '=' => some .assign
  | '>' => some .gt
  | '<' => some .lt
  | '.' => some .point
  | ',' => some .comma
  | ':' => some .colon
  | '(' => some .openParen
  | ')' => some .closeParen
  | '[' => some .openBracket
  | ']' => some .closeBracket
  | '\x7b' => some .openBrace
  | '\x7d' => some .closeBrace
  | _ => none

/-- What comes last in the part of a number that is spelled out already. -/
inductive NumberPart
  | whole
  | fraction
  | exponent
  | power
  deriving DecidableEq

/-- The part of a number that a character goes on with. -/
def NumberPart.next? (part : NumberPart) (c : Char) : Option NumberPart :=
  if c == '.' then if part == .whole then some .fraction else none
  else if c == 'e' || c == 'E' then
    if part == .whole || part == .fraction then some .exponent else none
  else if c == '+' || c == '-' then if part == .exponent then some .power else none
  else if Text.isDigit c then some (if part == .exponent then .power else part)
  else none

/-- The rest of a number, its last part, and what follows it. -/
def cutNumber : NumberPart → Text → Text × NumberPart × Text
  | part, [] => ([], part, [])
  | part, c :: t =>
    match part.next? c with
    | some next =>
      let (digits, last, rest) := cutNumber next t
      (c :: digits, last, rest)
    | none => ([], part, c :: t)

/-- Whole numbers fit into 128 bits. -/
def ofDigits (digits : Text) (last : NumberPart) : Except SyntaxFault Token :=
  if last == .whole then
    let n := Text.toNat digits
    if n < Nat.pow 2 128 then .ok (.number n) else .error (.badNumber digits)
  else if (Text.Decimal.read? digits).isSome then .ok (.decimal digits)
  else .error (.badNumber digits)

/-- The next token inside a mark, and what follows it. -/
def next (c : Char) (t : Text) : Except SyntaxFault (Token × Text) :=
  match pairSign? (c :: t), sign? c with
  | some s, _ => .ok (.sign s, t.drop 1)
  | none, some s => .ok (.sign s, t)
  | none, none =>
    if c == '"' || c == '\x27' then
      match cutText c false t with
      | none => .error .unclosedText
      | some (raw, rest) =>
        match unescape raw.length raw with
        | some inside => .ok (.text inside, rest)
        | none => .error .badEscape
    else if Text.isDigit c then
      let (digits, last, rest) := cutNumber .whole t
      (ofDigits (c :: digits) last).map (·, rest)
    else if isNameStart c then
      .ok (.name (c :: t.takeWhile isNamePart), t.dropWhile isNamePart)
    else .error (.badChar c)

/-- Where the scanner is: in text, or inside the mark of an output or a tag. -/
inductive Place
  | outside
  | output
  | tag
  deriving DecidableEq

def closing : Place → Text × Token
  | .output => ("\x7d\x7d", .closeOutput)
  | _ => ("%\x7d", .closeTag)

/-- What follows the closing mark, if it comes next, and whether it drops blanks. -/
def afterClosing? (mark t : Text) : Option (Text × Bool) :=
  (Text.after? mark (dropSign t)).map fun rest => (rest, t.head? == some '-')

def dataOf (t : Text) : List Token := if t.isEmpty then [] else [.data t]

/-- Scans from a place on; `trim` says whether the next text loses its first blanks. -/
def scanFrom : Nat → Place → Bool → Text → Except SyntaxFault (List Token)
  | 0, _, _, _ => .ok []
  | _, _, _, [] => .ok []
  | fuel + 1, .outside, trim, c :: t =>
    match c, t with
    | '\x7b', '\x7b' :: rest =>
      (scanFrom fuel .output trim (dropSign rest)).map (.openOutput :: ·)
    | '\x7b', '%' :: rest =>
      match afterTag? "raw" rest with
      | some (rest, minus) =>
        match cutRaw rest with
        | none => .error .unclosedRaw
        | some (raw, trimEnd, rest, minusAfter) =>
          let raw := if minus then Text.trimStart raw else raw
          let raw := if trimEnd then Text.trimEnd raw else raw
          (scanFrom fuel .outside (trim || minusAfter) rest).map (dataOf raw ++ ·)
      | none => (scanFrom fuel .tag trim (dropSign rest)).map (.openTag :: ·)
    | '\x7b', '#' :: rest =>
      match Text.cut? "#\x7d" rest with
      | none => .error .unclosedComment
      | some (comment, rest) =>
        scanFrom fuel .outside (trim || comment.getLast? == some '-') rest
    | c, t =>
      let t := if trim then Text.trimStart (c :: t) else c :: t
      let (before, rest) := cutData t
      let minus := (rest.drop 2).head? == some '-'
      let before := if minus then Text.trimEnd before else before
      (scanFrom fuel .outside false rest).map (dataOf before ++ ·)
  | fuel + 1, place, trim, c :: t =>
    if isGap c then scanFrom fuel place trim t
    else
      let (mark, token) := closing place
      match afterClosing? mark (c :: t) with
      | some (rest, minus) => (scanFrom fuel .outside (trim || minus) rest).map (token :: ·)
      | none => do
        let (token, rest) ← next c t
        return token :: (← scanFrom fuel place trim rest)

/-- One line end at the end of a template is dropped. -/
def dropFinalBreak (t : Text) : Text :=
  let t := if t.getLast? == some '\n' then t.dropLast else t
  if t.getLast? == some '\r' then t.dropLast else t

def scan (t : Text) : Except SyntaxFault (List Token) :=
  let t := dropFinalBreak t
  scanFrom (2 * t.length + 2) .outside false t

end Token

end Swatchbook.Template
