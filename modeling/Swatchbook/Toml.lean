import Swatchbook.Text

/-!
# TOML entries

The flat part of TOML: lines `key = value` whose values are texts, booleans
and lists of texts. Numbers, dates, dotted keys and tables are refused where
they begin, because no setting takes them. A key may be given once.
-/

namespace Swatchbook.Toml

inductive Value
  | text (t : Text)
  | flag (b : Bool)
  | list (items : List Text)
  deriving DecidableEq

structure Entry where
  key : Text
  value : Value
  deriving DecidableEq

inductive ReadFault
  | badKey
  | missingEquals
  | badValue
  | badList
  | badEscape
  | badChar (c : Char)
  | unterminated
  | trailing
  | repeated (key : Text)
  deriving DecidableEq

def ReadFault.message : ReadFault → Text
  | .badKey => "invalid key"
  | .missingEquals => "expected `=` after a key"
  | .badValue => "expected a text, a boolean or a list of texts"
  | .badList => "invalid list"
  | .badEscape => "invalid escape sequence"
  | .badChar c => "invalid character U+" ++ Nat.toDigits 16 c.toNat
  | .unterminated => "unterminated text"
  | .trailing => "expected the end of the line"
  | .repeated key => "duplicate key `" ++ key ++ "`"

abbrev Read (α : Type) := Except ReadFault α

def isSpace (c : Char) : Bool := c == ' ' || c == '\t'

def skipSpace (t : Text) : Text := t.dropWhile isSpace

/-- What may stand in a text or a comment: of the control characters only the tab. -/
def isPrintable (c : Char) : Bool := c == '\t' || (0x20 ≤ c.toNat && c.toNat != 0x7F)

/-- What follows a line end, if one comes next. -/
def afterNewline? : Text → Option Text
  | '\n' :: t => some t
  | '\r' :: '\n' :: t => some t
  | _ => none

def skipComment : Text → Text
  | '#' :: t => t.dropWhile isPrintable
  | t => t

/-- Spaces, line ends and comments, as many as come. -/
def skipTrivia : Nat → Text → Text
  | 0, t => t
  | fuel + 1, t =>
    let next := skipComment (skipSpace t)
    match afterNewline? next with
    | some rest => skipTrivia fuel rest
    | none => next

/-- What follows a backslash that ends a line: the rest from the next character on
that is neither a space nor a line end. -/
def afterContinuation? (t : Text) : Option Text :=
  (afterNewline? (skipSpace t)).map fun rest => go rest.length rest
where
  go : Nat → Text → Text
    | 0, t => t
    | fuel + 1, t =>
      match afterNewline? (skipSpace t) with
      | some rest => go fuel rest
      | none => skipSpace t

def readHex (width : Nat) (t : Text) : Read (Char × Text) :=
  let digits := t.take width
  if digits.length < width || !digits.all Text.isHex then .error .badEscape
  else
    match Text.char? (Text.ofHex digits) with
    | some c => .ok (c, t.drop width)
    | none => .error .badEscape

def readEscape : Text → Read (Char × Text)
  | 'b' :: t => .ok ('\x08', t)
  | 'f' :: t => .ok ('\x0c', t)
  | 'n' :: t => .ok ('\n', t)
  | 'r' :: t => .ok ('\r', t)
  | 't' :: t => .ok ('\t', t)
  | '"' :: t => .ok ('"', t)
  | '\\' :: t => .ok ('\\', t)
  | 'u' :: t => readHex 4 t
  | 'U' :: t => readHex 8 t
  | _ => .error .badEscape

def push (c : Char) (r : Text × Text) : Text × Text := (c :: r.1, r.2)

/-- Reads a text on one line up to its closing quote. Only double quotes have escapes. -/
def readLine (quote : Char) : Nat → Text → Read (Text × Text)
  | 0, _ | _, [] => .error .unterminated
  | fuel + 1, c :: t =>
    if c == quote then .ok ([], t)
    else if c == '\\' && quote == '"' then do
      let (c, t) ← readEscape t
      return push c (← readLine quote fuel t)
    else if isPrintable c then (readLine quote fuel t).map (push c)
    else .error (.badChar c)

/-- Reads a text of many lines up to its three closing quotes, before which one or
two more may stand. A line end is a line feed, however it is written. -/
def readLines (quote : Char) : Nat → Text → Read (Text × Text)
  | 0, _ | _, [] => .error .unterminated
  | fuel + 1, c :: t =>
    if c == quote then
      let run := ((c :: t).takeWhile (· == quote)).length
      if run < 3 then (readLines quote fuel t).map (push c)
      else
        let extra := min (run - 3) 2
        .ok (List.replicate extra quote, (c :: t).drop (extra + 3))
    else if c == '\\' && quote == '"' then
      match afterContinuation? t with
      | some t => readLines quote fuel t
      | none => do
        let (c, t) ← readEscape t
        return push c (← readLines quote fuel t)
    else if isPrintable c then (readLines quote fuel t).map (push c)
    else
      match afterNewline? (c :: t) with
      | some t => (readLines quote fuel t).map (push '\n')
      | none => .error (.badChar c)

/-- Reads a text behind its first quote. A line end right behind three quotes is dropped. -/
def readQuoted (quote : Char) (t : Text) : Read (Text × Text) :=
  match Text.after? [quote, quote] t with
  | some t =>
    let t := (afterNewline? t).getD t
    readLines quote t.length t
  | none => readLine quote t.length t

def isBare (c : Char) : Bool :=
  ('a' ≤ c && c ≤ 'z') || ('A' ≤ c && c ≤ 'Z') || Text.isDigit c || c == '_' || c == '-'

/-- Keys are bare words or texts on one line. -/
def readKey (t : Text) : Read (Text × Text) :=
  match t with
  | '"' :: t => readLine '"' t.length t
  | '\x27' :: t => readLine '\x27' t.length t
  | t =>
    let name := t.takeWhile isBare
    if name.isEmpty then .error .badKey else .ok (name, t.dropWhile isBare)

def readItems : Nat → Text → Read (List Text × Text)
  | 0, _ => .error .badList
  | fuel + 1, t =>
    match skipTrivia t.length t with
    | [] => .error .badList
    | c :: t =>
      if c == ']' then .ok ([], t)
      else if c == '"' || c == '\x27' then do
        let (item, t) ← readQuoted c t
        match skipTrivia t.length t with
        | ',' :: t => do
          let (items, t) ← readItems fuel t
          return (item :: items, t)
        | ']' :: t => return ([item], t)
        | _ => throw .badList
      else .error .badList

def readValue (t : Text) : Read (Value × Text) :=
  match t with
  | '"' :: t => (readQuoted '"' t).map fun (t, rest) => (.text t, rest)
  | '\x27' :: t => (readQuoted '\x27' t).map fun (t, rest) => (.text t, rest)
  | '[' :: t => (readItems t.length t).map fun (items, rest) => (.list items, rest)
  | t =>
    match Text.after? "true" t, Text.after? "false" t with
    | some rest, _ => .ok (.flag true, rest)
    | none, some rest => .ok (.flag false, rest)
    | none, none => .error .badValue

/-- What follows the end of a line, on which nothing but a comment is left. -/
def endLine (t : Text) : Read Text :=
  let rest := skipComment (skipSpace t)
  if rest.isEmpty then .ok []
  else
    match afterNewline? rest with
    | some rest => .ok rest
    | none => .error .trailing

/-- Reads line by line, where `seen` are the entries above. -/
def readEntries (seen : List Entry) : Nat → Text → Read (List Entry)
  | 0, _ => .ok seen
  | fuel + 1, t =>
    match skipTrivia t.length t with
    | [] => .ok seen
    | t => do
      let (key, t) ← readKey t
      match skipSpace t with
      | '=' :: t => do
        let (value, t) ← readValue (skipSpace t)
        let t ← endLine t
        if seen.any (·.key == key) then throw (.repeated key)
        readEntries (seen ++ [⟨key, value⟩]) fuel t
      | _ => throw .missingEquals

/-- The entries of a document, in order. A byte order mark before them is dropped. -/
def read (t : Text) : Read (List Entry) :=
  let t := Text.dropLead ['\uFEFF'] t
  readEntries [] (t.length + 1) t

end Swatchbook.Toml
