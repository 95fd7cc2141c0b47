import Swatchbook.Text.Age
import Swatchbook.Text.Break
import Swatchbook.Text.Case
import Swatchbook.Text.Script

/-!
# Character classes

A class is a description of a set of characters. `folded` closes a class under
differences of case, and `asciiFolded` under those of the letters from A to Z.
-/

namespace Swatchbook

inductive Class
  | none
  | char (c : Char)
  | range (first last : Char)
  | ranges (r : Text.Ranges)
  | trait (t : Text.Trait)
  | category (name : Text)
  | blank
  | word
  | any
  | union (a b : Class)
  | both (a b : Class)
  | not (a : Class)
  | folded (a : Class)
  | asciiFolded (a : Class)
  deriving DecidableEq

namespace Class

def has : Class → Char → Bool
  | .none, _ => false
  | .char d, c => c == d
  | .range first last, c => first ≤ c && c ≤ last
  | .ranges r, c => r.has c
  | .trait t, c => t.has c
  | .category name, c => Text.Category.isIn name c
  | .blank, c => Text.isBlank c
  | .word, c => Text.isWord c
  | .any, _ => true
  | .union a b, c => a.has c || b.has c
  | .both a b, c => a.has c && b.has c
  | .not a, c => !a.has c
  | .folded a, c => a.has c || (Text.Case.twins c).any a.has
  | .asciiFolded a, c => a.has c || a.has c.toLower || a.has c.toUpper

def ofChars : List Char → Class
  | [] => .none
  | [c] => .char c
  | c :: cs => .union (.char c) (ofChars cs)

def ofRanges : List (Char × Char) → Class
  | [] => .none
  | (first, last) :: rest => .union (.range first last) (ofRanges rest)

def digit : Class := .category "Nd"

def asciiDigit : Class := .range '0' '9'

def asciiBlank : Class := ofRanges [('\t', '\r'), (' ', ' ')]

def asciiWord : Class := ofRanges [('0', '9'), ('A', 'Z'), ('_', '_'), ('a', 'z')]

def named? (name : Text) : Option Class :=
  ([("alnum", [('0', '9'), ('A', 'Z'), ('a', 'z')]),
    ("alpha", [('A', 'Z'), ('a', 'z')]),
    ("ascii", [('\x00', '\x7f')]),
    ("blank", [('\t', '\t'), (' ', ' ')]),
    ("cntrl", [('\x00', '\x1f'), ('\x7f', '\x7f')]),
    ("digit", [('0', '9')]),
    ("graph", [('!', '~')]),
    ("lower", [('a', 'z')]),
    ("print", [(' ', '~')]),
    ("punct", [('!', '/'), (':', '@'), ('[', '\x60'), ('\x7b', '~')]),
    ("space", [('\t', '\r'), (' ', ' ')]),
    ("upper", [('A', 'Z')]),
    ("word", [('0', '9'), ('A', 'Z'), ('_', '_'), ('a', 'z')]),
    ("xdigit", [('0', '9'), ('A', 'F'), ('a', 'f')])] :
    List (String × List (Char × Char))).findSome? fun (key, spans) =>
      if key.toList == name then some (ofRanges spans) else Option.none

/-- The parts of a class that each take about as much room as one range. -/
def parts : Class → Nat
  | .none | .char _ | .range _ _ => 1
  | .ranges r => r.places.size / 2
  | .trait _ | .category _ | .word => 700
  | .blank | .any => 10
  | .union a b | .both a b => a.parts + b.parts
  | .not a => a.parts + 15
  | .folded a | .asciiFolded a => 2 * a.parts

/-- How much room a class takes, roughly in bytes: a character as many steps
as its encoding has bytes, a wider class about two for each of its ranges. -/
def bulk : Class → Nat
  | .char c => 32 * c.utf8Size
  | c => 64 * c.parts

/-! Properties by name. -/

/-- Case, spaces, hyphens and underscores in the name of a property do not
matter, nor does "is" before it, though `isc` is a name of its own. -/
def propertyKey (name : Text) : Text :=
  let named := Text.Case.eqAscii (name.take 2) "is"
  let key := ((if named then name.drop 2 else name).filter fun c =>
    c != ' ' && c != '_' && c != '-' && c.toNat < 128).map Char.toLower
  if named && key == ['c'] then "isc" else key

/-- Categories and their groups, by short and long names. -/
def categoryNames : List (String × String) :=
  [("C", "other"), ("Cc", "control"), ("Cc", "cntrl"), ("Cf", "format"), ("Cn", "unassigned"),
    ("Co", "privateuse"), ("L", "letter"), ("Ll", "lowercaseletter"), ("Lm", "modifierletter"),
    ("Lo", "otherletter"), ("Lt", "titlecaseletter"), ("Lu", "uppercaseletter"), ("M", "mark"),
    ("M", "combiningmark"), ("Mc", "spacingmark"), ("Me", "enclosingmark"),
    ("Mn", "nonspacingmark"), ("N", "number"), ("Nd", "decimalnumber"), ("Nd", "digit"),
    ("Nl", "letternumber"), ("No", "othernumber"), ("P", "punctuation"), ("P", "punct"),
    ("Pc", "connectorpunctuation"), ("Pd", "dashpunctuation"), ("Pe", "closepunctuation"),
    ("Pf", "finalpunctuation"), ("Pi", "initialpunctuation"), ("Po", "otherpunctuation"),
    ("Ps", "openpunctuation"), ("S", "symbol"), ("Sc", "currencysymbol"),
    ("Sk", "modifiersymbol"), ("Sm", "mathsymbol"), ("So", "othersymbol"), ("Z", "separator"),
    ("Zl", "lineseparator"), ("Zp", "paragraphseparator"), ("Zs", "spaceseparator")]

def ofCategory? (key : Text) : Option Class :=
  let category := categoryNames.findSome? fun (short, long) =>
    if (short.toList.map Char.toLower) == key || long.toList == key then
      some (Class.category short.toList)
    else Option.none
  match category with
  | some c => some c
  | Option.none =>
    if key == "lc" || key == "casedletter" then
      some (.union (.category "Lu") (.union (.category "Ll") (.category "Lt")))
    else if key == "any" then some .any
    else if key == "assigned" then some (.not (.category "Cn"))
    else if key == "ascii" then some (.range '\x00' '\x7f')
    else Option.none

def ofScript? (key : Text) : Option Class :=
  (Text.Script.find? key).map fun s => .ranges (.ofText s.members)

def ofExtension? (key : Text) : Option Class :=
  (Text.Script.find? key).map fun s =>
    let members := Class.ranges (.ofText s.members)
    let extension := Class.ranges (.ofText s.extension)
    .union (.both members (.not extension)) (.both extension (.not members))

def ofAge? (key : Text) : Option Class :=
  (Text.Age.upTo? key).map fun versions =>
    versions.foldl (fun c version => .union c (.ranges version)) .none

def ofProperty? (key : Text) : Option Class := (Text.Property.find? key).map (.trait ·.trait)

/-- The class of a property that stands alone: a property that a character has
or has not, a category or a script. -/
def property? (name : Text) : Option Class :=
  let key := propertyKey name
  (ofProperty? key).or ((ofCategory? key).or (ofScript? key))

def propertyValue? (name value : Text) : Option Class :=
  let name := propertyKey name
  let value := propertyKey value
  if name == "gc" || name == "generalcategory" then ofCategory? value
  else if name == "sc" || name == "script" then ofScript? value
  else if name == "scx" || name == "scriptextensions" then ofExtension? value
  else if name == "age" then ofAge? value
  else (Text.Break.find? name value).map (.trait ·.trait)

end Class

end Swatchbook
