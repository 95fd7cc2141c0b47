import Swatchbook.Proofs.Reference
import Swatchbook.Renderer

/-!
# Tags of assets and scripts

The addresses of assets and scripts are put between the quotes of an attribute
as they are. Here is how markup is read: tags with their attributes, and the
references in the values of these. Comments count as text, and of all elements
only scripts hold text of their own. Main statement: the tag of an asset or a
script is read as one element that refers to it just if the address has no
double quote and nothing in it is read as a reference.
-/

namespace Swatchbook

-- ---------------------------------------------------------------------------
-- References in attributes
-- ---------------------------------------------------------------------------

namespace Reference

open Markdown (Entity.named Entity.charOf)

/-- What the numbers from 128 on stand for. -/
def controls : List Nat :=
  [0x20AC, 0x81, 0x201A, 0x192, 0x201E, 0x2026, 0x2020, 0x2021, 0x2C6, 0x2030, 0x160, 0x2039,
    0x152, 0x8D, 0x17D, 0x8F, 0x90, 0x2018, 0x2019, 0x201C, 0x201D, 0x2022, 0x2013, 0x2014, 0x2DC,
    0x2122, 0x161, 0x203A, 0x153, 0x9D, 0x17E, 0x178]

def character (n : Nat) : Char :=
  Entity.charOf (if n < 128 then n else controls.getD (n - 128) n)

/-- The names that need no semicolon. -/
def unclosed : List Text := Text.words
  "AElig AMP Aacute Acirc Agrave Aring Atilde Auml COPY Ccedil ETH Eacute Ecirc Egrave Euml GT
Iacute Icirc Igrave Iuml LT Ntilde Oacute Ocirc Ograve Oslash Otilde Ouml QUOT REG THORN
Uacute Ucirc Ugrave Uuml Yacute aacute acirc acute aelig agrave amp aring atilde auml brvbar
ccedil cedil cent copy curren deg divide eacute ecirc egrave eth euml frac12 frac14 frac34
gt iacute icirc iexcl igrave iquest iuml laquo lt macr micro middot nbsp not ntilde oacute
ocirc ograve ordf ordm oslash otilde ouml para plusmn pound quot raquo reg sect shy sup1
sup2 sup3 szlig thorn times uacute ucirc ugrave uml uuml yacute yen yuml"

def number? (isDigit : Char → Bool) (read : Text → Nat) : Reader := fun t =>
  let digits := t.takeWhile isDigit
  let closed := (t.dropWhile isDigit).head? == some ';'
  if digits.isEmpty then none
  else some ([character (read digits)], digits.length + if closed then 1 else 0)

/-- No name stands for more than two characters, and none that needs no semicolon for more
than one. These are no names if an equals sign follows. -/
def name? : Reader := fun t =>
  let name := t.takeWhile Char.isAlphanum
  let next := (t.dropWhile Char.isAlphanum).head?
  if name.isEmpty then none
  else if next == some ';' then
    (Entity.named.lookup name).map fun value => (value.take 2, name.length + 1)
  else if next != some '=' && unclosed.contains name then
    (Entity.named.lookup name).map fun value => (value.take 1, name.length)
  else none

/-- Reads behind a lead of so many characters. -/
def behind (lead : Nat) (found : Option (Text × Nat)) : Option (Text × Nat) :=
  found.map fun (value, length) => (value, lead + length)

/-- A reference in the value of an attribute. Line ends are read as line feeds. -/
def attribute? : Reader
  | '&' :: '#' :: 'x' :: t | '&' :: '#' :: 'X' :: t => behind 3 (number? Text.isHex Text.ofHex t)
  | '&' :: '#' :: t => behind 2 (number? Text.isDigit Text.toNat t)
  | '&' :: t => behind 1 (name? t)
  | '\r' :: '\n' :: _ => some (['\n'], 2)
  | '\r' :: _ => some (['\n'], 1)
  | '\x00' :: _ => some (['\ufffd'], 1)
  | _ => none

variable {t value : Text} {length lead : Nat}

theorem length_takeWhile_add_le (p : Char → Bool) {c : Char}
    (h : (t.dropWhile p).head? = some c) : (t.takeWhile p).length + 1 ≤ t.length := by
  obtain ⟨rest, hrest⟩ := List.head?_eq_some_iff.mp h
  have hsplit := congrArg List.length (List.takeWhile_append_dropWhile (p := p) (l := t))
  rw [List.length_append, hrest, List.length_cons] at hsplit
  omega

theorem bounded_number? (isDigit : Char → Bool) (read : Text → Nat) :
    Bounded (number? isDigit read) := by
  intro t value length h
  rw [number?] at h
  split at h
  · cases h
  · next hdigits =>
    cases h
    have hpos : 0 < (t.takeWhile isDigit).length := by
      simpa [List.length_pos_iff] using hdigits
    refine ⟨by simp; omega, by omega, ?_⟩
    split
    · next hclosed => exact length_takeWhile_add_le isDigit (by simpa using hclosed)
    · exact (List.takeWhile_prefix isDigit).length_le

theorem bounded_name? : Bounded name? := by
  intro t value length h
  simp only [name?] at h
  split at h
  · cases h
  · next hname =>
    have hpos : 0 < (t.takeWhile Char.isAlphanum).length := by
      simpa [List.length_pos_iff] using hname
    split at h
    · next hclosed =>
      obtain ⟨found, -, hfound⟩ := Option.map_eq_some_iff.mp h
      cases hfound
      have htake := List.length_take_le 2 found
      exact ⟨by omega, by omega, length_takeWhile_add_le _ (by simpa using hclosed)⟩
    · split at h
      · obtain ⟨found, -, hfound⟩ := Option.map_eq_some_iff.mp h
        cases hfound
        have htake := List.length_take_le 1 found
        exact ⟨by omega, by omega, (List.takeWhile_prefix _).length_le⟩
      · cases h

theorem length_behind {found : Option (Text × Nat)}
    (h : behind lead found = some (value, length)) :
    ∃ n, found = some (value, n) ∧ length = lead + n := by
  obtain ⟨⟨value, n⟩, hfound, hpair⟩ := Option.map_eq_some_iff.mp h
  cases hpair
  exact ⟨n, hfound, rfl⟩

theorem attribute?_some (h : attribute? t = some (value, length)) :
    (value.length ≤ length ∧ 0 < length ∧ length ≤ t.length) ∧ value ≠ t.take length := by
  -- what is shorter differs
  have hshorter : ∀ {value : Text}, value.length < length → length ≤ t.length →
      (value.length ≤ length ∧ 0 < length ∧ length ≤ t.length) ∧ value ≠ t.take length := by
    intro value hless hlength
    refine ⟨by omega, fun hsame => ?_⟩
    rw [hsame, List.length_take] at hless
    omega
  unfold attribute? at h
  split at h
  case h_1 | h_2 | h_3 =>
    obtain ⟨n, hnumber, rfl⟩ := length_behind h
    obtain ⟨hvalue, -, hn⟩ := bounded_number? _ _ _ _ _ hnumber
    exact hshorter (by omega) (by simp only [List.length_cons]; omega)
  case h_4 =>
    obtain ⟨n, hname, rfl⟩ := length_behind h
    obtain ⟨hvalue, -, hn⟩ := bounded_name? _ _ _ hname
    exact hshorter (by omega) (by rw [List.length_cons]; omega)
  case h_5 | h_6 | h_7 =>
    cases h
    simp
  case h_8 => cases h

theorem proper_attribute? : Proper attribute? where
  bounded := fun _ _ _ h => (attribute?_some h).1
  differs := fun _ _ _ h => (attribute?_some h).2

end Reference

-- ---------------------------------------------------------------------------
-- Elements
-- ---------------------------------------------------------------------------

namespace Element

open Reference (decode attribute?)

inductive Piece where
  | opening (name : Text) (attributes : List (Text × Text))
  | closing (name : Text)
  | text (t : Text)
  deriving DecidableEq, Repr

def isGap (c : Char) : Bool := c == ' ' || c == '\t' || c == '\n' || c == '\x0c' || c == '\r'

/-- Gaps, slashes and the closing bracket end the name of a tag. -/
def endsName (c : Char) : Bool := isGap c || c == '/' || c == '>'

/-- The first character of the name of an attribute may also be an equals sign. -/
def isNameChar (c : Char) : Bool := !endsName c && c != '='

def lower (t : Text) : Text := t.map Char.toLower

/-- The value up to the mark that it is enclosed in, and what follows. -/
def quoted? (mark : Char) (t : Text) : Option (Text × Text) :=
  match t.dropWhile (· != mark) with
  | _ :: rest => some (decode attribute? (t.takeWhile (· != mark)), rest)
  | [] => none

def value? (t : Text) : Option (Text × Text) :=
  match t.dropWhile isGap with
  | '"' :: t => quoted? '"' t
  | '\x27' :: t => quoted? '\x27' t
  | t =>
    let ends := fun c => isGap c || c == '>'
    some (decode attribute? (t.takeWhile (!ends ·)), t.dropWhile (!ends ·))

/-- The attributes of a tag and what follows its closing bracket. There is nothing to read if
there is no such bracket. Each step reads a character, so the length of the text is fuel
enough. -/
def attributes? : Nat → Text → Option (List (Text × Text) × Text)
  | 0, _ => none
  | fuel + 1, t =>
    match t.dropWhile isGap with
    | [] => none
    | '>' :: rest => some ([], rest)
    | '/' :: rest => attributes? fuel rest
    | c :: rest =>
      let name := lower (c :: rest.takeWhile isNameChar)
      match (rest.dropWhile isNameChar).dropWhile isGap with
      | '=' :: rest => do
        let (value, rest) ← value? rest
        let (others, rest) ← attributes? fuel rest
        return ((name, value) :: others, rest)
      | rest => do
        let (others, rest) ← attributes? fuel rest
        return ((name, []) :: others, rest)

/-- A tag from its name on. -/
def tag? (t : Text) : Option (Text × List (Text × Text) × Text) :=
  (attributes? t.length (t.dropWhile (!endsName ·))).map fun (attributes, rest) =>
    (lower (t.takeWhile (!endsName ·)), attributes, rest)

/-- Whether the closing tag of a script begins here. -/
def closesScript (t : Text) : Bool :=
  lower (t.take 8) == "</script" && (t.drop 8).head?.any endsName

def script : Text → Text × Text
  | [] => ([], [])
  | c :: t =>
    if closesScript (c :: t) then ([], c :: t)
    else
      let (inside, rest) := script t
      (c :: inside, rest)

def opened (name : Text) (attributes : List (Text × Text)) (rest : Text) : List Piece × Text :=
  if name == "script" then
    let (inside, rest) := script rest
    (.opening name attributes :: if inside.isEmpty then [] else [.text inside], rest)
  else ([.opening name attributes], rest)

def namesTag (t : Text) : Bool := t.head?.any Char.isAlpha

/-- The pieces at the beginning and what follows them. -/
def next? : Text → Option (List Piece × Text)
  | [] => none
  | c :: t =>
    if c == '<' && namesTag t then
      (tag? t).map fun (name, attributes, rest) => opened name attributes rest
    else if c == '<' && t.head? == some '/' && namesTag t.tail then
      (tag? t.tail).map fun (name, _, rest) => ([.closing name], rest)
    else some ([.text (c :: t.takeWhile (· != '<'))], t.dropWhile (· != '<'))

def piecesFrom : Nat → Text → List Piece
  | 0, _ => []
  | fuel + 1, t =>
    match next? t with
    | some (found, rest) => found ++ piecesFrom fuel rest
    | none => []

/-- All of a text is read, unless a tag in it has no end. -/
def pieces (t : Text) : List Piece := piecesFrom t.length t

/-- The elements that refer to something. -/
inductive Kind where
  | script
  | link

namespace Kind

def name : Kind → Text
  | script => "script"
  | link => "link"

def key : Kind → Text
  | script => "src"
  | link => "href"

/-- What belongs to the element behind its opening tag. A link has nothing inside. -/
def closing : Kind → List Piece
  | script => [.closing "script"]
  | link => []

end Kind

def Kind.ofName? (name : Text) : Option Kind :=
  if name == "script" then some .script else if name == "link" then some .link else none

/-- The address that the element at the beginning refers to. -/
def reference? (t : Text) : Option Text :=
  match (pieces t).head? with
  | some (.opening name attributes) =>
    (Kind.ofName? name).bind fun kind => attributes.lookup kind.key
  | _ => none

/-- One element and nothing else, which refers to the address. -/
def Refers (t address : Text) : Prop :=
  ∃ (kind : Kind) (attributes : List (Text × Text)),
    pieces t = .opening kind.name attributes :: kind.closing ∧
      attributes.lookup kind.key = some address

def shown (address : Text) : Text := decode attribute? (address.takeWhile (· != '"'))

/-- No double quote, and nowhere a reference. -/
def Inert (address : Text) : Prop :=
  '"' ∉ address ∧ ∀ rest, rest <:+ address → attribute? rest = none

-- ---------------------------------------------------------------------------
-- Reading tags
-- ---------------------------------------------------------------------------

variable {t name value address rest : Text} {given attributes : List (Text × Text)} {fuel : Nat}

/-- An attribute as it is written, with double quotes. -/
def written (pair : Text × Text) : Text :=
  ' ' :: (pair.1 ++ '=' :: '"' :: (pair.2 ++ ['"']))

def Quotable (pair : Text × Text) : Prop :=
  pair.1 ≠ [] ∧ pair.1.all isNameChar = true ∧ '"' ∉ pair.2

def readOf (pair : Text × Text) : Text × Text :=
  (lower pair.1, decode attribute? pair.2)

theorem quoted?_append {mark : Char} (h : mark ∉ value) (rest : Text) :
    quoted? mark (value ++ mark :: rest) = some (decode attribute? value, rest) := by
  have hvalue : ∀ c ∈ value, (c != mark) = true := by
    intro c hc
    simpa using ne_of_mem_of_not_mem hc h
  rw [quoted?, List.dropWhile_append_of_pos hvalue, List.takeWhile_append_of_pos hvalue]
  simp

theorem written_append (pair : Text × Text) (rest : Text) : written pair ++ rest =
    ' ' :: (pair.1 ++ '=' :: '"' :: (pair.2 ++ '"' :: rest)) := by
  simp [written]

theorem attributes?_written {pair : Text × Text} (h : Quotable pair) (fuel : Nat)
    (rest : Text) : attributes? (fuel + 1) (written pair ++ rest) =
      (attributes? fuel rest).map fun (others, rest) => (readOf pair :: others, rest) := by
  obtain ⟨name, value⟩ := pair
  obtain ⟨hne, hname, hquote⟩ := h
  obtain ⟨c, name, rfl⟩ := List.exists_cons_of_ne_nil hne
  obtain ⟨hc, hmore⟩ := List.forall_mem_cons.mp (List.all_eq_true.mp hname)
  simp only [isNameChar, endsName, Bool.and_eq_true, Bool.not_eq_true', Bool.or_eq_false_iff,
    beq_eq_false_iff_ne] at hc
  obtain ⟨⟨⟨hgap, hslash⟩, hbracket⟩, -⟩ := hc
  have hlead : (written (c :: name, value) ++ rest).dropWhile isGap =
      c :: (name ++ '=' :: '"' :: (value ++ '"' :: rest)) := by
    simp [written_append, hgap, show isGap ' ' = true from rfl]
  have hstop : isNameChar '=' = false := rfl
  have hvalue : value? ('"' :: (value ++ '"' :: rest)) = some (decode attribute? value, rest) :=
    quoted?_append hquote rest
  rw [attributes?, hlead]
  simp [List.takeWhile_append_of_pos hmore, List.dropWhile_append_of_pos hmore, hstop,
    show isGap '=' = false from rfl, hvalue]
  cases attributes? fuel rest <;> rfl

theorem attributes?_flatMap (h : ∀ pair ∈ given, Quotable pair) (fuel : Nat)
    (rest : Text) : attributes? (fuel + given.length) (given.flatMap written ++ rest) =
      (attributes? fuel rest).map fun (others, rest) => (given.map readOf ++ others, rest) := by
  induction given with
  | nil => simp
  | cons pair given ih =>
    obtain ⟨hfirst, hmore⟩ := List.forall_mem_cons.mp h
    rw [List.flatMap_cons, List.append_assoc, List.length_cons, ← Nat.add_assoc,
      attributes?_written hfirst, ih hmore, Option.map_map]
    rfl

theorem length_le_flatMap (given : List (Text × Text)) :
    given.length ≤ (given.flatMap written).length := by
  induction given with
  | nil => exact Nat.le_refl _
  | cons pair given ih =>
    simp only [List.flatMap_cons, List.length_append, List.length_cons, written]
    omega

/-- A tag whose name and first attributes are written like this. -/
def tagged (name : Text) (given : List (Text × Text)) (rest : Text) : Text :=
  '<' :: (name ++ (given.flatMap written ++ rest))

structure Writable (name : Text) (given : List (Text × Text)) : Prop where
  letter : namesTag name = true
  unended : name.all (!endsName ·) = true
  nonempty : given ≠ []
  quotable : ∀ pair ∈ given, Quotable pair

theorem tag?_append {c : Char} (hname : name.all (!endsName ·) = true)
    (hc : endsName c = true) (t : Text) :
    tag? (name ++ c :: t) = (attributes? (name ++ c :: t).length (c :: t)).map
      fun (attributes, rest) => (lower name, attributes, rest) := by
  have hgoes := List.all_eq_true.mp hname
  rw [tag?, List.takeWhile_append_of_pos hgoes, List.dropWhile_append_of_pos hgoes]
  simp [hc]

theorem next?_tagged (h : Writable name given) (rest : Text) :
    ∃ fuel, rest.length ≤ fuel ∧ next? (tagged name given rest) =
      (attributes? fuel rest).map fun (others, rest) =>
        opened (lower name) (given.map readOf ++ others) rest := by
  obtain ⟨text, htext⟩ : ∃ text, given.flatMap written ++ rest = ' ' :: text := by
    obtain ⟨pair, more, rfl⟩ := List.exists_cons_of_ne_nil h.nonempty
    exact ⟨_, rfl⟩
  obtain ⟨fuel, hfuel⟩ := Nat.exists_eq_add_of_le' (length_le_flatMap given)
  have hlength : (name ++ ' ' :: text).length =
      name.length + (fuel + rest.length) + given.length := by
    rw [List.length_append, ← htext, List.length_append, hfuel]
    omega
  have hleads : namesTag (name ++ ' ' :: text) = true := by
    have hletter := h.letter
    cases name with
    | nil => simp [namesTag] at hletter
    | cons c name => exact hletter
  refine ⟨name.length + (fuel + rest.length), by omega, ?_⟩
  rw [tagged, htext, next?, if_pos (by simp [hleads]), tag?_append h.unended rfl, hlength,
    ← htext, attributes?_flatMap h.quotable]
  cases attributes? (name.length + (fuel + rest.length)) rest <;> rfl

theorem head?_opened (name : Text) (attributes : List (Text × Text)) (rest : Text) :
    (opened name attributes rest).1.head? = some (.opening name attributes) := by
  rw [opened]
  split <;> rfl

theorem head?_pieces_tagged (h : Writable name given) {other : Text}
    (hpieces : (pieces (tagged name given rest)).head? = some (.opening other attributes)) :
    other = lower name ∧ ∃ others, attributes = given.map readOf ++ others := by
  obtain ⟨fuel, -, hnext⟩ := next?_tagged h rest
  rw [pieces, tagged, List.length_cons, ← tagged, piecesFrom, hnext] at hpieces
  cases hread : attributes? fuel rest with
  | none => simp [hread] at hpieces
  | some found =>
    obtain ⟨others, rest⟩ := found
    simp only [hread, Option.map_some, List.head?_append, head?_opened, Option.some_or,
      Option.some.injEq, Piece.opening.injEq] at hpieces
    exact ⟨hpieces.1.symm, others, hpieces.2.symm⟩

theorem pieces_tagged (h : Writable name given) (rest : Text) : ∃ fuel, rest.length ≤ fuel ∧
    pieces (tagged name given ('>' :: rest)) =
      (opened (lower name) (given.map readOf) rest).1 ++
        piecesFrom fuel (opened (lower name) (given.map readOf) rest).2 := by
  obtain ⟨fuel, hfuel, hnext⟩ := next?_tagged h ('>' :: rest)
  have hread : attributes? fuel ('>' :: rest) = some ([], rest) := by
    cases fuel with
    | zero => simp at hfuel
    | succ fuel => rfl
  refine ⟨(name ++ (given.flatMap written ++ '>' :: rest)).length, by simp; omega, ?_⟩
  rw [pieces, tagged, List.length_cons, ← tagged, piecesFrom, hnext, hread]
  simp only [Option.map_some, List.append_nil]

-- ---------------------------------------------------------------------------
-- Scripts and links
-- ---------------------------------------------------------------------------

open Renderer (scriptTag linkTag assetTag)

namespace Kind

variable (kind : Kind)

def fields (address : Text) : List (Text × Text) :=
  match kind with
  | script => [("src", address)]
  | link => [("rel", "stylesheet"), ("href", address)]

def lead : Kind → Text
  | script => "<script src=\""
  | link => "<link rel=\"stylesheet\" href=\""

def behind : Kind → Text
  | script => "</script>"
  | link => []

def tag (address : Text) : Text := kind.lead ++ (address ++ '"' :: '>' :: kind.behind)

theorem lead_append (address rest : Text) : kind.lead ++ (address ++ '"' :: rest) =
    tagged kind.name (kind.fields address) rest := by
  cases kind with
  | script =>
    rw [tagged, fields, List.flatMap_singleton, written_append]
    rfl
  | link =>
    rw [tagged, fields, List.flatMap_cons, List.flatMap_singleton, List.append_assoc,
      written_append, written_append]
    rfl

theorem scriptTag_eq (address : Text) : scriptTag address = script.tag address :=
  List.append_assoc _ _ _

theorem linkTag_eq (address : Text) : linkTag address = link.tag address :=
  List.append_assoc _ _ _

theorem assetTag_eq (address : Text) : ∃ kind : Kind, assetTag address = kind.tag address := by
  rw [assetTag]
  split
  · split
    · exact ⟨script, scriptTag_eq address⟩
    · exact ⟨link, linkTag_eq address⟩
  · exact ⟨link, linkTag_eq address⟩

theorem writable (h : '"' ∉ value) : Writable kind.name (kind.fields value) := by
  cases kind with
  | script =>
    have hsrc : Quotable ("src", value) :=
      ⟨List.cons_ne_nil _ _, (by decide : "src".toList.all isNameChar = true), h⟩
    exact ⟨by decide, by decide, List.cons_ne_nil _ _, by simpa [fields] using hsrc⟩
  | link =>
    have hrel : Quotable ("rel", "stylesheet") := ⟨List.cons_ne_nil _ _, by decide, by decide⟩
    have hhref : Quotable ("href", value) :=
      ⟨List.cons_ne_nil _ _, (by decide : "href".toList.all isNameChar = true), h⟩
    exact ⟨by decide, by decide, List.cons_ne_nil _ _, by simpa [fields] using ⟨hrel, hhref⟩⟩

theorem lookup_key (value : Text) (others : List (Text × Text)) :
    ((kind.fields value).map readOf ++ others).lookup kind.key =
      some (decode attribute? value) := by
  cases kind <;> rfl

theorem lower_name : lower kind.name = kind.name := by
  cases kind <;> rfl

theorem pieces_tag (h : '"' ∉ address) : pieces (kind.tag address) =
    .opening kind.name ((kind.fields address).map readOf) :: kind.closing := by
  obtain ⟨fuel, hfuel, hpieces⟩ := pieces_tagged (kind.writable h) kind.behind
  rw [tag, lead_append, hpieces, lower_name]
  cases kind with
  | script =>
    obtain ⟨fuel, rfl⟩ := Nat.exists_eq_add_of_le' (Nat.le_trans (by decide : 2 ≤ _) hfuel)
    rfl
  | link => cases fuel <;> rfl

end Kind

theorem decode_front_ne (front more : Text) : decode attribute? front ≠ front ++ '"' :: more := by
  intro hsame
  have hlength := Reference.length_decode_le Reference.proper_attribute?.bounded front
  rw [hsame, List.length_append, List.length_cons] at hlength
  omega

theorem inert_iff : Inert address ↔ '"' ∉ address ∧ decode attribute? address = address := by
  rw [Inert, Reference.decode_eq_self_iff Reference.proper_attribute?]

/-- Only double quotes, ampersands, carriage returns and null characters do harm. -/
theorem inert_of_plain (h : address.all (· ∉ ['"', '&', '\r', '\x00'])) : Inert address := by
  simp only [List.all_eq_true, decide_eq_true_eq] at h
  refine ⟨fun hquote => h _ hquote (by simp), fun rest hrest => ?_⟩
  cases rest with
  | nil => rfl
  | cons c rest =>
    have hc := h c (hrest.subset List.mem_cons_self)
    simp only [List.mem_cons, List.not_mem_nil, or_false, not_or] at hc
    obtain ⟨-, hampersand, hreturn, hnull⟩ := hc
    unfold Reference.attribute?
    split <;> simp_all

theorem shown_of_not_mem (h : '"' ∉ address) : shown address = decode attribute? address := by
  rw [shown, List.takeWhile_eq_self_iff.mpr]
  intro c hc
  simpa using ne_of_mem_of_not_mem hc h

theorem shown_append (h : '"' ∉ address) (more : Text) :
    shown (address ++ '"' :: more) = decode attribute? address := by
  have hall : ∀ c ∈ address, (c != '"') = true := by
    intro c hc
    simpa using ne_of_mem_of_not_mem hc h
  rw [shown, List.takeWhile_append_of_pos hall]
  simp

theorem shown_eq_self_iff : shown address = address ↔ Inert address := by
  by_cases hquote : '"' ∈ address
  · obtain ⟨front, more, rfl, hfront⟩ := List.eq_append_cons_of_mem hquote
    rw [shown_append hfront]
    exact iff_of_false (decode_front_ne front more) fun h => h.1 hquote
  · rw [shown_of_not_mem hquote, inert_iff, and_iff_right hquote]

theorem Kind.ofName?_name (kind : Kind) : Kind.ofName? kind.name = some kind := by
  cases kind <;> rfl

theorem Refers.reference? (h : Refers t address) : reference? t = some address := by
  obtain ⟨kind, attributes, hpieces, hlookup⟩ := h
  rw [Element.reference?, hpieces, List.head?_cons]
  simp only [Kind.ofName?_name, Option.bind_some, hlookup]

theorem refers_tag (kind : Kind) (h : '"' ∉ address) :
    Refers (kind.tag address) (decode attribute? address) := by
  have hlookup := kind.lookup_key address []
  rw [List.append_nil] at hlookup
  exact ⟨kind, _, kind.pieces_tag h, hlookup⟩

theorem reference?_tag (kind : Kind) (h : '"' ∉ address) :
    reference? (kind.tag address) = some (shown address) := by
  rw [shown_of_not_mem h]
  exact (refers_tag kind h).reference?

/-- The address of a tag is read up to the first quote in it, if the tag is read at all. -/
theorem eq_shown_of_reference? {kind : Kind} (h : reference? (kind.tag address) = some value) :
    value = shown address := by
  by_cases hquote : '"' ∈ address
  · obtain ⟨front, more, rfl, hfront⟩ := List.eq_append_cons_of_mem hquote
    rw [Kind.tag, List.append_assoc, List.cons_append, kind.lead_append, reference?] at h
    split at h
    · next other attributes hhead =>
      obtain ⟨rfl, others, rfl⟩ := head?_pieces_tagged (kind.writable hfront) hhead
      rw [Kind.lower_name, Kind.ofName?_name, Option.bind_some, Kind.lookup_key] at h
      rw [shown_append hfront, Option.some.inj h]
    · cases h
  · exact Option.some.inj (h.symm.trans (reference?_tag kind hquote))

theorem refers_tag_iff (kind : Kind) (address : Text) :
    Refers (kind.tag address) address ↔ Inert address := by
  constructor
  · exact fun h => shown_eq_self_iff.mp (eq_shown_of_reference? h.reference?).symm
  · intro hinert
    have hrefers := refers_tag kind hinert.1
    rwa [(inert_iff.mp hinert).2] at hrefers

end Element

-- ---------------------------------------------------------------------------
-- Assets and scripts of a page
-- ---------------------------------------------------------------------------

namespace Renderer

open Element (Inert Kind Refers pieces refers_tag_iff)

variable (r : Renderer) (page : Page) {item : Include}

theorem assetTag_emitted (h : item ∈ r.assets) :
    assetTag (assetAddress r.config page item) <:+: (r.surroundings page).assets := by
  rw [surroundings_assets]
  exact Text.infix_unlines_of_mem (List.mem_map_of_mem h)

theorem scriptTag_emitted (h : item ∈ r.scripts) :
    scriptTag (scriptAddress r.config page item) <:+: (r.surroundings page).scripts := by
  rw [surroundings_scripts]
  exact Text.infix_unlines_of_mem (List.mem_map_of_mem h)

/-- The tags of all assets and scripts stand in what a page is rendered with, and such a tag is one
element that refers to its address, just if the address is inert. -/
theorem tags_refer_iff (item : Include) :
    (item ∈ r.assets →
      assetTag (assetAddress r.config page item) <:+: (r.surroundings page).assets) ∧
    (item ∈ r.scripts →
      scriptTag (scriptAddress r.config page item) <:+: (r.surroundings page).scripts) ∧
    (Refers (assetTag (assetAddress r.config page item)) (assetAddress r.config page item) ↔
      Inert (assetAddress r.config page item)) ∧
    (Refers (scriptTag (scriptAddress r.config page item)) (scriptAddress r.config page item) ↔
      Inert (scriptAddress r.config page item)) := by
  refine ⟨assetTag_emitted r page, scriptTag_emitted r page, ?_, ?_⟩
  · obtain ⟨kind, hkind⟩ := Kind.assetTag_eq (assetAddress r.config page item)
    rw [hkind]
    exact refers_tag_iff kind _
  · rw [Kind.scriptTag_eq]
    exact refers_tag_iff .script _

/-- A stylesheet by its address, and a script beside the page. -/
theorem tags_refer_iff_plain :
    let page : Page := ⟨[], [], .empty, "o/a.html", [], [], false⟩
    let r : Renderer := ⟨{ src := "s", dest := "o" }, ⟨[], [], 0⟩, [], [],
      [.url "//x/a.css"], [.file "/p/x.js"]⟩
    let link := "<link rel=\"stylesheet\" href=\"//x/a.css\">".toList
    let script := "<script src=\"./x.js\"></script>".toList
    link <:+: (r.surroundings page).assets ∧ Refers link "//x/a.css" ∧
      script <:+: (r.surroundings page).scripts ∧ Refers script "./x.js" := by
  intro page r link script
  have haddress : scriptAddress r.config page (.file "/p/x.js") = "./x.js".toList := by decide
  have hlink : assetTag (assetAddress r.config page (.url "//x/a.css")) = link := by decide
  have hscript : scriptTag (scriptAddress r.config page (.file "/p/x.js")) = script := by decide
  obtain ⟨hasset, -, hinert, -⟩ := tags_refer_iff r page (.url "//x/a.css")
  obtain ⟨-, hplaced, -, hinert'⟩ := tags_refer_iff r page (.file "/p/x.js")
  rw [hlink] at hasset hinert
  rw [hscript, haddress] at hinert'
  rw [hscript] at hplaced
  exact ⟨hasset List.mem_cons_self, hinert.mpr (Element.inert_of_plain (by decide)),
    hplaced List.mem_cons_self, hinert'.mpr (Element.inert_of_plain (by decide))⟩

/-- An address ends its attribute and opens another tag, and the name of a file its attribute. -/
theorem tags_broken_out :
    let page : Page := ⟨[], [], .empty, "o/a.html", [], [], false⟩
    let r : Renderer := ⟨{ src := "s", dest := "o" }, ⟨[], [], 0⟩, [], [],
      [.url "//x/a.css\"><script src=\"//y"], [.file "/p/q\"r.js"]⟩
    (r.surroundings page).assets =
        "<link rel=\"stylesheet\" href=\"//x/a.css\"><script src=\"//y\">".toList ∧
      pieces (r.surroundings page).assets =
        [.opening "link" [("rel", "stylesheet"), ("href", "//x/a.css")],
          .opening "script" [("src", "//y")]] ∧
      ¬ Refers (r.surroundings page).assets "//x/a.css\"><script src=\"//y" ∧
      (r.surroundings page).scripts = "<script src=\"./q\"r.js\"></script>".toList ∧
      pieces (r.surroundings page).scripts =
        [.opening "script" [("src", "./q"), ("r.js\"", [])], .closing "script"] ∧
      ¬ Refers (r.surroundings page).scripts "./q\"r.js" := by
  intro page r
  have hasset : pieces (r.surroundings page).assets =
      [.opening "link" [("rel", "stylesheet"), ("href", "//x/a.css")],
        .opening "script" [("src", "//y")]] := by decide
  have hscript : pieces (r.surroundings page).scripts =
      [.opening "script" [("src", "./q"), ("r.js\"", [])], .closing "script"] := by decide
  refine ⟨by decide, hasset, ?_, by decide, hscript, ?_⟩
  · rintro ⟨kind, attributes, hpieces, -⟩
    rw [hasset] at hpieces
    cases kind <;> simp [Kind.closing] at hpieces
  · rintro ⟨kind, attributes, hpieces, haddress⟩
    rw [hscript] at hpieces
    obtain ⟨hhead, -⟩ := List.cons.inj hpieces
    obtain ⟨hname, rfl⟩ := Element.Piece.opening.inj hhead
    cases kind with
    | script => exact absurd haddress (by decide)
    | link => exact absurd hname (by decide)

end Renderer

end Swatchbook
