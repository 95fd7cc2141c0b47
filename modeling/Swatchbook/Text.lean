/-!
# Text

A text is the list of its characters. Blank means the Unicode property
White_Space, which is wider than the blanks of `Char.isWhitespace`. Sizes in
bytes are those of the UTF-8 encoding.
-/

namespace Swatchbook

abbrev Text := List Char

instance coeString : Coe String (List Char) := ⟨String.toList⟩

namespace Text

/-- The twenty-five characters with the property White_Space. -/
def isBlank (c : Char) : Bool :=
  let n := c.toNat
  (9 ≤ n && n ≤ 13) || n == 32 || n == 0x85 || n == 0xA0 || n == 0x1680 ||
    (0x2000 ≤ n && n ≤ 0x200A) || n == 0x2028 || n == 0x2029 || n == 0x202F ||
    n == 0x205F || n == 0x3000

def trimStart (t : Text) : Text := t.dropWhile isBlank

def dropWhileEnd (p : Char → Bool) (t : Text) : Text := (t.reverse.dropWhile p).reverse

def trimEnd (t : Text) : Text := dropWhileEnd isBlank t

def trim (t : Text) : Text := trimEnd (trimStart t)

def allBlank (t : Text) : Bool := t.all isBlank

/-- What follows `lead`, if `t` starts with it. -/
def after? (lead t : Text) : Option Text := lead.isPrefixOf? t

@[simp] theorem after?_nil (t : Text) : after? [] t = some t := rfl

@[simp] theorem after?_cons_nil (a : Char) (lead : Text) : after? (a :: lead) [] = none := rfl

theorem after?_cons_cons (a b : Char) (lead t : Text) :
    after? (a :: lead) (b :: t) = if a == b then after? lead t else none := rfl

/-- `t` without `lead`, if it starts with it, and else `t`. -/
def dropLead (lead t : Text) : Text := (after? lead t).getD t

/-- The texts before and after the first place where `mark` stands. -/
def cut? (mark : Text) : Text → Option (Text × Text)
  | [] => if mark.isEmpty then some ([], []) else none
  | c :: t =>
    match after? mark (c :: t) with
    | some rest => some ([], rest)
    | none => (cut? mark t).map fun (before, rest) => (c :: before, rest)

def holds (mark t : Text) : Bool := (cut? mark t).isSome

theorem length_of_after? {lead t rest : Text} (h : after? lead t = some rest) :
    rest.length + lead.length = t.length := by
  induction lead generalizing t with
  | nil =>
    have : t = rest := by simpa using h
    simp [this]
  | cons a lead ih =>
    cases t with
    | nil => simp at h
    | cons b t =>
      rw [after?_cons_cons] at h
      split at h
      · have := ih h
        simp only [List.length_cons]
        omega
      · simp at h

theorem length_of_cut? {mark t before rest : Text} (h : cut? mark t = some (before, rest)) :
    before.length + mark.length + rest.length = t.length := by
  induction t generalizing before with
  | nil =>
    simp only [cut?] at h
    split at h
    · cases mark <;> simp_all
    · simp at h
  | cons c t ih =>
    rw [cut?] at h
    split at h
    · next found =>
      have := length_of_after? found
      simp only [Option.some.injEq, Prod.mk.injEq] at h
      obtain ⟨rfl, rfl⟩ := h
      simp only [List.length_cons, List.length_nil] at this ⊢
      omega
    · simp only [Option.map_eq_some_iff, Prod.mk.injEq, Prod.exists] at h
      obtain ⟨b, r, hc, rfl, rfl⟩ := h
      have := ih hc
      simp only [List.length_cons] at this ⊢
      omega

/-- The pieces between the places where `mark` stands. A text without the
mark, the empty one included, is one piece; so is any text if the mark is
empty. -/
def splitOn (mark t : Text) : List Text :=
  if _ : mark = [] then [t] else
    match _ : cut? mark t with
    | none => [t]
    | some (before, rest) => before :: splitOn mark rest
termination_by t.length
decreasing_by
  have := length_of_cut? (by assumption)
  have : 0 < mark.length := List.length_pos_iff.mpr (by assumption)
  omega

def splitBy (p : Char → Bool) : Text → List Text
  | [] => [[]]
  | c :: t =>
    if p c then [] :: splitBy p t else
      match splitBy p t with
      | [] => [[c]]
      | piece :: pieces => (c :: piece) :: pieces

def lines (t : Text) : List Text := splitBy (· == '\n') t

def join (between : Text) (pieces : List Text) : Text := List.intercalate between pieces

def unlines (pieces : List Text) : Text := join ['\n'] pieces

def replace (mark other t : Text) : Text := join other (splitOn mark t)

def spaces (n : Nat) : Text := List.replicate n ' '

/-- The number of bytes of the UTF-8 encoding. -/
def byteSize (t : Text) : Nat := t.foldr (fun c size => c.utf8Size + size) 0

theorem byteSize_append (s t : Text) : byteSize (s ++ t) = byteSize s + byteSize t := by
  unfold byteSize
  induction s with
  | nil => simp
  | cons c s ih => simp [ih, Nat.add_assoc]

def toBytes (t : Text) : ByteArray := (String.ofList t).toUTF8

def ofBytes? (bytes : ByteArray) : Option Text := (String.fromUTF8? bytes).map String.toList

/-- Order by code points, which is also the order of the UTF-8 encodings. -/
def le (a b : Text) : Bool :=
  match a, b with
  | [], _ => true
  | _ :: _, [] => false
  | x :: a, y :: b => if x == y then le a b else x.toNat < y.toNat

def ofNat (n : Nat) : Text := Nat.toDigits 10 n

def isDigit (c : Char) : Bool := '0' ≤ c && c ≤ '9'

def digitValue (c : Char) : Nat := c.toNat - '0'.toNat

def toNat (digits : Text) : Nat := digits.foldl (fun n c => 10 * n + digitValue c) 0

def hexValue? (c : Char) : Option Nat :=
  if '0' ≤ c && c ≤ '9' then some (c.toNat - '0'.toNat)
  else if 'a' ≤ c && c ≤ 'f' then some (c.toNat - 'a'.toNat + 10)
  else if 'A' ≤ c && c ≤ 'F' then some (c.toNat - 'A'.toNat + 10)
  else none

def isHex (c : Char) : Bool := (hexValue? c).isSome

def ofHex (digits : Text) : Nat := digits.foldl (fun n c => 16 * n + (hexValue? c).getD 0) 0

/-- The character with a code point, if there is one. -/
def char? (n : Nat) : Option Char := if n.isValidChar then some (Char.ofNat n) else none

end Text

end Swatchbook
