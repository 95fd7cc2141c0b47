import Swatchbook.Proofs.Text

/-!
# Decoding references

A reference is a few characters that stand for others. Texts with references
are decoded from left to right, whatever the references are; a reader tells
what stands at the beginning of a text. What is not read stands for itself.
-/

namespace Swatchbook.Reference

/-- What the reference at the beginning of a text stands for and how many characters it has. -/
abbrev Reader := Text → Option (Text × Nat)

/-- As many characters as were read together with the last reference are skipped. -/
def decodeFrom (read? : Reader) : Nat → Text → Text
  | _, [] => []
  | 0, c :: t =>
    match read? (c :: t) with
    | some (value, length) => value ++ decodeFrom read? (length - 1) t
    | none => c :: decodeFrom read? 0 t
  | skip + 1, _ :: t => decodeFrom read? skip t

def decode (read? : Reader) (t : Text) : Text := decodeFrom read? 0 t

/-- References are no shorter than what they stand for, and no longer than the text. -/
def Bounded (read? : Reader) : Prop :=
  ∀ t value length, read? t = some (value, length) →
    value.length ≤ length ∧ 0 < length ∧ length ≤ t.length

/-- Moreover none stands for itself. -/
structure Proper (read? : Reader) : Prop where
  bounded : Bounded read?
  differs : ∀ t value length, read? t = some (value, length) → value ≠ t.take length

variable {read? : Reader} {c : Char} {t value reference : Text} {length : Nat}

theorem decodeFrom_eq (skip : Nat) (t : Text) :
    decodeFrom read? skip t = decode read? (t.drop skip) := by
  induction t generalizing skip with
  | nil => cases skip <;> rfl
  | cons c t ih =>
    cases skip with
    | zero => rfl
    | succ skip => exact ih skip

theorem decode_cons_of_none (h : read? (c :: t) = none) :
    decode read? (c :: t) = c :: decode read? t := by
  rw [decode, decodeFrom, h]
  rfl

theorem decode_cons_of_some (h : read? (c :: t) = some (value, length)) (hpos : 0 < length) :
    decode read? (c :: t) = value ++ decode read? ((c :: t).drop length) := by
  obtain ⟨length, rfl⟩ := Nat.exists_eq_succ_of_ne_zero (Nat.ne_of_gt hpos)
  rw [decode, decodeFrom, h]
  simp only [decodeFrom_eq, Nat.succ_sub_one, List.drop_succ_cons]

theorem decode_reference (h : read? (reference ++ t) = some (value, reference.length))
    (hne : reference ≠ []) : decode read? (reference ++ t) = value ++ decode read? t := by
  obtain ⟨c, rest, rfl⟩ := List.exists_cons_of_ne_nil hne
  have hdecode : decode read? (c :: (rest ++ t)) =
      value ++ decode read? ((c :: (rest ++ t)).drop (c :: rest).length) :=
    decode_cons_of_some h (Nat.succ_pos _)
  rw [List.cons_append, hdecode, ← List.cons_append, List.drop_left]

theorem length_decode_le (h : Bounded read?) (t : Text) :
    (decode read? t).length ≤ t.length := by
  induction hn : t.length using Nat.strong_induction_on generalizing t with
  | _ n ih =>
    subst hn
    cases t with
    | nil => exact Nat.le_refl _
    | cons c t =>
      cases hread : read? (c :: t) with
      | none =>
        have hrest := ih t.length (Nat.lt_succ_self _) t rfl
        rw [decode_cons_of_none hread]
        exact Nat.succ_le_succ hrest
      | some found =>
        obtain ⟨value, length⟩ := found
        obtain ⟨hvalue, hpos, hlength⟩ := h _ _ _ hread
        have hshorter : ((c :: t).drop length).length < (c :: t).length := by
          rw [List.length_drop]
          omega
        have hrest := ih _ hshorter _ rfl
        rw [decode_cons_of_some hread hpos, List.length_append]
        rw [List.length_drop] at hrest
        omega

theorem decode_eq_self_iff (h : Proper read?) (t : Text) :
    decode read? t = t ↔ ∀ rest, rest <:+ t → read? rest = none := by
  induction t with
  | nil =>
    have hnil : read? [] = none := by
      rw [Option.eq_none_iff_forall_not_mem]
      rintro ⟨value, length⟩ hread
      obtain ⟨-, hpos, hlength⟩ := h.bounded _ _ _ hread
      exact absurd hpos (Nat.not_lt.mpr hlength)
    simpa [decode, decodeFrom] using hnil
  | cons c t ih =>
    simp only [List.suffix_cons_iff, forall_eq_or_imp, ← ih]
    cases hread : read? (c :: t) with
    | none => simp [decode_cons_of_none hread]
    | some found =>
      obtain ⟨value, length⟩ := found
      obtain ⟨hvalue, hpos, hlength⟩ := h.bounded _ _ _ hread
      refine iff_of_false (fun hsame => ?_) (by simp)
      rw [decode_cons_of_some hread hpos] at hsame
      -- neither part is longer than the one it stands for
      have hrest := length_decode_le h.bounded ((c :: t).drop length)
      have hsum := congrArg List.length hsame
      rw [List.length_append] at hsum
      rw [List.length_drop] at hrest
      have htake : value.length = length := by omega
      refine h.differs _ _ _ hread ?_
      rw [← hsame, ← htake, List.take_left]

end Swatchbook.Reference
