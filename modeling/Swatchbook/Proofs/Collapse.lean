import Swatchbook.Comment.Normal
import Swatchbook.Proofs.Blocks
import Mathlib.Data.List.Forall2

/-!
# Lines of a comment

What the normal form makes of the lines of a comment, one kind of line at a
time: prose with or without a margin, the lines of a written fence, and
indented code. A whole comment is one of these runs after another.
-/

namespace Swatchbook.Text

theorem infix_append_of_not_mem {a : Char} {mark lead t : Text} (h : a ∉ lead) :
    a :: mark <:+: lead ++ t ↔ a :: mark <:+: t := by
  induction lead with
  | nil => rfl
  | cons c lead ih =>
    have hc : a ≠ c := fun e => h (e ▸ List.mem_cons_self)
    rw [List.cons_append, List.infix_cons_iff, ih fun hm => h (List.mem_cons_of_mem _ hm),
      List.cons_prefix_cons]
    simp [hc]

theorem firm_unlines {ls : List Text} {last : Text} (hl : ls.getLast? = some last) (h : Firm last) :
    Firm (unlines ls) := by
  obtain ⟨init, rfl⟩ := List.getLast?_eq_some_iff.mp hl
  cases init with
  | nil => simpa using h
  | cons l init =>
    rw [unlines_append (by simp) (by simp), unlines_singleton]
    simpa using h.append (unlines (l :: init) ++ ['\n'])

end Swatchbook.Text

namespace Swatchbook.Comment

-- ---------------------------------------------------------------------------
-- One line
-- ---------------------------------------------------------------------------

/-- A continuation line as the fence tracking sees it. -/
def unmarked (line : Text) : Text := (unmark? line).getD line

def star : Text := [' ', '*', ' ']

theorem unmark?_star (line : Text) : unmark? (star ++ line) = some line := by
  rw [unmark?, ← star, Text.after?_append]

theorem unmark?_eq_none {line : Text} (h : ¬ [' ', '*'] <+: line) : unmark? line = none := by
  have hlead : [' ', '*'] <+: [' ', '*', ' '] := by simp
  have hstar : ¬ [' ', '*', ' '] <+: line := fun hs => h (hlead.trans hs)
  simp [unmark?, Text.after?_eq_none_iff.mpr h, Text.after?_eq_none_iff.mpr hstar]

theorem isFence_eq_false {line : Text} (h : ¬ fence <:+: line) : isFence line = false := by
  rw [isFence, ← Bool.not_eq_true, List.isPrefixOf_iff_prefix]
  exact fun hp => h (hp.isInfix.trans (List.dropWhile_suffix _).isInfix)

theorem holdsFence_eq_false {line : Text} (h : ¬ fence <:+: line) : holdsFence line = false :=
  (Text.not_holds_iff (by simp [fence])).mpr h

theorem widen_flush {line : Text} (h : line.head? ≠ some ' ') : widen line = line := by
  have hnone : Text.after? [' ', ' ', ' '] line = none := by
    rw [Text.after?_eq_none_iff]
    rintro ⟨rest, rfl⟩
    simp at h
  rw [widen, hnone]

theorem widen_indent (code : Text) : widen (indent ++ code) = indent ++ code := by
  have hsome : Text.after? [' ', ' ', ' '] (indent ++ code) = some (' ' :: code) :=
    Text.after?_eq_some_iff.mpr rfl
  simp [widen, hsome]

theorem widen_three {code : Text} (h : code.head? ≠ some ' ') :
    widen ([' ', ' ', ' '] ++ code) = indent ++ code := by
  have hsome : Text.after? [' ', ' ', ' '] ([' ', ' ', ' '] ++ code) = some code :=
    Text.after?_append _ _
  rw [widen, hsome]
  simp [h]

theorem dropSpaces_spaces (k : Nat) (line : Text) :
    dropSpaces k (Text.spaces k ++ line) = line := by
  induction k with
  | zero => rfl
  | succ k ih => simpa [Text.spaces, List.replicate_succ, dropSpaces] using ih

theorem dropSpaces_zero (line : Text) : dropSpaces 0 line = line := by
  cases line <;> rfl

theorem isFence_spaces (k : Nat) (line : Text) :
    isFence (Text.spaces k ++ (fence ++ line)) = true := by
  have hblank : Text.allBlank (Text.spaces k) = true := by
    simp [Text.allBlank, Text.spaces, Text.isBlank]
  have hfence : (fence ++ line).dropWhile Text.isBlank = fence ++ line := by
    simp [fence, Text.isBlank]
  rw [isFence, Text.trimStart, Text.dropWhile_blank_append hblank, hfence,
    List.isPrefixOf_iff_prefix]
  exact List.prefix_append _ _

theorem takeWhile_spaces {line : Text} (h : line.head? ≠ some ' ') (k : Nat) :
    (Text.spaces k ++ line).takeWhile isSpace = Text.spaces k ∧
      (Text.spaces k ++ line).dropWhile isSpace = line := by
  induction k with
  | zero => cases line <;> simp_all [Text.spaces, isSpace]
  | succ k ih => simpa [Text.spaces, List.replicate_succ, isSpace] using ih

theorem unmarked_fence (k : Nat) (info : Text) :
    unmarked (Text.spaces k ++ (fence ++ info)) = Text.spaces k ++ (fence ++ info) := by
  have hnone : unmark? (Text.spaces k ++ (fence ++ info)) = none := by
    apply unmark?_eq_none
    match k with
    | 0 => simp [Text.spaces, fence]
    | 1 => simp [Text.spaces, fence]
    | k + 2 => simp [Text.spaces, List.replicate_succ]
  rw [unmarked, hnone, Option.getD_none]

-- ---------------------------------------------------------------------------
-- Runs of lines
-- ---------------------------------------------------------------------------

def WritesProse (w p : Text) : Prop := isFence (unmarked w) = false ∧ collapse w = p

def WritesCode (n : Nat) (w c : Text) : Prop :=
  isFence (unmarked w) = false ∧ dropSpaces n (unmarked w) = c

theorem collapseRest_prose {ws ps : List Text} (h : List.Forall₂ WritesProse ws ps)
    (rest : List Text) :
    collapseRest none (ws ++ rest) = ps ++ collapseRest none rest := by
  induction h with
  | nil => rfl
  | cons hline _ ih =>
    obtain ⟨hfence, hcollapse⟩ := hline
    unfold unmarked at hfence
    simp [collapseRest, hfence, hcollapse, ih]

theorem collapseRest_code {n : Nat} {ws cs : List Text} (h : List.Forall₂ (WritesCode n) ws cs)
    (rest : List Text) : collapseRest (some n) (ws ++ rest) = cs ++ collapseRest (some n) rest := by
  induction h with
  | nil => rfl
  | cons hline _ ih =>
    obtain ⟨hfence, hdrop⟩ := hline
    unfold unmarked at hfence hdrop
    simp [collapseRest, hfence, hdrop, ih]

/-- A whole fence: the line that opens it gives its indent, and the next fence closes it. -/
theorem collapseRest_fence {k : Nat} {opening closing info : Text} {ws cs : List Text}
    (hopen : unmarked opening = Text.spaces k ++ (fence ++ info))
    (hclose : unmarked closing = Text.spaces k ++ fence) (h : List.Forall₂ (WritesCode k) ws cs) :
    collapseRest none (opening :: ws ++ [closing]) = (fence ++ info) :: cs ++ [fence] := by
  have hspaces := takeWhile_spaces (show (fence ++ info).head? ≠ some ' ' by simp [fence]) k
  unfold unmarked at hopen hclose
  simp only [List.cons_append, collapseRest, hopen, isFence_spaces, if_true, leadingSpaces, hspaces]
  have hlen : (Text.spaces k).length = k := by simp [Text.spaces]
  rw [hlen, collapseRest_code h]
  simp [collapseRest, hclose, dropSpaces_spaces]

-- ---------------------------------------------------------------------------
-- Inferred fences
-- ---------------------------------------------------------------------------

theorem fenced_of_mem {lines : List Text} {line : Text} (hm : line ∈ lines) (h : fence <+: line) :
    fenced lines = lines := by
  have hany : lines.any holdsFence = true :=
    List.any_eq_true.mpr ⟨line, hm, (Text.holds_iff (by simp [fence])).mpr h.isInfix⟩
  rw [fenced, hany, if_pos rfl]

theorem fenced_of_free {lines : List Text} (h : ∀ line ∈ lines, ¬ fence <:+: line) :
    fenced lines = inferFence lines := by
  have hany : lines.any holdsFence = false :=
    List.any_eq_false.mpr fun line hm => by simp [holdsFence_eq_false (h line hm)]
  rw [fenced, hany]
  rfl

theorem inferFence_prose {ps : List Text} (h : ∀ p ∈ ps, p.head? ≠ some ' ') (rest : List Text) :
    inferFence (ps ++ rest) = ps ++ inferFence rest := by
  induction ps with
  | nil => rfl
  | cons p ps ih =>
    have hp : indent.isPrefixOf p = false := by
      rw [← Bool.not_eq_true, List.isPrefixOf_iff_prefix]
      rintro ⟨t, rfl⟩
      exact h (indent ++ t) List.mem_cons_self rfl
    simp [inferFence, hp, ih fun q hq => h q (List.mem_cons_of_mem _ hq)]

theorem inferFence_code {cs : List Text} (hne : cs ≠ []) :
    inferFence (cs.map (indent ++ ·)) = fence :: cs ++ [fence] := by
  have hdedent : dedent ∘ (indent ++ ·) = id := by
    funext c
    simp [dedent]
  obtain ⟨c, cs, rfl⟩ := List.exists_cons_of_ne_nil hne
  have hindent : indent.isPrefixOf (indent ++ c) = true :=
    List.isPrefixOf_iff_prefix.mpr (List.prefix_append _ _)
  rw [List.map_cons, inferFence, hindent, if_pos rfl, ← List.map_cons (f := (indent ++ ·)),
    List.map_map, hdedent, List.map_id]

end Swatchbook.Comment
