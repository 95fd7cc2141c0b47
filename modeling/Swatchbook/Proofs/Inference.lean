import Swatchbook.Proofs.Stable
import Mathlib.Data.List.Infix

/-!
# Inferred fences

A text without a fence gets one just if a line after its first is indented by
four columns: it starts with four spaces, or with four behind a star. That
three spaces behind the margin of a star are widened to four makes the two the
same rule, and no pass makes a fence out of what was none.
-/

namespace Swatchbook.Comment

open Text (Sheds)

-- ---------------------------------------------------------------------------
-- Columns
-- ---------------------------------------------------------------------------

/-- Indented by four columns, also behind a star. -/
def Indented (line : Text) : Prop := indent <+: line ∨ [' ', '*'] ++ indent <+: line

instance (line : Text) : Decidable (Indented line) := by
  unfold Indented
  infer_instance

section

variable {line rest : Text}

theorem indent_prefix_widen_iff : indent <+: widen rest ↔ [' ', ' ', ' '] <+: rest := by
  rw [widen]
  cases h : Text.after? [' ', ' ', ' '] rest with
  | none =>
    have hnone := Text.after?_eq_none_iff.mp h
    have hshort : [' ', ' ', ' '] <+: indent := by decide
    exact iff_of_false (fun hindent => hnone (hshort.trans hindent)) hnone
  | some code =>
    obtain rfl := Text.after?_eq_some_iff.mp h
    refine iff_of_true ?_ (List.prefix_append _ _)
    dsimp only
    split
    · next hspace =>
      obtain ⟨code, rfl⟩ := List.head?_eq_some_iff.mp (beq_iff_eq.mp hspace)
      exact ⟨code, rfl⟩
    · exact List.prefix_append _ _

theorem indented_iff_of_unmark? (h : unmark? line = some rest) :
    Indented line ↔ [' ', ' ', ' '] <+: rest := by
  rcases unmark?_eq_some h with rfl | ⟨rfl, hflush⟩
  · simp [Indented, star, indent]
  · have hthree : ¬ [' ', ' ', ' '] <+: rest := by
      rintro ⟨code, rfl⟩
      exact hflush rfl
    have hfour : ¬ [' ', ' ', ' ', ' '] <+: rest := by
      rintro ⟨code, rfl⟩
      exact hflush rfl
    simp [Indented, indent, hthree, hfour]

theorem indent_prefix_collapse_iff : indent <+: collapse line ↔ Indented line := by
  rw [collapse]
  cases h : unmark? line with
  | some rest =>
    rw [indented_iff_of_unmark? h]
    exact indent_prefix_widen_iff
  | none =>
    have hmark : ¬ [' ', '*'] ++ indent <+: line := by
      intro hline
      obtain ⟨rest, hrest⟩ := exists_unmark? ((List.prefix_append _ _).trans hline)
      simp [h] at hrest
    simp only [Indented, hmark, or_false]
    split
    · rfl
    · next hindent =>
      rw [List.isPrefixOf_iff_prefix] at hindent
      refine iff_of_false (fun hdrop => hindent ?_) hindent
      -- A space that was dropped in front of four others would be one of the first four.
      rcases Text.dropLead_cases [' '] line with hline | hline
      · obtain ⟨code, hcode⟩ := hdrop
        rw [hline, ← hcode]
        exact ⟨' ' :: code, rfl⟩
      · rwa [hline] at hdrop

theorem suffix_of_unmark? (h : unmark? line = some rest) : rest <:+ line := by
  rcases unmark?_eq_some h with rfl | ⟨rfl, -⟩ <;> exact List.suffix_append _ _

theorem unmarked_suffix (line : Text) : unmarked line <:+ line := by
  rw [unmarked]
  cases h : unmark? line with
  | none => exact List.suffix_rfl
  | some rest => exact suffix_of_unmark? h

theorem not_fence_widen (h : ¬ fence <:+: rest) : ¬ fence <:+: widen rest := by
  rw [widen]
  cases hcode : Text.after? [' ', ' ', ' '] rest with
  | none => exact h
  | some code =>
    obtain rfl := Text.after?_eq_some_iff.mp hcode
    dsimp only
    split
    · exact h
    · rw [fence, Text.infix_append_of_not_mem (by decide)] at h ⊢
      exact h

theorem not_fence_collapse (h : ¬ fence <:+: line) : ¬ fence <:+: collapse line := by
  rw [collapse]
  cases hmark : unmark? line with
  | some rest => exact not_fence_widen fun hm => h (hm.trans (suffix_of_unmark? hmark).isInfix)
  | none =>
    dsimp only
    split
    · exact h
    · exact fun hm => h (hm.trans (Text.dropLead_suffix _ _).isInfix)

end

theorem collapseRest_of_free {lines : List Text} (h : ∀ line ∈ lines, ¬ fence <:+: line) :
    collapseRest none lines = lines.map collapse := by
  have hwrites : List.Forall₂ WritesProse lines (lines.map collapse) := by
    rw [List.forall₂_map_right_iff, List.forall₂_same]
    intro line hm
    refine ⟨isFence_eq_false fun hfence => h line hm ?_, rfl⟩
    exact hfence.trans (unmarked_suffix line).isInfix
  have hrun := collapseRest_prose hwrites []
  simpa [collapseRest] using hrun

-- ---------------------------------------------------------------------------
-- The first line
-- ---------------------------------------------------------------------------

/-- A text without one star in front and the spaces and tabs behind it. -/
def opening (t : Text) : Text :=
  (Text.dropLead ['*'] t).dropWhile fun c => c == ' ' || c == '\t'

theorem body_eq (t : Text) : body t = opening (Text.trim t) := rfl

theorem exists_lead (t : Text) : ∃ lead, '\n' ∉ lead ∧ t = lead ++ opening t := by
  let rest := Text.dropLead ['*'] t
  let blanks := rest.takeWhile fun c => c == ' ' || c == '\t'
  have hblanks : '\n' ∉ blanks := by
    intro hm
    simpa using List.mem_takeWhile_imp hm
  have hrest : blanks ++ opening t = rest := List.takeWhile_append_dropWhile
  rcases Text.dropLead_cases ['*'] t with ht | ht
  · refine ⟨['*'] ++ blanks, by simpa using hblanks, ?_⟩
    rw [List.append_assoc, hrest]
    exact ht
  · refine ⟨blanks, hblanks, ?_⟩
    rw [hrest]
    exact ht.symm

theorem opening_suffix (t : Text) : opening t <:+ t := by
  obtain ⟨lead, -, ht⟩ := exists_lead t
  exact ⟨lead, ht.symm⟩

theorem head?_opening (t : Text) : (opening t).head? ≠ some ' ' := by
  intro hspace
  have hhead := List.head?_dropWhile_not (fun c => c == ' ' || c == '\t') (Text.dropLead ['*'] t)
  rw [← opening, hspace] at hhead
  simp at hhead

theorem exists_lines_opening (t : Text) : ∃ first, first.head? ≠ some ' ' ∧
    Text.lines (opening t) = first :: (Text.lines t).tail := by
  obtain ⟨lead, hlead, ht⟩ := exists_lead t
  obtain ⟨first, rest, hlines⟩ : ∃ first rest, Text.lines (opening t) = first :: rest :=
    List.exists_cons_of_ne_nil (Text.splitBy_ne_nil _ _)
  have hfirst : (Text.lines (opening t)).head? = some first := by rw [hlines, List.head?_cons]
  refine ⟨first, fun hspace => head?_opening _ (head?_lines hfirst hspace), ?_⟩
  rw [congrArg Text.lines ht, Text.lines_append_of_not_mem hlead hlines, List.tail_cons, hlines]

theorem exists_lines_body (t : Text) : ∃ first, first.head? ≠ some ' ' ∧
    Text.lines (body t) = first :: (Text.lines (Text.trim t)).tail := exists_lines_opening _

-- ---------------------------------------------------------------------------
-- Texts with a fence
-- ---------------------------------------------------------------------------

section

variable {t : Text}

theorem fence_infix_trim_iff : fence <:+: Text.trim t ↔ fence <:+: t :=
  ⟨fun h => h.trans (Text.trim_infix t), (Sheds.trim (fun _ h => h) t).isInfix (by decide)⟩

theorem fence_infix_body_iff : fence <:+: body t ↔ fence <:+: t := by
  refine ⟨fun h => ?_, (sheds_body t).isInfix (by decide)⟩
  exact fence_infix_trim_iff.mp (h.trans (opening_suffix _).isInfix)

theorem exists_collapsed (h : ¬ fence <:+: t) :
    ∃ first, first.head? ≠ some ' ' ∧ ¬ fence <:+: first ∧
      collapseLines (Text.lines (body t)) =
        first :: (Text.lines (Text.trim t)).tail.map collapse := by
  obtain ⟨first, hflush, hlines⟩ := exists_lines_body t
  rw [← fence_infix_body_iff] at h
  have hfree : ∀ line ∈ Text.lines (body t), ¬ fence <:+: line :=
    fun _ => not_fence_of_mem_lines h
  rw [hlines, List.forall_mem_cons] at hfree
  refine ⟨first, hflush, hfree.1, ?_⟩
  rw [hlines, collapseLines, isFence_eq_false hfree.1, if_neg Bool.false_ne_true,
    collapseRest_of_free hfree.2]

theorem not_fence_collapsed (h : ¬ fence <:+: t) :
    ∀ line ∈ collapseLines (Text.lines (body t)), ¬ fence <:+: line := by
  obtain ⟨first, -, hfirst, hlines⟩ := exists_collapsed h
  rw [hlines, List.forall_mem_cons, List.forall_mem_map]
  rw [← fence_infix_trim_iff] at h
  refine ⟨hfirst, fun line hm => not_fence_collapse ?_⟩
  exact not_fence_of_mem_lines h (List.mem_of_mem_tail hm)

theorem exists_indent_collapsed_iff (h : ¬ fence <:+: t) :
    (∃ line ∈ collapseLines (Text.lines (body t)), indent <+: line) ↔
      ∃ line ∈ (Text.lines (Text.trim t)).tail, Indented line := by
  obtain ⟨first, hflush, -, hlines⟩ := exists_collapsed h
  have hfirst : ¬ indent <+: first := by
    rintro ⟨code, rfl⟩
    exact hflush rfl
  rw [hlines, List.exists_mem_cons_iff]
  simp only [hfirst, false_or, List.mem_map, exists_exists_and_eq_and, indent_prefix_collapse_iff]

/-- A fence is put in: there is none, and a line after the first is indented. -/
def InfersFence (t : Text) : Prop :=
  ¬ fence <:+: t ∧ ∃ line ∈ (Text.lines (Text.trim t)).tail, Indented line

instance (t : Text) : Decidable (InfersFence t) := by
  unfold InfersFence
  infer_instance

theorem fenced_of_infers (h : InfersFence t) :
    fenced (collapseLines (Text.lines (body t))) =
      inferFence (collapseLines (Text.lines (body t))) :=
  fenced_of_free (not_fence_collapsed h.1)

theorem fenced_of_not_infers (h : ¬ InfersFence t) :
    fenced (collapseLines (Text.lines (body t))) = collapseLines (Text.lines (body t)) := by
  by_cases hfence : fence <:+: t
  · exact fenced_of_fence (fence_infix_collapsed hfence)
  · rw [fenced_of_free (not_fence_collapsed hfence)]
    refine inferFence_of_flush fun line hm hindent => h ⟨hfence, ?_⟩
    exact (exists_indent_collapsed_iff hfence).mp ⟨line, hm, hindent⟩

/-- A fence comes out just if there was one or one is put in. -/
theorem fence_infix_ofStripped_iff : fence <:+: ofStripped t ↔
    fence <:+: t ∨ ∃ line ∈ (Text.lines (Text.trim t)).tail, Indented line := by
  rw [ofStripped, fence_infix_dropWhile_iff]
  by_cases hfence : fence <:+: t
  · rw [fenced_of_fence (fence_infix_collapsed hfence)]
    exact iff_of_true (fence_infix_collapsed hfence) (.inl hfence)
  · rw [or_iff_right hfence, fence_infix_unlines]
    constructor
    · rintro ⟨line, hm, hline⟩
      by_contra hflush
      rw [fenced_of_not_infers fun h => hflush h.2] at hm
      exact not_fence_collapsed hfence line hm hline
    · intro h
      obtain ⟨line, hm, hindent⟩ := (exists_indent_collapsed_iff hfence).mpr h
      rw [fenced_of_infers ⟨hfence, h⟩]
      exact ⟨fence, fence_mem_inferFence hm hindent, List.infix_rfl⟩

end

end Swatchbook.Comment
