import Swatchbook.Proofs.Inference

/-!
# Content of a comment

The passes take blanks and stars, and all that is put in is spaces, line feeds
and the six backticks of an inferred fence. So the other characters of a
comment stand in its normal form as they stood between the delimiters, and in
the same order.
-/

namespace Swatchbook

namespace Text

variable {keep : Char → Bool}

theorem Sheds.filter {p : Char → Bool} {t s : Text} (h : Sheds p t s)
    (hkeep : ∀ c, keep c = true → p c = false) : s.filter keep = t.filter keep := by
  have hboth (u : Text) : (u.filter fun c => !p c).filter keep = u.filter keep := by
    rw [List.filter_filter]
    refine List.filter_congr fun c _ => ?_
    cases hc : keep c with
    | false => rfl
    | true => simp [hkeep c hc]
  rw [← hboth s, h.content, hboth t]

theorem filter_unlines (hfeed : keep '\n' = false) (ls : List Text) :
    (unlines ls).filter keep = ls.flatMap (List.filter keep) := by
  induction ls with
  | nil => rfl
  | cons l ls ih =>
    cases ls with
    | nil => simp
    | cons m ls =>
      rw [unlines_cons_cons, List.filter_append, List.filter_cons_of_neg (by simp [hfeed]), ih,
        List.flatMap_cons (x := l)]

end Text

namespace Comment

open Text (Sheds)

theorem sheds_dedent (line : Text) : Sheds isMargin line (dedent line) := by
  rw [dedent]
  cases h : Text.after? indent line with
  | none => exact .dropLead (by decide) line
  | some rest =>
    rw [Text.after?_eq_some_iff.mp h]
    exact .drop_front (by decide) rest

theorem exists_inferred {lines : List Text} (h : ∃ line ∈ lines, indent <+: line) :
    ∃ front back, lines = front ++ back ∧
      inferFence lines = front ++ (fence :: back.map dedent ++ [fence]) := by
  induction lines with
  | nil => simp at h
  | cons line rest ih =>
    rw [inferFence]
    split
    · exact ⟨[], line :: rest, rfl, rfl⟩
    · next hindent =>
      rw [List.isPrefixOf_iff_prefix] at hindent
      rw [List.exists_mem_cons_iff, or_iff_right hindent] at h
      obtain ⟨front, back, hlines, hinfer⟩ := ih h
      exact ⟨line :: front, back, congrArg (line :: ·) hlines, congrArg (line :: ·) hinfer⟩

section

variable {keep : Char → Bool} (hkeep : ∀ c, keep c = true → isMargin c = false)

include hkeep

theorem filter_collapsed (t : Text) :
    (Text.unlines (collapseLines (Text.lines (body t)))).filter keep = t.filter keep := by
  have hlines := Sheds.unlines (sheds_collapseLines (Text.lines (body t)))
  rw [Text.unlines_lines] at hlines
  exact ((sheds_body t).trans hlines).filter hkeep

theorem filter_feed : keep '\n' = false := by
  cases hfeed : keep '\n' with
  | false => rfl
  | true => exact absurd (hkeep '\n' hfeed) (by decide)

theorem filter_ofStripped (t : Text) : (ofStripped t).filter keep =
    (Text.unlines (fenced (collapseLines (Text.lines (body t))))).filter keep := by
  have hfeeds (c : Char) (hc : (c == '\n') = true) : isMargin c = true := by
    rw [beq_iff_eq.mp hc]
    decide
  exact (Sheds.dropWhile hfeeds _).filter hkeep

theorem filter_ofStripped_of_not_infers {t : Text} (h : ¬ InfersFence t) :
    (ofStripped t).filter keep = t.filter keep := by
  rw [filter_ofStripped hkeep, fenced_of_not_infers h, filter_collapsed hkeep]

theorem exists_filter_ofStripped {t : Text} (h : InfersFence t) :
    ∃ front back, t.filter keep = front ++ back ∧
      (ofStripped t).filter keep =
        front ++ (fence.filter keep ++ back ++ fence.filter keep) := by
  have hfeed := filter_feed hkeep
  have hindent := (exists_indent_collapsed_iff h.1).mpr h.2
  obtain ⟨front, back, hlines, hinfer⟩ := exists_inferred hindent
  have hdedent : (back.map dedent).flatMap (List.filter keep) = back.flatMap (List.filter keep) := by
    rw [List.flatMap_map]
    exact List.flatMap_congr fun line _ => (sheds_dedent line).filter hkeep
  refine ⟨front.flatMap (List.filter keep), back.flatMap (List.filter keep), ?_, ?_⟩
  · rw [← filter_collapsed hkeep, hlines, Text.filter_unlines hfeed, List.flatMap_append]
  · rw [filter_ofStripped hkeep, fenced_of_infers h, hinfer, Text.filter_unlines hfeed]
    simp [hdedent]

end

/-- What is neither in a margin nor part of a fence. -/
def isContent (c : Char) : Bool := !(Text.isBlank c || c == '*' || c == '\x60')

/-- A normal form loses, gains and reorders no content, and no backticks but for the six of
an inferred fence. -/
theorem normalize_keeps_content (d : Delimiters) (raw : Text) :
    (normalize d raw).filter isContent = (d.strip raw).filter isContent ∧
      (normalize d raw).count '\x60' =
        (d.strip raw).count '\x60' + if InfersFence (d.strip raw) then 6 else 0 := by
  have hcontent (c : Char) (hc : isContent c = true) : isMargin c = false := by
    simp only [isContent, Bool.not_eq_true', Bool.or_eq_false_iff] at hc
    simp [isMargin, hc]
  have hbacktick (c : Char) (hc : (c == '\x60') = true) : isMargin c = false := by
    rw [beq_iff_eq.mp hc]
    decide
  rw [normalize, List.count_eq_length_filter, List.count_eq_length_filter]
  by_cases h : InfersFence (d.strip raw)
  · rw [if_pos h]
    constructor
    · obtain ⟨front, back, hbefore, hafter⟩ := exists_filter_ofStripped hcontent h
      have hfence : fence.filter isContent = [] := by decide
      rw [hbefore, hafter, hfence, List.nil_append, List.append_nil]
    · obtain ⟨front, back, hbefore, hafter⟩ := exists_filter_ofStripped hbacktick h
      have hfence : fence.filter (· == '\x60') = fence := by decide
      rw [hbefore, hafter, hfence]
      simp only [List.length_append, fence, List.length_cons, List.length_nil]
      omega
  · rw [if_neg h, filter_ofStripped_of_not_infers hcontent h,
      filter_ofStripped_of_not_infers hbacktick h]
    exact ⟨rfl, rfl⟩

end Comment

end Swatchbook
