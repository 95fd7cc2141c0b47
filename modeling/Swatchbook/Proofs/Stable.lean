import Swatchbook.Proofs.Settled

/-!
# Texts that are their own normal form

A text is its own normal form just if no pass finds anything to take from it
and no fence is put into it. Fences that are put in cannot have been there, so
they never make up for what was taken; hence without a fence no line after the
first has a margin, and with one a margin of four columns is kept outside it.
-/

namespace Swatchbook.Comment

open Text (Sheds)

-- ---------------------------------------------------------------------------
-- Fences line by line
-- ---------------------------------------------------------------------------

/-- Each line with whether a fence is open before it. A line that begins with three
backticks behind blanks opens a fence, or closes the one that is open. -/
def tracked : Bool → List Text → List (Text × Bool)
  | _, [] => []
  | opened, line :: rest => (line, opened) :: tracked (opened != isFence line) rest

/-- A text without delimiters, blanks at its ends or a star in front. No later line begins
with a star behind a space while a fence is open, and none with a space while none is, but
for four spaces in front of a line that is no fence, if there is a fence anywhere. -/
structure Stable (t : Text) : Prop where
  start : ¬ ['/', '*'] <:+: t
  stop : ¬ ['*', '/'] <:+: t
  trimmed : Text.trim t = t
  star : t.head? ≠ some '*'
  inside : ∀ line, (line, true) ∈ (tracked false (Text.lines t)).tail → ¬ [' ', '*'] <+: line
  outside : ∀ line, (line, false) ∈ (tracked false (Text.lines t)).tail →
    line.head? = some ' ' → fence <:+: t ∧ isFence line = false ∧ indent <+: line

/-- Settled lines, said of each line by itself. -/
theorem settledRest_iff (opened : Bool) (lines : List Text) : SettledRest opened lines ↔
    (∀ line, (line, true) ∈ tracked opened lines → ¬ [' ', '*'] <+: line) ∧
      ∀ line, (line, false) ∈ tracked opened lines → line.head? = some ' ' →
        isFence line = false ∧ indent <+: line := by
  induction lines generalizing opened with
  | nil => simp [SettledRest, tracked]
  | cons line rest ih =>
    cases opened with
    | true =>
      rw [SettledRest, ih, tracked, Bool.true_bne]
      simp [and_assoc]
    | false =>
      rw [SettledRest, tracked, Bool.false_bne]
      cases hfence : isFence line with
      | true =>
        rw [if_pos rfl, ih]
        simp [hfence, and_left_comm]
      | false =>
        rw [if_neg Bool.false_ne_true, ih]
        simp [hfence, and_left_comm]

theorem tail_tracked_cons (first : Text) (rest : List Text) :
    (tracked false (first :: rest)).tail = tracked (isFence first) rest := by
  rw [tracked, List.tail_cons, Bool.false_bne]

theorem settledLines_iff (lines : List Text) : SettledLines lines ↔
    (∀ line, (line, true) ∈ (tracked false lines).tail → ¬ [' ', '*'] <+: line) ∧
      ∀ line, (line, false) ∈ (tracked false lines).tail → line.head? = some ' ' →
        isFence line = false ∧ indent <+: line := by
  cases lines with
  | nil => simp [SettledLines, tracked]
  | cons first rest => rw [tail_tracked_cons, SettledLines, settledRest_iff]

theorem mem_of_mem_tracked {opened state : Bool} {lines : List Text} {line : Text}
    (h : (line, state) ∈ tracked opened lines) : line ∈ lines := by
  induction lines generalizing opened with
  | nil => exact absurd h List.not_mem_nil
  | cons first rest ih =>
    rcases List.mem_cons.mp h with h | h
    · rw [(Prod.mk.inj h).1]
      exact List.mem_cons_self
    · exact List.mem_cons_of_mem _ (ih h)

theorem mem_tracked_of_free {lines : List Text} (h : ∀ line ∈ lines, isFence line = false)
    {line : Text} (hm : line ∈ lines) : (line, false) ∈ tracked false lines := by
  induction lines with
  | nil => exact absurd hm List.not_mem_nil
  | cons first rest ih =>
    rw [List.forall_mem_cons] at h
    rw [tracked, h.1]
    rcases List.mem_cons.mp hm with rfl | hm
    · exact List.mem_cons_self
    · exact List.mem_cons_of_mem _ (ih h.2 hm)

-- ---------------------------------------------------------------------------
-- Fences that are put in
-- ---------------------------------------------------------------------------

theorem inferFence_of_flush {lines : List Text} (h : ∀ line ∈ lines, ¬ indent <+: line) :
    inferFence lines = lines := by
  induction lines with
  | nil => rfl
  | cons line rest ih =>
    rw [List.forall_mem_cons] at h
    rw [inferFence, if_neg fun hindent => h.1 (List.isPrefixOf_iff_prefix.mp hindent), ih h.2]

theorem fence_mem_inferFence {lines : List Text} {line : Text} (hm : line ∈ lines)
    (h : indent <+: line) : fence ∈ inferFence lines := by
  induction lines with
  | nil => exact absurd hm List.not_mem_nil
  | cons first rest ih =>
    rw [inferFence]
    split
    · exact List.mem_cons_self
    · next hfirst =>
      rcases List.mem_cons.mp hm with rfl | hm
      · exact absurd (List.isPrefixOf_iff_prefix.mpr h) hfirst
      · exact List.mem_cons_of_mem _ (ih hm)

theorem fence_infix_unlines {lines : List Text} :
    fence <:+: Text.unlines lines ↔ ∃ line ∈ lines, fence <:+: line :=
  Text.infix_unlines (by simp [fence]) (by simp [fence])

theorem fence_infix_dropWhile_iff {t : Text} :
    fence <:+: t.dropWhile (· == '\n') ↔ fence <:+: t :=
  ⟨fun h => h.trans (List.dropWhile_suffix _).isInfix,
    (Sheds.dropWhile (p := (· == '\n')) (fun _ hc => hc) t).isInfix (by decide)⟩

theorem fenced_of_no_fence {lines : List Text} (h : ¬ fence <:+: Text.unlines (fenced lines)) :
    fenced lines = lines ∧ ∀ line ∈ lines, ¬ indent <+: line := by
  have hfree : ∀ line ∈ lines, ¬ fence <:+: line := by
    intro line hm hline
    have hinfix : fence <:+: Text.unlines lines := fence_infix_unlines.mpr ⟨line, hm, hline⟩
    rw [fenced_of_fence hinfix] at h
    exact h hinfix
  rw [fenced_of_free hfree] at h ⊢
  have hflush : ∀ line ∈ lines, ¬ indent <+: line := fun line hm hindent =>
    h (fence_infix_unlines.mpr ⟨fence, fence_mem_inferFence hm hindent, List.infix_rfl⟩)
  exact ⟨inferFence_of_flush hflush, hflush⟩

-- ---------------------------------------------------------------------------
-- Fixed points
-- ---------------------------------------------------------------------------

section

variable {t : Text}

theorem not_fence_of_mem_lines (h : ¬ fence <:+: t) {line : Text} (hm : line ∈ Text.lines t) :
    ¬ fence <:+: line := by
  intro hline
  rw [← Text.unlines_lines t] at h
  exact h (fence_infix_unlines.mpr ⟨line, hm, hline⟩)

/-- A text without a fence is its own normal form just if it is settled and no line of it is
indented, so that no fence is inferred. -/
theorem normalize_css_eq_self_of_no_fence (h : ¬ fence <:+: t) :
    normalize .css t = t ↔ Settled t ∧ ∀ line ∈ Text.lines t, ¬ indent <+: line := by
  rw [normalize, ofStripped]
  constructor
  · intro hfix
    have hout : ¬ fence <:+: Text.unlines
        (fenced (collapseLines (Text.lines (body (Delimiters.css.strip t))))) := by
      rwa [← fence_infix_dropWhile_iff, hfix]
    obtain ⟨hfenced, hflush⟩ := fenced_of_no_fence hout
    rw [hfenced] at hfix
    have hsettled := collapsed_eq_self_iff.mp hfix
    rw [hsettled.collapseLines_eq] at hflush
    exact ⟨hsettled, hflush⟩
  · rintro ⟨hsettled, hflush⟩
    have hfenced : fenced (Text.lines t) = Text.lines t := by
      rw [fenced_of_free fun _ => not_fence_of_mem_lines h, inferFence_of_flush hflush]
    have hfix := collapsed_eq_self_iff.mpr hsettled
    rw [hsettled.collapseLines_eq] at hfix ⊢
    rw [hfenced, hfix]

theorem not_indent_of_first {first : Text} {rest : List Text} (htrim : Text.trim t = t)
    (hlines : Text.lines t = first :: rest) : ¬ indent <+: first := by
  rintro ⟨code, rfl⟩
  refine head?_of_trim htrim (c := ' ') (by decide) ?_
  exact head?_lines (by rw [hlines]; rfl) rfl

theorem Stable.settled (h : Stable t) : Settled t :=
  ⟨h.start, h.stop, h.trimmed, h.star, (settledLines_iff _).mpr
    ⟨h.inside, fun line hm hspace => (h.outside line hm hspace).2⟩⟩

theorem Stable.flush (h : Stable t) (hfree : ¬ fence <:+: t) :
    ∀ line ∈ Text.lines t, ¬ indent <+: line := by
  have hout := h.outside
  have hfence : ∀ line ∈ Text.lines t, isFence line = false :=
    fun _ hm => isFence_eq_false (not_fence_of_mem_lines hfree hm)
  cases hlines : Text.lines t with
  | nil => exact fun line hm => absurd hm List.not_mem_nil
  | cons first rest =>
    rw [hlines, List.forall_mem_cons] at hfence
    rw [hlines, tail_tracked_cons, hfence.1] at hout
    rw [List.forall_mem_cons]
    refine ⟨not_indent_of_first h.trimmed hlines, fun line hm hindent => ?_⟩
    obtain ⟨code, rfl⟩ := hindent
    exact hfree (hout _ (mem_tracked_of_free hfence.2 hm) rfl).1

theorem Settled.stable (h : Settled t)
    (hindent : fence <:+: t ∨ ∀ line ∈ Text.lines t, ¬ indent <+: line) : Stable t := by
  obtain ⟨hinside, houtside⟩ := (settledLines_iff _).mp h.lines
  refine ⟨h.start, h.stop, h.trimmed, h.star, hinside, fun line hm hspace => ?_⟩
  obtain ⟨hfence, hcolumns⟩ := houtside line hm hspace
  rcases hindent with hindent | hflush
  · exact ⟨hindent, hfence, hcolumns⟩
  · exact absurd hcolumns (hflush line (mem_of_mem_tracked (List.mem_of_mem_tail hm)))

end

/-- The texts that are their own normal form. -/
theorem normalize_css_eq_self_iff_stable (t : Text) : normalize .css t = t ↔ Stable t := by
  by_cases hfence : fence <:+: t
  · rw [normalize_css_eq_self_iff hfence]
    exact ⟨fun h => h.stable (.inl hfence), Stable.settled⟩
  · rw [normalize_css_eq_self_of_no_fence hfence]
    exact ⟨fun h => h.1.stable (.inr h.2), fun h => ⟨h.settled, h.flush hfence⟩⟩

end Swatchbook.Comment
