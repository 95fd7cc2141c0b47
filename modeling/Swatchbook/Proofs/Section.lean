import Swatchbook.Comment.Section
import Swatchbook.Proofs.Inference

/-!
# When a section has an example

A section has an example just if its normal comment has a fence, and the
comment has one just if the block had one or a line of it is indented. Markup
goes with the example; so do the styles, if they say something.
-/

namespace Swatchbook.Section

open Comment (fence indent Indented)

variable {extension content style : Text}

theorem splitFence_eq_none_iff : splitFence content = none ↔ ¬ fence <:+: content := by
  rw [splitFence, Option.map_eq_none_iff, Text.cut?_eq_none_iff (by decide)]

theorem not_fence_of_splitFence {before inside : Text}
    (h : splitFence content = some (before, inside)) : ¬ fence <:+: inside := by
  rw [splitFence, Option.map_eq_some_iff] at h
  obtain ⟨⟨lead, rest⟩, -, hinside⟩ := h
  dsimp only at hinside
  cases hcut : Text.cut? fence rest with
  | none =>
    rw [hcut, Prod.mk.injEq] at hinside
    rw [← hinside.2]
    exact (Text.cut?_eq_none_iff (by decide)).mp hcut
  | some parts =>
    rw [hcut, Prod.mk.injEq] at hinside
    rw [← hinside.2]
    exact Text.not_infix_of_cut? (by decide) hcut

theorem dropLabel_suffix (inside : Text) : dropLabel inside <:+ inside := by
  rw [dropLabel]
  cases hcut : Text.cut? ['\n'] inside with
  | none => exact List.suffix_rfl
  | some parts =>
    obtain ⟨label, rest⟩ := parts
    dsimp only
    split
    · exact List.suffix_rfl
    · exact ⟨label ++ ['\n'], (Text.cut?_sound hcut).1.symm⟩

theorem isSome_sample_format_iff :
    (format extension content style).sample.isSome ↔ fence <:+: content := by
  rw [format]
  cases h : splitFence content with
  | none => simpa using splitFence_eq_none_iff.mp h
  | some parts =>
    refine iff_of_true rfl ?_
    by_contra hfence
    simp [splitFence_eq_none_iff.mpr hfence] at h

theorem markup_format :
    (format extension content style).markup =
      (format extension content style).sample.map (Highlight.render .markup) := by
  rw [format]
  cases splitFence content <;> rfl

theorem isSome_styleOf_iff :
    (styleOf extension style).isSome ↔ ∃ c ∈ style, Text.isBlank c = false := by
  rw [styleOf, Text.allBlank]
  cases h : style.all Text.isBlank with
  | true =>
    refine iff_of_false (by simp) ?_
    rintro ⟨c, hm, hc⟩
    rw [List.all_eq_true.mp h c hm] at hc
    exact Bool.noConfusion hc
  | false =>
    rw [List.all_eq_false] at h
    simpa using h

theorem isSome_styles_format_iff :
    (format extension content style).styles.isSome ↔
      (format extension content style).sample.isSome ∧ ∃ c ∈ style, Text.isBlank c = false := by
  rw [format]
  cases splitFence content with
  | none => simp
  | some parts => simpa using isSome_styleOf_iff

theorem exists_of_sample_format {code : Text}
    (h : code ∈ (format extension content style).sample) :
    ∃ before inside, splitFence content = some (before, inside) ∧
      code = Text.trim (dropLabel inside) := by
  rw [format] at h
  cases hsplit : splitFence content with
  | none => simp [hsplit] at h
  | some parts =>
    obtain ⟨before, inside⟩ := parts
    rw [hsplit] at h
    exact ⟨before, inside, rfl, (Option.some.inj h).symm⟩

/-- The section of a block has an example just if the block has a fence or a line after its
first is indented by four columns. It has markup with the example, and styles too if they are
not blank. The example holds no fence and is trimmed. -/
theorem fragments_of_normalize (d : Delimiters) (raw extension style : Text) :
    let t := Text.trim (d.strip raw)
    let shown := format extension (Comment.normalize d raw) style
    (shown.sample.isSome ↔ fence <:+: t ∨ ∃ line ∈ (Text.lines t).tail, Indented line) ∧
      (shown.markup.isSome ↔ shown.sample.isSome) ∧
      (shown.styles.isSome ↔ shown.sample.isSome ∧ ∃ c ∈ style, Text.isBlank c = false) ∧
      ∀ code ∈ shown.sample, ¬ fence <:+: code ∧
        (∀ c ∈ code.head?, Text.isBlank c = false) ∧
        ∀ c ∈ code.getLast?, Text.isBlank c = false := by
  intro t shown
  refine ⟨?_, ?_, isSome_styles_format_iff, fun code hcode => ?_⟩
  · rw [isSome_sample_format_iff, Comment.normalize, Comment.fence_infix_ofStripped_iff,
      ← Comment.fence_infix_trim_iff]
  · rw [markup_format, Option.isSome_map]
  · obtain ⟨before, inside, hsplit, rfl⟩ := exists_of_sample_format hcode
    refine ⟨fun hfence => not_fence_of_splitFence hsplit ?_, fun c hc => ?_, fun c hc => ?_⟩
    · exact hfence.trans ((Text.trim_infix _).trans (dropLabel_suffix inside).isInfix)
    · exact Text.isBlank_of_head?_trim hc
    · exact Text.isBlank_of_getLast?_trimEnd hc

theorem fragments_of_normalize_columns :
    let raw := "/**\n * A\n *    <b>\n */".toList
    let shown := format "css" (Comment.normalize .css raw) "b"
    shown.sample = some "<b>".toList ∧ shown.markup.isSome ∧ shown.styles.isSome ∧
      ¬ fence <:+: "<b>".toList := by
  intro raw shown
  let inside := "*\n * A\n *    <b>\n ".toList
  have hraw : raw = ['/', '*'] ++ inside ++ ['*', '/'] := by simp [raw, inside]
  have hfree : ¬ ['*', '/'] <:+: inside := (Text.not_holds_iff (by simp)).mp (by decide)
  have hstrip : Delimiters.css.strip raw = inside := by rw [hraw, Comment.strip_css hfree]
  have hcode : shown.sample = some "<b>".toList := by
    have hnormal : Comment.normalize .css raw = "A\n```\n<b>\n```".toList := by
      rw [Comment.normalize, hstrip]
      decide
    simp only [shown, hnormal]
    decide
  obtain ⟨hsample, hmarkup, hstyles, hclean⟩ := fragments_of_normalize .css raw "css" "b"
  have hshown : shown.sample.isSome := by
    have hline : " *    <b>".toList ∈ (Text.lines (Text.trim inside)).tail := by decide
    rw [hsample, hstrip]
    exact .inr ⟨_, hline, .inr ⟨"<b>".toList, rfl⟩⟩
  have hstyle : shown.styles.isSome := hstyles.mpr ⟨hshown, 'b', by decide, by decide⟩
  exact ⟨hcode, hmarkup.mpr hshown, hstyle, (hclean _ hcode).1⟩

end Swatchbook.Section
