import Swatchbook.Proofs.Collapse

/-!
# Written comments

A comment is written from lines: as a doc comment, every line behind a star, or
as a plain comment. The text between its delimiters has the same lines again,
so its normal form is what becomes of them one after another.
-/

namespace Swatchbook.Comment

-- ---------------------------------------------------------------------------
-- Comments of either style
-- ---------------------------------------------------------------------------

def docComment (lines : List Text) : Text :=
  ['/', '*', '*', '\n'] ++ lines.flatMap (fun line => star ++ line ++ ['\n']) ++ [' ', '*', '/']

def plainComment (lines : List Text) : Text :=
  ['/', '*', ' '] ++ Text.unlines lines ++ ['\n', '*', '/']

def docInside (lines : List Text) : List Text := ['*'] :: lines.map (star ++ ·) ++ [[' ']]

theorem docComment_eq (lines : List Text) :
    docComment lines = ['/', '*'] ++ Text.unlines (docInside lines) ++ ['*', '/'] := by
  rw [docInside, Text.unlines_concat]
  simp [docComment, List.flatMap_map]

def plainInside (first : Text) (lines : List Text) : List Text := (' ' :: first) :: lines ++ [[]]

theorem plainComment_eq (first : Text) (lines : List Text) :
    plainComment (first :: lines) =
      ['/', '*'] ++ Text.unlines (plainInside first lines) ++ ['*', '/'] := by
  rw [plainInside, Text.unlines_append (by simp) (by simp)]
  cases lines <;> simp [plainComment]

theorem strip_css {inside : Text} (h : ¬ ['*', '/'] <:+: inside) :
    Delimiters.css.strip (['/', '*'] ++ inside ++ ['*', '/']) = inside :=
  Marks.strip_block (m := Marks.css) (Text.cut?_pair (by decide) h [])

theorem body_doc {lines : List Text} {last : Text} (hl : lines.getLast? = some last)
    (hfirm : Text.Firm last) :
    body (Text.unlines (docInside lines)) = Text.unlines ([] :: lines.map (star ++ ·)) := by
  have hne : lines ≠ [] := by
    rintro rfl
    simp at hl
  obtain ⟨line, others, rfl⟩ := List.exists_cons_of_ne_nil hne
  have hinside : Text.unlines (docInside (line :: others)) =
      Text.unlines (['*'] :: (line :: others).map (star ++ ·)) ++ ['\n', ' '] := by
    rw [docInside, Text.unlines_append (by simp) (by simp)]
    simp
  have hlast : (['*'] :: (line :: others).map (star ++ ·)).getLast? = some (star ++ last) := by
    rw [List.getLast?_cons, List.getLast?_map, hl]
    rfl
  have hcons : Text.unlines (['*'] :: (line :: others).map (star ++ ·)) =
      '*' :: Text.unlines ([] :: (line :: others).map (star ++ ·)) := by simp
  have htrim : Text.trim (Text.unlines (docInside (line :: others))) =
      '*' :: Text.unlines ([] :: (line :: others).map (star ++ ·)) := by
    have hwhole := Text.firm_unlines hlast (hfirm.append star)
    rw [hcons] at hwhole
    rw [hinside, Text.trim_append_blank (by decide), hcons]
    exact Text.trim_eq_self (by decide) hwhole
  rw [body, htrim]
  simp [Text.dropLead, Text.after?_cons_cons]

theorem body_plain {first : Text} {lines : List Text} {last : Text} {c : Char}
    (hc : first.head? = some c) (hblank : Text.isBlank c = false) (hstar : c ≠ '*')
    (hl : (first :: lines).getLast? = some last) (hfirm : Text.Firm last) :
    body (Text.unlines (plainInside first lines)) = Text.unlines (first :: lines) := by
  obtain ⟨t, rfl⟩ := List.head?_eq_some_iff.mp hc
  obtain ⟨u, hu⟩ : ∃ u, Text.unlines ((c :: t) :: lines) = c :: u := by
    cases lines <;> simp
  have hinside : Text.unlines (plainInside (c :: t) lines) =
      [' '] ++ Text.unlines ((c :: t) :: lines) ++ ['\n'] := by
    rw [plainInside, Text.unlines_append (by simp) (by simp)]
    cases lines <;> simp
  have htrim : Text.trim (Text.unlines (plainInside (c :: t) lines)) = c :: u := by
    have hwhole := Text.firm_unlines hl hfirm
    rw [hu] at hwhole
    rw [hinside, Text.trim_pad (by decide) (by decide), hu]
    exact Text.trim_eq_self hblank hwhole
  have hspace : ¬ (c = ' ' ∨ c = '\t') := by
    rintro (rfl | rfl) <;> exact absurd hblank (by decide)
  rw [body, htrim, hu, Text.dropLead, Text.after?_eq_none_iff.mpr (by simpa using Ne.symm hstar)]
  simp [hspace]

/-- Lines that can stand in a comment of either style. -/
structure Writable (line : Text) : Prop where
  feed : '\n' ∉ line
  stop : ¬ ['*', '/'] <:+: line

theorem Writable.append {line : Text} (h : Writable line) (lead : Text) (hstar : '*' ∉ lead)
    (hfeed : '\n' ∉ lead) : Writable (lead ++ line) :=
  ⟨by simp [hfeed, h.feed], by rw [Text.infix_append_of_not_mem hstar]; exact h.stop⟩

theorem Writable.star {line : Text} (h : Writable line) : Writable (star ++ line) := by
  refine ⟨by simpa [Comment.star] using h.feed, ?_⟩
  simpa [Comment.star, List.infix_cons_iff, List.cons_prefix_cons] using h.stop

theorem not_stop_unlines {lines : List Text} (h : ∀ line ∈ lines, Writable line) :
    ¬ ['*', '/'] <:+: Text.unlines lines := by
  rw [Text.infix_unlines (by simp) (by decide)]
  rintro ⟨line, hm, hs⟩
  exact (h line hm).stop hs

theorem writable_star {lines : List Text} (h : ∀ line ∈ lines, Writable line) :
    ∀ line ∈ lines.map (star ++ ·), Writable line :=
  List.forall_mem_map.mpr fun line hm => (h line hm).star

theorem not_stop_docInside {lines : List Text} (h : ∀ line ∈ lines, Writable line) :
    ¬ ['*', '/'] <:+: Text.unlines (docInside lines) := by
  apply not_stop_unlines
  intro line hm
  simp only [docInside, List.cons_append, List.mem_cons, List.mem_append, List.not_mem_nil,
    or_false] at hm
  rcases hm with rfl | hm | rfl
  · exact ⟨by decide, by decide⟩
  · exact writable_star h line hm
  · exact ⟨by decide, by decide⟩

theorem not_stop_plainInside {first : Text} {lines : List Text}
    (h : ∀ line ∈ first :: lines, Writable line) :
    ¬ ['*', '/'] <:+: Text.unlines (plainInside first lines) := by
  apply not_stop_unlines
  intro line hm
  simp only [plainInside, List.cons_append, List.mem_cons, List.mem_append, List.not_mem_nil,
    or_false] at hm
  rcases hm with rfl | hm | rfl
  · exact (h first List.mem_cons_self).append [' '] (by decide) (by decide)
  · exact h line (List.mem_cons_of_mem _ hm)
  · exact ⟨by decide, by decide⟩

-- ---------------------------------------------------------------------------
-- From the lines of a comment to its normal form
-- ---------------------------------------------------------------------------

theorem lines_unlines_writable {lines : List Text} (hne : lines ≠ [])
    (h : ∀ line ∈ lines, Writable line) : Text.lines (Text.unlines lines) = lines :=
  Text.lines_unlines hne fun line hm => (h line hm).feed

theorem ne_feed {c : Char} (hblank : Text.isBlank c = false) : c ≠ '\n' := by
  rintro rfl
  exact absurd hblank (by decide)

theorem dropWhile_feed_unlines {first : Text} {lines : List Text} {c : Char}
    (hc : first.head? = some c) (hfeed : c ≠ '\n') :
    (Text.unlines (first :: lines)).dropWhile (· == '\n') = Text.unlines (first :: lines) := by
  obtain ⟨t, rfl⟩ := List.head?_eq_some_iff.mp hc
  cases lines <;> simp [hfeed]

theorem normalize_doc {lines final : List Text} {first last : Text} {c : Char}
    (hw : ∀ line ∈ lines, Writable line) (hl : lines.getLast? = some last) (hfirm : Text.Firm last)
    (hc : first.head? = some c) (hfeed : c ≠ '\n')
    (hout : fenced ([] :: collapseRest none (lines.map (star ++ ·))) = [] :: first :: final) :
    normalize .css (docComment lines) = Text.unlines (first :: final) := by
  have hlines : ∀ line ∈ [] :: lines.map (star ++ ·), Writable line :=
    List.forall_mem_cons.mpr ⟨⟨by decide, by decide⟩, writable_star hw⟩
  have hcollapse : collapseLines ([] :: lines.map (star ++ ·)) =
      [] :: collapseRest none (lines.map (star ++ ·)) := by
    rw [collapseLines, isFence_eq_false (by decide)]
    rfl
  rw [normalize, docComment_eq, strip_css (not_stop_docInside hw), ofStripped, body_doc hl hfirm,
    lines_unlines_writable (by simp) hlines, hcollapse, hout, Text.unlines_cons_cons, List.nil_append,
    List.dropWhile_cons_of_pos (by decide), dropWhile_feed_unlines hc hfeed]

theorem normalize_plain {first last : Text} {lines final : List Text} {c : Char}
    (hw : ∀ line ∈ first :: lines, Writable line) (hl : (first :: lines).getLast? = some last)
    (hfirm : Text.Firm last) (hc : first.head? = some c) (hblank : Text.isBlank c = false)
    (hstar : c ≠ '*') (hfence : ¬ fence <:+: first)
    (hout : fenced (first :: collapseRest none lines) = first :: final) :
    normalize .css (plainComment (first :: lines)) = Text.unlines (first :: final) := by
  have hcollapse : collapseLines (first :: lines) = first :: collapseRest none lines := by
    rw [collapseLines, isFence_eq_false hfence]
    rfl
  rw [normalize, plainComment_eq, strip_css (not_stop_plainInside hw), ofStripped,
    body_plain hc hblank hstar hl hfirm, lines_unlines_writable (by simp) hw, hcollapse, hout,
    dropWhile_feed_unlines hc (ne_feed hblank)]

end Swatchbook.Comment
