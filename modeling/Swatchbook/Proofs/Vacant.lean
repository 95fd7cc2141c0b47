import Swatchbook.Proofs.Indentation
import Swatchbook.Proofs.Section

/-!
# Lines that say nothing

What a blank line does to a comment without a fence, compared with the same
line emptied. It makes no example and takes none away, and the documentation
keeps its lines but for blank ones, unless four columns of blanks are the first
indentation of the comment and prose goes on below them: then the fence begins
at the blank line, and the prose is an example.
-/

namespace Swatchbook

namespace Comment

-- ---------------------------------------------------------------------------
-- Prose
-- ---------------------------------------------------------------------------

/-- The lines above the first that is indented. An empty one ends them there. -/
def prose : List Text → List Text
  | [] => []
  | line :: rest => if indent.isPrefixOf line then [[]] else line :: prose rest

section

variable {line : Text} {lines rest : List Text}

theorem prose_of_indent (h : indent <+: line) : prose (line :: rest) = [[]] := by
  rw [prose, if_pos (List.isPrefixOf_iff_prefix.mpr h)]

theorem prose_cons (h : ¬ indent <+: line) : prose (line :: rest) = line :: prose rest := by
  rw [prose, if_neg fun hindent => h (List.isPrefixOf_iff_prefix.mp hindent)]

theorem prose_append (h : ∀ line ∈ lines, ¬ indent <+: line) (rest : List Text) :
    prose (lines ++ rest) = lines ++ prose rest := by
  induction lines with
  | nil => rfl
  | cons line lines ih =>
    rw [List.forall_mem_cons] at h
    rw [List.cons_append, prose_cons h.1, ih h.2, List.cons_append]

theorem prose_append_of_indent (h : ∃ line ∈ lines, indent <+: line) (rest : List Text) :
    prose (lines ++ rest) = prose lines := by
  induction lines with
  | nil => simp at h
  | cons line lines ih =>
    rw [List.exists_mem_cons_iff] at h
    by_cases hline : indent <+: line
    · rw [List.cons_append, prose_of_indent hline, prose_of_indent hline]
    · rw [List.cons_append, prose_cons hline, prose_cons hline, ih (h.resolve_left hline)]

theorem prose_of_flush (h : ∀ line ∈ lines, ¬ indent <+: line) : prose lines = lines := by
  have happend := prose_append h []
  rwa [List.append_nil, prose, List.append_nil] at happend

theorem exists_first_indented (h : ∃ line ∈ lines, indent <+: line) : ∃ above code below,
    lines = above ++ code :: below ∧ (∀ line ∈ above, ¬ indent <+: line) ∧ indent <+: code := by
  induction lines with
  | nil => simp at h
  | cons line lines ih =>
    by_cases hline : indent <+: line
    · exact ⟨[], line, lines, rfl, List.forall_mem_nil _, hline⟩
    · rw [List.exists_mem_cons_iff, or_iff_right hline] at h
      obtain ⟨above, code, below, rfl, habove, hcode⟩ := ih h
      exact ⟨line :: above, code, below, rfl, List.forall_mem_cons.mpr ⟨hline, habove⟩, hcode⟩

theorem inferFence_append (h : ∀ line ∈ lines, ¬ indent <+: line) (rest : List Text) :
    inferFence (lines ++ rest) = lines ++ inferFence rest := by
  induction lines with
  | nil => rfl
  | cons line lines ih =>
    rw [List.forall_mem_cons] at h
    rw [List.cons_append, inferFence, if_neg fun hp => h.1 (List.isPrefixOf_iff_prefix.mp hp),
      ih h.2, List.cons_append]

theorem unlines_below (lines : List Text) (hne : rest ≠ []) :
    Text.unlines (lines ++ rest) = lines.flatMap (· ++ ['\n']) ++ Text.unlines rest := by
  induction lines with
  | nil => rfl
  | cons line lines ih =>
    obtain ⟨next, others, hnext⟩ :=
      List.exists_cons_of_ne_nil (List.append_ne_nil_of_right_ne_nil lines hne)
    rw [List.cons_append, hnext, Text.unlines_cons_cons, ← hnext, ih]
    simp

theorem cut?_below (h : ∀ line ∈ lines, ¬ fence <:+: line) (rest : Text) :
    Text.cut? fence ((lines.flatMap (· ++ ['\n']) ++ (fence ++ rest)).dropWhile (· == '\n')) =
      some ((lines.flatMap (· ++ ['\n'])).dropWhile (· == '\n'), rest) := by
  let above := lines.flatMap (· ++ ['\n'])
  have hfree : ¬ fence <:+: above ++ fence.dropLast := by
    rw [← Text.unlines_concat, fence_infix_unlines]
    rintro ⟨line, hm, hline⟩
    rcases List.mem_append.mp hm with hm | hm
    · exact h line hm hline
    · rw [List.mem_singleton.mp hm] at hline
      exact absurd hline (by decide)
  have hdrop : (above ++ (fence ++ rest)).dropWhile (· == '\n') =
      above.dropWhile (· == '\n') ++ fence ++ rest := by
    rw [List.dropWhile_append]
    split
    · next hempty =>
      rw [List.isEmpty_iff.mp hempty]
      rfl
    · rw [List.append_assoc]
  rw [hdrop]
  obtain ⟨feeds, hfeeds⟩ := List.dropWhile_suffix (l := above) (· == '\n')
  have hsuffix : above.dropWhile (· == '\n') ++ fence.dropLast <:+ above ++ fence.dropLast :=
    ⟨feeds, by rw [← List.append_assoc, hfeeds]⟩
  exact Text.cut?_of_free (by decide) (fun hfound => hfree (hfound.trans hsuffix.isInfix)) rest

theorem cut?_inferFence (hfence : ∀ line ∈ lines, ¬ fence <:+: line)
    (h : ∃ line ∈ lines, indent <+: line) : ∃ rest,
    Text.cut? fence ((Text.unlines (inferFence lines)).dropWhile (· == '\n')) =
      some ((Text.unlines (prose lines)).dropWhile (· == '\n'), rest) := by
  obtain ⟨above, code, below, rfl, habove, hcode⟩ := exists_first_indented h
  rw [List.forall_mem_append] at hfence
  let inside := (code :: below).map dedent
  obtain ⟨rest, hrest⟩ : ∃ rest, Text.unlines (fence :: inside ++ [fence]) = fence ++ rest :=
    ⟨_, Text.unlines_append_cons fence [] (inside ++ [fence])⟩
  rw [prose_append habove, prose_of_indent hcode, Text.unlines_concat, List.append_nil,
    inferFence_append habove, inferFence, if_pos (List.isPrefixOf_iff_prefix.mpr hcode),
    unlines_below _ (by simp), hrest]
  exact ⟨rest, cut?_below hfence.1 rest⟩

end

/-- The text of a block without a fence that is not its example. -/
def documentation (t : Text) : Text :=
  Text.unlines (prose (collapseLines (Text.lines (body t))))

end Comment

namespace Section

open Comment (fence indent)

/-- The comment of the section is what markdown makes of a text, line feeds in front of it
apart. -/
def Documents (s : Section) (t : Text) : Prop :=
  s.comment = (Markdown.render (t.dropWhile (· == '\n'))).html

variable {extension style t : Text}

theorem comment_of_no_fence {content : Text} (h : ¬ fence <:+: content) :
    (format extension content style).comment = (Markdown.render content).html := by
  rw [format, splitFence_eq_none_iff.mpr h]

theorem comment_of_cut? {content before rest : Text}
    (h : Text.cut? fence content = some (before, rest)) :
    (format extension content style).comment = (Markdown.render before).html := by
  obtain ⟨inside, hsplit⟩ : ∃ inside, splitFence content = some (before, inside) := by
    rw [splitFence, h, Option.map_some]
    dsimp only
    cases Text.cut? fence rest with
    | none => exact ⟨rest, rfl⟩
    | some parts => exact ⟨parts.1, rfl⟩
  rw [format, hsplit]

theorem documents_documentation (h : ¬ fence <:+: t) :
    (format extension (Comment.ofStripped t) style).Documents (Comment.documentation t) := by
  have hfree := Comment.not_fence_collapsed h
  rw [Documents, Comment.documentation, Comment.ofStripped, Comment.fenced_of_free hfree]
  by_cases hindent : ∃ line ∈ Comment.collapseLines (Text.lines (Comment.body t)), indent <+: line
  · obtain ⟨rest, hcut⟩ := Comment.cut?_inferFence hfree hindent
    exact comment_of_cut? hcut
  · simp only [not_exists, not_and] at hindent
    rw [Comment.inferFence_of_flush hindent, Comment.prose_of_flush hindent]
    refine comment_of_no_fence ?_
    rw [Comment.fence_infix_dropWhile_iff, Comment.fence_infix_unlines]
    rintro ⟨line, hm, hline⟩
    exact hfree line hm hline

end Section

namespace Comment

-- ---------------------------------------------------------------------------
-- Lines that say nothing
-- ---------------------------------------------------------------------------

/-- A line of blanks, or of a star behind a space and then spaces, and what it is without the
blanks at its end. -/
inductive Vacant : Text → Text → Prop
  | blank {line : Text} (hblank : Text.allBlank line = true) (hfeed : '\n' ∉ line) : Vacant line []
  | starred (n : Nat) : Vacant ([' ', '*'] ++ Text.spaces n) [' ', '*']

def around (above line below : Text) : Text := above ++ ('\n' :: line ++ '\n' :: below)

/-- No line is indented yet, but for the first that says something: prose goes on behind it. -/
def Unindented (above : Text) : Prop :=
  ∀ other ∈ (Text.lines (Text.trimStart above)).tail, ¬ Indented other

/-- An indented line follows, with nothing said before it. -/
def Continues (below : Text) : Prop :=
  let lines := (Text.lines (Text.trimEnd below)).map collapse
  (∃ code ∈ lines, indent <+: code) ∧ ∀ other ∈ prose lines, Text.allBlank other = true

/-- A line whose blanks are taken for the indentation of an example: something is said above and
below it, it is the first that is indented, and none that is follows but behind prose. -/
structure Opens (above line below : Text) : Prop where
  indented : Indented line
  said_above : Text.allBlank above = false
  said_below : Text.allBlank below = false
  first : Unindented above
  alone : ¬ Continues below

/-- Texts of the same lines, but for blank ones at one place. -/
inductive Respaced : Text → Text → Prop
  | same (t : Text) : Respaced t t
  | blank (heads blanks others tails : List Text) (hne : blanks ≠ []) (hne' : others ≠ [])
      (hblank : ∀ line ∈ blanks, Text.allBlank line = true)
      (hblank' : ∀ line ∈ others, Text.allBlank line = true) :
      Respaced (Text.unlines (heads ++ blanks ++ tails)) (Text.unlines (heads ++ others ++ tails))

section

variable {above line bare below blanks mark : Text}

theorem infix_around (hm : mark ≠ []) (hn : '\n' ∉ mark) :
    mark <:+: around above line below ↔ mark <:+: above ∨ mark <:+: line ∨ mark <:+: below := by
  rw [around, List.cons_append, Text.infix_append_newline hm hn, Text.infix_append_newline hm hn]

theorem Vacant.feed (h : Vacant line bare) : '\n' ∉ line := by
  cases h with
  | blank _ hfeed => exact hfeed
  | starred n => simp [Text.spaces]

theorem Vacant.refl_bare (h : Vacant line bare) : Vacant bare bare := by
  cases h with
  | blank => exact .blank rfl List.not_mem_nil
  | starred n => exact .starred 0

theorem Vacant.collapse_bare (h : Vacant line bare) : collapse bare = [] := by
  cases h <;> decide

theorem allBlank_widen {rest : Text} (h : Text.allBlank rest = true) :
    Text.allBlank (widen rest) = true := by
  rw [widen]
  cases hcode : Text.after? [' ', ' ', ' '] rest with
  | none => exact h
  | some code =>
    obtain rfl := Text.after?_eq_some_iff.mp hcode
    dsimp only
    split
    · exact h
    · exact h

theorem Vacant.allBlank_collapse (h : Vacant line bare) :
    Text.allBlank (collapse line) = true := by
  cases h with
  | blank hblank =>
    have hmark : unmark? line = none := by
      refine unmark?_eq_none fun hstar => ?_
      have hm : '*' ∈ line := hstar.subset (by simp)
      exact absurd (List.all_eq_true.mp hblank _ hm) (by decide)
    rw [collapse, hmark]
    dsimp only
    split
    · exact hblank
    · rw [Text.allBlank, List.all_eq_true] at hblank ⊢
      exact fun c hm => hblank c ((Text.dropLead_suffix _ _).subset hm)
  | starred n =>
    cases n with
    | zero => decide
    | succ n =>
      have hline : [' ', '*'] ++ Text.spaces (n + 1) = star ++ Text.spaces n := rfl
      rw [hline, collapse, unmark?_star]
      exact allBlank_widen (Text.allBlank_spaces n)

theorem Vacant.exists_blanks (h : Vacant line bare) :
    ∃ blanks, Text.allBlank blanks = true ∧ line = bare ++ blanks := by
  cases h with
  | blank hblank => exact ⟨line, hblank, rfl⟩
  | starred n => exact ⟨Text.spaces n, Text.allBlank_spaces n, rfl⟩

theorem Vacant.not_infix_around (h : Vacant line bare) (hm : mark ≠ []) (hn : '\n' ∉ mark)
    (hmark : ¬ mark <:+: around above line below) : ¬ mark <:+: around above bare below := by
  obtain ⟨blanks, -, rfl⟩ := h.exists_blanks
  rw [infix_around hm hn, not_or, not_or] at hmark ⊢
  exact ⟨hmark.1, fun hs => hmark.2.1 (hs.trans (List.prefix_append _ _).isInfix), hmark.2.2⟩

theorem opening_star_spaces (n : Nat) (t : Text) :
    opening (['*'] ++ (Text.spaces n ++ ['\n'] ++ t)) = '\n' :: t := by
  rw [opening, Text.dropLead, Text.after?_append, Option.getD_some]
  induction n with
  | zero => rfl
  | succ n ih => exact ih

theorem trim_around_of_blank_below (hblanks : Text.allBlank blanks = true)
    (hbelow : Text.allBlank below = true) :
    Text.trim (around above (bare ++ blanks) below) = Text.trim (above ++ '\n' :: bare) := by
  have htail : Text.allBlank (blanks ++ '\n' :: below) = true := by
    rw [Text.allBlank_append, hblanks, Text.allBlank_feed, hbelow]
    rfl
  have hsplit : around above (bare ++ blanks) below =
      (above ++ '\n' :: bare) ++ (blanks ++ '\n' :: below) := by simp [around]
  rw [hsplit, Text.trim_append_blank htail]

theorem trim_around_of_blank_above (habove : Text.allBlank above = true)
    (hblanks : Text.allBlank blanks = true) :
    Text.trim (around above blanks below) = Text.trim below := by
  have hlead : Text.allBlank (above ++ '\n' :: blanks ++ ['\n']) = true := by
    rw [Text.allBlank_append, Text.allBlank_append, habove, Text.allBlank_feed, hblanks]
    rfl
  have hsplit : around above blanks below = (above ++ '\n' :: blanks ++ ['\n']) ++ below := by
    simp [around]
  rw [hsplit, Text.trim_blank_append hlead]

theorem opening_trim_starred (habove : Text.allBlank above = true)
    (hbelow : Text.allBlank below = false) (n : Nat) :
    opening (Text.trim (around above ([' ', '*'] ++ Text.spaces n) below)) =
      '\n' :: Text.trimEnd below := by
  have hlead : Text.allBlank (above ++ ['\n', ' ']) = true := by
    rw [Text.allBlank_append, habove]
    rfl
  have hsplit : around above ([' ', '*'] ++ Text.spaces n) below =
      (above ++ ['\n', ' ']) ++ (['*'] ++ (Text.spaces n ++ ['\n'] ++ below)) := by
    simp [around]
  rw [hsplit, Text.trim_blank_append hlead, Text.trim_between (by decide) hbelow]
  exact opening_star_spaces n _

theorem Vacant.body_around (h : Vacant line bare)
    (hside : Text.allBlank above = true ∨ Text.allBlank below = true) :
    body (around above line below) = body (around above bare below) := by
  rw [body_eq, body_eq]
  cases hbelow : Text.allBlank below with
  | true =>
    obtain ⟨blanks, hblanks, rfl⟩ := h.exists_blanks
    have hbare : Text.trim (around above (bare ++ []) below) = Text.trim (above ++ '\n' :: bare) :=
      trim_around_of_blank_below rfl hbelow
    rw [List.append_nil] at hbare
    rw [trim_around_of_blank_below hblanks hbelow, hbare]
  | false =>
    have habove := hside.resolve_right (by simp [hbelow])
    cases h with
    | blank hblank =>
      rw [trim_around_of_blank_above habove hblank, trim_around_of_blank_above habove rfl]
    | starred n =>
      rw [opening_trim_starred habove hbelow]
      exact (opening_trim_starred habove hbelow 0).symm

section

variable (habove : Text.allBlank above = false) (hbelow : Text.allBlank below = false)

include habove hbelow

theorem trim_around (line : Text) :
    Text.trim (around above line below) =
      around (Text.trimStart above) line (Text.trimEnd below) := by
  have hsplit (a b : Text) : around a line b = a ++ ('\n' :: line ++ ['\n'] ++ b) := by
    simp [around]
  rw [hsplit, hsplit, Text.trim_between habove hbelow]

theorem lines_body_around (hfeed : '\n' ∉ line) :
    Text.lines (body (around above line below)) =
      Text.lines (opening (Text.trimStart above)) ++ line :: Text.lines (Text.trimEnd below) := by
  rw [body_eq, trim_around habove hbelow, around, List.cons_append, opening_append_feed,
    Text.lines_feed, Text.lines_feed, Text.lines_of_not_mem hfeed]
  rfl

/-- The lines of a block without their margins. Those above and below a line do not depend on
it. -/
theorem exists_collapsed_around : ∃ heads : List Text,
    (Unindented above ↔ ∀ head ∈ heads, ¬ indent <+: head) ∧
    ∀ line : Text, '\n' ∉ line → ¬ fence <:+: around above line below →
      collapseLines (Text.lines (body (around above line below))) =
        heads ++ collapse line :: (Text.lines (Text.trimEnd below)).map collapse := by
  obtain ⟨first, hflush, hlines⟩ := exists_lines_opening (Text.trimStart above)
  have hfirst : ¬ indent <+: first := by
    rintro ⟨code, rfl⟩
    exact hflush rfl
  refine ⟨first :: (Text.lines (Text.trimStart above)).tail.map collapse, ?_,
    fun line hfeed hfence => ?_⟩
  · rw [List.forall_mem_cons, and_iff_right hfirst, List.forall_mem_map]
    simp only [Unindented, indent_prefix_collapse_iff]
  · have hfree : ∀ other ∈ Text.lines (body (around above line below)), ¬ fence <:+: other := by
      rw [← fence_infix_body_iff] at hfence
      exact fun _ => not_fence_of_mem_lines hfence
    rw [lines_body_around habove hbelow hfeed, hlines, List.cons_append] at hfree ⊢
    rw [List.forall_mem_cons] at hfree
    rw [collapseLines, isFence_eq_false hfree.1, if_neg Bool.false_ne_true,
      collapseRest_of_free hfree.2, List.map_append, List.map_cons, List.cons_append]

end

variable (h : Vacant line bare) (hfence : ¬ fence <:+: around above line below)

include h hfence

/-- Either the line goes with the blanks at an end of the block, or it stays between lines that do
not depend on it. -/
theorem collapsed_around :
    (¬ Opens above line below ∧ body (around above line below) = body (around above bare below)) ∨
      (Text.allBlank above = false ∧ Text.allBlank below = false) ∧ ∃ heads tails : List Text,
        tails = (Text.lines (Text.trimEnd below)).map collapse ∧
        (Unindented above ↔ ∀ head ∈ heads, ¬ indent <+: head) ∧
        collapseLines (Text.lines (body (around above line below))) =
          heads ++ collapse line :: tails ∧
        collapseLines (Text.lines (body (around above bare below))) = heads ++ [] :: tails := by
  by_cases hside : Text.allBlank above = true ∨ Text.allBlank below = true
  · refine .inl ⟨?_, h.body_around hside⟩
    rintro ⟨-, habove, hbelow, -, -⟩
    simp [habove, hbelow] at hside
  · rw [not_or, Bool.not_eq_true, Bool.not_eq_true] at hside
    have hbare := h.not_infix_around (by decide) (by decide) hfence
    obtain ⟨heads, hheads, hlines⟩ := exists_collapsed_around hside.1 hside.2
    refine .inr ⟨hside, heads, _, rfl, hheads, hlines line h.feed hfence, ?_⟩
    rw [hlines bare h.refl_bare.feed hbare, h.collapse_bare]

theorem documentation_behind_indent (hfirst : ¬ Unindented above) :
    documentation (around above line below) = documentation (around above bare below) := by
  rcases collapsed_around h hfence with ⟨-, hbody⟩ | ⟨-, heads, tails, -, hheads, hline, hbare⟩
  · rw [documentation, hbody, documentation]
  · have hindent : ∃ head ∈ heads, indent <+: head := by
      rw [hheads] at hfirst
      simpa using hfirst
    rw [documentation, documentation, hline, hbare, prose_append_of_indent hindent,
      prose_append_of_indent hindent]

/-- Where the line does not open an example, the documentation is the same but for blank lines. -/
theorem documentation_around (hopens : ¬ Opens above line below) :
    Respaced (documentation (around above line below))
      (documentation (around above bare below)) := by
  by_cases hfirst : Unindented above
  · rcases collapsed_around h hfence with
      ⟨-, hbody⟩ | ⟨⟨habove, hbelow⟩, heads, tails, htails, hheads, hline, hbare⟩
    · rw [documentation, hbody, documentation]
      exact .same _
    · have hempty : ¬ indent <+: ([] : Text) := by decide
      have hblank : ∀ other ∈ [([] : Text)], Text.allBlank other = true := by decide
      rw [documentation, documentation, hline, hbare, prose_append (hheads.mp hfirst),
        prose_append (hheads.mp hfirst), prose_cons hempty]
      by_cases hindent : Indented line
      · -- The fence is put in above the line, or else above the next that is indented, and
        -- nothing is said between them.
        have hcontinues : Continues below := by
          by_contra halone
          exact hopens ⟨hindent, habove, hbelow, hfirst, halone⟩
        rw [Continues, ← htails] at hcontinues
        rw [prose_of_indent (indent_prefix_collapse_iff.mpr hindent)]
        have hrespaced := Respaced.blank heads [[]] ([] :: prose tails) []
          (List.cons_ne_nil _ _) (List.cons_ne_nil _ _) hblank
          (List.forall_mem_cons.mpr ⟨rfl, hcontinues.2⟩)
        rwa [List.append_nil, List.append_nil] at hrespaced
      · -- The line is prose, and so are the lines below it that would be without its blanks.
        rw [prose_cons fun hprefix => hindent (indent_prefix_collapse_iff.mp hprefix)]
        have hrespaced := Respaced.blank heads [collapse line] [[]] (prose tails)
          (List.cons_ne_nil _ _) (List.cons_ne_nil _ _)
          (List.forall_mem_singleton.mpr h.allBlank_collapse) hblank
        rwa [List.append_assoc, List.append_assoc] at hrespaced
  · rw [documentation_behind_indent h hfence hfirst]
    exact .same _

end

theorem ofStripped_congr {t u : Text} (h : body t = body u) : ofStripped t = ofStripped u := by
  rw [ofStripped, h, ofStripped]

end Comment

namespace Section

open Comment (fence indent Vacant Opens Unindented Respaced around)

variable {above line bare below extension style t : Text}

theorem isSome_sample_ofStripped_iff (h : ¬ fence <:+: t) :
    (format extension (Comment.ofStripped t) style).sample.isSome ↔
      ∃ line ∈ Comment.collapseLines (Text.lines (Comment.body t)), indent <+: line := by
  rw [isSome_sample_format_iff, Comment.fence_infix_ofStripped_iff, or_iff_right h,
    Comment.exists_indent_collapsed_iff h]

/-- A line that says nothing makes an example where it opens one, and nowhere else. -/
theorem isSome_sample_around_iff (h : Vacant line bare)
    (hfence : ¬ fence <:+: around above line below) :
    (format extension (Comment.ofStripped (around above line below)) style).sample.isSome ↔
      (format extension (Comment.ofStripped (around above bare below)) style).sample.isSome ∨
        Opens above line below := by
  rcases Comment.collapsed_around h hfence with
    ⟨hopens, hbody⟩ | ⟨⟨habove, hbelow⟩, heads, tails, htails, hheads, hline, hbare⟩
  · rw [Comment.ofStripped_congr hbody, or_iff_left hopens]
  · have hempty : ¬ indent <+: ([] : Text) := by decide
    rw [isSome_sample_ofStripped_iff hfence, hline, isSome_sample_ofStripped_iff
      (h.not_infix_around (by decide) (by decide) hfence), hbare]
    simp only [List.mem_append, List.mem_cons, or_and_right, exists_or, exists_eq_left, hempty,
      false_or]
    rw [Comment.indent_prefix_collapse_iff]
    refine ⟨?_, ?_⟩
    · rintro (hhead | hline | htail)
      · exact .inl (.inl hhead)
      · -- An indented line on either side makes an example without this one.
        by_cases hother : (∃ head ∈ heads, indent <+: head) ∨ ∃ code ∈ tails, indent <+: code
        · exact .inl hother
        · rw [not_or, htails] at hother
          have hfirst : Unindented above :=
            hheads.mpr fun head hm hindent => hother.1 ⟨head, hm, hindent⟩
          exact .inr ⟨hline, habove, hbelow, hfirst, fun hcontinues => hother.2 hcontinues.1⟩
      · exact .inl (.inr htail)
    · rintro ((hhead | htail) | hopens)
      · exact .inl hhead
      · exact .inr (.inr htail)
      · exact .inr (.inl hopens.indented)

/-- Where a line that says nothing does not open an example, it makes none and takes none away.
The comment is then made of the same lines but for blank ones, and is the same behind an indented
line. -/
theorem format_vacant (h : Vacant line bare)
    (hstop : ¬ ['*', '/'] <:+: around above line below)
    (hfence : ¬ fence <:+: around above line below) (hopens : ¬ Opens above line below)
    (extension style : Text) :
    let shown (line : Text) := format extension
      (Comment.normalize .css (['/', '*'] ++ around above line below ++ ['*', '/'])) style
    ((shown line).sample.isSome ↔ (shown bare).sample.isSome) ∧
      (∃ t u, Respaced t u ∧ (shown line).Documents t ∧ (shown bare).Documents u) ∧
      (¬ Unindented above → (shown line).comment = (shown bare).comment) := by
  intro shown
  have hshown {line : Text} (hstop : ¬ ['*', '/'] <:+: around above line below) :
      shown line = format extension (Comment.ofStripped (around above line below)) style := by
    dsimp only [shown]
    rw [Comment.normalize, Comment.strip_css hstop]
  have hbare := h.not_infix_around (by decide) (by decide) hfence
  rw [hshown hstop, hshown (h.not_infix_around (by decide) (by decide) hstop)]
  refine ⟨?_, ⟨_, _, Comment.documentation_around h hfence hopens,
    documents_documentation hfence, documents_documentation hbare⟩, fun hfirst => ?_⟩
  · rw [isSome_sample_around_iff h hfence, or_iff_left hopens]
  · rw [documents_documentation hfence, documents_documentation hbare,
      Comment.documentation_behind_indent h hfence hfirst]

/-- Blanks of four columns right above an example do no harm. -/
theorem format_vacant_above :
    let shown (line : Text) := format "css" (Comment.normalize .css
      (['/', '*'] ++ around "*\n * A".toList line " *     <b>\n ".toList ++ ['*', '/'])) []
    (shown " *     ".toList).sample = some "<b>".toList ∧
      (shown " *".toList).sample.isSome ∧
      ∃ t u, Respaced t u ∧ (shown " *     ".toList).Documents t ∧
        (shown " *".toList).Documents u := by
  intro shown
  let above := "*\n * A".toList
  let line := " *     ".toList
  let below := " *     <b>\n ".toList
  have hstop : ¬ ['*', '/'] <:+: around above line below :=
    (Text.not_holds_iff (by simp)).mp (by decide)
  have hfence : ¬ fence <:+: around above line below :=
    (Text.not_holds_iff (by simp [fence])).mp (by decide)
  have hcontinues : Comment.Continues below := by
    rw [Comment.Continues]
    decide
  have hcode : (shown line).sample = some "<b>".toList := by
    have hnormal : Comment.normalize .css (['/', '*'] ++ around above line below ++ ['*', '/']) =
        "A\n```\n\n<b>\n```".toList := by
      rw [Comment.normalize, Comment.strip_css hstop]
      decide
    dsimp only [shown]
    rw [hnormal]
    decide
  obtain ⟨hsample, hdocuments, -⟩ :=
    format_vacant (.starred 5) hstop hfence (fun hopens => hopens.alone hcontinues) "css" []
  have hsome : (shown line).sample.isSome := by rw [hcode, Option.isSome_some]
  exact ⟨hcode, hsample.mp hsome, hdocuments⟩

/-- Blanks between tildes are shown as they are written. And blanks of four columns above prose
make an example of it. -/
theorem format_vacant_loses :
    let shown (above line below : Text) := format "css"
      (Comment.normalize .css (['/', '*'] ++ around above line below ++ ['*', '/'])) []
    let tilde (line : Text) := shown "~~~".toList line "~~~\n    <b>".toList
    let prose (line : Text) := shown "A".toList line "B".toList
    ((tilde [' ', ' ']).sample = some "<b>".toList ∧ (tilde []).sample = some "<b>".toList ∧
      (tilde [' ', ' ']).comment ≠ (tilde []).comment) ∧
      (prose [' ', ' ', ' ', ' ']).sample = some "B".toList ∧ (prose []).sample = none := by
  intro shown tilde prose
  have hshown {above line below : Text}
      (h : Text.holds ['*', '/'] (around above line below) = false) : shown above line below =
        format "css" (Comment.ofStripped (around above line below)) [] := by
    dsimp only [shown]
    rw [Comment.normalize, Comment.strip_css ((Text.not_holds_iff (by simp)).mp h)]
  dsimp only [tilde, prose]
  rw [hshown (by decide), hshown (by decide), hshown (by decide), hshown (by decide)]
  decide +kernel

end Section

end Swatchbook
