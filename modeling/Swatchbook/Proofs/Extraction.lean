import Swatchbook.Page
import Swatchbook.Proofs.Report
import Swatchbook.Proofs.Spelling

/-!
# Pages of written stylesheets

A stylesheet is some text, then documents in any spelling, each with the style
behind it. Its page has one section for each of them, in order, with the prose,
the example and the style of that document and nothing of any other.
-/

namespace Swatchbook

open Comment (Prose Sample Spelled fence)

/-- A document as it stands in a stylesheet, with the style behind it. -/
structure Piece where
  prose : Prose
  sample : Option Sample
  raw : Text
  style : Text
  spelled : Spelled prose sample raw
  style_free : ¬ ['/', '*'] <:+: style
  info_free : ∀ s ∈ sample, '<' ∉ s.info

namespace Piece

def text (p : Piece) : Text := p.raw ++ p.style

def documentation (p : Piece) : Text :=
  match p.sample with
  | none => Text.unlines p.prose.lines
  | some _ => Text.unlines p.prose.lines ++ ['\n']

def heading (p : Piece) : Option Text := (Markdown.render p.documentation).heading

def code (s : Sample) : Text := Text.trim (Text.unlines s.code)

/-- What a page in a language with the given extension shows of a piece. -/
def shown (extension : Text) (p : Piece) : Section where
  comment := (Markdown.render p.documentation).html
  sample := p.sample.map code
  markup := p.sample.map fun s => Highlight.render .markup (code s)
  styles :=
    if p.sample.isNone || Text.allBlank p.style then none
    else some (Highlight.render (.stylesheet extension) (Text.trim p.style))
  heading := p.heading

theorem heading_shown (extension : Text) (p : Piece) :
    (p.shown extension).heading = p.heading := by
  simp only [shown]

end Piece

def stylesheet (lead : Text) (pieces : List Piece) : Text := lead ++ pieces.flatMap Piece.text

-- ---------------------------------------------------------------------------
-- The blocks of a stylesheet
-- ---------------------------------------------------------------------------

namespace Piece

variable {lead : Text}

theorem exists_inside (p : Piece) : ∃ inside, ¬ ['*', '/'] <:+: inside ∧
    p.raw = ['/', '*'] ++ inside ++ ['*', '/'] ∧
    ∀ later : List Piece, (p :: later).flatMap text =
      '/' :: '*' :: (inside ++ '*' :: '/' :: stylesheet p.style later) := by
  obtain ⟨inside, hraw, hstop⟩ := p.spelled.enclosed
  refine ⟨inside, hstop, hraw, fun later => ?_⟩
  simp [text, stylesheet, hraw]

theorem cut?_stylesheet_nil (hlead : ¬ ['/', '*'] <:+: lead) :
    Text.cut? ['/', '*'] (stylesheet lead []) = none := by
  simpa [stylesheet] using (Text.cut?_eq_none_iff (by simp)).mpr hlead

theorem styleIn_stylesheet (hlead : ¬ ['/', '*'] <:+: lead) (pieces : List Piece) :
    Delimiters.css.styleIn (stylesheet lead pieces) = lead := by
  rw [← Marks.css_delimiters, Marks.styleIn_literal, Marks.css_start]
  cases pieces with
  | nil =>
    rw [cut?_stylesheet_nil hlead]
    simp [stylesheet]
  | cons p later =>
    obtain ⟨inside, -, -, htext⟩ := p.exists_inside
    rw [stylesheet, htext, Text.cut?_pair (by decide) hlead]

theorem blocksFrom_stylesheet {places : Nat} (pieces : List Piece) (passed : Text)
    (hlead : ¬ ['/', '*'] <:+: lead) (hlen : (stylesheet lead pieces).length ≤ places) :
    (Marks.css.blocksFrom places passed (stylesheet lead pieces)).map (fun b => (b.raw, b.style)) =
      pieces.map fun p => (p.raw, p.style) := by
  induction pieces generalizing lead passed with
  | nil => rw [Marks.blocksFrom_eq hlen, Marks.css_start, cut?_stylesheet_nil hlead]; rfl
  | cons p later ih =>
    obtain ⟨inside, hstop, hraw, htext⟩ := p.exists_inside
    have hshort : (stylesheet p.style later).length ≤ places := by
      rw [stylesheet, htext] at hlen
      simp only [List.length_append, List.length_cons] at hlen
      omega
    rw [Marks.blocksFrom_eq hlen, Marks.css_start, Marks.css_stop, Marks.css_delimiters, stylesheet,
      htext, Text.cut?_pair (by decide) hlead]
    simp only [Text.cut?_pair (show '*' ≠ '/' by decide) hstop, List.map_cons,
      styleIn_stylesheet p.style_free, ih _ p.style_free hshort, hraw]

theorem blocks_stylesheet (pieces : List Piece) (hlead : ¬ ['/', '*'] <:+: lead) :
    (Delimiters.css.blocks (stylesheet lead pieces)).map (fun b => (b.raw, b.style)) =
      pieces.map fun p => (p.raw, p.style) := by
  rw [← Marks.css_delimiters, Marks.blocks_eq_blocksFrom]
  exact blocksFrom_stylesheet pieces [] hlead (Nat.le_succ _)

end Piece

-- ---------------------------------------------------------------------------
-- The section of a document
-- ---------------------------------------------------------------------------

namespace Section

theorem cut?_fence {before : Text} (h : ¬ fence <:+: before) (rest : Text) :
    Text.cut? fence (before ++ '\n' :: (fence ++ rest)) = some (before ++ ['\n'], rest) := by
  have hfree : ¬ fence <:+: (before ++ ['\n']) ++ fence.dropLast := by
    rw [List.append_assoc, List.singleton_append,
      Text.infix_append_newline (by decide) (by decide)]
    rintro (hs | hs)
    · exact h hs
    · exact absurd hs (by decide)
  simpa using Text.cut?_of_free (by decide) hfree rest

theorem unlines_sample (s : Sample) :
    Text.unlines s.lines =
      fence ++ ((s.info ++ '\n' :: Text.unlines s.code) ++ '\n' :: (fence ++ [])) := by
  obtain ⟨c, code, hcode⟩ := List.exists_cons_of_ne_nil s.code_ne
  rw [Sample.lines, Text.unlines_append (by simp) (by simp), hcode]
  simp

theorem not_fence_unlines {lines : List Text} (h : ∀ line ∈ lines, Comment.Plain line) :
    ¬ fence <:+: Text.unlines lines := by
  rw [Text.infix_unlines (by decide) (by decide)]
  rintro ⟨line, hm, hs⟩
  exact (h line hm).fence hs

theorem splitFence_prose (p : Prose) : splitFence (Comment.document p none) = none := by
  rw [splitFence, Comment.document_none,
    (Text.cut?_eq_none_iff (by decide)).mpr (not_fence_unlines p.plain_lines), Option.map_none]

theorem splitFence_sample (p : Prose) (s : Sample) :
    splitFence (Comment.document p (some s)) =
      some (Text.unlines p.lines ++ ['\n'], s.info ++ '\n' :: Text.unlines s.code ++ ['\n']) := by
  have hinside : ¬ fence <:+: s.info ++ '\n' :: Text.unlines s.code := by
    rw [Text.infix_append_newline (by decide) (by decide)]
    rintro (hs | hs)
    · exact s.plain_info.fence hs
    · exact not_fence_unlines s.plain_code hs
  rw [splitFence, Comment.document_some,
    Text.unlines_append p.lines_ne s.lines_ne, unlines_sample,
    cut?_fence (not_fence_unlines p.plain_lines), Option.map_some]
  simp only [cut?_fence hinside]

/-- A label goes; blanks in its place go with those around the code. -/
theorem trim_dropLabel {info : Text} (hfeed : '\n' ∉ info) (hmarkup : '<' ∉ info) (code : Text) :
    Text.trim (dropLabel (info ++ '\n' :: code ++ ['\n'])) = Text.trim code := by
  have hcut : Text.cut? ['\n'] (info ++ '\n' :: code ++ ['\n']) = some (info, code ++ ['\n']) := by
    have hfree : ¬ ['\n'] <:+: info ++ ['\n'].dropLast := by
      simpa [List.singleton_infix_iff] using hfeed
    simpa using Text.cut?_of_free (by decide) hfree (code ++ ['\n'])
  rw [dropLabel, hcut]
  simp only
  split
  · next h =>
    have hblank : Text.allBlank info = true := by simpa [hmarkup] using h
    have hpad : Text.allBlank (info ++ ['\n']) = true := by
      rw [Text.allBlank, List.all_append, Bool.and_eq_true]
      exact ⟨hblank, by decide⟩
    simpa using Text.trim_pad hpad (show Text.allBlank ['\n'] = true by decide) code
  · exact Text.trim_append_blank (by decide) code

theorem format_document (p : Piece) (extension : Text) :
    format extension (Comment.document p.prose p.sample) p.style = p.shown extension := by
  cases hs : p.sample with
  | none =>
    rw [format, splitFence_prose]
    simp [Piece.shown, Piece.documentation, Piece.heading, hs]
  | some s =>
    have hlabel := trim_dropLabel s.plain_info.feed (p.info_free s hs) (Text.unlines s.code)
    rw [format, splitFence_sample]
    simp only [hlabel, styleOf]
    simp [Piece.shown, Piece.documentation, Piece.heading, Piece.code, hs]

end Section

-- ---------------------------------------------------------------------------
-- The page of a stylesheet
-- ---------------------------------------------------------------------------

namespace Page

def ofPieces (excludeMissing : Bool) (path dest : Path) (href : Text) (pieces : List Piece) :
    Page where
  title := (pieces.findSome? Piece.heading).getD path.stem
  slug := path.stem
  src := path.normalize
  dest := dest
  href := href
  sections := pieces.map (Piece.shown (extensionOf path))
  excluded := pieces.isEmpty && excludeMissing

theorem gives_notes (file : SourceFile) (blocks : List Block) (page : Page) :
    (notes file blocks page).Gives () := by
  simp only [notes]
  split
  all_goals
    refine (Report.gives_note _ _ _).bind ?_
    split
    · exact Report.gives_note _ _ _
    · split
      · exact Report.gives_note _ _ _
      · exact Report.gives_pure _

theorem build_eq (layout : Layout) (file : SourceFile) :
    (build layout file).outcome.1 =
      (address layout.source layout.output file.path).map fun (dest, href) =>
        ofBlocks layout file dest href (layout.delimiters.blocks file.text) :=
  Report.outcome_ofExcept_bind fun _ => (gives_notes _ _ _).bind (Report.gives_pure _)

def sectionOf (path : Path) (block : Text × Text) : Section :=
  Section.format (extensionOf path) (Comment.normalize .css block.1) block.2

theorem sectionOf_piece (path : Path) (p : Piece) :
    sectionOf path (p.raw, p.style) = p.shown (extensionOf path) := by
  rw [sectionOf, Comment.normalize_of_spelled p.spelled, Section.format_document]

theorem titleOf?_shown (extension : Text) (pieces : List Piece) :
    titleOf? (pieces.map (Piece.shown extension)) = pieces.findSome? Piece.heading := by
  have hheading : Section.heading ∘ Piece.shown extension = Piece.heading :=
    funext (Piece.heading_shown extension)
  rw [titleOf?, List.findSome?_map, hheading]

section

variable {lead : Text} (pieces : List Piece) (hlead : ¬ ['/', '*'] <:+: lead)

include hlead

theorem isEmpty_blocks :
    (Delimiters.css.blocks (stylesheet lead pieces)).isEmpty = pieces.isEmpty := by
  have hempty := congrArg List.isEmpty (Piece.blocks_stylesheet pieces hlead)
  rwa [List.isEmpty_map, List.isEmpty_map] at hempty

theorem sectionsOf_stylesheet (source output path : Path) (excludeMissing : Bool) :
    sectionsOf ⟨.css, source, output, excludeMissing⟩ ⟨path, stylesheet lead pieces⟩
        (Delimiters.css.blocks (stylesheet lead pieces)) =
      pieces.map (Piece.shown (extensionOf path)) := by
  calc sectionsOf ⟨.css, source, output, excludeMissing⟩ ⟨path, stylesheet lead pieces⟩
        (Delimiters.css.blocks (stylesheet lead pieces))
    _ = ((Delimiters.css.blocks (stylesheet lead pieces)).map fun b => (b.raw, b.style)).map
          (sectionOf path) := by
        simp only [sectionsOf, sectionOf, List.map_map, Function.comp_def]
    _ = (pieces.map fun p => (p.raw, p.style)).map (sectionOf path) := by
        rw [Piece.blocks_stylesheet pieces hlead]
    _ = pieces.map (Piece.shown (extensionOf path)) := by
        simp only [List.map_map, Function.comp_def, sectionOf_piece]

end

/-- The page of a stylesheet shows its documents, each by itself and with the
style behind it, and is titled by the first heading among them. -/
theorem build_stylesheet (source output path : Path) (excludeMissing : Bool) (pieces : List Piece)
    {lead : Text} (hlead : ¬ ['/', '*'] <:+: lead) :
    (build ⟨.css, source, output, excludeMissing⟩ ⟨path, stylesheet lead pieces⟩).outcome.1 =
      (address source output path).map fun (dest, href) =>
        ofPieces excludeMissing path dest href pieces := by
  rw [build_eq]
  congr 1
  funext ⟨dest, href⟩
  simp only [ofBlocks, sectionsOf_stylesheet pieces hlead, titleOf?_shown,
    isEmpty_blocks pieces hlead, ofPieces]

theorem build_stylesheet_two :
    ∃ page, (build ⟨.css, "scss", "out", true⟩
        ⟨"scss/a.css", "/ /* Go\n    <b>\n*/ * x /**\n * Up\n */".toList⟩).outcome.1 = .ok page ∧
      page.href = "a.html".toList ∧ page.excluded = false ∧
      page.sections.map Section.sample = [some "<b>".toList, none] := by
  let go : Prose :=
    { first := ['G', 'o'], later := [], plain := by decide, flush := by decide
      begins := ⟨'G', rfl, by decide, by decide⟩ }
  let up : Prose :=
    { first := ['U', 'p'], later := [], plain := by decide, flush := by decide
      begins := ⟨'U', rfl, by decide, by decide⟩ }
  let bold : Sample :=
    { info := [], code := [['<', 'b', '>']], plain_info := by decide, plain_code := by decide
      code_ne := by decide }
  let first : Piece :=
    { prose := go, sample := some bold, raw := "/* Go\n    <b>\n*/".toList
      style := " * x ".toList, spelled := @Spelled.plainIndented go [] bold rfl (by decide) .nil
      style_free := by decide, info_free := by simp [bold] }
  let second : Piece :=
    { prose := up, sample := none, raw := "/**\n * Up\n */".toList, style := []
      spelled := .docProse (by decide), style_free := by decide, info_free := by simp }
  have hlead : ¬ ['/', '*'] <:+: ['/', ' '] := by decide
  have hbuild := build_stylesheet "scss" "out" "scss/a.css" true [first, second] hlead
  have haddress : address "scss" "out" "scss/a.css" = .ok ("out/a.html", "a.html".toList) := by
    decide
  rw [haddress] at hbuild
  refine ⟨_, hbuild, rfl, rfl, ?_⟩
  simp only [ofPieces, List.map_cons, List.map_nil, Piece.shown]
  decide

end Page

end Swatchbook
