import Swatchbook.Proofs.Written
import Mathlib.Data.List.Infix

/-!
# Spellings of a document

A document is prose, and it may have an example. It is written as a doc
comment or as a plain one, and its example stands between fences or is
indented by four columns. However it is written, its normal form is the same
text.
-/

namespace Swatchbook.Comment

-- ---------------------------------------------------------------------------
-- Documents
-- ---------------------------------------------------------------------------

/-- A line or an info string that no delimiter, fence or line end stands in. -/
structure Plain (t : Text) : Prop where
  feed : '\n' ∉ t
  start : ¬ ['/', '*'] <:+: t
  stop : ¬ ['*', '/'] <:+: t
  fence : ¬ fence <:+: t

instance (t : Text) : Decidable (Plain t) :=
  decidable_of_iff
    ('\n' ∉ t ∧ ¬ ['/', '*'] <:+: t ∧ ¬ ['*', '/'] <:+: t ∧ ¬ Comment.fence <:+: t)
    ⟨fun ⟨feed, start, stop, fence⟩ => ⟨feed, start, stop, fence⟩,
      fun h => ⟨h.feed, h.start, h.stop, h.fence⟩⟩

theorem Plain.writable {t : Text} (h : Plain t) : Writable t := ⟨h.feed, h.stop⟩

structure Prose where
  first : Text
  later : List Text
  plain : ∀ line ∈ first :: later, Plain line
  flush : ∀ line ∈ first :: later, line.head? ≠ some ' '
  begins : ∃ c, first.head? = some c ∧ Text.isBlank c = false ∧ c ≠ '*'

def Prose.lines (p : Prose) : List Text := p.first :: p.later

theorem Prose.lines_ne (p : Prose) : p.lines ≠ [] := List.cons_ne_nil _ _

theorem Prose.plain_lines (p : Prose) : ∀ line ∈ p.lines, Plain line := p.plain

def Prose.last (p : Prose) : Text := p.lines.getLast p.lines_ne

structure Sample where
  info : Text
  code : List Text
  plain_info : Plain info
  plain_code : ∀ line ∈ code, Plain line
  code_ne : code ≠ []

def Sample.lines (s : Sample) : List Text := (fence ++ s.info) :: s.code ++ [fence]

theorem Sample.lines_ne (s : Sample) : s.lines ≠ [] := List.cons_ne_nil _ _

def Sample.last (s : Sample) : Text := s.code.getLast s.code_ne

def document (p : Prose) (s : Option Sample) : Text :=
  Text.unlines (p.lines ++ (s.map Sample.lines).getD [])

-- ---------------------------------------------------------------------------
-- Spellings
-- ---------------------------------------------------------------------------

@[simp] theorem document_none (p : Prose) : document p none = Text.unlines p.lines := by
  simp [document]

@[simp] theorem document_some (p : Prose) (s : Sample) :
    document p (some s) = Text.unlines (p.lines ++ s.lines) := rfl

/-- A later prose line of a plain comment, at column zero or after one space. -/
def Margin (written line : Text) : Prop :=
  written = line ∨ written = ' ' :: line ∧ line.head? ≠ some '*'

/-- A line of code in a doc comment without fences: four columns behind the
star, or three if the code does not go on with a space. -/
def Column (written code : Text) : Prop :=
  written = indent ++ code ∨ written = [' ', ' ', ' '] ++ code ∧ code.head? ≠ some ' '

/-- Indented by `k` spaces no line of code looks like one behind a star. -/
def Sample.ClearAt (s : Sample) (k : Nat) : Prop :=
  ∀ line ∈ s.code, ¬ [' ', '*'] <+: Text.spaces k ++ line

/-- The ways to write a document as a comment. -/
inductive Spelled (p : Prose) : Option Sample → Text → Prop
  | docProse (hlast : Text.Firm p.last) : Spelled p none (docComment p.lines)
  | plainProse {later : List Text} (hlast : Text.Firm p.last)
      (hlater : List.Forall₂ Margin later p.later) :
      Spelled p none (plainComment (p.first :: later))
  | docFenced (s : Sample) : Spelled p (some s) (docComment (p.lines ++ s.lines))
  | plainFenced {later : List Text} (s : Sample) (k : Nat)
      (hlater : List.Forall₂ Margin later p.later) (hclear : s.ClearAt k) :
      Spelled p (some s)
        (plainComment (p.first :: later ++ s.lines.map (Text.spaces k ++ ·)))
  | docIndented {code : List Text} (s : Sample) (hinfo : s.info = []) (hlast : Text.Firm s.last)
      (hcode : List.Forall₂ Column code s.code) :
      Spelled p (some s) (docComment (p.lines ++ code))
  | plainIndented {later : List Text} (s : Sample) (hinfo : s.info = [])
      (hlast : Text.Firm s.last) (hlater : List.Forall₂ Margin later p.later) :
      Spelled p (some s) (plainComment (p.first :: later ++ s.code.map (indent ++ ·)))

theorem Margin.writable {written line : Text} (h : Margin written line) (hline : Writable line) :
    Writable written := by
  rcases h with rfl | ⟨rfl, -⟩
  · exact hline
  · exact hline.append [' '] (by decide) (by decide)

theorem Margin.firm {written line : Text} (h : Margin written line) (hline : Text.Firm line) :
    Text.Firm written := by
  rcases h with rfl | ⟨rfl, -⟩
  · exact hline
  · exact hline.append [' ']

theorem Column.writable {written code : Text} (h : Column written code) (hcode : Writable code) :
    Writable written := by
  rcases h with rfl | ⟨rfl, -⟩ <;> exact hcode.append _ (by decide) (by decide)

theorem Column.firm {written code : Text} (h : Column written code) (hcode : Text.Firm code) :
    Text.Firm written := by
  rcases h with rfl | ⟨rfl, -⟩ <;> exact hcode.append _

theorem not_fence_append {t : Text} (lead : Text) (hlead : '\x60' ∉ lead) (h : ¬ fence <:+: t) :
    ¬ fence <:+: lead ++ t :=
  fun hm => h ((Text.infix_append_of_not_mem hlead).mp hm)

-- ---------------------------------------------------------------------------
-- How each kind of line is written
-- ---------------------------------------------------------------------------

theorem writesProse_star {line : Text} (h : ¬ fence <:+: line) :
    WritesProse (star ++ line) (widen line) := by
  refine ⟨?_, ?_⟩
  · rw [unmarked, unmark?_star, Option.getD_some, isFence_eq_false h]
  · rw [collapse, unmark?_star]

theorem not_space_cons {line rest : Text} (h : line.head? ≠ some ' ') : line ≠ ' ' :: rest := by
  rintro rfl
  exact h rfl

theorem Margin.writesProse {written line : Text} (h : Margin written line)
    (hline : ¬ fence <:+: line) (hflush : line.head? ≠ some ' ') : WritesProse written line := by
  have hmark : ¬ [' ', '*'] <+: written := by
    rintro ⟨rest, rfl⟩
    rcases h with h | ⟨h, hstar⟩
    · exact not_space_cons hflush h.symm
    · obtain rfl : '*' :: rest = line := (List.cons.inj h).2
      exact hstar rfl
  have hindent : indent.isPrefixOf written = false := by
    rw [← Bool.not_eq_true, List.isPrefixOf_iff_prefix]
    rintro ⟨rest, rfl⟩
    rcases h with h | ⟨h, -⟩
    · exact not_space_cons hflush h.symm
    · exact not_space_cons hflush (List.cons.inj h).2.symm
  have hdrop : Text.dropLead [' '] written = line := by
    rcases h with rfl | ⟨rfl, -⟩
    · exact Text.dropLead_singleton_eq_self_iff.mpr hflush
    · rfl
  have hfence : ¬ fence <:+: written := by
    rcases h with rfl | ⟨rfl, -⟩
    · exact hline
    · exact not_fence_append [' '] (by decide) hline
  refine ⟨?_, ?_⟩
  · rw [unmarked, unmark?_eq_none hmark, Option.getD_none, isFence_eq_false hfence]
  · rw [collapse, unmark?_eq_none hmark, hindent, if_neg Bool.false_ne_true, hdrop]

theorem Column.widen {written code : Text} (h : Column written code) :
    widen written = indent ++ code := by
  rcases h with rfl | ⟨rfl, hspace⟩
  · exact widen_indent code
  · exact widen_three hspace

theorem Column.not_fence {written code : Text} (h : Column written code)
    (hcode : ¬ fence <:+: code) : ¬ fence <:+: written := by
  rcases h with rfl | ⟨rfl, -⟩ <;> exact not_fence_append _ (by decide) hcode

theorem writesProse_indent {code : Text} (h : ¬ fence <:+: code) :
    WritesProse (indent ++ code) (indent ++ code) := by
  have hmark : ¬ [' ', '*'] <+: indent ++ code := by simp [indent]
  have hindent : indent.isPrefixOf (indent ++ code) = true :=
    List.isPrefixOf_iff_prefix.mpr (List.prefix_append _ _)
  refine ⟨?_, ?_⟩
  · rw [unmarked, unmark?_eq_none hmark, Option.getD_none,
      isFence_eq_false (not_fence_append _ (by decide) h)]
  · rw [collapse, unmark?_eq_none hmark, hindent, if_pos rfl]

theorem writesCode_star {code : Text} (h : ¬ fence <:+: code) :
    WritesCode 0 (star ++ code) code := by
  have hmark : unmarked (star ++ code) = code := by
    rw [unmarked, unmark?_star, Option.getD_some]
  exact ⟨by rw [hmark, isFence_eq_false h], by rw [hmark, dropSpaces_zero]⟩

theorem writesCode_spaces {k : Nat} {code : Text} (hmark : ¬ [' ', '*'] <+: Text.spaces k ++ code)
    (h : ¬ fence <:+: code) : WritesCode k (Text.spaces k ++ code) code := by
  have hfence : ¬ fence <:+: Text.spaces k ++ code := not_fence_append _ (by simp [Text.spaces]) h
  refine ⟨?_, ?_⟩
  · rw [unmarked, unmark?_eq_none hmark, Option.getD_none, isFence_eq_false hfence]
  · rw [unmarked, unmark?_eq_none hmark, Option.getD_none, dropSpaces_spaces]

-- ---------------------------------------------------------------------------
-- How each part of a document is written
-- ---------------------------------------------------------------------------

section Written

variable {R : Text → Text → Prop} {ws ls : List Text}

theorem forall₂_of_mem {S : Text → Text → Prop} (h : List.Forall₂ R ws ls)
    (himp : ∀ w, ∀ l ∈ ls, R w l → S w l) : List.Forall₂ S ws ls := by
  induction h with
  | nil => exact .nil
  | cons hline _ ih =>
    exact .cons (himp _ _ List.mem_cons_self hline)
      (ih fun w l hm => himp w l (List.mem_cons_of_mem _ hm))

theorem writable_of_forall₂ (h : List.Forall₂ R ws ls) (hl : ∀ l ∈ ls, Writable l)
    (himp : ∀ w l, R w l → Writable l → Writable w) : ∀ w ∈ ws, Writable w := by
  induction h with
  | nil => simp
  | cons hline _ ih =>
    intro w hm
    rcases List.mem_cons.mp hm with rfl | hm
    · exact himp _ _ hline (hl _ List.mem_cons_self)
    · exact ih (fun l hm => hl l (List.mem_cons_of_mem _ hm)) w hm

theorem last_of_forall₂ {last : Text} (h : List.Forall₂ R ws ls) (hlast : ls.getLast? = some last)
    (hfirm : Text.Firm last) (himp : ∀ w l, R w l → Text.Firm l → Text.Firm w) :
    ∃ w, ws.getLast? = some w ∧ Text.Firm w := by
  have hrev : List.Forall₂ R ws.reverse ls.reverse := List.forall₂_reverse_iff.mpr h
  obtain ⟨init, rfl⟩ := List.getLast?_eq_some_iff.mp hlast
  rw [List.reverse_append, List.reverse_singleton, List.singleton_append,
    List.forall₂_cons_right_iff] at hrev
  obtain ⟨w, us, hline, -, hws⟩ := hrev
  refine ⟨w, ?_, himp w last hline hfirm⟩
  rw [List.getLast?_eq_head?_reverse, hws, List.head?_cons]

end Written

theorem Prose.getLast? (p : Prose) : p.lines.getLast? = some p.last :=
  List.getLast?_eq_some_getLast _

theorem Sample.getLast? (s : Sample) : s.code.getLast? = some s.last :=
  List.getLast?_eq_some_getLast _

theorem Sample.getLast?_lines (s : Sample) : s.lines.getLast? = some fence :=
  List.getLast?_concat

theorem getLast?_append_of_some {ls rest : List Text} {last : Text}
    (h : rest.getLast? = some last) : (ls ++ rest).getLast? = some last := by
  rw [List.getLast?_append, h, Option.some_or]

theorem Prose.writes_star (p : Prose) :
    List.Forall₂ WritesProse (p.lines.map (star ++ ·)) p.lines := by
  rw [List.forall₂_map_left_iff, List.forall₂_same]
  intro line hm
  have h := writesProse_star (p.plain line hm).fence
  rwa [widen_flush (p.flush line hm)] at h

theorem Prose.writes_margin (p : Prose) {later : List Text}
    (h : List.Forall₂ Margin later p.later) : List.Forall₂ WritesProse later p.later := by
  refine forall₂_of_mem h fun w line hm hmargin => ?_
  have hmem : line ∈ p.first :: p.later := List.mem_cons_of_mem _ hm
  exact hmargin.writesProse (p.plain line hmem).fence (p.flush line hmem)

theorem Sample.writes_column (s : Sample) {code : List Text} (h : List.Forall₂ Column code s.code) :
    List.Forall₂ WritesProse (code.map (star ++ ·)) (s.code.map (indent ++ ·)) := by
  rw [List.forall₂_map_left_iff, List.forall₂_map_right_iff]
  refine forall₂_of_mem h fun w line hm hcolumn => ?_
  have hwrites := writesProse_star (hcolumn.not_fence (s.plain_code line hm).fence)
  rwa [hcolumn.widen] at hwrites

theorem Sample.writes_star (s : Sample) :
    List.Forall₂ (WritesCode 0) (s.code.map (star ++ ·)) s.code := by
  rw [List.forall₂_map_left_iff, List.forall₂_same]
  exact fun line hm => writesCode_star (s.plain_code line hm).fence

theorem Sample.writes_spaces (s : Sample) {k : Nat} (h : s.ClearAt k) :
    List.Forall₂ (WritesCode k) (s.code.map (Text.spaces k ++ ·)) s.code := by
  rw [List.forall₂_map_left_iff, List.forall₂_same]
  exact fun line hm => writesCode_spaces (h line hm) (s.plain_code line hm).fence

theorem Prose.collapse_doc (p : Prose) (rest : List Text) :
    [] :: collapseRest none ((p.lines ++ rest).map (star ++ ·)) =
      [] :: p.lines ++ collapseRest none (rest.map (star ++ ·)) := by
  rw [List.map_append, collapseRest_prose p.writes_star, List.cons_append]

theorem Sample.collapse_doc (s : Sample) :
    collapseRest none (s.lines.map (star ++ ·)) = s.lines := by
  rw [Sample.lines, List.map_append, List.map_cons]
  exact collapseRest_fence (k := 0) (by rw [unmarked, unmark?_star]; rfl)
    (by rw [unmarked, unmark?_star]; rfl) s.writes_star

theorem Sample.collapse_spaces (s : Sample) {k : Nat} (h : s.ClearAt k) :
    collapseRest none (s.lines.map (Text.spaces k ++ ·)) = s.lines := by
  rw [Sample.lines, List.map_append, List.map_cons]
  have hclose : unmarked (Text.spaces k ++ fence) = Text.spaces k ++ fence := by
    simpa using unmarked_fence k []
  exact collapseRest_fence (unmarked_fence k s.info) hclose (s.writes_spaces h)

theorem Sample.collapse_column (s : Sample) {code : List Text}
    (h : List.Forall₂ Column code s.code) :
    collapseRest none (code.map (star ++ ·)) = s.code.map (indent ++ ·) := by
  have hrun := collapseRest_prose (s.writes_column h) []
  simpa [collapseRest] using hrun

theorem collapseRest_indent {cs : List Text} (h : ∀ c ∈ cs, ¬ fence <:+: c) :
    collapseRest none (cs.map (indent ++ ·)) = cs.map (indent ++ ·) := by
  have hwrites : List.Forall₂ WritesProse (cs.map (indent ++ ·)) (cs.map (indent ++ ·)) := by
    rw [List.forall₂_map_left_iff, List.forall₂_map_right_iff, List.forall₂_same]
    exact fun c hm => writesProse_indent (h c hm)
  have hrun := collapseRest_prose hwrites []
  simpa [collapseRest] using hrun

theorem Sample.collapse_indent (s : Sample) :
    collapseRest none (s.code.map (indent ++ ·)) = s.code.map (indent ++ ·) :=
  collapseRest_indent fun line hm => (s.plain_code line hm).fence

theorem Sample.fenced_lines (s : Sample) (ls : List Text) :
    fenced (ls ++ s.lines) = ls ++ s.lines := by
  have hopen : fence ++ s.info ∈ ls ++ s.lines := by simp [Sample.lines]
  exact fenced_of_mem hopen (List.prefix_append _ _)

def Flush (ls : List Text) : Prop := ∀ line ∈ ls, ¬ fence <:+: line ∧ line.head? ≠ some ' '

theorem Prose.flush_lines (p : Prose) : Flush p.lines :=
  fun line hm => ⟨(p.plain line hm).fence, p.flush line hm⟩

theorem Flush.nil_cons {ls : List Text} (h : Flush ls) : Flush ([] :: ls) := by
  intro line hm
  rcases List.mem_cons.mp hm with rfl | hm
  · exact ⟨by decide, by simp⟩
  · exact h line hm

theorem Flush.fenced {ls : List Text} (h : Flush ls) : fenced ls = ls := by
  have hinfer := inferFence_prose (fun p hm => (h p hm).2) []
  rw [fenced_of_free fun line hm => (h line hm).1]
  simpa [inferFence] using hinfer

theorem Flush.fenced_indent {ls cs : List Text} (h : Flush ls) (hcs : ∀ c ∈ cs, ¬ fence <:+: c)
    (hne : cs ≠ []) : Comment.fenced (ls ++ cs.map (indent ++ ·)) = ls ++ (fence :: cs ++ [fence]) := by
  have hfree : ∀ line ∈ ls ++ cs.map (indent ++ ·), ¬ fence <:+: line := by
    rw [List.forall_mem_append, List.forall_mem_map]
    exact ⟨fun line hm => (h line hm).1, fun c hm => not_fence_append _ (by decide) (hcs c hm)⟩
  rw [fenced_of_free hfree, inferFence_prose fun p hm => (h p hm).2, inferFence_code hne]

theorem Sample.fenced_indent (s : Sample) (hinfo : s.info = []) {ls : List Text} (h : Flush ls) :
    Comment.fenced (ls ++ s.code.map (indent ++ ·)) = ls ++ s.lines := by
  rw [h.fenced_indent (fun line hm => (s.plain_code line hm).fence) s.code_ne, Sample.lines, hinfo,
    List.append_nil]

-- ---------------------------------------------------------------------------
-- The lines of every spelling can be written
-- ---------------------------------------------------------------------------

theorem Prose.writable (p : Prose) : ∀ line ∈ p.lines, Writable line :=
  fun line hm => (p.plain line hm).writable

theorem Prose.writable_margin (p : Prose) {later : List Text}
    (h : List.Forall₂ Margin later p.later) : ∀ line ∈ p.first :: later, Writable line := by
  obtain ⟨hfirst, hlater⟩ := List.forall_mem_cons.mp p.writable
  exact List.forall_mem_cons.mpr
    ⟨hfirst, writable_of_forall₂ h hlater fun _ _ hmargin hline => hmargin.writable hline⟩

theorem Sample.writable_code (s : Sample) : ∀ line ∈ s.code, Writable line :=
  fun line hm => (s.plain_code line hm).writable

theorem Sample.writable_lines (s : Sample) : ∀ line ∈ s.lines, Writable line := by
  intro line hm
  simp only [Sample.lines, List.cons_append, List.mem_cons, List.mem_append, List.not_mem_nil,
    or_false] at hm
  rcases hm with rfl | hm | rfl
  · exact s.plain_info.writable.append fence (by decide) (by decide)
  · exact s.writable_code line hm
  · exact ⟨by decide, by decide⟩

theorem writable_map {lines : List Text} (h : ∀ line ∈ lines, Writable line) (lead : Text)
    (hstar : '*' ∉ lead) (hfeed : '\n' ∉ lead) : ∀ line ∈ lines.map (lead ++ ·), Writable line :=
  List.forall_mem_map.mpr fun line hm => (h line hm).append lead hstar hfeed

theorem Sample.writable_spaces (s : Sample) (k : Nat) :
    ∀ line ∈ s.lines.map (Text.spaces k ++ ·), Writable line :=
  writable_map s.writable_lines _ (by simp [Text.spaces]) (by simp [Text.spaces])

theorem Sample.writable_column (s : Sample) {code : List Text}
    (h : List.Forall₂ Column code s.code) : ∀ line ∈ code, Writable line :=
  writable_of_forall₂ h s.writable_code fun _ _ hcolumn hline => hcolumn.writable hline

theorem Spelled.enclosed {p : Prose} {s : Option Sample} {raw : Text} (h : Spelled p s raw) :
    ∃ inside, raw = ['/', '*'] ++ inside ++ ['*', '/'] ∧ ¬ ['*', '/'] <:+: inside := by
  have hdoc {lines : List Text} (hw : ∀ line ∈ lines, Writable line) :
      ∃ inside, docComment lines = ['/', '*'] ++ inside ++ ['*', '/'] ∧ ¬ ['*', '/'] <:+: inside :=
    ⟨_, docComment_eq lines, not_stop_docInside hw⟩
  have hplain {first : Text} {lines : List Text} (hw : ∀ line ∈ first :: lines, Writable line) :
      ∃ inside, plainComment (first :: lines) = ['/', '*'] ++ inside ++ ['*', '/'] ∧
        ¬ ['*', '/'] <:+: inside :=
    ⟨_, plainComment_eq first lines, not_stop_plainInside hw⟩
  cases h with
  | docProse => exact hdoc p.writable
  | plainProse _ hlater => exact hplain (p.writable_margin hlater)
  | docFenced s => exact hdoc (List.forall_mem_append.mpr ⟨p.writable, s.writable_lines⟩)
  | plainFenced s k hlater =>
    exact hplain (List.forall_mem_append.mpr ⟨p.writable_margin hlater, s.writable_spaces k⟩)
  | docIndented s _ _ hcode =>
    exact hdoc (List.forall_mem_append.mpr ⟨p.writable, s.writable_column hcode⟩)
  | plainIndented s _ _ hlater =>
    exact hplain (List.forall_mem_append.mpr
      ⟨p.writable_margin hlater, writable_map s.writable_code _ (by decide) (by decide)⟩)

-- ---------------------------------------------------------------------------
-- The normal form of every spelling
-- ---------------------------------------------------------------------------

theorem Prose.normalize_doc (p : Prose) (rest final : List Text) {last : Text}
    (hw : ∀ line ∈ rest, Writable line) (hl : (p.lines ++ rest).getLast? = some last)
    (hfirm : Text.Firm last)
    (hout : fenced ([] :: p.lines ++ collapseRest none (rest.map (star ++ ·))) =
      [] :: p.lines ++ final) :
    normalize .css (docComment (p.lines ++ rest)) = Text.unlines (p.lines ++ final) := by
  obtain ⟨c, hc, hblank, -⟩ := p.begins
  rw [← p.collapse_doc] at hout
  exact Comment.normalize_doc (List.forall_mem_append.mpr ⟨p.writable, hw⟩) hl hfirm hc (ne_feed hblank)
    hout

theorem Prose.normalize_plain (p : Prose) {later : List Text} (rest final : List Text)
    {last : Text} (hlater : List.Forall₂ Margin later p.later) (hw : ∀ line ∈ rest, Writable line)
    (hl : (p.first :: later ++ rest).getLast? = some last) (hfirm : Text.Firm last)
    (hout : fenced (p.lines ++ collapseRest none rest) = p.lines ++ final) :
    normalize .css (plainComment (p.first :: later ++ rest)) = Text.unlines (p.lines ++ final) := by
  obtain ⟨c, hc, hblank, hstar⟩ := p.begins
  have hcollapse : p.first :: collapseRest none (later ++ rest) =
      p.lines ++ collapseRest none rest := by
    rw [collapseRest_prose (p.writes_margin hlater), Prose.lines, List.cons_append]
  rw [← hcollapse] at hout
  exact Comment.normalize_plain (List.forall_mem_append.mpr ⟨p.writable_margin hlater, hw⟩) hl hfirm
    hc hblank hstar (p.plain p.first List.mem_cons_self).fence hout

theorem normalize_of_spelled {p : Prose} {s : Option Sample} {raw : Text} (h : Spelled p s raw) :
    normalize .css raw = document p s := by
  cases h with
  | docProse hlast =>
    have hfenced := p.flush_lines.nil_cons.fenced
    have hnormal := p.normalize_doc [] [] (by simp) (by simpa using p.getLast?) hlast
      (by simpa [collapseRest] using hfenced)
    simpa using hnormal
  | @plainProse later hlast hlater =>
    have hmargin : List.Forall₂ Margin (p.first :: later) p.lines := .cons (.inl rfl) hlater
    obtain ⟨w, hw, hfirm⟩ := last_of_forall₂ hmargin p.getLast? hlast fun _ _ h => h.firm
    have hfenced := p.flush_lines.fenced
    have hnormal := p.normalize_plain [] [] hlater (by simp) (by simpa using hw) hfirm
      (by simpa [collapseRest] using hfenced)
    simpa using hnormal
  | docFenced s =>
    refine p.normalize_doc s.lines s.lines s.writable_lines
      (getLast?_append_of_some s.getLast?_lines) (by decide) ?_
    rw [s.collapse_doc, s.fenced_lines]
  | plainFenced s k hlater hclear =>
    have hfirm : Text.Firm fence := by decide
    have hw : (s.lines.map (Text.spaces k ++ ·)).getLast? = some (Text.spaces k ++ fence) := by
      rw [List.getLast?_map, s.getLast?_lines, Option.map_some]
    refine p.normalize_plain _ s.lines hlater (s.writable_spaces k) (getLast?_append_of_some hw)
      (hfirm.append _) ?_
    rw [s.collapse_spaces hclear, s.fenced_lines]
  | @docIndented code s hinfo hlast hcode =>
    obtain ⟨w, hw, hfirm⟩ := last_of_forall₂ hcode s.getLast? hlast fun _ _ h => h.firm
    refine p.normalize_doc code s.lines (s.writable_column hcode)
      (getLast?_append_of_some hw) hfirm ?_
    rw [s.collapse_column hcode, s.fenced_indent hinfo p.flush_lines.nil_cons]
  | plainIndented s hinfo hlast hlater =>
    have hw : (s.code.map (indent ++ ·)).getLast? = some (indent ++ s.last) := by
      rw [List.getLast?_map, s.getLast?, Option.map_some]
    refine p.normalize_plain _ s.lines hlater
      (writable_map s.writable_code _ (by decide) (by decide)) (getLast?_append_of_some hw)
      (hlast.append indent) ?_
    rw [s.collapse_indent, s.fenced_indent hinfo p.flush_lines]

/-- Every way to write prose with an example has one normal form: in a doc
comment or a plain one, with fences at any indent or, for an example without
an info string, with none. -/
theorem normalize_spellings (p : Prose) (s : Sample) :
    normalize .css (docComment (p.lines ++ s.lines)) = Text.unlines (p.lines ++ s.lines) ∧
    (∀ (k : Nat) (later : List Text), List.Forall₂ Margin later p.later → s.ClearAt k →
      normalize .css (plainComment (p.first :: later ++ s.lines.map (Text.spaces k ++ ·))) =
        Text.unlines (p.lines ++ s.lines)) ∧
    (s.info = [] → Text.Firm s.last →
      (∀ code : List Text, List.Forall₂ Column code s.code →
        normalize .css (docComment (p.lines ++ code)) = Text.unlines (p.lines ++ s.lines)) ∧
      ∀ later : List Text, List.Forall₂ Margin later p.later →
        normalize .css (plainComment (p.first :: later ++ s.code.map (indent ++ ·))) =
          Text.unlines (p.lines ++ s.lines)) := by
  refine ⟨normalize_of_spelled (.docFenced s), ?_, fun hinfo hlast => ⟨?_, ?_⟩⟩
  · intro k later hlater hclear
    exact normalize_of_spelled (.plainFenced s k hlater hclear)
  · intro code hcode
    exact normalize_of_spelled (.docIndented s hinfo hlast hcode)
  · intro later hlater
    exact normalize_of_spelled (.plainIndented s hinfo hlast hlater)

theorem normalize_spellings_nested :
    normalize .css "/* Go\n b\n  ```\n  <b>\n   x\n  ```\n*/".toList =
        "Go\nb\n```\n<b>\n x\n```".toList ∧
      normalize .css "/**\n * Go\n * b\n *    <b>\n *      x\n */".toList =
        "Go\nb\n```\n<b>\n x\n```".toList := by
  let p : Prose :=
    { first := ['G', 'o'], later := [['b']], plain := by decide, flush := by decide
      begins := ⟨'G', rfl, by decide, by decide⟩ }
  let s : Sample :=
    { info := [], code := [['<', 'b', '>'], [' ', 'x']], plain_info := by decide
      plain_code := by decide, code_ne := by decide }
  have hclear : s.ClearAt 2 := by
    unfold Sample.ClearAt
    decide
  obtain ⟨-, hplain, hbare⟩ := normalize_spellings p s
  obtain ⟨hdoc, -⟩ := hbare rfl (by decide)
  refine ⟨?_, ?_⟩
  · exact hplain 2 [[' ', 'b']] (.cons (.inr ⟨rfl, by decide⟩) .nil) hclear
  · exact hdoc [[' ', ' ', ' ', '<', 'b', '>'], [' ', ' ', ' ', ' ', ' ', 'x']]
      (.cons (.inr ⟨rfl, by decide⟩) (.cons (.inl rfl) .nil))

end Swatchbook.Comment
