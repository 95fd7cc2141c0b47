import Swatchbook.Proofs.Spelling
import Swatchbook.Proofs.Inference

/-!
# The indentation of examples

An example without fences is known by its indentation, and what a comment
keeps of that hangs on how it begins. A doc comment keeps the indentation of
its first line, a plain one has lost it before lines are looked at, so that the
line is prose. Four columns behind a star are one short where the code goes on
with a space, and that space is lost.
-/

namespace Swatchbook

namespace Text

theorem unlines_append_cons (lead l : Text) (ls : List Text) :
    unlines ((lead ++ l) :: ls) = lead ++ unlines (l :: ls) := by
  cases ls <;> simp

end Text

namespace Comment

theorem Plain.spaces {line : Text} (h : Plain line) (k : Nat) : Plain (Text.spaces k ++ line) where
  feed := by simp [Text.spaces, h.feed]
  start := by
    rw [Text.infix_append_of_not_mem (by simp [Text.spaces])]
    exact h.start
  stop := by
    rw [Text.infix_append_of_not_mem (by simp [Text.spaces])]
    exact h.stop
  fence := not_fence_append _ (by simp [Text.spaces]) h.fence

-- ---------------------------------------------------------------------------
-- Doc comments
-- ---------------------------------------------------------------------------

theorem widen_spaces (code : Text) :
    widen (Text.spaces 3 ++ code) = indent ++ Text.dropLead [' '] code := by
  by_cases h : code.head? = some ' '
  · obtain ⟨rest, rfl⟩ := List.head?_eq_some_iff.mp h
    exact widen_indent rest
  · rw [Text.dropLead_singleton_eq_self_iff.mpr h]
    exact widen_three h

theorem feed_fenced {lines : List Text} (h : ∀ line ∈ lines, '\n' ∉ line) :
    ∀ line ∈ fence :: lines ++ [fence], '\n' ∉ line := by
  have hfence : '\n' ∉ fence := by decide
  rw [List.forall_mem_append, List.forall_mem_cons, List.forall_mem_singleton]
  exact ⟨⟨hfence, h⟩, hfence⟩

theorem Flush.map_widen {lines : List Text} (h : Flush lines) : lines.map widen = lines := by
  conv => rhs; rw [← List.map_id lines]
  exact List.map_congr_left fun line hm => widen_flush (h line hm).2

theorem normalize_doc_of_plain {lines final : List Text} {first last : Text} {c : Char}
    (hplain : ∀ line ∈ lines, Plain line) (hlast : lines.getLast? = some last)
    (hfirm : Text.Firm last) (hc : first.head? = some c) (hfeed : c ≠ '\n')
    (hout : fenced ([] :: lines.map widen) = [] :: first :: final) :
    normalize .css (docComment lines) = Text.unlines (first :: final) := by
  have hfree : ∀ line ∈ lines.map (star ++ ·), ¬ fence <:+: line :=
    List.forall_mem_map.mpr fun line hm => not_fence_append _ (by decide) (hplain line hm).fence
  have hcollapse : collapseRest none (lines.map (star ++ ·)) = lines.map widen := by
    rw [collapseRest_of_free hfree, List.map_map]
    refine List.map_congr_left fun line _ => ?_
    rw [Function.comp_apply, collapse, unmark?_star]
  refine normalize_doc (fun line hm => (hplain line hm).writable) hlast hfirm hc hfeed ?_
  rw [hcollapse, hout]

section

variable {code : List Text} {last : Text} (hcode : ∀ line ∈ code, Plain line)
  (hlast : code.getLast? = some last) (hfirm : Text.Firm last)

include hcode hlast hfirm

theorem normalize_doc_indented :
    normalize .css (docComment (code.map (indent ++ ·))) =
      Text.unlines (fence :: code ++ [fence]) := by
  have hne : code ≠ [] := by
    rintro rfl
    simp at hlast
  have hend : (code.map (indent ++ ·)).getLast? = some (indent ++ last) := by
    rw [List.getLast?_map, hlast, Option.map_some]
  have hwiden : (code.map (indent ++ ·)).map widen = code.map (indent ++ ·) := by
    rw [List.map_map]
    exact List.map_congr_left fun line _ => widen_indent line
  have hflush : Flush [[]] := Flush.nil_cons (List.forall_mem_nil _)
  refine normalize_doc_of_plain (List.forall_mem_map.mpr fun line hm => (hcode line hm).spaces 4)
    hend (hfirm.append _) rfl (c := '\x60') (by decide) ?_
  rw [hwiden]
  exact hflush.fenced_indent (fun line hm => (hcode line hm).fence) hne

theorem normalize_doc_columns {first : Text} {later : List Text}
    (hprose : ∀ line ∈ first :: later, Plain line ∧ line.head? ≠ some ' ') (hfirst : first ≠ []) :
    normalize .css (docComment (first :: later ++ code.map (Text.spaces 3 ++ ·))) =
      Text.unlines (first :: later ++ (fence :: code.map (Text.dropLead [' ']) ++ [fence])) := by
  have hne : code.map (Text.dropLead [' ']) ≠ [] := by
    rw [ne_eq, List.map_eq_nil_iff]
    rintro rfl
    simp at hlast
  obtain ⟨c, rest, rfl⟩ := List.exists_cons_of_ne_nil hfirst
  have hfeed : c ≠ '\n' := by
    rintro rfl
    exact (hprose _ List.mem_cons_self).1.feed List.mem_cons_self
  have hplain : ∀ line ∈ (c :: rest) :: later ++ code.map (Text.spaces 3 ++ ·), Plain line := by
    rw [List.forall_mem_append, List.forall_mem_map]
    exact ⟨fun line hm => (hprose line hm).1, fun line hm => (hcode line hm).spaces 3⟩
  have hend : ((c :: rest) :: later ++ code.map (Text.spaces 3 ++ ·)).getLast? =
      some (Text.spaces 3 ++ last) := by
    refine getLast?_append_of_some ?_
    rw [List.getLast?_map, hlast, Option.map_some]
  have hflush : Flush ((c :: rest) :: later) :=
    fun line hm => ⟨(hprose line hm).1.fence, (hprose line hm).2⟩
  have hwiden : (code.map (Text.spaces 3 ++ ·)).map widen =
      (code.map (Text.dropLead [' '])).map (indent ++ ·) := by
    rw [List.map_map, List.map_map]
    exact List.map_congr_left fun line _ => widen_spaces line
  have hfree : ∀ line ∈ code.map (Text.dropLead [' ']), ¬ fence <:+: line :=
    List.forall_mem_map.mpr fun line hm hfence =>
      (hcode line hm).fence (hfence.trans (Text.dropLead_suffix _ _).isInfix)
  refine normalize_doc_of_plain hplain hend (hfirm.append _) rfl hfeed ?_
  rw [List.map_append, hflush.map_widen, hwiden]
  exact hflush.nil_cons.fenced_indent hfree hne

end

/-- Code behind a star and four columns keeps all but one of its own spaces, so it comes out as
it was just if it has none. -/
theorem normalize_three_spaces {first last : Text} {later code : List Text}
    (hprose : ∀ line ∈ first :: later, Plain line ∧ line.head? ≠ some ' ') (hfirst : first ≠ [])
    (hcode : ∀ line ∈ code, Plain line) (hlast : code.getLast? = some last)
    (hfirm : Text.Firm last) :
    let raw := docComment (first :: later ++ code.map (Text.spaces 3 ++ ·))
    normalize .css raw =
        Text.unlines (first :: later ++ (fence :: code.map (Text.dropLead [' ']) ++ [fence])) ∧
      (normalize .css raw = Text.unlines (first :: later ++ (fence :: code ++ [fence])) ↔
        ∀ line ∈ code, line.head? ≠ some ' ') := by
  intro raw
  have hnormal : normalize .css raw = _ := normalize_doc_columns hcode hlast hfirm hprose hfirst
  refine ⟨hnormal, ?_⟩
  have hfeed {lines : List Text} (h : ∀ line ∈ lines, '\n' ∉ line) :
      ∀ line ∈ first :: later ++ (fence :: lines ++ [fence]), '\n' ∉ line :=
    List.forall_mem_append.mpr ⟨fun line hm => (hprose line hm).1.feed, feed_fenced h⟩
  have hdrop : ∀ line ∈ code.map (Text.dropLead [' ']), '\n' ∉ line :=
    List.forall_mem_map.mpr fun line hm hmem =>
      (hcode line hm).feed ((Text.dropLead_suffix _ _).subset hmem)
  rw [hnormal, Text.unlines_inj (by simp) (by simp) (hfeed hdrop)
    (hfeed fun line hm => (hcode line hm).feed), List.append_right_inj, List.append_left_inj,
    List.cons.injEq, and_iff_right rfl]
  conv => lhs; rhs; rw [← List.map_id code]
  rw [List.map_inj_left]
  simp only [id_eq, Text.dropLead_singleton_eq_self_iff]

theorem normalize_three_spaces_flat :
    normalize .css "/**\n * A\n *    <b>\n *    x\n */".toList = "A\n```\n<b>\nx\n```".toList := by
  have hprose : ∀ line ∈ [['A']], Plain line ∧ line.head? ≠ some ' ' := by decide
  have hcode : ∀ line ∈ [['<', 'b', '>'], ['x']], Plain line := by decide
  exact (normalize_three_spaces hprose (by decide) hcode rfl (by decide)).2.mpr (by decide)

/-- A nested line of code comes out a column short. -/
theorem normalize_three_spaces_nested :
    let prose : List Text := [['A']]
    let code : List Text := [['<', 'b', '>'], [' ', ' ', 'x']]
    (∀ line ∈ prose, Plain line ∧ line.head? ≠ some ' ') ∧ (∀ line ∈ code, Plain line) ∧
      code.head? = some ['<', 'b', '>'] ∧ Text.Firm [' ', ' ', 'x'] ∧
      normalize .css (docComment (prose ++ code.map (Text.spaces 3 ++ ·))) ≠
        Text.unlines (prose ++ (fence :: code ++ [fence])) := by
  intro prose code
  have hprose : ∀ line ∈ prose, Plain line ∧ line.head? ≠ some ' ' := by decide
  have hcode : ∀ line ∈ code, Plain line := by decide
  have hfirm : Text.Firm [' ', ' ', 'x'] := by decide
  refine ⟨hprose, hcode, rfl, hfirm, ?_⟩
  rw [normalize_doc_columns hcode rfl hfirm hprose (by decide)]
  decide

-- ---------------------------------------------------------------------------
-- Plain comments
-- ---------------------------------------------------------------------------

/-- A plain comment whose lines begin below its beginning. -/
def openComment (lines : List Text) : Text :=
  ['/', '*', '\n'] ++ lines.flatMap (· ++ ['\n']) ++ ['*', '/']

theorem openComment_eq (lines : List Text) :
    openComment lines = ['/', '*'] ++ Text.unlines ([] :: lines ++ [[]]) ++ ['*', '/'] := by
  rw [Text.unlines_concat]
  simp [openComment]

theorem opening_append_feed (t rest : Text) :
    opening (t ++ '\n' :: rest) = opening t ++ '\n' :: rest := by
  have hdrop (u : Text) : (u ++ '\n' :: rest).dropWhile (fun c => c == ' ' || c == '\t') =
      u.dropWhile (fun c => c == ' ' || c == '\t') ++ '\n' :: rest := by
    rw [List.dropWhile_append]
    split
    · next h => rw [List.isEmpty_iff.mp h]; rfl
    · rfl
  have hlead : Text.dropLead ['*'] (t ++ '\n' :: rest) = Text.dropLead ['*'] t ++ '\n' :: rest := by
    cases t with
    | nil => rfl
    | cons c t =>
      by_cases hc : c = '*'
      · subst hc
        rfl
      · simp [Text.dropLead, Text.after?_cons_cons, Ne.symm hc]
  rw [opening, hlead, hdrop, opening]

theorem opening_unlines (first : Text) (rest : List Text) :
    opening (Text.unlines (first :: rest)) = Text.unlines (opening first :: rest) := by
  cases rest with
  | nil => simp
  | cons line rest => rw [Text.unlines_cons_cons, opening_append_feed, Text.unlines_cons_cons]

theorem opening_trimStart_suffix (t : Text) : opening (Text.trimStart t) <:+ t :=
  (opening_suffix _).trans (List.dropWhile_suffix _)

section

variable {first last : Text} {rest : List Text} (hfirst : Text.allBlank first = false)
  (hlast : (first :: rest).getLast? = some last) (hfirm : Text.Firm last)

include hfirst hlast hfirm

theorem body_open :
    body (Text.unlines ([] :: (first :: rest).map (indent ++ ·) ++ [[]])) =
      Text.unlines (opening (Text.trimStart first) :: rest.map (indent ++ ·)) := by
  obtain ⟨c, tail, htail, hc⟩ := Text.exists_trimStart hfirst
  obtain ⟨u, hu⟩ : ∃ u, Text.unlines ((c :: tail) :: rest.map (indent ++ ·)) = c :: u :=
    ⟨_, Text.unlines_append_cons [c] tail _⟩
  let blanks := indent ++ first.takeWhile Text.isBlank
  have hblanks : Text.allBlank (['\n'] ++ blanks) = true := by
    have htake : (first.takeWhile Text.isBlank).all Text.isBlank = true :=
      List.all_eq_true.mpr fun _ hm => List.mem_takeWhile_imp hm
    simp only [Text.allBlank, blanks, List.all_append, htake, Bool.and_true]
    decide
  have hline : indent ++ first = blanks ++ c :: tail := by
    rw [← htail, List.append_assoc, Text.trimStart, List.takeWhile_append_dropWhile]
  have hlines : Text.unlines ((first :: rest).map (indent ++ ·)) = blanks ++ c :: u := by
    rw [List.map_cons, hline, Text.unlines_append_cons, hu]
  have hwhole : Text.Firm (blanks ++ c :: u) := by
    have hend : ((first :: rest).map (indent ++ ·)).getLast? = some (indent ++ last) := by
      rw [List.getLast?_map, hlast, Option.map_some]
    rw [← hlines]
    exact Text.firm_unlines hend (hfirm.append indent)
  have hinside : Text.unlines ([] :: (first :: rest).map (indent ++ ·) ++ [[]]) =
      (['\n'] ++ blanks) ++ (c :: u) ++ ['\n'] := by
    rw [Text.unlines_append (by simp) (by simp), List.map_cons, Text.unlines_cons_cons,
      ← List.map_cons (f := (indent ++ ·)), hlines]
    simp
  rw [body_eq, hinside, Text.trim_pad hblanks (by decide),
    Text.trim_eq_self hc (hwhole.of_append (List.cons_ne_nil _ _)), htail, ← hu, opening_unlines]

theorem normalize_open_indented (hcode : ∀ line ∈ first :: rest, Plain line) :
    normalize .css (openComment ((first :: rest).map (indent ++ ·))) =
      (Text.unlines (opening (Text.trimStart first) ::
        if rest = [] then [] else fence :: rest ++ [fence])).dropWhile (· == '\n') := by
  have hwritable : ∀ line ∈ [] :: (first :: rest).map (indent ++ ·) ++ [[]], Writable line := by
    have hnil : Writable [] := ⟨by decide, by decide⟩
    rw [List.forall_mem_append, List.forall_mem_cons, List.forall_mem_map, List.forall_mem_singleton]
    exact ⟨⟨hnil, fun line hm => ((hcode line hm).spaces 4).writable⟩, hnil⟩
  rw [List.forall_mem_cons] at hcode
  have hsuffix := opening_trimStart_suffix first
  have hfence : ¬ fence <:+: opening (Text.trimStart first) :=
    fun hm => hcode.1.fence (hm.trans hsuffix.isInfix)
  have hfeed : ∀ line ∈ opening (Text.trimStart first) :: rest.map (indent ++ ·), '\n' ∉ line := by
    rw [List.forall_mem_cons, List.forall_mem_map]
    exact ⟨fun hm => hcode.1.feed (hsuffix.subset hm),
      fun line hm => ((hcode.2 line hm).spaces 4).feed⟩
  have hflush : Flush [opening (Text.trimStart first)] := by
    rw [Flush, List.forall_mem_singleton]
    exact ⟨hfence, head?_opening _⟩
  have hfree : ∀ line ∈ rest, ¬ fence <:+: line := fun line hm => (hcode.2 line hm).fence
  rw [normalize, openComment_eq, strip_css (not_stop_unlines hwritable), ofStripped,
    body_open hfirst hlast hfirm, Text.lines_unlines (List.cons_ne_nil _ _) hfeed, collapseLines,
    isFence_eq_false hfence, if_neg Bool.false_ne_true, collapseRest_indent hfree]
  split
  · next h =>
    subst h
    rw [List.map_nil, hflush.fenced]
  · next h =>
    rw [← List.singleton_append, hflush.fenced_indent hfree h, List.singleton_append]

end

theorem opened_ne_fenced {opened first : Text} {rest : List Text} (hfence : ¬ fence <:+: opened)
    (hfeed : '\n' ∉ opened) (hrest : ∀ line ∈ first :: rest, '\n' ∉ line) :
    (Text.unlines (opened :: if rest = [] then [] else fence :: rest ++ [fence])).dropWhile
      (· == '\n') ≠ Text.unlines (fence :: (first :: rest) ++ [fence]) := by
  intro hsame
  have hsample := feed_fenced hrest
  rw [List.forall_mem_cons] at hrest
  cases opened with
  | cons c tail =>
    have hc : c ≠ '\n' := fun h => hfeed (h ▸ List.mem_cons_self)
    have hlines : ∀ line ∈ (c :: tail) :: if rest = [] then [] else fence :: rest ++ [fence],
        '\n' ∉ line := by
      rw [List.forall_mem_cons]
      refine ⟨hfeed, ?_⟩
      split
      · exact List.forall_mem_nil _
      · exact feed_fenced hrest.2
    rw [dropWhile_feed_unlines rfl hc, Text.unlines_inj (by simp) (by simp) hlines hsample] at hsame
    rw [(List.cons.inj hsame).1] at hfence
    exact hfence List.infix_rfl
  | nil =>
    by_cases hnil : rest = []
    · subst hnil
      simp [fence] at hsame
    · -- The empty line goes, and what is left has a line less than the example.
      rw [if_neg hnil, List.cons_append, Text.unlines_cons_cons, List.nil_append,
        List.dropWhile_cons_of_pos (by decide), dropWhile_feed_unlines rfl (c := '\x60') (by decide),
        ← List.cons_append, Text.unlines_inj (by simp) (by simp) (feed_fenced hrest.2) hsample] at hsame
      simpa using congrArg List.length hsame

/-- An example that is all a comment holds gets its fence in a doc comment. In a plain one its
first line is prose, so that the fence begins below it, or not at all. -/
theorem normalize_bare {first last : Text} {rest : List Text}
    (hcode : ∀ line ∈ first :: rest, Plain line) (hfirst : Text.allBlank first = false)
    (hlast : (first :: rest).getLast? = some last) (hfirm : Text.Firm last) :
    let lines := (first :: rest).map (indent ++ ·)
    let sample := Text.unlines (fence :: (first :: rest) ++ [fence])
    normalize .css (docComment lines) = sample ∧
      normalize .css (openComment lines) =
        (Text.unlines (opening (Text.trimStart first) ::
          if rest = [] then [] else fence :: rest ++ [fence])).dropWhile (· == '\n') ∧
      normalize .css (openComment lines) ≠ sample := by
  intro lines sample
  have hopen := normalize_open_indented hfirst hlast hfirm hcode
  refine ⟨normalize_doc_indented hcode hlast hfirm, hopen, ?_⟩
  rw [hopen]
  have hsuffix := opening_trimStart_suffix first
  have hplain := hcode first List.mem_cons_self
  exact opened_ne_fenced (fun hm => hplain.fence (hm.trans hsuffix.isInfix))
    (fun hm => hplain.feed (hsuffix.subset hm)) fun line hm => (hcode line hm).feed

theorem normalize_bare_nested :
    normalize .css "/**\n *     <b>\n *       x\n */".toList = "```\n<b>\n  x\n```".toList ∧
      normalize .css "/*\n    <b>\n      x\n*/".toList = "<b>\n```\n  x\n```".toList := by
  let code : List Text := [['<', 'b', '>'], [' ', ' ', 'x']]
  have hdocRaw : "/**\n *     <b>\n *       x\n */".toList = docComment (code.map (indent ++ ·)) := by
    decide
  have hopenRaw : "/*\n    <b>\n      x\n*/".toList = openComment (code.map (indent ++ ·)) := by
    decide
  have hcode : ∀ line ∈ code, Plain line := by decide
  obtain ⟨hdoc, hopen, -⟩ := normalize_bare hcode (by decide) rfl (by decide)
  rw [hdocRaw, hdoc, hopenRaw, hopen]
  decide

/-- An example of one line is no example at all in a plain comment. -/
theorem normalize_bare_lost :
    let code : Text := ['<', 'b', '>']
    Plain code ∧ Text.allBlank code = false ∧ Text.Firm code ∧
      normalize .css (openComment [indent ++ code]) = code ∧
      normalize .css (openComment [indent ++ code]) ≠ Text.unlines [fence, code, fence] := by
  intro code
  have hcode : ∀ line ∈ [code], Plain line := by decide
  have hfirm : Text.Firm code := by decide
  have hopen : normalize .css (openComment [indent ++ code]) = code := by
    have hlast : [code].getLast? = some code := rfl
    have hnormal := normalize_open_indented (by decide) hlast hfirm hcode
    rw [List.map_cons, List.map_nil] at hnormal
    rw [hnormal]
    decide
  refine ⟨hcode _ List.mem_cons_self, by decide, hfirm, hopen, ?_⟩
  rw [hopen]
  decide

end Comment

end Swatchbook
