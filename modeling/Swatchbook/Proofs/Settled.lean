import Swatchbook.Proofs.Written
import Mathlib.Data.List.Basic
import Mathlib.Data.List.TakeWhile

/-!
# Settled comments

Every pass of the normal form only takes characters away, and backticks never.
So a text with a fence is its own normal form just if no pass finds anything
to take: no delimiter, no blank or star in front, and no margin in front of a
later line. That a text is a normal form is not enough for that.
-/

namespace Swatchbook

namespace Text

-- ---------------------------------------------------------------------------
-- Taking characters away
-- ---------------------------------------------------------------------------

/-- `s` is `t` without some of its characters, all of which satisfy `p`. -/
structure Sheds (p : Char → Bool) (t s : Text) : Prop where
  sublist : s.Sublist t
  content : (s.filter fun c => !p c) = t.filter fun c => !p c

namespace Sheds

variable {p q : Char → Bool} {t s u : Text}

theorem refl (t : Text) : Sheds p t t := ⟨.refl t, rfl⟩

theorem trans (h : Sheds p t s) (h' : Sheds p s u) : Sheds p t u :=
  ⟨h'.sublist.trans h.sublist, h'.content.trans h.content⟩

theorem append {t' s' : Text} (h : Sheds p t s) (h' : Sheds p t' s') :
    Sheds p (t ++ t') (s ++ s') :=
  ⟨h.sublist.append h'.sublist, by
    rw [List.filter_append, List.filter_append, h.content, h'.content]⟩

theorem of_all (h : t.all p = true) : Sheds p t [] := by
  refine ⟨List.nil_sublist t, ?_⟩
  rw [List.filter_nil, eq_comm, List.filter_eq_nil_iff]
  intro c hc
  simp [List.all_eq_true.mp h c hc]

theorem drop_front {lead : Text} (h : lead.all p = true) (t : Text) :
    Sheds p (lead ++ t) t := by
  simpa using (of_all h).append (refl t)

theorem drop_back {tail : Text} (h : tail.all p = true) (t : Text) :
    Sheds p (t ++ tail) t := by
  simpa using (refl t).append (of_all h)

theorem isInfix (h : Sheds p t s) {mark : Text} (hmark : mark.any p = false)
    (hm : mark <:+: t) : mark <:+: s := by
  obtain ⟨a, b, rfl⟩ := hm
  obtain ⟨ab, b', rfl, hab, hb⟩ := List.sublist_append_iff.mp h.sublist
  obtain ⟨a', m', rfl, ha, hm⟩ := List.sublist_append_iff.mp hab
  have hcontent := congrArg List.length h.content
  simp only [List.filter_append, List.length_append] at hcontent
  have hall : (mark.filter fun c => !p c) = mark :=
    List.filter_eq_self.mpr fun c hc => by simp [List.any_eq_false.mp hmark c hc]
  have ha := (ha.filter fun c => !p c).length_le
  have hb := (hb.filter fun c => !p c).length_le
  have hm' := List.length_filter_le (fun c => !p c) m'
  have hlen : mark.length ≤ m'.length := by
    rw [hall] at hcontent
    omega
  rw [← hm.eq_of_length_le hlen]
  exact ⟨a', b', rfl⟩

theorem dropWhile (h : ∀ c, q c = true → p c = true) (t : Text) : Sheds p t (t.dropWhile q) := by
  have hfront : (t.takeWhile q).all p = true :=
    List.all_eq_true.mpr fun c hc => h c (List.mem_takeWhile_imp hc)
  have hsplit := drop_front hfront (t.dropWhile q)
  rwa [List.takeWhile_append_dropWhile] at hsplit

theorem reverse (h : Sheds p t s) : Sheds p t.reverse s.reverse :=
  ⟨h.sublist.reverse, by rw [List.filter_reverse, List.filter_reverse, h.content]⟩

theorem trimEnd (h : ∀ c, isBlank c = true → p c = true) (t : Text) :
    Sheds p t (Text.trimEnd t) := by
  have hend := (dropWhile h t.reverse).reverse
  rwa [List.reverse_reverse] at hend

theorem trim (h : ∀ c, isBlank c = true → p c = true) (t : Text) : Sheds p t (Text.trim t) :=
  (dropWhile h t).trans (trimEnd h _)

theorem dropLead {lead : Text} (h : lead.all p = true) (t : Text) :
    Sheds p t (Text.dropLead lead t) := by
  rw [Text.dropLead]
  cases hafter : after? lead t with
  | none => exact refl t
  | some rest =>
    rw [after?_eq_some_iff.mp hafter]
    exact drop_front h rest

theorem unlines {ls ms : List Text} (h : List.Forall₂ (Sheds p) ls ms) :
    Sheds p (Text.unlines ls) (Text.unlines ms) := by
  induction h with
  | nil => exact refl _
  | @cons l m ls ms hline hrest ih =>
    cases hrest with
    | nil => simpa using hline
    | cons =>
      rw [unlines_cons_cons, unlines_cons_cons]
      exact hline.append ((refl ['\n']).append ih)

end Sheds

end Text

namespace Comment

open Text (Sheds)

-- ---------------------------------------------------------------------------
-- What the passes take
-- ---------------------------------------------------------------------------

def isMargin (c : Char) : Bool := Text.isBlank c || c == '*'

theorem isMargin_of_isSpace {c : Char} (h : isSpace c = true) : isMargin c = true := by
  rw [beq_iff_eq.mp h]
  decide

theorem sheds_body (t : Text) : Sheds isMargin t (body t) := by
  have htrim : Sheds isMargin t (Text.trim t) :=
    .trim (fun c hc => by simp [isMargin, hc]) t
  have hstar : Sheds isMargin (Text.trim t) (Text.dropLead ['*'] (Text.trim t)) :=
    .dropLead (by decide) _
  refine (htrim.trans hstar).trans (.dropWhile (fun c hc => ?_) _)
  rcases Bool.or_eq_true_iff.mp hc with h | h <;> rw [beq_iff_eq.mp h] <;> decide

theorem unmark?_eq_some {line rest : Text} (h : unmark? line = some rest) :
    line = star ++ rest ∨ line = [' ', '*'] ++ rest ∧ rest.head? ≠ some ' ' := by
  unfold unmark? at h
  split at h
  · next rest' hstar =>
    cases h
    exact .inl (Text.after?_eq_some_iff.mp hstar)
  · next hstar =>
    have hline := Text.after?_eq_some_iff.mp h
    refine .inr ⟨hline, fun hhead => ?_⟩
    obtain ⟨code, rfl⟩ := List.head?_eq_some_iff.mp hhead
    exact Text.after?_eq_none_iff.mp hstar ⟨code, by rw [hline]; rfl⟩

theorem sheds_unmarked (line : Text) : Sheds isMargin line (unmarked line) := by
  rw [unmarked]
  cases h : unmark? line with
  | none => exact .refl line
  | some rest =>
    rcases unmark?_eq_some h with rfl | ⟨rfl, -⟩
    · exact .drop_front (by decide) rest
    · exact .drop_front (by decide) rest

/-- Widening gives back at most what the star took. -/
theorem sheds_widen {line rest : Text} (h : unmark? line = some rest) :
    Sheds isMargin line (widen rest) := by
  rcases unmark?_eq_some h with rfl | ⟨rfl, hflush⟩
  · rw [widen]
    cases hcode : Text.after? [' ', ' ', ' '] rest with
    | none => exact .drop_front (by decide) rest
    | some code =>
      obtain rfl := Text.after?_eq_some_iff.mp hcode
      dsimp only
      split
      · exact .drop_front (by decide) _
      · have hlead : Sheds isMargin (star ++ [' ', ' ', ' ']) indent := ⟨by decide, by decide⟩
        simpa using hlead.append (.refl code)
  · rw [widen_flush hflush]
    exact .drop_front (by decide) rest

theorem sheds_collapse (line : Text) : Sheds isMargin line (collapse line) := by
  rw [collapse]
  cases h : unmark? line with
  | some rest => exact sheds_widen h
  | none =>
    dsimp only
    split
    · exact .refl line
    · exact .dropLead (by decide) line

theorem sheds_dropSpaces (n : Nat) (line : Text) : Sheds isMargin line (dropSpaces n line) := by
  induction n generalizing line with
  | zero =>
    rw [dropSpaces_zero]
    exact .refl line
  | succ n ih =>
    match line with
    | [] => exact .refl []
    | c :: line =>
      by_cases hc : c = ' '
      · subst hc
        have hspace : Sheds isMargin ([' '] ++ line) line := .drop_front (by decide) line
        exact hspace.trans (ih line)
      · have hself : dropSpaces (n + 1) (c :: line) = c :: line := by
          rw [dropSpaces]
          intro _ _ _ h
          exact hc (List.cons.inj h).1
        rw [hself]
        exact .refl _

theorem collapseRest_some (n : Nat) (line : Text) (rest : List Text) :
    collapseRest (some n) (line :: rest) = dropSpaces n (unmarked line) ::
      collapseRest (if isFence (unmarked line) then none else some n) rest := rfl

theorem collapseRest_none (line : Text) (rest : List Text) :
    collapseRest none (line :: rest) =
      if isFence (unmarked line) then
        (unmarked line).dropWhile isSpace ::
          collapseRest (some (leadingSpaces (unmarked line))) rest
      else collapse line :: collapseRest none rest := rfl

theorem sheds_collapseRest (opened : Option Nat) (lines : List Text) :
    List.Forall₂ (Sheds isMargin) lines (collapseRest opened lines) := by
  induction lines generalizing opened with
  | nil => exact .nil
  | cons line rest ih =>
    have hbody := sheds_unmarked line
    cases opened with
    | some n => exact .cons (hbody.trans (sheds_dropSpaces n _)) (ih _)
    | none =>
      rw [collapseRest_none]
      split
      · exact .cons (hbody.trans (.dropWhile (fun _ => isMargin_of_isSpace) _)) (ih _)
      · exact .cons (sheds_collapse line) (ih _)

theorem sheds_collapseLines (lines : List Text) :
    List.Forall₂ (Sheds isMargin) lines (collapseLines lines) := by
  cases lines with
  | nil => exact .nil
  | cons first rest =>
    rw [collapseLines]
    split
    · exact .cons (.dropWhile (fun _ => isMargin_of_isSpace) _) (sheds_collapseRest _ _)
    · exact .cons (.refl first) (sheds_collapseRest _ _)

-- ---------------------------------------------------------------------------
-- Delimiters
-- ---------------------------------------------------------------------------

theorem sheds_removeFirst {p : Char → Bool} {mark : Text} (h : mark.all p = true) (t : Text) :
    Sheds p t ((Delimiters.literalPattern mark).removeFirst t) := by
  rw [removeFirst_literal]
  cases hcut : Text.cut? mark t with
  | none => exact .refl t
  | some split =>
    obtain ⟨before, rest⟩ := split
    rw [(Text.cut?_sound hcut).1]
    simpa using (Sheds.drop_back h before).append (.refl rest)

theorem removeFirst_eq_self_iff {mark : Text} (hm : mark ≠ []) (t : Text) :
    (Delimiters.literalPattern mark).removeFirst t = t ↔ ¬ mark <:+: t := by
  rw [removeFirst_literal, ← Text.cut?_eq_none_iff hm]
  cases hcut : Text.cut? mark t with
  | none => simp
  | some split =>
    obtain ⟨before, rest⟩ := split
    have hlen := Text.length_of_cut? hcut
    have hpos := List.length_pos_iff.mpr hm
    simp only [reduceCtorEq, iff_false]
    intro hself
    have hsame := congrArg List.length hself
    rw [List.length_append] at hsame
    omega

theorem sheds_strip_css (t : Text) :
    Sheds (fun c => c == '/' || c == '*') t (Delimiters.css.strip t) :=
  (sheds_removeFirst (by decide) t).trans (sheds_removeFirst (by decide) _)

theorem strip_css_eq_self_iff (t : Text) :
    Delimiters.css.strip t = t ↔ ¬ ['/', '*'] <:+: t ∧ ¬ ['*', '/'] <:+: t := by
  have hstart := removeFirst_eq_self_iff (List.cons_ne_nil '/' ['*'])
  have hstop := removeFirst_eq_self_iff (List.cons_ne_nil '*' ['/'])
  rw [← hstart, ← hstop, Delimiters.strip, Delimiters.css, Delimiters.literal]
  constructor
  · intro h
    -- Both removals take characters away, so neither does if both together do not.
    have hsub (mark u : Text) : ((Delimiters.literalPattern mark).removeFirst u).Sublist u :=
      (@sheds_removeFirst (fun _ => true) mark (by simp) u).sublist
    have hback := hsub ['*', '/'] ((Delimiters.literalPattern ['/', '*']).removeFirst t)
    rw [h] at hback
    have hself := (hsub ['/', '*'] t).antisymm hback
    exact ⟨hself, by rwa [hself] at h⟩
  · rintro ⟨hfirst, hsecond⟩
    rw [hfirst, hsecond]

-- ---------------------------------------------------------------------------
-- Lines that lose nothing
-- ---------------------------------------------------------------------------

/-- Lines after the first that have nothing to lose. Behind an open fence a line has no
star; a fence has no margin; all other lines have none, or one of four columns. -/
def SettledRest : Bool → List Text → Prop
  | _, [] => True
  | true, line :: rest => ¬ [' ', '*'] <+: line ∧ SettledRest (!isFence line) rest
  | false, line :: rest =>
    if isFence line then line.head? ≠ some ' ' ∧ SettledRest true rest
    else (line.head? = some ' ' → indent <+: line) ∧ SettledRest false rest

def SettledLines : List Text → Prop
  | [] => True
  | first :: rest => SettledRest (isFence first) rest

instance decidableSettledRest : (opened : Bool) → (lines : List Text) →
    Decidable (SettledRest opened lines)
  | _, [] => .isTrue trivial
  | true, line :: rest =>
    have := decidableSettledRest (!isFence line) rest
    inferInstanceAs (Decidable (_ ∧ _))
  | false, line :: rest =>
    have := decidableSettledRest true rest
    have := decidableSettledRest false rest
    inferInstanceAs (Decidable (if isFence line then line.head? ≠ some ' ' ∧ SettledRest true rest
      else (line.head? = some ' ' → indent <+: line) ∧ SettledRest false rest))

instance : (lines : List Text) → Decidable (SettledLines lines)
  | [] => .isTrue trivial
  | first :: rest => decidableSettledRest (isFence first) rest

/-- A comment that is its own normal form. -/
structure Settled (t : Text) : Prop where
  start : ¬ ['/', '*'] <:+: t
  stop : ¬ ['*', '/'] <:+: t
  trimmed : Text.trim t = t
  star : t.head? ≠ some '*'
  lines : SettledLines (Text.lines t)

theorem settled_iff {t : Text} : Settled t ↔
    Text.holds ['/', '*'] t = false ∧ Text.holds ['*', '/'] t = false ∧ Text.trim t = t ∧
      t.head? ≠ some '*' ∧ SettledLines (Text.lines t) := by
  rw [Text.not_holds_iff (List.cons_ne_nil _ _), Text.not_holds_iff (List.cons_ne_nil _ _)]
  exact ⟨fun ⟨a, b, c, d, e⟩ => ⟨a, b, c, d, e⟩, fun ⟨a, b, c, d, e⟩ => ⟨a, b, c, d, e⟩⟩

instance (t : Text) : Decidable (Settled t) := decidable_of_iff _ settled_iff.symm

section

variable {line : Text}

theorem exists_unmark? (h : [' ', '*'] <+: line) : ∃ rest, unmark? line = some rest := by
  rw [unmark?]
  split
  · exact ⟨_, rfl⟩
  · obtain ⟨rest, rfl⟩ := h
    exact ⟨rest, Text.after?_append _ _⟩

theorem unmarked_of_not_prefix (h : ¬ [' ', '*'] <+: line) : unmarked line = line := by
  rw [unmarked, unmark?_eq_none h, Option.getD_none]

/-- A line behind a star gets shorter, inside a fence and outside. -/
theorem length_of_star (h : [' ', '*'] <+: line) :
    (unmarked line).length < line.length ∧ (collapse line).length < line.length := by
  obtain ⟨rest, hrest⟩ := exists_unmark? h
  have hwiden : (widen rest).length ≤ rest.length + 1 := by
    rw [widen]
    cases hcode : Text.after? [' ', ' ', ' '] rest with
    | none => simp
    | some code =>
      have hlen := Text.length_of_after? hcode
      dsimp only
      split
      · omega
      · simp only [indent, List.length_append, List.length_cons, List.length_nil] at hlen ⊢
        omega
  rw [unmarked, collapse, hrest, Option.getD_some]
  rcases unmark?_eq_some hrest with rfl | ⟨rfl, hflush⟩
  · simp only [star, List.length_append, List.length_cons, List.length_nil]
    omega
  · simp only [widen_flush hflush, List.length_append, List.length_cons, List.length_nil]
    omega

theorem isFence_of_star (h : [' ', '*'] <+: line) : isFence line = false := by
  obtain ⟨rest, rfl⟩ := h
  rfl

theorem collapse_eq_self_iff (h : ¬ [' ', '*'] <+: line) :
    collapse line = line ↔ (line.head? = some ' ' → indent <+: line) := by
  rw [collapse, unmark?_eq_none h]
  dsimp only
  split
  · next hindent => simp [List.isPrefixOf_iff_prefix.mp hindent]
  · next hindent =>
    rw [List.isPrefixOf_iff_prefix] at hindent
    rw [Text.dropLead_singleton_eq_self_iff]
    simp [hindent]

theorem dropWhile_isSpace_eq_self_iff : line.dropWhile isSpace = line ↔ line.head? ≠ some ' ' := by
  rw [List.dropWhile_eq_self_iff]
  cases line <;> simp [isSpace]

theorem leadingSpaces_eq_zero (h : line.head? ≠ some ' ') : leadingSpaces line = 0 := by
  cases line with
  | nil => rfl
  | cons c line =>
    have hc : c ≠ ' ' := fun e => h (by rw [e]; rfl)
    simp [leadingSpaces, isSpace, hc]

end

section

variable {line : Text} (rest : List Text)

theorem collapseRest_of_star (h : [' ', '*'] <+: line) (opened : Bool) :
    collapseRest (if opened then some 0 else none) (line :: rest) ≠ line :: rest ∧
      ¬ SettledRest opened (line :: rest) := by
  obtain ⟨hunmarked, hcollapse⟩ := length_of_star h
  have hother {other : Text} {more : List Text} (hlen : other.length < line.length) :
      other :: more ≠ line :: rest := by
    intro e
    rw [(List.cons.inj e).1] at hlen
    exact Nat.lt_irrefl _ hlen
  cases opened with
  | true =>
    rw [if_pos rfl, collapseRest_some, dropSpaces_zero]
    exact ⟨hother hunmarked, fun hsettled => hsettled.1 h⟩
  | false =>
    have hindent : ¬ (line.head? = some ' ' → indent <+: line) := by
      obtain ⟨tail, rfl⟩ := h
      simp [indent]
    refine ⟨?_, ?_⟩
    · rw [if_neg Bool.false_ne_true, collapseRest_none]
      split
      · exact hother (Nat.lt_of_le_of_lt (List.dropWhile_sublist _).length_le hunmarked)
      · exact hother hcollapse
    · rw [SettledRest, isFence_of_star h]
      exact fun hsettled => hindent hsettled.1

end

theorem collapseRest_eq_self_iff (opened : Bool) (lines : List Text) :
    collapseRest (if opened then some 0 else none) lines = lines ↔ SettledRest opened lines := by
  induction lines generalizing opened with
  | nil => cases opened <;> simp [collapseRest, SettledRest]
  | cons line rest ih =>
    by_cases hstar : [' ', '*'] <+: line
    · obtain ⟨hleft, hright⟩ := collapseRest_of_star rest hstar opened
      exact iff_of_false hleft hright
    · have hself := unmarked_of_not_prefix hstar
      cases opened with
      | true =>
        have hnext : (if isFence line then none else some 0) =
            if !isFence line then some 0 else none := by
          cases isFence line <;> rfl
        rw [if_pos rfl, collapseRest_some, hself, dropSpaces_zero, hnext, List.cons.injEq, ih,
          SettledRest]
        simp [hstar]
      | false =>
        rw [if_neg Bool.false_ne_true, collapseRest_none, hself, SettledRest]
        cases isFence line with
        | true =>
          simp only [if_true, List.cons.injEq, dropWhile_isSpace_eq_self_iff]
          refine and_congr_right fun hflush => ?_
          rw [leadingSpaces_eq_zero hflush]
          exact ih true
        | false =>
          simp only [Bool.false_eq_true, if_false, List.cons.injEq, collapse_eq_self_iff hstar]
          exact and_congr_right fun _ => ih false

theorem collapseLines_eq_self_iff {lines : List Text}
    (h : ∀ first, lines.head? = some first → first.head? ≠ some ' ') :
    collapseLines lines = lines ↔ SettledLines lines := by
  cases lines with
  | nil => simp [collapseLines, SettledLines]
  | cons first rest =>
    have hflush := h first rfl
    rw [collapseLines, SettledLines, ← collapseRest_eq_self_iff,
      dropWhile_isSpace_eq_self_iff.mpr hflush, leadingSpaces_eq_zero hflush]
    cases isFence first <;> simp

-- ---------------------------------------------------------------------------
-- Texts that lose nothing
-- ---------------------------------------------------------------------------

theorem head?_of_trim {t : Text} (h : Text.trim t = t) {c : Char} (hc : Text.isBlank c = true) :
    t.head? ≠ some c := by
  have hend : (Text.trim t).Sublist (Text.trimStart t) := (Sheds.trimEnd (fun _ h => h) _).sublist
  rw [h] at hend
  have hself : t.dropWhile Text.isBlank = t := (List.dropWhile_sublist _).antisymm hend
  rw [List.dropWhile_eq_self_iff] at hself
  cases t with
  | nil => simp
  | cons d t =>
    intro hd
    rw [List.head?_cons, Option.some.injEq] at hd
    exact hself (by simp) (by simpa [hd] using hc)

theorem body_eq_self_iff (t : Text) : body t = t ↔ Text.trim t = t ∧ t.head? ≠ some '*' := by
  rw [← Text.dropLead_singleton_eq_self_iff]
  constructor
  · intro h
    have htrim : (Text.trim t).Sublist t := (Sheds.trim (fun _ h => h) t).sublist
    have hstar (u : Text) : (Text.dropLead ['*'] u).Sublist u :=
      (@Sheds.dropLead (fun _ => true) ['*'] (by simp) u).sublist
    have hdrop : t.Sublist (Text.dropLead ['*'] (Text.trim t)) := by
      conv => lhs; rw [← h]
      exact List.dropWhile_sublist _
    have hself : Text.trim t = t := htrim.antisymm (hdrop.trans (hstar _))
    rw [hself] at hdrop
    exact ⟨hself, (hstar t).antisymm hdrop⟩
  · rintro ⟨htrim, hlead⟩
    rw [body, htrim, hlead, List.dropWhile_eq_self_iff]
    have hspace : t.head? ≠ some ' ' := head?_of_trim htrim (by decide)
    have htab : t.head? ≠ some '\t' := head?_of_trim htrim (by decide)
    cases t <;> simp_all

theorem fenced_of_fence {lines : List Text} (h : fence <:+: Text.unlines lines) :
    fenced lines = lines := by
  obtain ⟨line, hm, hline⟩ := (Text.infix_unlines (by simp [fence]) (by simp [fence])).mp h
  have hany : lines.any holdsFence = true :=
    List.any_eq_true.mpr ⟨line, hm, (Text.holds_iff (by simp [fence])).mpr hline⟩
  rw [fenced, hany, if_pos rfl]

theorem fence_infix_collapsed {t : Text} (h : fence <:+: t) :
    fence <:+: Text.unlines (collapseLines (Text.lines (body t))) := by
  have hmargin : fence.any isMargin = false := by decide
  have hbody : fence <:+: Text.unlines (Text.lines (body t)) := by
    rw [Text.unlines_lines]
    exact (sheds_body t).isInfix hmargin h
  exact (Sheds.unlines (sheds_collapseLines (Text.lines (body t)))).isInfix hmargin hbody

theorem ofStripped_of_fence {t : Text} (h : fence <:+: t) : ofStripped t =
    (Text.unlines (collapseLines (Text.lines (body t)))).dropWhile (· == '\n') := by
  rw [ofStripped, fenced_of_fence (fence_infix_collapsed h)]

theorem not_mem_of_sheds {p : Char → Bool} {ls ms : List Text}
    (h : List.Forall₂ (Sheds p) ls ms) (hl : ∀ l ∈ ls, '\n' ∉ l) : ∀ m ∈ ms, '\n' ∉ m := by
  induction h with
  | nil => exact fun m hm => absurd hm List.not_mem_nil
  | cons hline _ ih =>
    rw [List.forall_mem_cons] at hl ⊢
    exact ⟨fun hm => hl.1 (hline.sublist.subset hm), ih hl.2⟩

theorem collapseLines_eq_of_unlines {t : Text}
    (h : Text.unlines (collapseLines (Text.lines t)) = t) :
    collapseLines (Text.lines t) = Text.lines t := by
  have hsheds := sheds_collapseLines (Text.lines t)
  have hne : collapseLines (Text.lines t) ≠ [] := by
    intro hnil
    rw [hnil, List.forall₂_nil_right_iff] at hsheds
    exact Text.splitBy_ne_nil _ _ hsheds
  have hfeed := not_mem_of_sheds hsheds fun l hl => Text.not_mem_of_mem_splitBy hl
  conv => rhs; rw [← h]
  rw [Text.lines_unlines hne hfeed]

theorem head?_lines {t first : Text} (h : (Text.lines t).head? = some first) {c : Char}
    (hc : first.head? = some c) : t.head? = some c := by
  obtain ⟨rest, hrest⟩ := List.head?_eq_some_iff.mp h
  obtain ⟨tail, rfl⟩ := List.head?_eq_some_iff.mp hc
  rw [← Text.unlines_lines t, hrest]
  cases rest <;> simp

theorem collapseLines_lines_eq_self_iff {t : Text} (h : Text.trim t = t) :
    collapseLines (Text.lines t) = Text.lines t ↔ SettledLines (Text.lines t) := by
  refine collapseLines_eq_self_iff fun first hfirst hspace => ?_
  exact head?_of_trim h (by decide) (head?_lines hfirst hspace)

theorem Settled.collapseLines_eq {t : Text} (h : Settled t) :
    collapseLines (Text.lines (body (Delimiters.css.strip t))) = Text.lines t := by
  have hstrip := (strip_css_eq_self_iff t).mpr ⟨h.start, h.stop⟩
  have hbody := (body_eq_self_iff t).mpr ⟨h.trimmed, h.star⟩
  rw [hstrip, hbody, (collapseLines_lines_eq_self_iff h.trimmed).mpr h.lines]

/-- The passes that only take characters away leave a text alone just if it is settled. -/
theorem collapsed_eq_self_iff {t : Text} :
    (Text.unlines (collapseLines (Text.lines (body (Delimiters.css.strip t))))).dropWhile
      (· == '\n') = t ↔ Settled t := by
  constructor
  · intro hfix
    -- Every pass leaves a part of what it is given, and the last of them leaves the whole.
    have hfeeds : t.Sublist
        (Text.unlines (collapseLines (Text.lines (body (Delimiters.css.strip t))))) := by
      conv => lhs; rw [← hfix]
      exact List.dropWhile_sublist _
    have hlines := (Sheds.unlines
      (sheds_collapseLines (Text.lines (body (Delimiters.css.strip t))))).sublist
    rw [Text.unlines_lines] at hlines
    have hbody := (sheds_body (Delimiters.css.strip t)).sublist
    have hstrip : Delimiters.css.strip t = t :=
      (sheds_strip_css t).sublist.antisymm ((hfeeds.trans hlines).trans hbody)
    rw [hstrip] at hfeeds hlines hbody
    have hbody : body t = t := hbody.antisymm (hfeeds.trans hlines)
    rw [hbody] at hfeeds hlines
    have hcollapse := collapseLines_eq_of_unlines (hlines.antisymm hfeeds)
    obtain ⟨hstart, hstop⟩ := (strip_css_eq_self_iff t).mp hstrip
    obtain ⟨htrim, hstar⟩ := (body_eq_self_iff t).mp hbody
    exact ⟨hstart, hstop, htrim, hstar, (collapseLines_lines_eq_self_iff htrim).mp hcollapse⟩
  · intro h
    rw [h.collapseLines_eq, Text.unlines_lines, List.dropWhile_eq_self_iff]
    have hfeed : t.head? ≠ some '\n' := head?_of_trim h.trimmed (by decide)
    cases t <;> simp_all

/-- A text with a fence is its own normal form just if it is settled. -/
theorem normalize_css_eq_self_iff {t : Text} (h : fence <:+: t) :
    normalize .css t = t ↔ Settled t := by
  have hmark : (fence.any fun c => c == '/' || c == '*') = false := by decide
  have hstripped := (sheds_strip_css t).isInfix hmark h
  rw [normalize, ofStripped_of_fence hstripped, collapsed_eq_self_iff]

/-- A normal form with a fence is stable just if it is settled. -/
theorem normalize_normalize_iff {raw : Text} (h : fence <:+: normalize .css raw) :
    normalize .css (normalize .css raw) = normalize .css raw ↔ Settled (normalize .css raw) :=
  normalize_css_eq_self_iff h

theorem normalize_normalize_fenced :
    let raw := "/**\n * A\n *   ```x\n *    b\n *   ```\n */".toList
    fence <:+: normalize .css raw ∧ normalize .css (normalize .css raw) = normalize .css raw := by
  intro raw
  let inside := "*\n * A\n *   ```x\n *    b\n *   ```\n ".toList
  have hinside : raw = ['/', '*'] ++ inside ++ ['*', '/'] := by simp [raw, inside]
  have hfree : ¬ ['*', '/'] <:+: inside := (Text.not_holds_iff (by simp)).mp (by decide)
  have hraw : normalize .css raw = "A\n```x\n b\n```".toList := by
    rw [normalize, hinside, strip_css hfree]
    decide
  have hfence : fence <:+: normalize .css raw := by
    rw [hraw, ← Text.holds_iff (by simp [fence])]
    decide
  have hsettled : Settled (normalize .css raw) := by
    rw [hraw]
    decide
  exact ⟨hfence, (normalize_normalize_iff hfence).mpr hsettled⟩

/-- A normal form can have prose that is indented by a column, which a second pass takes. -/
theorem normalize_normalize_indented :
    let raw := "/* A\n  b\n```\nx\n```\n*/".toList
    fence <:+: normalize .css raw ∧ normalize .css (normalize .css raw) ≠ normalize .css raw := by
  intro raw
  let inside := " A\n  b\n```\nx\n```\n".toList
  have hinside : raw = ['/', '*'] ++ inside ++ ['*', '/'] := by simp [raw, inside]
  have hfree : ¬ ['*', '/'] <:+: inside := (Text.not_holds_iff (by simp)).mp (by decide)
  have hraw : normalize .css raw = "A\n b\n```\nx\n```".toList := by
    rw [normalize, hinside, strip_css hfree]
    decide
  have hfence : fence <:+: normalize .css raw := by
    rw [hraw, ← Text.holds_iff (by simp [fence])]
    decide
  refine ⟨hfence, ?_⟩
  rw [ne_eq, normalize_css_eq_self_iff hfence, hraw]
  decide

end Comment

end Swatchbook
