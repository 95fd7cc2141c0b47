import Swatchbook.Text
import Mathlib.Data.List.Basic
import Mathlib.Data.List.Flatten
import Mathlib.Data.List.TakeWhile

/-!
# Laws of texts

`cut?` finds the first place where a mark stands, pieces and among them lines
come back from the text they are joined to, and trimming sees only the ends of
a text, so that its words stay. A mark without a line feed stands in joined
lines only where it stands in a line.
-/

namespace Swatchbook.Text

variable {lead mark t before rest : Text}

-- ---------------------------------------------------------------------------
-- Leads and marks
-- ---------------------------------------------------------------------------

theorem after?_eq_some_iff : after? lead t = some rest ↔ t = lead ++ rest := by
  induction lead generalizing t with
  | nil => simp [eq_comm]
  | cons a lead ih =>
    cases t with
    | nil => simp
    | cons b t =>
      by_cases hab : a = b
      · simp [after?_cons_cons, hab, ih]
      · simp [after?_cons_cons, hab, Ne.symm hab]

@[simp] theorem after?_append (lead rest : Text) : after? lead (lead ++ rest) = some rest :=
  after?_eq_some_iff.mpr rfl

theorem after?_eq_none_iff : after? lead t = none ↔ ¬ lead <+: t := by
  constructor
  · rintro h ⟨rest, rfl⟩
    simp at h
  · intro h
    cases hc : after? lead t with
    | none => rfl
    | some rest => exact absurd ⟨rest, (after?_eq_some_iff.mp hc).symm⟩ h

theorem dropLead_cases (lead t : Text) : t = lead ++ dropLead lead t ∨ dropLead lead t = t := by
  rw [dropLead]
  cases h : after? lead t with
  | none => exact .inr rfl
  | some rest => exact .inl (after?_eq_some_iff.mp h)

theorem dropLead_suffix (lead t : Text) : dropLead lead t <:+ t := by
  rw [dropLead]
  cases h : after? lead t with
  | none => exact List.suffix_rfl
  | some rest => exact ⟨lead, (after?_eq_some_iff.mp h).symm⟩

theorem dropLead_singleton_eq_self_iff {c : Char} : dropLead [c] t = t ↔ t.head? ≠ some c := by
  cases t with
  | nil => simp [dropLead]
  | cons d t =>
    by_cases hc : d = c
    · subst hc
      simp [dropLead, after?_cons_cons]
    · simp [dropLead, after?_cons_cons, hc, Ne.symm hc]

theorem cut?_of_after? (h : after? mark t = some rest) : cut? mark t = some ([], rest) := by
  cases t with
  | nil =>
    have hnil := after?_eq_some_iff.mp h
    simp only [List.nil_eq, List.append_eq_nil_iff] at hnil
    simp [cut?, hnil]
  | cons c t => simp [cut?, h]

theorem cut?_cons_of_not_stands {c : Char} (h : ¬ mark <+: c :: t) :
    cut? mark (c :: t) = (cut? mark t).map fun (before, rest) => (c :: before, rest) := by
  rw [cut?, after?_eq_none_iff.mpr h]

theorem cut?_sound (h : cut? mark t = some (before, rest)) :
    t = before ++ mark ++ rest ∧ ∀ k < before.length, ¬ mark <+: t.drop k := by
  induction t generalizing before with
  | nil =>
    simp only [cut?] at h
    split at h
    · simp_all
    · simp at h
  | cons c t ih =>
    by_cases hc : mark <+: c :: t
    · obtain ⟨after, ht⟩ := hc
      rw [cut?_of_after? (after?_eq_some_iff.mpr ht.symm)] at h
      simp only [Option.some.injEq, Prod.mk.injEq] at h
      obtain ⟨rfl, rfl⟩ := h
      exact ⟨ht.symm, by simp⟩
    · rw [cut?_cons_of_not_stands hc] at h
      simp only [Option.map_eq_some_iff, Prod.mk.injEq, Prod.exists] at h
      obtain ⟨b, r, hb, rfl, rfl⟩ := h
      obtain ⟨rfl, hfirst⟩ := ih hb
      refine ⟨by simp, fun k hk => ?_⟩
      cases k with
      | zero => exact hc
      | succ k => exact hfirst k (by simpa using hk)

theorem cut?_complete (h : ∀ k < before.length, ¬ mark <+: (before ++ mark ++ rest).drop k) :
    cut? mark (before ++ mark ++ rest) = some (before, rest) := by
  induction before with
  | nil =>
    exact cut?_of_after? (by simp)
  | cons c before ih =>
    have h0 : ¬ mark <+: c :: (before ++ mark ++ rest) := by simpa using h 0 (by simp)
    have hlater : ∀ k < before.length, ¬ mark <+: (before ++ mark ++ rest).drop k :=
      fun k hk => by simpa using h (k + 1) (by simpa using hk)
    rw [List.cons_append, List.cons_append, cut?_cons_of_not_stands h0, ih hlater]
    rfl

theorem cut?_eq_some_iff : cut? mark t = some (before, rest) ↔
    t = before ++ mark ++ rest ∧ ∀ k < before.length, ¬ mark <+: t.drop k := by
  constructor
  · exact cut?_sound
  · rintro ⟨rfl, h⟩
    exact cut?_complete h

theorem cut?_eq_none_iff (hm : mark ≠ []) : cut? mark t = none ↔ ¬ mark <:+: t := by
  induction t with
  | nil => simp [cut?, hm]
  | cons c t ih =>
    rw [List.infix_cons_iff, not_or]
    by_cases hc : mark <+: c :: t
    · cases ha : after? mark (c :: t) with
      | none => exact absurd hc (after?_eq_none_iff.mp ha)
      | some after => simp [cut?_of_after? ha, hc]
    · simp [cut?_cons_of_not_stands hc, ih, hc]

theorem holds_iff (hm : mark ≠ []) : holds mark t = true ↔ mark <:+: t := by
  rw [holds, Option.isSome_iff_ne_none, ne_eq, cut?_eq_none_iff hm, Decidable.not_not]

theorem not_holds_iff (hm : mark ≠ []) : holds mark t = false ↔ ¬ mark <:+: t := by
  rw [← holds_iff hm, Bool.not_eq_true]

theorem cut?_change_rest (h : cut? mark t = some (before, rest)) (other : Text) :
    cut? mark (before ++ mark ++ other) = some (before, other) := by
  obtain ⟨rfl, hfirst⟩ := cut?_sound h
  refine cut?_complete fun k hk hs => hfirst k hk ?_
  have hle : k ≤ (before ++ mark).length := by
    rw [List.length_append]
    omega
  rw [List.drop_append_of_le_length hle] at hs ⊢
  have hin : mark <+: (before ++ mark).drop k := by
    refine List.prefix_of_prefix_length_le hs (List.prefix_append _ _) ?_
    rw [List.length_drop, List.length_append]
    omega
  exact hin.trans (List.prefix_append _ _)

theorem not_infix_of_cut? (hm : mark ≠ []) (h : cut? mark t = some (before, rest)) :
    ¬ mark <:+: before := by
  rintro ⟨a, b, rfl⟩
  obtain ⟨rfl, hfirst⟩ := cut?_sound h
  refine hfirst a.length ?_ ?_
  · have := List.length_pos_iff.mpr hm
    simp only [List.length_append]
    omega
  · simp

/-- A mark is first found behind a text that lacks it, even with all but the
last character of the mark put to its end. -/
theorem cut?_of_free (hm : mark ≠ []) (h : ¬ mark <:+: before ++ mark.dropLast) (rest : Text) :
    cut? mark (before ++ mark ++ rest) = some (before, rest) := by
  refine cut?_complete fun k hk hs => h ?_
  -- A mark that starts inside `before` ends before the last character of the one behind it.
  have hsplit : before ++ mark ++ rest = before ++ mark.dropLast ++ (mark.getLast hm :: rest) := by
    conv => lhs; rw [← List.dropLast_concat_getLast hm]
    simp
  have hpos := List.length_pos_iff.mpr hm
  have hle : k ≤ (before ++ mark.dropLast).length := by
    simp only [List.length_append, List.length_dropLast]
    omega
  rw [hsplit, List.drop_append_of_le_length hle] at hs
  have hin : mark <+: (before ++ mark.dropLast).drop k := by
    refine List.prefix_of_prefix_length_le hs (List.prefix_append _ _) ?_
    simp only [List.length_drop, List.length_append, List.length_dropLast]
    omega
  exact hin.isInfix.trans (List.drop_suffix _ _).isInfix

/-- For a mark of two characters it is enough that the text before it lacks it. -/
theorem cut?_pair {a b : Char} (hab : a ≠ b) (h : ¬ [a, b] <:+: before) (rest : Text) :
    cut? [a, b] (before ++ a :: b :: rest) = some (before, rest) := by
  have hfree : ¬ [a, b] <:+: before ++ [a] := by
    rw [List.infix_concat_iff]
    rintro (hs | hs)
    · have hl := hs.getLast (by simp)
      simp at hl
      exact hab hl.symm
    · exact h hs
  simpa using cut?_of_free (by simp) hfree rest

-- ---------------------------------------------------------------------------
-- Pieces
-- ---------------------------------------------------------------------------

section

variable {c : Char}

theorem splitBy_eq_splitOnP (p : Char → Bool) (t : Text) : splitBy p t = t.splitOnP p := by
  induction t with
  | nil => rfl
  | cons d t ih =>
    rw [splitBy, ih, List.splitOnP_cons_eq_if_modifyHead]
    split
    · rfl
    · obtain ⟨piece, pieces, hp⟩ := List.exists_cons_of_ne_nil (List.splitOnP_ne_nil p t)
      rw [hp]
      rfl

theorem splitBy_ne_nil (p : Char → Bool) (t : Text) : splitBy p t ≠ [] := by
  rw [splitBy_eq_splitOnP]
  exact List.splitOnP_ne_nil p t

theorem splitBy_append_cons (a b : Text) :
    splitBy (· == c) (a ++ c :: b) = splitBy (· == c) a ++ splitBy (· == c) b := by
  simp only [splitBy_eq_splitOnP]
  exact List.splitOnP_append_cons a b (beq_self_eq_true c)

theorem splitBy_of_not_mem {piece : Text} (h : c ∉ piece) :
    splitBy (· == c) piece = [piece] := by
  rw [splitBy_eq_splitOnP]
  refine List.splitOnP_eq_singleton fun d hd => ?_
  rw [beq_eq_false_iff_ne]
  exact fun e => h (e ▸ hd)

theorem splitBy_join {pieces : List Text} (hne : pieces ≠ []) (h : ∀ piece ∈ pieces, c ∉ piece) :
    splitBy (· == c) (join [c] pieces) = pieces := by
  rw [splitBy_eq_splitOnP]
  exact List.splitOn_intercalate c h hne

theorem join_splitBy (c : Char) (t : Text) : join [c] (splitBy (· == c) t) = t := by
  rw [splitBy_eq_splitOnP]
  exact List.intercalate_splitOn c

theorem not_mem_of_mem_splitBy {t piece : Text} (h : piece ∈ splitBy (· == c) t) : c ∉ piece := by
  induction t generalizing piece with
  | nil =>
    rw [List.mem_singleton.mp h]
    exact List.not_mem_nil
  | cons d t ih =>
    rw [splitBy] at h
    split at h
    · rcases List.mem_cons.mp h with rfl | h
      · exact List.not_mem_nil
      · exact ih h
    · next hd =>
      have hdc : c ≠ d := by
        rintro rfl
        simp at hd
      obtain ⟨first, rest, hp⟩ := List.exists_cons_of_ne_nil (splitBy_ne_nil (· == c) t)
      rw [hp] at h ih
      rcases List.mem_cons.mp h with rfl | h
      · exact List.not_mem_cons_of_ne_of_not_mem hdc (ih List.mem_cons_self)
      · exact ih (List.mem_cons_of_mem _ h)

theorem join_concat (c : Char) (pieces : List Text) (last : Text) :
    join [c] (pieces ++ [last]) = pieces.flatMap (· ++ [c]) ++ last := by
  induction pieces with
  | nil => simp [join, List.intercalate]
  | cons piece pieces ih =>
    rw [List.cons_append, List.flatMap_cons, List.append_assoc, ← ih]
    cases pieces <;> simp [join, List.intercalate]

theorem join_append {back : List Text} (hback : back ≠ []) (front : List Text) :
    join [c] (front ++ back) = front.flatMap (· ++ [c]) ++ join [c] back := by
  obtain ⟨back, last, rfl⟩ := (List.eq_nil_or_concat' back).resolve_left hback
  rw [← List.append_assoc, join_concat, join_concat, List.flatMap_append, List.append_assoc]

theorem splitBy_flatMap_append {front : List Text} (h : ∀ piece ∈ front, c ∉ piece) (t : Text) :
    splitBy (· == c) (front.flatMap (· ++ [c]) ++ t) = front ++ splitBy (· == c) t := by
  induction front with
  | nil => rfl
  | cons piece front ih =>
    obtain ⟨hpiece, h⟩ := List.forall_mem_cons.mp h
    rw [List.flatMap_cons, List.append_assoc, List.append_assoc, List.singleton_append,
      splitBy_append_cons, splitBy_of_not_mem hpiece, ih h]
    rfl

theorem join_concat_end {pieces : List Text} (hne : pieces ≠ []) :
    join [c] pieces ++ [c] = pieces.flatMap (· ++ [c]) := by
  obtain ⟨front, last, rfl⟩ := (List.eq_nil_or_concat' pieces).resolve_left hne
  rw [join_concat, List.flatMap_append, List.flatMap_singleton, List.append_assoc]

/-- A text that holds pieces which make up no shorter text consists of them. -/
theorem eq_join_of_sublist {t : Text} {pieces : List Text} (hne : pieces ≠ [])
    (h : pieces.Sublist (splitBy (· == c) t)) (hlength : t.length ≤ (join [c] pieces).length) :
    t = join [c] pieces := by
  have hflat := h.flatMap (· ++ [c])
  rw [← join_concat_end hne, ← join_concat_end (splitBy_ne_nil _ _), join_splitBy] at hflat
  exact (List.append_cancel_right (hflat.eq_of_length_le (by simpa using hlength))).symm

theorem join_cut (c : Char) (front tail : List Text) (a b : Text) :
    join [c] (front ++ (a ++ b) :: tail) = join [c] (front ++ [a]) ++ join [c] (b :: tail) := by
  induction front with
  | nil => cases tail <;> simp [join, List.intercalate]
  | cons piece front ih =>
    have hcons (pieces : List Text) (hne : pieces ≠ []) :
        join [c] (piece :: pieces) = piece ++ c :: join [c] pieces := by
      obtain ⟨first, rest, rfl⟩ := List.exists_cons_of_ne_nil hne
      simp [join, List.intercalate]
    rw [List.cons_append, List.cons_append, hcons _ (by simp), hcons _ (by simp), ih,
      List.append_assoc, List.cons_append]

theorem splitBy_of_prefix (p : Char → Bool) {s t : Text} (h : s <+: t) : ∃ a as b bs,
    splitBy p s = a :: as ∧ splitBy p t = b :: bs ∧ a <+: b ∧
      ∀ piece ∈ as, ∃ other ∈ bs, piece <+: other := by
  induction s generalizing t with
  | nil =>
    obtain ⟨b, bs, ht⟩ := List.exists_cons_of_ne_nil (splitBy_ne_nil p t)
    exact ⟨[], [], b, bs, rfl, ht, List.nil_prefix, List.forall_mem_nil _⟩
  | cons d s ih =>
    obtain ⟨rest, rfl⟩ := h
    obtain ⟨a, as, b, bs, hs, ht, hab, hall⟩ := ih (List.prefix_append s rest)
    rw [List.cons_append, splitBy, splitBy, hs, ht]
    split
    · refine ⟨_, _, _, _, rfl, rfl, List.prefix_rfl, List.forall_mem_cons.mpr ⟨?_, ?_⟩⟩
      · exact ⟨b, List.mem_cons_self, hab⟩
      · intro piece hm
        obtain ⟨other, hother, hpiece⟩ := hall piece hm
        exact ⟨other, List.mem_cons_of_mem _ hother, hpiece⟩
    · exact ⟨_, _, _, _, rfl, rfl, List.cons_prefix_cons.mpr ⟨rfl, hab⟩, hall⟩

end

-- ---------------------------------------------------------------------------
-- Lines
-- ---------------------------------------------------------------------------

@[simp] theorem unlines_singleton (l : Text) : unlines [l] = l := by
  simp [unlines, join, List.intercalate]

@[simp] theorem unlines_cons_cons (l m : Text) (ls : List Text) :
    unlines (l :: m :: ls) = l ++ '\n' :: unlines (m :: ls) := by
  simp [unlines, join, List.intercalate]

theorem unlines_append {ls ms : List Text} (hl : ls ≠ []) (hm : ms ≠ []) :
    unlines (ls ++ ms) = unlines ls ++ '\n' :: unlines ms := by
  obtain ⟨m, ms, rfl⟩ := List.exists_cons_of_ne_nil hm
  induction ls with
  | nil => exact absurd rfl hl
  | cons l ls ih =>
    cases ls with
    | nil => simp
    | cons k ls => simpa using ih (by simp)

theorem unlines_concat (ls : List Text) (l : Text) :
    unlines (ls ++ [l]) = ls.flatMap (· ++ ['\n']) ++ l := join_concat '\n' ls l

theorem lines_unlines {ls : List Text} (hne : ls ≠ []) (h : ∀ l ∈ ls, '\n' ∉ l) :
    lines (unlines ls) = ls := splitBy_join hne h

theorem unlines_inj {ls ms : List Text} (hl : ls ≠ []) (hm : ms ≠ []) (hls : ∀ l ∈ ls, '\n' ∉ l)
    (hms : ∀ m ∈ ms, '\n' ∉ m) : unlines ls = unlines ms ↔ ls = ms := by
  refine ⟨fun h => ?_, congrArg unlines⟩
  rw [← lines_unlines hl hls, h, lines_unlines hm hms]

theorem unlines_lines (t : Text) : unlines (lines t) = t := join_splitBy '\n' t

theorem lines_feed (a b : Text) : lines (a ++ '\n' :: b) = lines a ++ lines b :=
  splitBy_append_cons a b

theorem lines_of_not_mem {line : Text} (h : '\n' ∉ line) : lines line = [line] :=
  splitBy_of_not_mem h

theorem lines_append_of_not_mem (h : '\n' ∉ lead) {first : Text} {others : List Text}
    (ht : lines t = first :: others) : lines (lead ++ t) = (lead ++ first) :: others := by
  induction lead with
  | nil => exact ht
  | cons c lead ih =>
    rw [List.mem_cons, not_or] at h
    have hc : (c == '\n') = false := beq_false_of_ne (Ne.symm h.1)
    have hlines := ih h.2
    rw [lines] at hlines ⊢
    rw [List.cons_append, splitBy, hc, hlines]
    rfl

theorem infix_append_newline (hm : mark ≠ []) (hn : '\n' ∉ mark) {a b : Text} :
    mark <:+: a ++ '\n' :: b ↔ mark <:+: a ∨ mark <:+: b := by
  constructor
  · intro h
    rcases List.infix_append_iff.mp h with ha | hb | ⟨x, y, rfl, hx, hy⟩
    · exact .inl ha
    · rcases List.infix_cons_iff.mp hb with hb | hb
      · cases mark with
        | nil => exact absurd rfl hm
        | cons c mark =>
          have hc := (List.cons_prefix_cons.mp hb).1
          exact absurd (hc ▸ List.mem_cons_self) hn
      · exact .inr hb
    · cases y with
      | nil => exact .inl (by simpa using hx.isInfix)
      | cons c y =>
        have hc := (List.cons_prefix_cons.mp hy).1
        exact absurd (hc ▸ by simp) hn
  · rintro (h | h)
    · exact h.trans (List.prefix_append _ _).isInfix
    · exact h.trans ((List.suffix_cons _ _).trans (List.suffix_append _ _)).isInfix

theorem infix_unlines_of_mem {line : Text} {ls : List Text} (h : line ∈ ls) :
    line <:+: unlines ls := by
  induction ls with
  | nil => cases h
  | cons l ls ih =>
    cases ls with
    | nil =>
      obtain rfl := List.mem_singleton.mp h
      simp
    | cons k ls =>
      rw [unlines_cons_cons]
      rcases List.mem_cons.mp h with rfl | h
      · exact (List.prefix_append _ _).isInfix
      · exact (ih h).trans ((List.suffix_cons _ _).trans (List.suffix_append _ _)).isInfix

theorem infix_unlines (hm : mark ≠ []) (hn : '\n' ∉ mark) {ls : List Text} :
    mark <:+: unlines ls ↔ ∃ l ∈ ls, mark <:+: l := by
  induction ls with
  | nil => simp [unlines, join, List.intercalate, hm]
  | cons l ls ih =>
    cases ls with
    | nil => simp
    | cons k ls =>
      rw [unlines_cons_cons, infix_append_newline hm hn, ih]
      simp

-- ---------------------------------------------------------------------------
-- Blanks
-- ---------------------------------------------------------------------------

theorem dropWhile_blank_append {a : Text} (ha : allBlank a = true) (t : Text) :
    (a ++ t).dropWhile isBlank = t.dropWhile isBlank := by
  induction a with
  | nil => rfl
  | cons c a ih =>
    simp only [allBlank, List.all_cons, Bool.and_eq_true] at ha
    simp [ha.1, ih ha.2]

theorem allBlank_reverse (t : Text) : allBlank t.reverse = allBlank t := by
  simp [allBlank]

theorem allBlank_spaces (n : Nat) : allBlank (spaces n) = true := by
  rw [allBlank, List.all_eq_true]
  intro c hm
  rw [List.eq_of_mem_replicate hm]
  rfl

theorem allBlank_append (a b : Text) : allBlank (a ++ b) = (allBlank a && allBlank b) :=
  List.all_append

theorem allBlank_feed (t : Text) : allBlank ('\n' :: t) = allBlank t := rfl

theorem trimEnd_append_blank {b : Text} (hb : allBlank b = true) (t : Text) :
    trimEnd (t ++ b) = trimEnd t := by
  rw [trimEnd, dropWhileEnd, List.reverse_append,
    dropWhile_blank_append (by rw [allBlank_reverse, hb])]
  rfl

theorem trim_append_blank {b : Text} (hb : allBlank b = true) (t : Text) :
    trim (t ++ b) = trim t := by
  unfold trim trimStart
  rw [List.dropWhile_append]
  split
  · next h =>
    have hnil : b.dropWhile isBlank = [] := by simpa using dropWhile_blank_append hb []
    simp [List.isEmpty_iff.mp h, hnil]
  · exact trimEnd_append_blank hb _

theorem trim_pad {a b : Text} (ha : allBlank a = true) (hb : allBlank b = true) (t : Text) :
    trim (a ++ t ++ b) = trim t := by
  rw [trim_append_blank hb]
  unfold trim trimStart
  rw [dropWhile_blank_append ha]

theorem isPrefix_trimEnd (t : Text) : trimEnd t <+: t := by
  have h := List.reverse_prefix.mpr (List.dropWhile_suffix (l := t.reverse) isBlank)
  rwa [List.reverse_reverse] at h

theorem trim_infix (t : Text) : trim t <:+: t :=
  (isPrefix_trimEnd _).isInfix.trans (List.dropWhile_suffix _).isInfix

theorem isBlank_of_head?_trimStart {c : Char} (h : (trimStart t).head? = some c) :
    isBlank c = false := by
  have hhead := List.head?_dropWhile_not isBlank t
  rw [← trimStart, h] at hhead
  exact hhead

theorem isBlank_of_getLast?_trimEnd {c : Char} (h : (trimEnd t).getLast? = some c) :
    isBlank c = false := by
  rw [trimEnd, dropWhileEnd, List.getLast?_reverse] at h
  exact isBlank_of_head?_trimStart h

theorem isBlank_of_head?_trim {c : Char} (h : (trim t).head? = some c) : isBlank c = false := by
  obtain ⟨rest, hrest⟩ := isPrefix_trimEnd (trimStart t)
  apply isBlank_of_head?_trimStart (t := t)
  rw [← hrest, List.head?_append, ← trim, h, Option.some_or]

theorem exists_trimStart (h : allBlank t = false) :
    ∃ c rest, trimStart t = c :: rest ∧ isBlank c = false := by
  have hne : trimStart t ≠ [] := by
    rw [trimStart, ne_eq, List.dropWhile_eq_nil_iff, ← List.all_eq_true, ← allBlank, h]
    exact Bool.false_ne_true
  obtain ⟨c, rest, ht⟩ := List.exists_cons_of_ne_nil hne
  exact ⟨c, rest, ht, isBlank_of_head?_trimStart (by rw [ht, List.head?_cons])⟩

theorem trimStart_append {a : Text} (ha : allBlank a = false) (t : Text) :
    trimStart (a ++ t) = trimStart a ++ t := by
  obtain ⟨c, rest, htrim, -⟩ := exists_trimStart ha
  have hdrop : a.dropWhile isBlank = c :: rest := htrim
  rw [trimStart, trimStart, List.dropWhile_append, hdrop, List.isEmpty_cons,
    if_neg Bool.false_ne_true]

theorem trim_blank_append {a : Text} (ha : allBlank a = true) (t : Text) :
    trim (a ++ t) = trim t := by
  rw [trim, trimStart, dropWhile_blank_append ha, ← trimStart, ← trim]

theorem trimEnd_append {b : Text} (hb : allBlank b = false) (t : Text) :
    trimEnd (t ++ b) = t ++ trimEnd b := by
  have hreverse := trimStart_append (a := b.reverse) (by rw [allBlank_reverse, hb]) t.reverse
  rw [trimStart, trimStart] at hreverse
  rw [trimEnd, dropWhileEnd, List.reverse_append, hreverse, List.reverse_append,
    List.reverse_reverse]
  rfl

theorem trim_between {a b : Text} (ha : allBlank a = false) (hb : allBlank b = false) (t : Text) :
    trim (a ++ (t ++ b)) = trimStart a ++ (t ++ trimEnd b) := by
  rw [trim, trimStart_append ha, ← List.append_assoc, trimEnd_append hb, List.append_assoc]

/-- A text that says something and does not end in a blank. -/
def Firm (t : Text) : Prop := allBlank t = false ∧ trimEnd t = t

instance (t : Text) : Decidable (Firm t) := by
  unfold Firm
  infer_instance

theorem firm_iff : Firm t ↔ ∃ c, t.getLast? = some c ∧ isBlank c = false := by
  constructor
  · rintro ⟨hblank, htrim⟩
    cases hlast : t.getLast? with
    | none => simp [List.getLast?_eq_none_iff.mp hlast, allBlank] at hblank
    | some c =>
      rw [← htrim] at hlast
      exact ⟨c, rfl, isBlank_of_getLast?_trimEnd hlast⟩
  · rintro ⟨c, hlast, hc⟩
    obtain ⟨init, rfl⟩ := List.getLast?_eq_some_iff.mp hlast
    exact ⟨by simp [allBlank, hc], by simp [trimEnd, dropWhileEnd, hc]⟩

theorem Firm.ne_nil (h : Firm t) : t ≠ [] := by
  rintro rfl
  simp [Firm, allBlank] at h

theorem Firm.append (h : Firm t) (a : Text) : Firm (a ++ t) := by
  obtain ⟨c, hlast, hc⟩ := firm_iff.mp h
  exact firm_iff.mpr ⟨c, by rw [List.getLast?_append, hlast, Option.some_or], hc⟩

theorem Firm.of_append {a : Text} (h : Firm (a ++ t)) (hne : t ≠ []) : Firm t := by
  obtain ⟨c, hlast, hc⟩ := firm_iff.mp h
  rw [List.getLast?_append, List.getLast?_eq_some_getLast hne, Option.some_or] at hlast
  exact firm_iff.mpr ⟨c, by rw [List.getLast?_eq_some_getLast hne, hlast], hc⟩

theorem trim_eq_self {c : Char} (hc : isBlank c = false) (h : Firm (c :: t)) :
    trim (c :: t) = c :: t := by
  rw [trim, trimStart, List.dropWhile_cons_of_neg (by simp [hc])]
  exact h.2

-- ---------------------------------------------------------------------------
-- Words
-- ---------------------------------------------------------------------------

/-- The pieces between blanks, without empty ones. -/
def words (t : Text) : List Text := (splitBy isBlank t).filter (· ≠ [])

section

variable {c : Char} {s t : Text}

@[simp] theorem words_nil : words [] = [] := rfl

theorem words_append_cons (hc : isBlank c = true) (s t : Text) :
    words (s ++ c :: t) = words s ++ words t := by
  simp only [words, splitBy_eq_splitOnP]
  rw [List.splitOnP_append_cons s t hc, List.filter_append]

theorem words_cons_blank (hc : isBlank c = true) (t : Text) : words (c :: t) = words t :=
  words_append_cons hc [] t

theorem words_blank_append (hs : allBlank s = true) (t : Text) : words (s ++ t) = words t := by
  induction s with
  | nil => rfl
  | cons c s ih =>
    simp only [allBlank, List.all_cons, Bool.and_eq_true] at hs
    rw [List.cons_append, words_cons_blank hs.1, ih hs.2]

theorem words_append_blank (ht : allBlank t = true) (s : Text) : words (s ++ t) = words s := by
  cases t with
  | nil => rw [List.append_nil]
  | cons c t =>
    simp only [allBlank, List.all_cons, Bool.and_eq_true] at ht
    have hnone : words t = [] := by simpa using words_blank_append (t := []) ht.2
    rw [words_append_cons ht.1, hnone, List.append_nil]

theorem words_trimStart (t : Text) : words (trimStart t) = words t := by
  have hlead : allBlank (t.takeWhile isBlank) = true := List.all_takeWhile
  rw [← words_blank_append hlead (trimStart t), trimStart, List.takeWhile_append_dropWhile]

theorem words_trimEnd (t : Text) : words (trimEnd t) = words t := by
  have htail : allBlank (t.reverse.takeWhile isBlank).reverse = true := by
    rw [allBlank_reverse]
    exact List.all_takeWhile
  rw [← words_append_blank htail (trimEnd t), trimEnd, dropWhileEnd, ← List.reverse_append,
    List.takeWhile_append_dropWhile, List.reverse_reverse]

/-- The blanks around a text are no part of its words. -/
@[simp] theorem words_trim (t : Text) : words (trim t) = words t := by
  rw [trim, words_trimEnd, words_trimStart]

end

end Swatchbook.Text
