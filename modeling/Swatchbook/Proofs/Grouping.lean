import Swatchbook.Proofs.Escape
import Swatchbook.Proofs.Steady

/-!
# Patterns inside a group

A pattern that can be read by itself is read to its end inside a group too, and
leaves the same there. So the pattern of a block is the beginning, a gap and
the end, one behind the other.
-/

namespace Swatchbook.Pattern

-- ---------------------------------------------------------------------------
-- A reader in a group
-- ---------------------------------------------------------------------------

def Reader.within (r : Reader) (outer : List Frame) (names : List Text) : Reader :=
  { r with outer := r.outer ++ outer, names := r.names ++ names }

@[simp] theorem modes_within (r : Reader) (outer : List Frame) (names : List Text) :
    (r.within outer names).modes = r.modes := rfl

@[simp] theorem frame_within (r : Reader) (outer : List Frame) (names : List Text) :
    (r.within outer names).frame = r.frame := rfl

section

variable {r r' : Reader} {outer : List Frame} {names : List Text} {t rest v : Text}
  {found : Reader × Text}

theorem repeatLast_within {least : Nat} {most : Option Nat} {greedy : Bool}
    (h : r.repeatLast least most greedy = .ok r') :
    (r.within outer names).repeatLast least most greedy = .ok (r'.within outer names) := by
  unfold Reader.repeatLast at h ⊢
  split at h
  · next p items hitems =>
    cases h
    simp [Reader.within, hitems]
  · cases h

/-- A name can be given only once, so reading it may fail where other names were given. -/
theorem readNamed_within (h : readNamed r t = .ok (r', rest))
    (hin : readNamed (r.within outer names) (t ++ ')' :: v) = .ok found) :
    found = (r'.within outer names, rest ++ ')' :: v) := by
  unfold readNamed at h hin
  dsimp only at h hin
  split at h
  · next first others close left hname hleft =>
    have hdrop : (t ++ ')' :: v).dropWhile (· != '>') = close :: (left ++ ')' :: v) := by
      rw [List.dropWhile_append, hleft]
      rfl
    have htake : (t ++ ')' :: v).takeWhile (· != '>') = t.takeWhile (· != '>') := by
      have hlength := congrArg List.length
        (List.takeWhile_append_dropWhile (p := (· != '>')) (l := t))
      rw [List.length_append, hleft, List.length_cons] at hlength
      rw [List.takeWhile_append, if_neg (by omega)]
    rw [htake, hdrop, hname] at hin
    dsimp only at hin
    split at h
    · cases h
      split at hin
      · cases hin
        rw [hname]
        rfl
      · cases hin
    · cases h
  · cases h

theorem readGroup_within (h : readGroup r t = .ok (r', rest))
    (hin : readGroup (r.within outer names) (t ++ ')' :: v) = .ok found) :
    found = (r'.within outer names, rest ++ ')' :: v) := by
  unfold readGroup at h
  split at h
  · cases h
  · cases h
  · cases h
  · cases h
  · exact readNamed_within h hin
  · next t hequal hmark =>
    refine readNamed_within h ?_
    cases t with
    | nil => exact hin
    | cons d t =>
      have hd : d ≠ '=' ∧ d ≠ '!' :=
        ⟨fun heq => hequal t (by rw [heq]), fun heq => hmark t (by rw [heq])⟩
      simpa [readGroup, hd] using hin
  · next t hequal hmark _ _ _ hangle =>
    cases hflags : readFlags r.modes true false [] t with
    | error e =>
      rw [hflags] at h
      cases h
    | ok result =>
      obtain ⟨modes, seen, left⟩ := result
      obtain ⟨hleft, hflags'⟩ := readFlags_append hflags v
      have hgroup : readGroup (r.within outer names) ('?' :: t ++ ')' :: v) =
          if (left ++ ')' :: v).head? == some ')' then
            if seen.isEmpty then .error .nothingToRepeat
            else
              .ok (Reader.within { r with
                modes, frame := { r.frame with items := .flags :: r.frame.items } } outer names,
                (left ++ ')' :: v).drop 1)
          else .ok ((r.within outer names).openGroup modes, (left ++ ')' :: v).drop 1) := by
        cases t with
        | nil => cases hflags
        | cons d t =>
          have hd : d ≠ '=' ∧ d ≠ '!' ∧ d ≠ '<' :=
            ⟨fun heq => hequal t (by rw [heq]), fun heq => hmark t (by rw [heq]),
              fun heq => hangle t (by rw [heq])⟩
          have hname : d ≠ 'P' := by
            rintro rfl
            cases hflags
          simp only [List.cons_append] at hflags' ⊢
          simp [readGroup, hd, hname, Reader.within, hflags']
      rw [hflags] at h
      rw [hgroup] at hin
      cases left with
      | nil => exact absurd rfl hleft
      | cons d left =>
        simp only [List.cons_append, List.head?_cons, List.drop_succ_cons, List.drop_zero] at h hin
        split at h
        · next hclose =>
          rw [if_pos hclose] at hin
          split at h
          · cases h
          · next hseen =>
            rw [if_neg hseen] at hin
            cases h
            cases hin
            rfl
        · next hclose =>
          rw [if_neg hclose] at hin
          cases h
          cases hin
          rfl
  · next hquestion =>
    cases h
    cases t with
    | nil =>
      cases hin
      rfl
    | cons d t =>
      have hd : d ≠ '?' := fun heq => hquestion t (by rw [heq])
      have hopen : readGroup (r.within outer names) (d :: t ++ ')' :: v) =
          .ok ((r.within outer names).openGroup r.modes, d :: t ++ ')' :: v) := by
        simp [readGroup, hd, Reader.within]
      rw [hopen] at hin
      cases hin
      rfl

theorem step_within {c : Char} (hr : r.modes.verbose = false) (h : step r c t = .ok (r', rest))
    (hin : step (r.within outer names) c (t ++ ')' :: v) = .ok found) :
    found = (r'.within outer names, rest ++ ')' :: v) := by
  -- One case for each operator: groups, alternatives, classes, repetitions, escapes, the point.
  -- What is left are the anchors and the characters that stand for themselves.
  revert h hin
  unfold step
  split
  all_goals intro h hin
  case h_1 =>
    rw [hr] at h
    rw [modes_within, hr] at hin
    exact readGroup_within h hin
  case h_2 =>
    split at h
    · cases h
    · next parent others hothers =>
      cases h
      simp only [Reader.within, hothers, List.cons_append] at hin
      cases hin
      rfl
  case h_3 =>
    cases h
    cases hin
    rfl
  case h_4 =>
    dsimp only at h
    obtain ⟨⟨cls, depth, left⟩, hclass, heq⟩ := Except.map_eq_ok.mp h
    cases heq
    simp only [modes_within, openClass_append hr] at hin
    rw [readClass_append hr hclass (by rw [List.length_append]; omega)] at hin
    cases hin
    rfl
  case h_5 | h_6 | h_7 =>
    simp only [readGreed_append] at h hin
    obtain ⟨hrepeat, rfl⟩ := map_pair_eq_ok.mp h
    rw [repeatLast_within hrepeat] at hin
    cases hin
    rfl
  case h_8 =>
    split at h
    · next p items hitems =>
      simp only [frame_within, modes_within, hitems, hr] at hin
      rw [hr] at h
      split at h
      · cases h
      · next least most left hcounts =>
        rw [readCounts_append hcounts v] at hin
        simp only [skipVerbose_false, readGreed_append] at h hin
        obtain ⟨hrepeat, rfl⟩ := map_pair_eq_ok.mp h
        rw [repeatLast_within hrepeat] at hin
        cases hin
        rfl
    · cases h
  case h_9 =>
    rw [modes_within] at hin
    cases hescape : readEscape r.modes t with
    | error e =>
      rw [hescape] at h
      cases h
    | ok escaped =>
      obtain ⟨escaped, left⟩ := escaped
      rw [hescape] at h
      rw [steady_readEscape hr hescape v] at hin
      cases escaped <;> cases h <;> cases hin <;> rfl
  case h_10 =>
    obtain ⟨p, hpoint, heq⟩ := Except.map_eq_ok.mp h
    cases heq
    rw [modes_within, hpoint] at hin
    cases hin
    rfl
  all_goals
    cases h
    cases hin
    rfl

end

def Reader.base (r : Reader) : Modes := (r.outer.map Frame.outside).getLastD r.frame.outside

section

variable {r r' : Reader} {t rest : Text}

theorem base_openGroup (r : Reader) (modes : Modes) : (r.openGroup modes).base = r.base := by
  simp only [Reader.base, Reader.openGroup, List.map_cons, List.getLastD_cons]

theorem base_repeatLast {least : Nat} {most : Option Nat} {greedy : Bool}
    (h : r.repeatLast least most greedy = .ok r') : r'.base = r.base := by
  unfold Reader.repeatLast at h
  split at h
  · cases h
    rfl
  · cases h

theorem base_readNamed (h : readNamed r t = .ok (r', rest)) : r'.base = r.base := by
  unfold readNamed at h
  dsimp only at h
  split at h
  · split at h
    · cases h
      exact base_openGroup r r.modes
    · cases h
  · cases h

theorem base_readGroup (h : readGroup r t = .ok (r', rest)) : r'.base = r.base := by
  unfold readGroup at h
  split at h
  case h_5 | h_6 => exact base_readNamed h
  case h_7 =>
    split at h
    · cases h
    · split at h
      · split at h
        · cases h
        · cases h
          rfl
      · cases h
        exact base_openGroup r _
  case h_8 =>
    cases h
    exact base_openGroup r _
  all_goals cases h

theorem base_step {c : Char} (h : step r c t = .ok (r', rest)) : r'.base = r.base := by
  unfold step at h
  split at h
  case h_1 => exact base_readGroup h
  case h_2 =>
    split at h
    · cases h
    · next parent others hothers =>
      cases h
      simp only [Reader.base, hothers, Frame.add, List.map_cons, List.getLastD_cons]
  case h_4 =>
    obtain ⟨_, -, hread⟩ := Except.map_eq_ok.mp h
    cases hread
    rfl
  case h_5 | h_6 | h_7 =>
    obtain ⟨hrepeat, -⟩ := map_pair_eq_ok.mp h
    exact base_repeatLast hrepeat
  case h_8 =>
    split at h
    · split at h
      · cases h
      · obtain ⟨hrepeat, -⟩ := map_pair_eq_ok.mp h
        exact base_repeatLast hrepeat
    · cases h
  case h_9 =>
    split at h
    all_goals cases h
    all_goals rfl
  case h_10 =>
    obtain ⟨_, -, hpoint⟩ := Except.map_eq_ok.mp h
    cases hpoint
    rfl
  all_goals
    cases h
    rfl

end

-- ---------------------------------------------------------------------------
-- Whole patterns in a group
-- ---------------------------------------------------------------------------

def Gives (r : Reader) (t : Text) (whole : Nested) : Prop := ∃ fuel, readAll fuel r t = .ok whole

def staysTerse : Nat → Reader → Text → Bool
  | 0, _, _ => true
  | _ + 1, r, [] => !r.modes.verbose
  | fuel + 1, r, c :: t =>
    !r.modes.verbose &&
      match step r c t with
      | .error _ => true
      | .ok (r, t) => staysTerse fuel r t

theorem readAll_add {fuel : Nat} {r : Reader} {t : Text} {whole : Nested}
    (h : readAll fuel r t = .ok whole) (n : Nat) : readAll (n + fuel) r t = .ok whole := by
  induction fuel generalizing r t with
  | zero => cases h
  | succ fuel ih =>
    rw [← Nat.add_assoc]
    rw [readAll] at h ⊢
    split at h
    · exact h
    · split at h
      · cases h
      · next hstep => exact ih h

theorem Gives.of_reads {n : Nat} {r r' : Reader} {t rest : Text} {whole : Nested}
    (h : Gives r t whole) (hreads : Reads n r t r' rest) : Gives r' rest whole := by
  obtain ⟨fuel, hfuel⟩ := h
  exact ⟨fuel, hreads fuel ▸ readAll_add hfuel n⟩

theorem Gives.step {r : Reader} {c : Char} {t : Text} {whole : Nested} (h : Gives r (c :: t) whole)
    (hr : r.modes.verbose = false) :
    ∃ r' rest, Pattern.step r c t = .ok (r', rest) ∧ Gives r' rest whole := by
  obtain ⟨fuel, hfuel⟩ := h
  cases fuel with
  | zero => cases hfuel
  | succ fuel =>
    rw [readAll, hr, skipVerbose_false] at hfuel
    dsimp only at hfuel
    split at hfuel
    · cases hfuel
    · next r' rest hstep => exact ⟨r', rest, hstep, fuel, hfuel⟩

theorem Gives.close {r : Reader} {whole : Nested} (h : Gives r [] whole)
    (hr : r.modes.verbose = false) : r.outer = [] ∧ r.frame.close = whole := by
  obtain ⟨fuel, hfuel⟩ := h
  cases fuel with
  | zero => cases hfuel
  | succ fuel =>
    rw [readAll, hr, skipVerbose_false] at hfuel
    dsimp only at hfuel
    split at hfuel
    · next houter =>
      cases hfuel
      exact ⟨List.isEmpty_iff.mp houter, rfl⟩
    · cases hfuel

/-- A pattern that is read by itself is read to its end in a group too, and leaves the same
there. -/
theorem Gives.within {fuel : Nat} {r : Reader} {t v : Text} {part whole : Nested}
    {outer : List Frame} {names : List Text} (h : readAll fuel r t = .ok part)
    (hterse : staysTerse fuel r t = true)
    (hin : Gives (r.within outer names) (t ++ ')' :: v) whole) :
    ∃ r' : Reader, r'.outer = [] ∧ r'.frame.close = part ∧ r'.frame.outside = r.base ∧
      r'.modes.verbose = false ∧ Gives (r'.within outer names) (')' :: v) whole := by
  induction fuel generalizing r t with
  | zero => cases h
  | succ fuel ih =>
    cases t with
    | nil =>
      have hr : r.modes.verbose = false := by simpa [staysTerse] using hterse
      obtain ⟨houter, hclose⟩ := Gives.close ⟨_, h⟩ hr
      refine ⟨r, houter, hclose, ?_, hr, hin⟩
      rw [Reader.base, houter]
      rfl
    | cons c t =>
      rw [staysTerse, Bool.and_eq_true, Bool.not_eq_true'] at hterse
      obtain ⟨hr, hterse⟩ := hterse
      rw [readAll, hr, skipVerbose_false] at h
      dsimp only at h
      obtain ⟨r', rest, hstep', hin'⟩ := hin.step hr
      cases hstep : Pattern.step r c t with
      | error e =>
        rw [hstep] at h
        cases h
      | ok next =>
        obtain ⟨r'', left⟩ := next
        rw [hstep] at h hterse
        cases step_within hr hstep hstep'
        obtain ⟨last, houter, hclose, hbase, hlast, hgives⟩ := ih h hterse hin'
        exact ⟨last, houter, hclose, hbase.trans (base_step hstep), hlast, hgives⟩

def neverVerbose (t : Text) : Bool := staysTerse (t.length + 1) initialReader t

example : neverVerbose "(?i:x)[ #]".toList = true := by decide +kernel

example : neverVerbose "a(?x: b)".toList = false := by decide +kernel

theorem exists_of_read {t : Text} {p : Pattern} (h : read t = .ok p) :
    ∃ part, readAll (t.length + 1) initialReader t = .ok part ∧ part.pattern = p := by
  unfold read readWith at h
  cases hall : readAll (t.length + 1) initialReader t with
  | error e =>
    unfold initialReader at hall
    rw [hall] at h
    cases h
  | ok part =>
    refine ⟨part, rfl, ?_⟩
    unfold initialReader at hall
    simp only [hall, bind, Except.bind] at h
    split at h
    · cases h
    · split at h
      · cases h
      · cases h
        rfl

theorem Gives.group {frame : Frame} {names : List Text} {t rest : Text} {part whole : Nested}
    (h : Gives ⟨.initial, frame, [], names⟩ ('(' :: '?' :: ':' :: (t ++ ')' :: rest)) whole)
    (hpart : readAll (t.length + 1) initialReader t = .ok part) (ht : neverVerbose t = true) :
    ∃ names', Gives ⟨.initial, frame.add ⟨part.pattern, part.depth + 1⟩, [], names'⟩ rest whole := by
  have hinside : Gives (initialReader.within [frame] names) (t ++ ')' :: rest) whole :=
    h.of_reads (reads_open _ rfl _)
  obtain ⟨last, houter, rfl, hbase, hlast, hclose⟩ := hinside.within hpart ht
  obtain ⟨next, left, hstep, hnext⟩ := hclose.step hlast
  simp only [Reader.within, houter, List.nil_append, Pattern.step, hbase] at hstep
  cases hstep
  exact ⟨_, hnext⟩

end Swatchbook.Pattern

namespace Swatchbook.Delimiters

open Pattern (neverVerbose)

theorem block_of_read {s e : Text} {d : Delimiters} (h : read s e = .ok d)
    (hs : neverVerbose s = true) (he : neverVerbose e = true) :
    d.block = .seq d.start (.seq gap d.stop) := by
  obtain ⟨start, hstart, stop, hstop, block, hblock, rfl⟩ := read_eq_ok.mp h
  obtain ⟨first, hfirst, rfl⟩ := Pattern.exists_of_read hstart
  obtain ⟨last, hlast, rfl⟩ := Pattern.exists_of_read hstop
  obtain ⟨whole, hwhole, rfl⟩ := Pattern.exists_of_read hblock
  have hgives : Pattern.Gives Pattern.initialReader (blockText s e) whole := ⟨_, hwhole⟩
  rw [Pattern.blockText_eq] at hgives
  obtain ⟨names, hgives⟩ := hgives.group hfirst hs
  obtain ⟨names, hgives⟩ := (hgives.of_reads (Pattern.reads_gap _ rfl _)).group hlast he
  obtain ⟨-, rfl⟩ := hgives.close rfl
  rfl

end Swatchbook.Delimiters
