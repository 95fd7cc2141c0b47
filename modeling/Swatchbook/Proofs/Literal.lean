import Swatchbook.Comment.Block
import Swatchbook.Proofs.Text

/-!
# Literal patterns

A pattern that stands for itself matches where its text stands, and a gap that
takes as little as it can ends at the first place where the next text stands.
So searching for a literal is `Text.cut?`, and a block of literal delimiters
reaches from a beginning to the first end behind it.
-/

namespace Swatchbook

open Delimiters (literalPattern gap literal)

-- ---------------------------------------------------------------------------
-- Matching at one place
-- ---------------------------------------------------------------------------

/-- The place behind a text that stands here, with what is left. -/
def Cursor.pass (here : Cursor) (t rest : Text) : Cursor :=
  ⟨here.passed + t.length, t.getLast?.or here.before, rest⟩

namespace Plan

theorem pass_nil (here : Cursor) : here.pass [] here.rest = here := by
  simp [Cursor.pass]

theorem pass_cons (here : Cursor) (c : Char) (t rest after : Text) :
    (here.advance c rest).pass t after = here.pass (c :: t) after := by
  have hlen : here.passed + 1 + t.length = here.passed + (t.length + 1) := by omega
  cases h : t.getLast? <;> simp [Cursor.pass, Cursor.advance, List.getLast?_cons, h, hlen]

theorem planFrom_literal_free (t : Text) (free : Nat) :
    ((literalPattern t).planFrom free).2 = free := by
  induction t with
  | nil => rfl
  | cons c t ih =>
    cases t with
    | nil => rfl
    | cons d t => exact ih

def accept (stop? : Cursor → Option Cursor) : Goal := fun here tried => (stop? here, tried)

def behind (t : Text) (here : Cursor) : Option Cursor :=
  (Text.after? t here.rest).map (here.pass t)

theorem run_literal (t : Text) (free places : Nat) (here : Cursor) (goal : Goal) :
    ((literalPattern t).planFrom free).1.run places here goal =
      match behind t here with
      | some next => goal next
      | none => .fail := by
  induction t generalizing here with
  | nil =>
    have h : behind [] here = some here := by simp [behind, pass_nil]
    rw [h]
    rfl
  | cons c t ih =>
    have hplan : ((literalPattern (c :: t)).planFrom free).1.run places here goal =
        (Plan.set (.char c)).run places here fun next =>
          ((literalPattern t).planFrom free).1.run places next goal := by
      cases t <;> rfl
    rw [hplan]
    cases hr : here.rest with
    | nil => simp [behind, Plan.run, hr]
    | cons d rest =>
      have hfirst (goal : Goal) : (Plan.set (.char c)).run places here goal =
          if d == c then goal (here.advance d rest) else .fail := by
        rw [Plan.run, hr]
        rfl
      rw [hfirst]
      by_cases hd : d = c
      · subst hd
        have hb : behind (d :: t) here = behind t (here.advance d rest) := by
          simp only [behind, hr, Text.after?_cons_cons, beq_self_eq_true, if_true,
            Cursor.advance]
          congr 1
          funext after
          exact (pass_cons here d t rest after).symm
        simp [hb, ih]
      · simp [behind, hr, Text.after?_cons_cons, hd, Ne.symm hd]

theorem once_new {place : Nat} {here : Cursor} {tried : Tried} (a : Attempt)
    (h : tried.contains (place, here.passed) = false) :
    once place here a tried = a (tried.insert (place, here.passed)) := by
  simp [once, h]

theorem orElse_accept (stop? : Cursor → Option Cursor) (here : Cursor) (b : Attempt) (tried : Tried) :
    (Attempt.orElse (accept stop? here) b) tried =
      match stop? here with
      | some stop => (some stop, tried)
      | none => b tried := by
  cases h : stop? here <;> simp [Attempt.orElse, accept, h]

theorem cut?_of_behind {e : Text} {here stop : Cursor} (h : behind e here = some stop) :
    (Text.cut? e here.rest).map (fun (inside, rest) => here.pass (inside ++ e) rest) = some stop := by
  simp only [behind, Option.map_eq_some_iff] at h
  obtain ⟨rest, ha, rfl⟩ := h
  simp [Text.cut?_of_after? ha]

theorem after?_of_behind_eq_none {e : Text} {here : Cursor} (h : behind e here = none) :
    Text.after? e here.rest = none := by
  simpa [behind] using h

theorem cut?_of_behind_advance {e rest : Text} {here : Cursor} {c : Char} (hr : here.rest = c :: rest)
    (h : behind e here = none) :
    (Text.cut? e here.rest).map (fun (inside, rest) => here.pass (inside ++ e) rest) =
      (Text.cut? e rest).map fun (inside, after) =>
        (here.advance c rest).pass (inside ++ e) after := by
  have ha := after?_of_behind_eq_none h
  rw [hr] at ha
  rw [hr, Text.cut?, ha]
  simp [Function.comp_def, pass_cons]

theorem run_set_all {k : Class} (hk : ∀ c, k.has c = true) {here : Cursor} {c : Char} {rest : Text}
    (hr : here.rest = c :: rest) (places : Nat) (goal : Goal) :
    (Plan.set k).run places here goal = goal (here.advance c rest) := by
  simp [run, hr, hk]

theorem run_rounds (a : Plan) (place places : Nat) (greedy : Bool) (here : Cursor) (goal : Goal) :
    (Plan.rounds place greedy a).run places here goal =
      a.run places here fun next => more place greedy (a.run places) places next goal := rfl

/-- Behind a round of a lazy gap the search goes on to the first place where
the next text stands: every place is new to it, and it never runs out. -/
theorem more_gap {k : Class} (hk : ∀ c, k.has c = true) (e : Text) (place places n : Nat)
    (here : Cursor) (tried : Tried) (hn : here.rest.length < n)
    (hnew : ∀ p, here.passed ≤ p → tried.contains (place, p) = false) :
    (more place false ((Plan.set k).run places) n here (accept (behind e)) tried).1 =
      (Text.cut? e here.rest).map fun (inside, rest) => here.pass (inside ++ e) rest := by
  induction n generalizing here tried with
  | zero => exact absurd hn (Nat.not_lt_zero _)
  | succ n ih =>
    simp only [more, Bool.false_eq_true, if_false]
    rw [once_new _ (hnew _ (Nat.le_refl _)), orElse_accept]
    cases hb : behind e here with
    | some stop => exact (cut?_of_behind hb).symm
    | none =>
      cases hr : here.rest with
      | nil =>
        have ha := after?_of_behind_eq_none hb
        rw [hr] at ha
        cases e with
        | nil => simp at ha
        | cons a e => simp [run, hr, Attempt.fail, Text.cut?]
      | cons c rest =>
        rw [run_set_all hk hr, ← hr, cut?_of_behind_advance hr hb]
        refine ih (here.advance c rest) _ ?_ ?_
        · rw [hr] at hn
          simpa [Cursor.advance] using hn
        · intro p hp
          have hlt : here.passed < p := hp
          simp [Nat.ne_of_lt hlt, hnew p (Nat.le_of_lt hlt)]

theorem has_gap (c : Char) :
    (Class.union (.union .none .blank) (.not .blank)).has c = true := by
  simp [Class.has]

theorem run_gap (e : Text) (places : Nat) (here : Cursor) (hlen : here.rest.length ≤ places) :
    ((gap.planFrom 0).1.run places here (accept (behind e)) ∅).1 =
      (Text.cut? e here.rest).map fun (inside, rest) => here.pass (inside ++ e) rest := by
  have hplan : (gap.planFrom 0).1 =
      .fork 0 .done (.rounds 1 false (.set (.union (.union .none .blank) (.not .blank)))) := rfl
  rw [hplan, run, once_new _ (by simp), run, orElse_accept]
  cases hb : behind e here with
  | some stop => exact (cut?_of_behind hb).symm
  | none =>
    cases hr : here.rest with
    | nil =>
      have ha := after?_of_behind_eq_none hb
      rw [hr] at ha
      cases e with
      | nil => simp at ha
      | cons a e => simp [run, hr, Attempt.fail, Text.cut?]
    | cons c rest =>
      rw [run_rounds, run_set_all has_gap hr, ← hr, cut?_of_behind_advance hr hb]
      refine more_gap has_gap e 1 places places _ _ ?_ (by simp)
      rw [hr] at hlen
      exact hlen

theorem lengthAt?_literal (s : Text) (places : Nat) (before : Option Char) (rest : Text) :
    (literalPattern s).plan.lengthAt? places before rest =
      (Text.after? s rest).map fun _ => s.length := by
  rw [lengthAt?, Pattern.plan, run_literal]
  cases h : Text.after? s rest <;> simp [behind, h, Attempt.fail, Cursor.pass]

theorem lengthAt?_block (s e : Text) (places : Nat) (before : Option Char) (rest : Text)
    (hlen : rest.length ≤ places) :
    (literal s e).block.plan.lengthAt? places before rest =
      (Text.after? s rest).bind fun behind =>
        (Text.cut? e behind).map fun (inside, _) => (s ++ inside ++ e).length := by
  have hplan : (literal s e).block.plan =
      .seq ((literalPattern s).planFrom 0).1
        (.seq (gap.planFrom 0).1 ((literalPattern e).planFrom 2).1) := by
    have hgap : (gap.planFrom 0).2 = 2 := rfl
    simp only [literal, Pattern.plan, Pattern.planFrom]
    rw [planFrom_literal_free, hgap]
  have hgoal : (fun next => ((literalPattern e).planFrom 2).1.run places next
      fun stop tried => (some stop, tried)) = accept (behind e) := by
    funext next tried
    rw [run_literal]
    cases h : behind e next <;> simp [accept, h, Attempt.fail]
  rw [hplan, lengthAt?, run, run_literal]
  cases ha : Text.after? s rest with
  | none => simp [behind, ha, Attempt.fail]
  | some after =>
    have hafter : after.length ≤ places := by
      have := Text.length_of_after? ha
      omega
    simp only [behind, ha, Option.map_some, run]
    rw [hgoal, run_gap e places _ hafter]
    simp [Cursor.pass, Function.comp_def]

end Plan

-- ---------------------------------------------------------------------------
-- Searching
-- ---------------------------------------------------------------------------

theorem Plan.seek_literal (s : Text) (places : Nat) (passed t : Text) :
    (literalPattern s).plan.seek places passed t =
      (Text.cut? s t).map fun (before, rest) => ⟨passed.reverse ++ before, s, rest⟩ := by
  induction t generalizing passed with
  | nil =>
    rw [seek, lengthAt?_literal]
    cases s <;> simp [Text.cut?]
  | cons c t ih =>
    rw [seek, lengthAt?_literal, Text.cut?]
    cases ha : Text.after? s (c :: t) with
    | none => simp [ih, Function.comp_def]
    | some rest => simp [Text.after?_eq_some_iff.mp ha]

theorem find?_literal (s t : Text) :
    (literalPattern s).find? t = (Text.cut? s t).map fun (before, rest) => ⟨before, s, rest⟩ := by
  simp [Pattern.find?, Plan.seek_literal]

theorem removeFirst_literal (s t : Text) :
    (literalPattern s).removeFirst t =
      match Text.cut? s t with
      | some (before, rest) => before ++ rest
      | none => t := by
  rw [Pattern.removeFirst, find?_literal]
  cases Text.cut? s t <;> rfl

namespace Plan

theorem scan_skip (p : Plan) (places : Nat) (fresh : Bool) (k : Nat) (passed t : Text)
    (hk : k + 1 ≤ t.length) :
    p.scan places fresh (k + 1) passed t =
      p.scan places false 0 ((t.take (k + 1)).reverse ++ passed) (t.drop (k + 1)) := by
  induction k generalizing fresh passed t with
  | zero =>
    cases t with
    | nil => simp at hk
    | cons c t => simp [scan]
  | succ k ih =>
    cases t with
    | nil => simp at hk
    | cons c t =>
      rw [scan, ih _ _ _ (by simpa using hk)]
      simp

theorem scan_of_match {p : Plan} {places n : Nat} {passed t : Text} (fresh : Bool)
    (hn : n + 1 ≤ t.length) (h : p.lengthAt? places passed.head? t = some (n + 1)) :
    p.scan places fresh 0 passed t =
      ⟨passed.reverse, t.take (n + 1), t.drop (n + 1)⟩ ::
        p.scan places false 0 ((t.take (n + 1)).reverse ++ passed) (t.drop (n + 1)) := by
  cases t with
  | nil => simp at hn
  | cons c t =>
    rw [← scan_skip p places fresh n passed (c :: t) hn]
    simp [scan, h]

theorem scan_of_no_match {p : Plan} {places : Nat} {passed t : Text} {c : Char} (fresh : Bool)
    (h : p.lengthAt? places passed.head? (c :: t) = none) :
    p.scan places fresh 0 passed (c :: t) = p.scan places true 0 (c :: passed) t := by
  simp [scan, h]

theorem scan_eq_nil {p : Plan} {places : Nat} {passed t : Text} (fresh : Bool)
    (h : ∀ before rest, rest <:+ t → p.lengthAt? places before rest = none) :
    p.scan places fresh 0 passed t = [] := by
  induction t generalizing fresh passed with
  | nil => simp [scan, h passed.head? [] List.suffix_rfl]
  | cons c t ih =>
    rw [scan_of_no_match fresh (h _ _ List.suffix_rfl)]
    exact ih true fun before rest hr => h before rest (hr.trans (List.suffix_cons c t))

theorem lengthAt?_block_of_no_end {s e : Text} (he : e ≠ []) {places : Nat} {t rest : Text}
    (hlen : t.length ≤ places) (ha : Text.after? s t = some rest) (hc : Text.cut? e rest = none)
    (before : Option Char) (later : Text) (hl : later <:+ t) :
    (literal s e).block.plan.lengthAt? places before later = none := by
  rw [lengthAt?_block s e places before later (Nat.le_trans hl.length_le hlen)]
  cases hb : Text.after? s later with
  | none => rfl
  | some rest' =>
    have ht : t = s ++ rest := Text.after?_eq_some_iff.mp ha
    have hlater : later = s ++ rest' := Text.after?_eq_some_iff.mp hb
    have hrest' : rest' <:+ t := (hlater ▸ List.suffix_append s rest').trans hl
    have hrest : rest <:+ t := ht ▸ List.suffix_append s rest
    have hle : rest'.length ≤ rest.length := by
      have := hl.length_le
      simp only [ht, hlater, List.length_append] at this
      omega
    have hsuffix : rest' <:+ rest := List.suffix_of_suffix_length_le hrest' hrest hle
    have hfree : ¬ e <:+: rest' := fun h =>
      (Text.cut?_eq_none_iff he).mp hc (h.trans hsuffix.isInfix)
    simp [(Text.cut?_eq_none_iff he).mpr hfree]

/-- The scan for blocks cuts at the next beginning and at the first end behind
it, and goes on behind that end. Where no end follows a beginning, none
follows a later one. -/
theorem scan_block {s e : Text} (hs : s ≠ []) (he : e ≠ []) (places : Nat) (fresh : Bool)
    (passed t : Text) (hlen : t.length ≤ places) :
    (literal s e).block.plan.scan places fresh 0 passed t =
      match Text.cut? s t with
      | none => []
      | some (before, rest) =>
        match Text.cut? e rest with
        | none => []
        | some (inside, after) =>
          ⟨passed.reverse ++ before, s ++ inside ++ e, after⟩ ::
            (literal s e).block.plan.scan places false 0
              ((before ++ s ++ inside ++ e).reverse ++ passed) after := by
  induction t generalizing fresh passed with
  | nil =>
    rw [scan_eq_nil fresh]
    · simp [Text.cut?, hs]
    · intro before rest hr
      rw [List.suffix_nil.mp hr, lengthAt?_block s e places before [] (Nat.zero_le _),
        Text.after?_eq_none_iff.mpr (by simpa using hs)]
      rfl
  | cons c t ih =>
    have hlength (before : Option Char) := lengthAt?_block s e places before (c :: t) hlen
    cases ha : Text.after? s (c :: t) with
    | none =>
      have hnone : (literal s e).block.plan.lengthAt? places passed.head? (c :: t) = none := by
        rw [hlength, ha]
        rfl
      rw [scan_of_no_match fresh hnone, ih true (c :: passed) (by simp at hlen; omega), Text.cut?, ha]
      cases Text.cut? s t with
      | none => rfl
      | some found =>
        obtain ⟨before, rest⟩ := found
        simp only [Option.map_some]
        cases Text.cut? e rest <;> simp
    | some rest =>
      rw [Text.cut?_of_after? ha]
      cases hc : Text.cut? e rest with
      | none =>
        simp only [hc]
        exact scan_eq_nil fresh (lengthAt?_block_of_no_end he hlen ha hc)
      | some found =>
        obtain ⟨inside, after⟩ := found
        simp only [hc]
        have ht : c :: t = (s ++ inside ++ e) ++ after := by
          rw [Text.after?_eq_some_iff.mp ha, (Text.cut?_sound hc).1]
          simp
        have hpos : 0 < (s ++ inside ++ e).length := List.length_pos_iff.mpr (by simp [hs])
        obtain ⟨n, hn⟩ := Nat.exists_eq_add_one.mpr hpos
        have hmatch : (literal s e).block.plan.lengthAt? places passed.head? (c :: t) =
            some (n + 1) := by
          rw [hlength, ha, ← hn]
          simp [hc]
        rw [scan_of_match fresh (by rw [ht, ← hn]; simp) hmatch, ← hn, ht, List.take_left,
          List.drop_left]
        simp

end Plan

end Swatchbook
