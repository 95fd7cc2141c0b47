import Swatchbook.Pattern.Search
import Mathlib.Data.Finset.Card
import Mathlib.Data.Finset.Range

/-!
# Matches without looking around

A pattern that has no anchors and no word edges sees only what is ahead of it.
So whether it matches at a place depends on the text from there on alone, not
on what was passed, and a pattern that goes on behind it matches only where it
matches by itself. Both are seen by running two searches side by side: as long
as the one that asks for less fails, they take up the same choices.
-/

namespace Swatchbook

def Pattern.lookFree : Pattern → Bool
  | .empty | .set _ => true
  | .look _ => false
  | .seq a b | .alt a b => a.lookFree && b.lookFree
  | .repeated _ _ _ a => a.lookFree

namespace Plan

def lookFree : Plan → Bool
  | .done | .set _ => true
  | .look _ => false
  | .seq a b | .fork _ a b => a.lookFree && b.lookFree
  | .rounds _ _ a => a.lookFree

theorem lookFree_copies {make : Nat → Plan × Nat} (h : ∀ free, (make free).1.lookFree = true)
    (n free : Nat) : (copies make n free).1.lookFree = true := by
  induction n generalizing free with
  | zero => rfl
  | succ n ih => simp [copies, lookFree, h, ih]

theorem lookFree_option (place : Nat) (greedy : Bool) {a : Plan} (h : a.lookFree = true) :
    (option place greedy a).lookFree = true := by
  cases greedy <;> simp [option, lookFree, h]

theorem lookFree_options {make : Nat → Plan × Nat} (greedy : Bool)
    (h : ∀ free, (make free).1.lookFree = true) (n free : Nat) :
    (options greedy make n free).1.lookFree = true := by
  induction n generalizing free with
  | zero => rfl
  | succ n ih => exact lookFree_option free greedy (by simp [lookFree, h, ih])

end Plan

theorem Pattern.lookFree_planFrom {p : Pattern} (h : p.lookFree = true) (free : Nat) :
    (p.planFrom free).1.lookFree = true := by
  induction p generalizing free with
  | empty => rfl
  | set c => rfl
  | look l => cases h
  | seq a b iha ihb =>
    obtain ⟨ha, hb⟩ := Bool.and_eq_true_iff.mp h
    simp [planFrom, Plan.lookFree, iha ha, ihb hb]
  | alt a b iha ihb =>
    obtain ⟨ha, hb⟩ := Bool.and_eq_true_iff.mp h
    simp [planFrom, Plan.lookFree, iha ha, ihb hb]
  | repeated least most greedy a ih =>
    have hcopies := Plan.lookFree_copies (ih h)
    have hoptions := Plan.lookFree_options greedy (ih h)
    cases most with
    | some most => simp [planFrom, Plan.lookFree, hcopies, hoptions]
    | none =>
      cases least with
      | zero => exact Plan.lookFree_option _ _ (ih h _)
      | succ least => simp [planFrom, Plan.lookFree, hcopies, ih h]

namespace Plan

-- ---------------------------------------------------------------------------
-- Two searches side by side
-- ---------------------------------------------------------------------------

/-- Whenever `b` fails with at least these choices taken up, `a` fails in the same way. -/
def Follows (tried : Tried) (a b : Attempt) : Prop :=
  ∀ now later, (∀ x ∈ tried, x ∈ now) → b now = (none, later) →
    (∀ x ∈ now, x ∈ later) ∧ a now = (none, later)

/-- With at least these choices taken up there is nothing left to try. -/
def Stuck (tried : Tried) (a : Attempt) : Prop :=
  ∀ now, (∀ x ∈ tried, x ∈ now) → a now = (none, now)

theorem stuck_fail {tried : Tried} : Stuck tried .fail := fun _ _ => rfl

theorem stuck_once {tried : Tried} {place : Nat} {here : Cursor} {a : Attempt}
    (h : (place, here.passed) ∈ tried) : Stuck tried (once place here a) := by
  intro now hnow
  simp only [once, Std.HashSet.contains_iff_mem, hnow _ h, if_true]

namespace Follows

variable {tried tried' : Tried} {a a' b b' : Attempt}

theorem mono (h : Follows tried a b) (hsub : ∀ x ∈ tried, x ∈ tried') : Follows tried' a b :=
  fun now later hnow => h now later fun x hx => hnow x (hsub x hx)

theorem stuck (ha : Stuck tried a) (hb : Stuck tried b) : Follows tried a b := by
  intro now later hnow h
  cases (hb now hnow).symm.trans h
  exact ⟨fun _ hx => hx, ha now hnow⟩

theorem fail : Follows tried .fail .fail := stuck stuck_fail stuck_fail

theorem accept (here : Cursor) : Follows tried a fun now => (some here, now) :=
  fun _ _ _ h => nomatch h

theorem orElse (h : Follows tried a b) (h' : Follows tried a' b') :
    Follows tried (a.orElse a') (b.orElse b') := by
  intro now later hnow hfail
  cases hb : b now with
  | mk stop middle =>
    cases stop with
    | some stop => simp [Attempt.orElse, hb] at hfail
    | none =>
      simp only [Attempt.orElse, hb] at hfail
      obtain ⟨hmiddle, ha⟩ := h now middle hnow hb
      obtain ⟨hlater, ha'⟩ := h' middle later (fun x hx => hmiddle x (hnow x hx)) hfail
      refine ⟨fun x hx => hlater x (hmiddle x hx), ?_⟩
      simp only [Attempt.orElse, ha, ha']

theorem once {place : Nat} {here here' : Cursor} (hsame : here.passed = here'.passed)
    (h : Follows (tried.insert (place, here.passed)) a b) :
    Follows tried (once place here a) (once place here' b) := by
  intro now later hnow hfail
  by_cases hmem : (place, here.passed) ∈ now
  · exact (stuck (stuck_once hmem) (stuck_once (hsame ▸ hmem))) now later (fun _ hx => hx) hfail
  · simp only [Plan.once, ← hsame, Std.HashSet.contains_iff_mem, hmem, if_false] at hfail ⊢
    have hsub : ∀ x ∈ tried.insert (place, here.passed), x ∈ now.insert (place, here.passed) := by
      intro x hx
      rw [Std.HashSet.mem_insert] at hx ⊢
      exact hx.imp_right (hnow x)
    obtain ⟨hlater, ha⟩ := h _ later hsub hfail
    exact ⟨fun x hx => hlater x (Std.HashSet.mem_insert.mpr (.inr hx)), ha⟩

end Follows

/-- The two searches are at one place, of which `size` bounds the number. What was passed
before need not be the same. -/
structure Aligned (size : Nat) (here here' : Cursor) : Prop where
  passed : here.passed = here'.passed
  rest : here.rest = here'.rest
  bound : here.passed + here.rest.length = size

theorem Aligned.advance {size : Nat} {here here' : Cursor} (h : Aligned size here here') {c : Char}
    {rest : Text} (hrest : here.rest = c :: rest) :
    Aligned size (here.advance c rest) (here'.advance c rest) := by
  refine ⟨congrArg (· + 1) h.passed, rfl, ?_⟩
  have hbound := h.bound
  rw [hrest, List.length_cons] at hbound
  simp only [Cursor.advance]
  omega

/-- How many places are left at which a choice can still be taken up. -/
def untried (size place : Nat) (tried : Tried) : Nat :=
  ((Finset.range (size + 1)).filter fun passed => (place, passed) ∉ tried).card

theorem untried_le (size place : Nat) (tried : Tried) : untried size place tried ≤ size + 1 :=
  (Finset.card_filter_le _ _).trans (Finset.card_range _).le

theorem mem_of_untried_eq_zero {size place passed : Nat} {tried : Tried} (hle : passed ≤ size)
    (h : untried size place tried = 0) : (place, passed) ∈ tried := by
  by_contra hnot
  have hempty := Finset.card_eq_zero.mp h
  have hmem : passed ∈ (Finset.range (size + 1)).filter fun passed => (place, passed) ∉ tried :=
    Finset.mem_filter.mpr ⟨Finset.mem_range.mpr (Nat.lt_succ_of_le hle), hnot⟩
  rw [hempty] at hmem
  cases hmem

theorem untried_insert_lt {size place passed : Nat} {tried : Tried} (hle : passed ≤ size)
    (h : (place, passed) ∉ tried) :
    untried size place (tried.insert (place, passed)) < untried size place tried := by
  refine Finset.card_lt_card (Finset.ssubset_iff_of_subset ?_ |>.mpr ⟨passed, ?_, ?_⟩)
  · refine Finset.monotone_filter_right _ fun other _ hother hmem => ?_
    exact hother (Std.HashSet.mem_insert.mpr (.inr hmem))
  · exact Finset.mem_filter.mpr ⟨Finset.mem_range.mpr (Nat.lt_succ_of_le hle), h⟩
  · intro hmem
    exact (Finset.mem_filter.mp hmem).2 (Std.HashSet.mem_insert.mpr (.inl (by simp)))

/-- Behind a round the searches stay side by side, if neither runs out of rounds before
all places are taken up. -/
theorem more_follows {size place : Nat} {greedy : Bool} {round round' : Cursor → Goal → Attempt}
    (hround : ∀ {tried here here' goal goal'}, Aligned size here here' →
      (∀ {next next'}, Aligned size next next' → Follows tried (goal next) (goal' next')) →
      Follows tried (round here goal) (round' here' goal'))
    {n n' : Nat} {tried : Tried} (hn : untried size place tried ≤ n)
    (hn' : untried size place tried ≤ n') {here here' : Cursor} (hhere : Aligned size here here')
    {goal goal' : Goal}
    (hgoal : ∀ {next next'}, Aligned size next next' → Follows tried (goal next) (goal' next')) :
    Follows tried (more place greedy round n here goal) (more place greedy round' n' here' goal') := by
  have hle : here.passed ≤ size := by
    have hbound := hhere.bound
    omega
  induction n generalizing n' tried here here' with
  | zero =>
    have hmem := mem_of_untried_eq_zero hle (Nat.le_zero.mp hn)
    cases n' with
    | zero => exact .fail
    | succ n' => exact .stuck stuck_fail (stuck_once (hhere.passed ▸ hmem))
  | succ n ih =>
    by_cases hmem : (place, here.passed) ∈ tried
    · cases n' with
      | zero => exact .stuck (stuck_once hmem) stuck_fail
      | succ n' => exact .stuck (stuck_once hmem) (stuck_once (hhere.passed ▸ hmem))
    · have hlt := untried_insert_lt hle hmem
      obtain ⟨n', rfl⟩ : ∃ k, n' = k + 1 := ⟨n' - 1, by omega⟩
      refine .once hhere.passed ?_
      have hsub : ∀ x ∈ tried, x ∈ tried.insert (place, here.passed) := fun x hx =>
        Std.HashSet.mem_insert.mpr (.inr hx)
      have hgoals {next next' : Cursor} (hnext : Aligned size next next') :
          Follows (tried.insert (place, here.passed)) (goal next) (goal' next') :=
        (hgoal hnext).mono hsub
      have hanother : Follows (tried.insert (place, here.passed))
          (round here fun next => more place greedy round n next goal)
          (round' here' fun next => more place greedy round' n' next goal') := by
        refine hround hhere fun {next next'} hnext => ?_
        have hnextle : next.passed ≤ size := by
          have hbound := hnext.bound
          omega
        exact ih (by omega) (by omega) hnext hgoals hnextle
      cases greedy with
      | true => exact hanother.orElse (hgoals hhere)
      | false => exact (hgoals hhere).orElse hanother

/-- Without looking around the searches stay side by side, as long as their goals do. -/
theorem run_follows {p : Plan} (hfree : p.lookFree = true) {size places places' : Nat}
    (hplaces : size < places) (hplaces' : size < places') {tried : Tried} {here here' : Cursor}
    (hhere : Aligned size here here') {goal goal' : Goal}
    (hgoal : ∀ {next next'}, Aligned size next next' → Follows tried (goal next) (goal' next')) :
    Follows tried (p.run places here goal) (p.run places' here' goal') := by
  induction p generalizing tried here here' goal goal' with
  | done => exact hgoal hhere
  | set c =>
    rw [run, run, ← hhere.rest]
    cases hrest : here.rest with
    | nil => exact .fail
    | cons d rest =>
      dsimp only
      split
      · exact hgoal (hhere.advance hrest)
      · exact .fail
  | look l => cases hfree
  | seq a b iha ihb =>
    obtain ⟨ha, hb⟩ := Bool.and_eq_true_iff.mp hfree
    exact iha ha hhere fun hnext => ihb hb hnext hgoal
  | fork place a b iha ihb =>
    obtain ⟨ha, hb⟩ := Bool.and_eq_true_iff.mp hfree
    have hgoals {next next' : Cursor} (hnext : Aligned size next next') :
        Follows (tried.insert (place, here.passed)) (goal next) (goal' next') :=
      (hgoal hnext).mono fun x hx => Std.HashSet.mem_insert.mpr (.inr hx)
    exact .once hhere.passed ((iha ha hhere hgoals).orElse (ihb hb hhere hgoals))
  | rounds place greedy a ih =>
    refine ih hfree hhere fun hnext => ?_
    have huntried := untried_le size place tried
    exact more_follows (fun hhere hgoal => ih hfree hhere hgoal) (by omega) (by omega) hnext hgoal

/-- A plan that goes on behind another matches only where the other does, whatever was
passed before. -/
theorem lengthAt?_of_seq {a b : Plan} (hfree : a.lookFree = true) {places places' : Nat} {rest : Text}
    (hplaces : rest.length < places) (hplaces' : rest.length < places') {before : Option Char}
    (h : ((Plan.seq a b).lengthAt? places before rest).isSome = true) (before' : Option Char) :
    (a.lengthAt? places' before' rest).isSome = true := by
  rw [lengthAt?, Option.isSome_map] at h ⊢
  rw [← Bool.not_eq_false, Option.isSome_eq_false_iff, Option.isNone_iff_eq_none]
  intro hnone
  have hhere : Aligned rest.length ⟨0, before, rest⟩ ⟨0, before', rest⟩ := ⟨rfl, rfl, Nat.zero_add _⟩
  have hfollows := @run_follows a hfree rest.length places places' hplaces hplaces' ∅ _ _ hhere
    (fun next => b.run places next fun stop tried => (some stop, tried))
    (fun stop tried => (some stop, tried)) fun {_ next'} _ => .accept next'
  obtain ⟨-, hfail⟩ := hfollows ∅ _ (fun x hx => hx) (Prod.ext hnone rfl)
  rw [run, hfail] at h
  cases h

end Plan

end Swatchbook
