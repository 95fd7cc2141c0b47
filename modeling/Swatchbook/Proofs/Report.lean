import Swatchbook.Note
import Mathlib.Data.List.Forall2

/-!
# Steps that take notes

A sequence of steps gives a result only if each of them does. What a step that
takes notes gives does not depend on the notes that were taken before it, so
its result alone can be computed without any.
-/

namespace Swatchbook

-- ---------------------------------------------------------------------------
-- Steps with a state
-- ---------------------------------------------------------------------------

namespace Step

variable {ε σ α β : Type} {step : ExceptT ε (StateM σ) α} {next : α → ExceptT ε (StateM σ) β}
  {a : α} {b : β} {before after : σ}

theorem bind_of_ok (h : step before = (.ok a, after)) : (step >>= next) before = next a after := by
  change (StateT.bind step (ExceptT.bindCont next) : StateM σ _) before = _
  unfold StateT.bind
  rw [h]
  rfl

theorem bind_of_error {e : ε} (h : step before = (.error e, after)) :
    (step >>= next) before = (.error e, after) := by
  change (StateT.bind step (ExceptT.bindCont next) : StateM σ _) before = _
  unfold StateT.bind
  rw [h]
  rfl

theorem bind_eq_ok : (step >>= next) before = (.ok b, after) ↔
    ∃ a middle, step before = (.ok a, middle) ∧ next a middle = (.ok b, after) := by
  constructor
  · intro h
    cases hstep : step before with
    | mk result middle =>
      cases result with
      | error e =>
        rw [bind_of_error hstep] at h
        cases h
      | ok a =>
        rw [bind_of_ok hstep] at h
        exact ⟨a, middle, rfl, h⟩
  · rintro ⟨a, middle, hstep, hnext⟩
    rw [bind_of_ok hstep, hnext]

theorem forM_cons (f : α → ExceptT ε (StateM σ) Unit) (x : α) (xs : List α) :
    (x :: xs).forM f = f x >>= fun _ => xs.forM f := rfl

end Step

theorem Except.bind_eq_ok {ε α β : Type} {x : Except ε α} {f : α → Except ε β} {b : β} :
    x >>= f = .ok b ↔ ∃ a, x = .ok a ∧ f a = .ok b := by
  cases x <;> simp [bind, Except.bind]

theorem Except.map_eq_ok {ε α β : Type} {f : α → β} {x : Except ε α} {b : β} :
    x.map f = .ok b ↔ ∃ a, x = .ok a ∧ f a = b := by
  cases x <;> simp [Except.map]

theorem Except.toOption_eq_some {ε α : Type} {x : Except ε α} {a : α} :
    x.toOption = some a ↔ x = .ok a := by
  cases x <;> simp [Except.toOption]

theorem Except.mapM_eq_ok {ε α β : Type} {f : α → Except ε β} {xs : List α} {ys : List β} :
    xs.mapM f = .ok ys ↔ List.Forall₂ (fun x y => f x = .ok y) xs ys := by
  induction xs generalizing ys with
  | nil => simp [pure, Except.pure, eq_comm]
  | cons x xs ih =>
    simp only [List.mapM_cons, Except.bind_eq_ok, ih, List.forall₂_cons_left_iff]
    simp [pure, Except.pure, eq_comm]

theorem Except.mapM_id_eq_ok {ε α : Type} {results : List (Except ε α)} {xs : List α} :
    results.mapM id = .ok xs ↔ results = xs.map .ok := by
  rw [Except.mapM_eq_ok]
  constructor
  · intro h
    induction h with
    | nil => rfl
    | cons hx _ ih => rw [List.map_cons, ← ih, ← hx, id_eq]
  · rintro rfl
    induction xs with
    | nil => exact .nil
    | cons x xs ih => exact .cons rfl ih

theorem Except.foldlM_invariant {ε α β : Type} {step : β → α → Except ε β} {P : β → Prop}
    (hstep : ∀ {b a b'}, step b a = .ok b' → P b → P b') {xs : List α} {b r : β}
    (h : xs.foldlM step b = .ok r) (hb : P b) : P r := by
  induction xs generalizing b with
  | nil =>
    cases h
    exact hb
  | cons x xs ih =>
    rw [List.foldlM_cons] at h
    obtain ⟨next, hnext, hrest⟩ := Except.bind_eq_ok.mp h
    exact ih hrest (hstep hnext hb)

namespace Report

variable {α β : Type} {step : Report α} {next : α → Report β} {a : α}

-- ---------------------------------------------------------------------------
-- Notes decide nothing
-- ---------------------------------------------------------------------------

/-- A step whose result does not depend on the notes that were taken before. -/
def Steady (step : Report α) : Prop := ∀ before, (step before).1 = step.outcome.1

theorem steady_pure (a : α) : Steady (pure a) := fun _ => rfl

theorem steady_note (level : Level) (speaker : Speaker) (text : Text) :
    Steady (note level speaker text) := fun _ => rfl

theorem steady_ofExcept (result : Except Fault α) : Steady (ofExcept result) := fun _ => rfl

theorem Steady.outcome_of_run (h : Steady step) {before after : List Note}
    (hrun : step before = (.ok a, after)) : step.outcome.1 = .ok a := by
  rw [← h before, hrun]

theorem ofExcept_eq_ok {result : Except Fault α} {before after : List Note}
    (h : ofExcept result before = (.ok a, after)) : result = .ok a := congrArg Prod.fst h

theorem result_bind (hnext : ∀ a, Steady (next a)) (before : List Note) :
    ((step >>= next) before).1 = (step before).1 >>= fun a => (next a).outcome.1 := by
  cases hstep : step before with
  | mk result middle =>
    cases result with
    | error e =>
      rw [Step.bind_of_error hstep]
      rfl
    | ok a =>
      rw [Step.bind_of_ok hstep, hnext a]
      rfl

theorem outcome_bind (hnext : ∀ a, Steady (next a)) :
    (step >>= next).outcome.1 = step.outcome.1 >>= fun a => (next a).outcome.1 :=
  result_bind hnext []

theorem Steady.bind (h : Steady step) (hnext : ∀ a, Steady (next a)) : Steady (step >>= next) := by
  intro before
  rw [result_bind hnext, h, outcome_bind hnext]

theorem steady_mapM {f : α → Report β} (h : ∀ a, Steady (f a)) (xs : List α) :
    Steady (xs.mapM f) := by
  induction xs with
  | nil => exact steady_pure []
  | cons x xs ih =>
    rw [List.mapM_cons]
    exact (h x).bind fun _ => ih.bind fun _ => steady_pure _

theorem outcome_mapM {f : α → Report β} (h : ∀ a, Steady (f a)) (xs : List α) :
    (xs.mapM f).outcome.1 = xs.mapM fun x => (f x).outcome.1 := by
  induction xs with
  | nil => rfl
  | cons x xs ih =>
    have hrest : ∀ y, Steady (do return y :: (← xs.mapM f)) :=
      fun _ => (steady_mapM h xs).bind fun _ => steady_pure _
    rw [List.mapM_cons, outcome_bind hrest, List.mapM_cons]
    congr 1
    funext y
    rw [outcome_bind fun _ => steady_pure _, ih]
    rfl

-- ---------------------------------------------------------------------------
-- Steps that always give a result
-- ---------------------------------------------------------------------------

/-- A step that gives `a` whatever notes were taken before. -/
def Gives (step : Report α) (a : α) : Prop := ∀ before, ∃ after, step before = (.ok a, after)

theorem gives_pure (a : α) : Gives (pure a) a := fun before => ⟨before, rfl⟩

theorem gives_note (level : Level) (speaker : Speaker) (text : Text) :
    Gives (note level speaker text) () := fun _ => ⟨_, rfl⟩

theorem Gives.bind {b : β} (h : Gives step a) (hnext : Gives (next a) b) :
    Gives (step >>= next) b := by
  intro before
  obtain ⟨middle, hmiddle⟩ := h before
  rw [Step.bind_of_ok hmiddle]
  exact hnext middle

theorem Gives.result (h : Gives step a) (before : List Note) : (step before).1 = .ok a := by
  obtain ⟨after, hafter⟩ := h before
  rw [hafter]

theorem Gives.steady (h : Gives step a) : Steady step := by
  intro before
  rw [h.result before, outcome, h.result]

theorem outcome_ofExcept_bind {result : Except Fault α} {f : α → β}
    (h : ∀ a, Gives (next a) (f a)) : (ofExcept result >>= next).outcome.1 = result.map f := by
  rw [outcome_bind fun a => (h a).steady]
  cases result with
  | error e => rfl
  | ok a => exact (h a).result []

end Report

end Swatchbook
