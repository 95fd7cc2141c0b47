import Swatchbook.Pattern.Reader
import Swatchbook.Proofs.Report
import Swatchbook.Proofs.Text

/-!
# Reading before a closing parenthesis

What is read at the end of a text is read in the same way if a closing
parenthesis follows, as long as blanks and comments are not skipped. One text
is different: a hyphen at the end of a class that is not closed stands for
itself there, and would begin a range otherwise. But then the class is a fault.
-/

namespace Swatchbook.Pattern

-- ---------------------------------------------------------------------------
-- Characters of a kind
-- ---------------------------------------------------------------------------

section

variable {kind : Char → Bool} {n : Nat} {t taken rest v : Text}

theorem skipVerbose_false (t : Text) : skipVerbose false t = t := rfl

theorem exists_of_append_eq_cons {c : Char} {u : Text} (hc : c ≠ ')') (h : t ++ ')' :: v = c :: u) :
    ∃ t', t = c :: t' ∧ u = t' ++ ')' :: v := by
  cases t with
  | nil => exact absurd (List.cons.inj h).1.symm hc
  | cons d t =>
    obtain ⟨rfl, rfl⟩ := List.cons.inj h
    exact ⟨t, rfl, rfl⟩

theorem takeOf_append (h : takeOf kind false n t = (taken, rest))
    (hstop : rest ≠ [] ∨ kind ')' = false) (v : Text) :
    takeOf kind false n (t ++ ')' :: v) = (taken, rest ++ ')' :: v) := by
  induction n generalizing t taken rest with
  | zero =>
    cases h
    rfl
  | succ n ih =>
    cases t with
    | nil =>
      cases h
      rcases hstop with hrest | hkind
      · exact absurd rfl hrest
      · simp [takeOf, skipVerbose_false, hkind]
    | cons c t =>
      rw [takeOf, skipVerbose_false] at h
      rw [List.cons_append, takeOf, skipVerbose_false]
      dsimp only at h ⊢
      split at h
      · next hc =>
        cases hothers : takeOf kind false n t with
        | mk others left =>
          rw [hothers] at h
          cases h
          rw [if_pos hc, ih hothers hstop]
      · next hc =>
        cases h
        rw [if_neg hc]
        rfl

theorem takeOf_fuel (h : t.length ≤ n) : takeOf kind false n t = takeOf kind false t.length t := by
  induction n generalizing t with
  | zero =>
    rw [List.eq_nil_of_length_eq_zero (Nat.le_zero.mp h)]
    rfl
  | succ n ih =>
    cases t with
    | nil => rfl
    | cons c t =>
      rw [List.length_cons, takeOf, takeOf, skipVerbose_false]
      dsimp only
      rw [ih (Nat.le_of_succ_le_succ h)]

theorem takeOf_length_append (h : takeOf kind false t.length t = (taken, rest))
    (hstop : rest ≠ [] ∨ kind ')' = false) (v : Text) :
    takeOf kind false (t ++ ')' :: v).length (t ++ ')' :: v) = (taken, rest ++ ')' :: v) := by
  refine takeOf_append ?_ hstop v
  rw [takeOf_fuel (by simp), h]

end

-- ---------------------------------------------------------------------------
-- Escapes
-- ---------------------------------------------------------------------------

/-- What is read does not change if a closing parenthesis follows. -/
def Steady {α : Type} (read : Text → Read (α × Text)) : Prop :=
  ∀ ⦃t a rest⦄, read t = .ok (a, rest) → ∀ v, read (t ++ ')' :: v) = .ok (a, rest ++ ')' :: v)

theorem map_pair_eq_ok {α : Type} {x : Read α} {a : α} {t rest : Text} :
    x.map (fun a => (a, t)) = .ok (a, rest) ↔ x = .ok a ∧ t = rest := by
  cases x <;> simp [Except.map]

theorem Steady.map {α β : Type} {read : Text → Read (α × Text)} (h : Steady read) (f : α → β) :
    Steady fun t => (read t).map fun (a, t) => (f a, t) := by
  intro t b rest hread v
  obtain ⟨⟨a, left⟩, hfound, heq⟩ := Except.map_eq_ok.mp hread
  cases heq
  exact Except.map_eq_ok.mpr ⟨_, h hfound v, rfl⟩

def propertyName : Text → Read (Text × Text)
  | [] => .error .badEscape
  | '\x7b' :: t =>
    match takeOf (· != '\x7d') false t.length t with
    | (_, []) => .error .badEscape
    | (name, _ :: rest) => .ok (name, rest)
  | c :: rest => .ok ([c], rest)

theorem steady_propertyName : Steady propertyName := by
  intro t name rest h v
  unfold propertyName at h
  split at h
  · cases h
  · next inside =>
    split at h
    · cases h
    · next htaken =>
      cases h
      have hlonger := takeOf_length_append htaken (.inl (List.cons_ne_nil _ _)) v
      rw [List.cons_append, propertyName, hlonger]
      rfl
  · next c left hc =>
    cases h
    simp [propertyName]

def propertyClass (modes : Modes) (negated : Bool) (name : Text) : Read Class :=
  match (match (splitProperty name).1 with
    | some key => Class.propertyValue? key (splitProperty name).2.1
    | none => Class.property? (splitProperty name).2.1) with
  | some c =>
    .ok (if negated != (splitProperty name).2.2 then .not (foldIf modes c) else foldIf modes c)
  | none => .error .badProperty

section

variable {modes : Modes} (hm : modes.verbose = false)

include hm

theorem steady_readHex (width : Nat) : Steady (readHex modes width) := by
  intro t c rest h v
  have hhex : Text.isHex ')' = false := by decide
  rw [readHex, hm, skipVerbose_false] at h ⊢
  split at h
  · next inside =>
    cases htaken : takeOf Text.isHex false inside.length inside with
    | mk digits left =>
      simp only [List.cons_append, htaken, takeOf_length_append htaken (.inr hhex) v,
        skipVerbose_false] at h ⊢
      cases digits with
      | nil => cases h
      | cons d digits =>
        dsimp only at h ⊢
        split at h
        · next left =>
          obtain ⟨hcode, rfl⟩ := map_pair_eq_ok.mp h
          exact map_pair_eq_ok.mpr ⟨hcode, rfl⟩
        · cases h
  · next hbrace =>
    split
    · next inside hinside =>
      obtain ⟨t', ht', -⟩ := exists_of_append_eq_cons (by decide) hinside
      exact absurd ht' (hbrace t')
    · cases htaken : takeOf Text.isHex false width t with
      | mk digits left =>
        rw [htaken] at h
        rw [takeOf_append htaken (.inr hhex) v]
        dsimp only at h ⊢
        split at h
        · cases h
        · next hlength =>
          rw [if_neg hlength]
          split at h
          · cases h
          · next code hcode =>
            split at h
            · cases h
            · next hbyte =>
              cases h
              rw [if_neg hbyte]

theorem readProperty_eq (negated : Bool) (t : Text) : readProperty modes negated t =
    if !modes.unicode then .error .notUnicode
    else propertyName t >>= fun (name, rest) =>
      (propertyClass modes negated name).map fun c => (c, rest) := by
  have htail (name rest : Text) : (propertyClass modes negated name).map (fun c => (c, rest)) =
      match (match (splitProperty name).1 with
        | some key => Class.propertyValue? key (splitProperty name).2.1
        | none => Class.property? (splitProperty name).2.1) with
      | some c => .ok (if negated != (splitProperty name).2.2 then .not (foldIf modes c)
          else foldIf modes c, rest)
      | none => .error .badProperty := by
    rw [propertyClass]
    split <;> rfl
  simp only [readProperty, hm, skipVerbose_false, bind, Except.bind, pure, Except.pure]
  split
  · rfl
  · split
    · rfl
    · next inside =>
      rw [propertyName]
      cases takeOf (· != '\x7d') false inside.length inside with
      | mk name left =>
        cases left with
        | nil => rfl
        | cons d left => exact (htail name left).symm
    · next c left hc =>
      have hname : propertyName (c :: left) = .ok ([c], left) := by simp [propertyName]
      rw [hname]
      exact (htail [c] left).symm

theorem steady_readProperty (negated : Bool) : Steady (readProperty modes negated) := by
  intro t c rest h v
  rw [readProperty_eq hm] at h ⊢
  split at h
  · cases h
  · next hunicode =>
    rw [if_neg hunicode]
    obtain ⟨⟨name, left⟩, hname, hfound⟩ := Except.bind_eq_ok.mp h
    obtain ⟨hclass, rfl⟩ := map_pair_eq_ok.mp hfound
    exact Except.bind_eq_ok.mpr
      ⟨_, steady_propertyName hname v, map_pair_eq_ok.mpr ⟨hclass, rfl⟩⟩

theorem steady_readEdge : Steady (readEdge modes) := by
  intro t edge rest h v
  have hname : ((')' : Char).isAlpha || ')' == '-') = false := by decide
  unfold readEdge at h ⊢
  simp only [hm, skipVerbose_false] at h ⊢
  split at h
  · next inside =>
    split at h
    · cases h
    · next hinside =>
      cases htaken : takeOf (fun c => c.isAlpha || c == '-') false inside.length inside with
      | mk name left =>
        rw [htaken] at h
        simp only [List.cons_append]
        rw [if_neg (by simp), takeOf_length_append htaken (.inr hname) v]
        cases name with
        | nil =>
          cases h
          rfl
        | cons first name =>
          dsimp only at h ⊢
          split at h
          · next left =>
            repeat' split at h
            all_goals cases h
            all_goals simp only [*, if_true, if_false, List.cons_append, Bool.false_eq_true]
          · cases h
  · next hbrace =>
    cases h
    split
    · next inside hinside =>
      obtain ⟨t', ht', -⟩ := exists_of_append_eq_cons (by decide) hinside
      exact absurd ht' (hbrace t')
    · rfl

theorem steady_readEscape : Steady (readEscape modes) := by
  intro t found rest h v
  cases t with
  | nil => cases h
  | cons c t =>
    -- Digits, properties and edges read on; a last case are the characters that are escaped
    -- because they are special, and the classes with a letter.
    revert h
    simp only [List.cons_append, readEscape]
    split
    case h_1 | h_2 | h_3 => exact fun h => (steady_readHex hm _).map _ h v
    case h_4 | h_5 => exact fun h => (steady_readProperty hm _).map _ h v
    case h_14 => exact fun h => (steady_readEdge hm).map _ h v
    case h_18 =>
      intro h
      split at h
      · next hc =>
        cases h
        rw [if_pos hc]
      · next hc =>
        obtain ⟨cls, hclass, heq⟩ := Except.map_eq_ok.mp h
        cases heq
        rw [if_neg hc]
        exact Except.map_eq_ok.mpr ⟨cls, hclass, rfl⟩
    all_goals
      intro h
      cases h
      rfl

end

-- ---------------------------------------------------------------------------
-- Classes in brackets
-- ---------------------------------------------------------------------------

theorem mem_of_cut?_append {mark t v before rest : Text} {c : Char} (hm : mark ≠ []) (hc : c ∉ mark)
    (hnone : Text.cut? mark t = none) (h : Text.cut? mark (t ++ c :: v) = some (before, rest)) :
    c ∈ before := by
  have hout : ¬ mark <:+: t := (Text.cut?_eq_none_iff hm).mp hnone
  obtain ⟨hsplit, -⟩ := Text.cut?_sound h
  rcases List.append_eq_append_iff.mp hsplit with ⟨a, hmark, hv⟩ | ⟨a, rfl, -⟩
  · cases a with
    | nil =>
      rw [List.append_nil] at hmark
      exact absurd ⟨before, [], by rw [List.append_nil, hmark]⟩ hout
    | cons d a =>
      obtain ⟨rfl, -⟩ := List.cons.inj hv
      have hmem : c ∈ before ++ mark := by simp [hmark]
      exact (List.mem_append.mp hmem).resolve_right hc
  · exact absurd ⟨before, a, rfl⟩ hout

theorem named?_paren {name : Text} (h : ')' ∈ name) : Class.named? name = none := by
  have hne {key : String} (hkey : ')' ∉ key.toList) : ¬ (key.toList == name) = true := by
    intro heq
    exact hkey (eq_of_beq heq ▸ h)
  rw [Class.named?, List.findSome?_eq_none_iff]
  intro entry hentry
  dsimp only
  rw [if_neg (hne _)]
  revert entry
  decide

theorem readHyphens_append {fuel fuel' : Nat} {part : ClassPart} {t : Text} (h : t.length < fuel)
    (h' : t.length < fuel') (v : Text) :
    readHyphens false fuel' part (t ++ ')' :: v) =
      ((readHyphens false fuel part t).1, (readHyphens false fuel part t).2 ++ ')' :: v) := by
  induction fuel generalizing fuel' part t with
  | zero => exact absurd h (Nat.not_lt_zero _)
  | succ fuel ih =>
    cases fuel' with
    | zero => exact absurd h' (Nat.not_lt_zero _)
    | succ fuel' =>
      rw [readHyphens, readHyphens, skipVerbose_false, skipVerbose_false]
      split
      · next u hu =>
        obtain ⟨t, rfl, rfl⟩ := exists_of_append_eq_cons (by decide) hu
        exact ih (Nat.lt_of_succ_lt_succ h) (Nat.lt_of_succ_lt_succ h')
      · next hu =>
        split
        · next u => exact (hu _ rfl).elim
        · rfl

def caret : Text → Bool × Text
  | '^' :: t => (true, t)
  | t => (false, t)

theorem caret_append (t v : Text) :
    caret (t ++ ')' :: v) = ((caret t).1, (caret t).2 ++ ')' :: v) := by
  cases t with
  | nil => rfl
  | cons c t =>
    by_cases hc : c = '^'
    · rw [hc]
      rfl
    · simp [caret, hc]

theorem asciiClass?_colon (modes : Modes) (t : Text) : asciiClass? modes (':' :: t) =
    (Text.cut? ":]" (caret t).2).bind fun found =>
      if found.1.contains ':' then none else (Class.named? found.1).map fun c =>
        (if (caret t).1 then .not (foldIf modes c) else foldIf modes c, found.2) := by
  have hdo : asciiClass? modes (':' :: t) = (do
      let (name, rest) ← Text.cut? ":]" (caret t).2
      if name.contains ':' then none
      let c ← Class.named? name
      return (if (caret t).1 then .not (foldIf modes c) else foldIf modes c, rest)) := rfl
  rw [hdo]
  cases Text.cut? ":]" (caret t).2 with
  | none => rfl
  | some found =>
    obtain ⟨name, rest⟩ := found
    dsimp only [bind, Option.bind]
    split
    · rfl
    · cases Class.named? name <;> rfl

theorem asciiClass?_append (modes : Modes) (t v : Text) : asciiClass? modes (t ++ ')' :: v) =
    (asciiClass? modes t).map fun (c, rest) => (c, rest ++ ')' :: v) := by
  cases t with
  | nil => rfl
  | cons c t =>
    by_cases hc : c = ':'
    · rw [hc, List.cons_append, asciiClass?_colon, asciiClass?_colon, caret_append]
      dsimp only
      cases hcut : Text.cut? ":]" (caret t).2 with
      | none =>
        cases hlater : Text.cut? ":]" ((caret t).2 ++ ')' :: v) with
        | none => rfl
        | some found =>
          have hparen := mem_of_cut?_append (by decide) (by decide) hcut hlater
          simp [named?_paren hparen]
      | some found =>
        obtain ⟨name, rest⟩ := found
        obtain ⟨hsplit, -⟩ := Text.cut?_sound hcut
        rw [hsplit, List.append_assoc, Text.cut?_change_rest hcut]
        dsimp only [Option.bind]
        split
        · rfl
        · cases Class.named? name <;> rfl
    · have hother (u : Text) : asciiClass? modes (c :: u) = none := by
        simp [asciiClass?, Text.after?_cons_cons, Ne.symm hc]
      rw [List.cons_append, hother, hother]
      rfl

/-- A class that is opened behind some hyphens: if there are none, a closing bracket stands for
itself. -/
def openItems (negated : Bool) (found : ClassPart × Text) : OpenClass × Text :=
  if found.1.items = 0 ∧ found.2.head? = some ']' then
    (⟨negated, none, found.1.add (.char ']') 0⟩, found.2.tail)
  else (⟨negated, none, found.1⟩, found.2)

theorem openItems_append (negated : Bool) (part : ClassPart) (t v : Text) :
    openItems negated (part, t ++ ')' :: v) =
      ((openItems negated (part, t)).1, (openItems negated (part, t)).2 ++ ')' :: v) := by
  cases t with
  | nil => simp [openItems]
  | cons c t =>
    by_cases hc : part.items = 0 ∧ c = ']'
    · simp [openItems, hc]
    · simp [openItems, hc]

def alone : Text → Bool
  | '-' :: c :: _ => c == ']' || c == '-'
  | _ => true

theorem alone_append {t : Text} (h : t ≠ ['-']) (v : Text) : alone (t ++ ')' :: v) = alone t := by
  match t with
  | [] => rfl
  | [c] =>
    have hc : c ≠ '-' := by
      rintro rfl
      exact h rfl
    simp [alone, hc]
  | c :: d :: t =>
    by_cases hc : c = '-'
    · rw [hc]
      rfl
    · simp [alone, hc]

def itemClass (modes : Modes) : Escaped → Read Class
  | .char c => (checkChar modes c).map .char
  | .cls c => .ok c
  | .look _ => .error .badClass

def rangeClass (modes : Modes) : Escaped → Escaped → Read Class
  | .char a, .char b => do
    let a ← checkChar modes a
    let b ← checkChar modes b
    if a ≤ b then return .range a b else throw .badClass
  | _, _ => throw .badClass

section

variable {modes : Modes} (hm : modes.verbose = false)

include hm

theorem openClass_eq (t : Text) : openClass modes t =
    openItems (caret t).1 (readHyphens false ((caret t).2.length + 1) .empty (caret t).2) := by
  simp only [openClass, hm, skipVerbose_false]
  split
  · next u hitems hrest =>
    replace hitems : (readHyphens false ((caret t).2.length + 1) .empty (caret t).2).1.items = 0 :=
      hitems
    replace hrest : (readHyphens false ((caret t).2.length + 1) .empty (caret t).2).2 = ']' :: u :=
      hrest
    rw [openItems, if_pos ⟨hitems, by rw [hrest]; rfl⟩, hrest]
    rfl
  · next hother =>
    rw [openItems, if_neg]
    · rfl
    · rintro ⟨hitems, hrest⟩
      obtain ⟨u, hu⟩ := List.head?_eq_some_iff.mp hrest
      exact hother u hitems hu

theorem openClass_append (t v : Text) : openClass modes (t ++ ')' :: v) =
    ((openClass modes t).1, (openClass modes t).2 ++ ')' :: v) := by
  have hhyphens := @readHyphens_append ((caret t).2.length + 1)
    (((caret t).2 ++ ')' :: v).length + 1) .empty (caret t).2 (Nat.lt_succ_self _)
    (by rw [List.length_append]; omega) v
  rw [openClass_eq hm, openClass_eq hm, caret_append]
  dsimp only
  rw [hhyphens, openItems_append]

theorem steady_readItem : Steady (readItem modes) := by
  intro t found rest h v
  unfold readItem at h
  split at h
  · cases h
  · next t => exact steady_readEscape hm h v
  · next c t hc =>
    cases h
    simp [readItem]

theorem readRange_eq (t : Text) : readRange modes t = readItem modes t >>= fun (first, rest) =>
    if alone rest then (itemClass modes first).map fun c => (c, rest)
    else readItem modes (rest.drop 1) >>= fun (last, rest) =>
      (rangeClass modes first last).map fun c => (c, rest) := by
  simp only [readRange, hm, skipVerbose_false, bind]
  cases readItem modes t with
  | error e => rfl
  | ok found =>
    obtain ⟨first, rest⟩ := found
    dsimp only [Except.bind]
    refine ite_congr ?_ (fun _ => ?_) fun _ => ?_
    · rcases rest with _ | ⟨c, _ | ⟨d, rest⟩⟩
      · rfl
      · by_cases hc : c = '-' <;> simp [alone, hc]
      · by_cases hc : c = '-' <;> simp [alone, hc]
    · cases first with
      | char c =>
        dsimp only [itemClass]
        cases checkChar modes c <;> rfl
      | cls c => rfl
      | look l => rfl
    · cases readItem modes (rest.drop 1) with
      | error e => rfl
      | ok found =>
        obtain ⟨last, rest⟩ := found
        dsimp only
        cases first with
        | char a =>
          cases last with
          | char b =>
            simp only [rangeClass, bind, Except.bind]
            cases checkChar modes a with
            | error e => rfl
            | ok a =>
              cases checkChar modes b with
              | error e => rfl
              | ok b =>
                dsimp only
                split <;> rfl
          | cls c => rfl
          | look l => rfl
        | cls c => rfl
        | look l => rfl

theorem readRange_append {t rest : Text} {c : Class} (h : readRange modes t = .ok (c, rest))
    (hrest : rest ≠ ['-']) (v : Text) :
    readRange modes (t ++ ')' :: v) = .ok (c, rest ++ ')' :: v) := by
  rw [readRange_eq hm] at h ⊢
  obtain ⟨⟨first, left⟩, hfirst, h⟩ := Except.bind_eq_ok.mp h
  refine Except.bind_eq_ok.mpr ⟨_, steady_readItem hm hfirst v, ?_⟩
  dsimp only at h ⊢
  split at h
  · next halone =>
    obtain ⟨hc, rfl⟩ := map_pair_eq_ok.mp h
    rw [alone_append hrest, if_pos halone]
    exact map_pair_eq_ok.mpr ⟨hc, rfl⟩
  · next halone =>
    have hleft : left ≠ ['-'] := fun heq => halone (by rw [heq]; rfl)
    have hdrop : (left ++ ')' :: v).drop 1 = left.drop 1 ++ ')' :: v := by
      cases left with
      | nil => exact absurd rfl halone
      | cons d left => rfl
    rw [alone_append hleft, if_neg halone, hdrop]
    obtain ⟨⟨last, left⟩, hlast, h⟩ := Except.bind_eq_ok.mp h
    obtain ⟨hc, rfl⟩ := map_pair_eq_ok.mp h
    exact Except.bind_eq_ok.mpr ⟨_, steady_readItem hm hlast v, map_pair_eq_ok.mpr ⟨hc, rfl⟩⟩

theorem readClass_hyphen (fuel : Nat) (outer : List OpenClass) (o : OpenClass) :
    readClass modes fuel outer o ['-'] = .error .badClass := by
  have hrange : readRange modes ['-'] = .ok (.char '-', []) := by
    have hchar : checkChar modes '-' = .ok '-' := by
      simp [checkChar]
    rw [readRange_eq hm]
    simp [readItem, alone, itemClass, hchar, bind, Except.bind, Except.map]
  cases fuel with
  | zero => rfl
  | succ fuel =>
    rw [readClass, hm, skipVerbose_false]
    split
    case h_7 =>
      rw [hrange]
      cases fuel with
      | zero => rfl
      | succ fuel => simp [readClass, hm, skipVerbose_false]
    all_goals simp at *

theorem readClass_append {fuel fuel' : Nat} {outer : List OpenClass} {o : OpenClass}
    {t rest : Text} {c : Class} {depth : Nat}
    (h : readClass modes fuel outer o t = .ok (c, depth, rest)) (hfuel : fuel ≤ fuel') (v : Text) :
    readClass modes fuel' outer o (t ++ ')' :: v) = .ok (c, depth, rest ++ ')' :: v) := by
  induction fuel generalizing fuel' outer o t with
  | zero => cases h
  | succ fuel ih =>
    obtain ⟨k, rfl⟩ := Nat.exists_eq_add_of_lt hfuel
    have hle : fuel ≤ fuel + k := Nat.le_add_right _ _
    -- An item or a range is all that can be read differently; the other cases begin with marks
    -- that are no parenthesis.
    rw [readClass, hm, skipVerbose_false] at h ⊢
    split at h
    · cases h
    · next t =>
      simp only [List.cons_append, asciiClass?_append, openClass_append hm]
      cases hclass : asciiClass? modes t with
      | some found =>
        rw [hclass] at h
        exact ih h hle
      | none =>
        rw [hclass] at h
        exact ih h hle
    · next t =>
      simp only [List.cons_append]
      split at h
      · cases h
      · split at h
        · cases h
          rfl
        · exact ih h hle
    · next t => exact ih h hle
    · next t => exact ih h hle
    · next t => exact ih h hle
    · next hnil hopen hclose hboth hminus hdiffer =>
      have htwice {d : Char} {u : Text} (hd : d ≠ ')') (hu : t ++ ')' :: v = d :: d :: u) :
          ∃ t', t = d :: d :: t' := by
        obtain ⟨t', rfl, ht'⟩ := exists_of_append_eq_cons hd hu
        obtain ⟨t', rfl, -⟩ := exists_of_append_eq_cons hd ht'.symm
        exact ⟨t', rfl⟩
      split
      · next hu => simp at hu
      · next u hu =>
        obtain ⟨t', rfl, -⟩ := exists_of_append_eq_cons (by decide) hu
        exact (hopen _ rfl).elim
      · next u hu =>
        obtain ⟨t', rfl, -⟩ := exists_of_append_eq_cons (by decide) hu
        exact (hclose _ rfl).elim
      · next u hu =>
        obtain ⟨t', rfl⟩ := htwice (by decide) hu
        exact (hboth _ rfl).elim
      · next u hu =>
        obtain ⟨t', rfl⟩ := htwice (by decide) hu
        exact (hminus _ rfl).elim
      · next u hu =>
        obtain ⟨t', rfl⟩ := htwice (by decide) hu
        exact (hdiffer _ rfl).elim
      · cases hrange : readRange modes t with
        | error e =>
          rw [hrange] at h
          cases h
        | ok found =>
          obtain ⟨item, left⟩ := found
          rw [hrange] at h
          replace h : readClass modes fuel outer (o.add item 0) left = .ok (c, depth, rest) := h
          -- Behind a hyphen the class would not be closed.
          have hleft : left ≠ ['-'] := by
            rintro rfl
            rw [readClass_hyphen hm] at h
            cases h
          rw [readRange_append hm hrange hleft v]
          exact ih h hle

end

-- ---------------------------------------------------------------------------
-- Repetition and groups
-- ---------------------------------------------------------------------------

theorem readGreed_append (t v : Text) :
    readGreed (t ++ ')' :: v) = ((readGreed t).1, (readGreed t).2 ++ ')' :: v) := by
  cases t with
  | nil => rfl
  | cons c t =>
    by_cases hc : c = '?'
    · rw [hc]
      rfl
    · simp [readGreed, hc]

theorem trimStart_append (t v : Text) :
    Text.trimStart (t ++ ')' :: v) = Text.trimStart t ++ ')' :: v := by
  induction t with
  | nil => rfl
  | cons c t ih =>
    cases hc : Text.isBlank c with
    | false => simp [Text.trimStart, hc]
    | true => simpa [Text.trimStart, hc] using ih

theorem readCount_append (t v : Text) :
    readCount false (t ++ ')' :: v) =
      ((readCount false t).1, (readCount false t).2 ++ ')' :: v) := by
  cases htaken : takeOf Text.isDigit false (Text.trimStart t).length (Text.trimStart t) with
  | mk digits left =>
    have hdigit : Text.isDigit ')' = false := by decide
    simp only [readCount, trimStart_append, htaken, takeOf_length_append htaken (.inr hdigit) v]

theorem readCounts_append {t rest : Text} {least : Nat} {most : Option Nat}
    (h : readCounts false t = .ok (least, most, rest)) (v : Text) :
    readCounts false (t ++ ')' :: v) = .ok (least, most, rest ++ ')' :: v) := by
  simp only [readCounts, skipVerbose_false, readCount_append] at h ⊢
  split at h
  · cases h
  · next n left hcount =>
    rw [hcount]
    dsimp only
    split at h
    · cases h
    · next hsmall =>
      rw [if_neg hsmall]
      split at h
      · cases h
        rfl
      · next left =>
        simp only [List.cons_append]
        split at h
        · cases h
          rfl
        · next hbrace =>
          split
          · next u hu =>
            obtain ⟨left', rfl, -⟩ := exists_of_append_eq_cons (by decide) hu
            exact (hbrace _ rfl).elim
          · rw [readCount_append]
            split at h
            · next n' left' hcount' =>
              rw [hcount']
              dsimp only
              split at h
              · simp only [List.cons_append]
                split at h
                · cases h
                · next hbounds =>
                  cases h
                  rw [if_neg hbounds]
              · cases h
            · cases h
      · cases h

theorem readFlags_append {modes modes' : Modes} {on dangling : Bool} {seen seen' t rest : Text}
    (h : readFlags modes on dangling seen t = .ok (modes', seen', rest)) (v : Text) :
    rest ≠ [] ∧
      readFlags modes on dangling seen (t ++ ')' :: v) = .ok (modes', seen', rest ++ ')' :: v) := by
  induction t generalizing modes on dangling seen with
  | nil => cases h
  | cons c t ih =>
    rw [List.cons_append]
    rw [readFlags.eq_def] at h ⊢
    dsimp only at h ⊢
    split at h
    · next hc =>
      rw [if_pos hc]
      split at h
      · cases h
      · next hdangling =>
        cases h
        rw [if_neg hdangling]
        exact ⟨List.cons_ne_nil _ _, rfl⟩
    · next hc =>
      rw [if_neg hc]
      split at h
      · cases h
      · next hseen =>
        rw [if_neg hseen]
        revert h
        split
        all_goals intro h
        case h_1 =>
          split at h
          · next hon => rw [if_pos hon]; exact ih h
          · cases h
        case h_9 => cases h
        all_goals exact ih h

end Swatchbook.Pattern
