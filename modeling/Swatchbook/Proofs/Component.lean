import Swatchbook.Glob
import Swatchbook.Proofs.Report
import Swatchbook.Proofs.Walk

/-!
# Reading components of patterns

A component without wildcards accepts the text that it was read from and no
other. A component with wildcards that accepts its own text accepts another
text as well: a star stands for one character more, a question mark for some
other character, and a component with neither has a class, which is longer than
what it stands for.
-/

namespace Swatchbook.Glob

-- ---------------------------------------------------------------------------
-- Reading
-- ---------------------------------------------------------------------------

def isWild (c : Char) : Bool := c == '*' || c == '?' || c == '['

/-- How tokens are read from a text. A class takes up more characters than one. -/
inductive Reads : Text → List Token → Prop
  | nil : Reads [] []
  | any {t : Text} {tokens : List Token} (more : Reads t tokens) :
      Reads ('?' :: t) (.any :: tokens)
  | anyText {t : Text} {tokens : List Token} (more : Reads t tokens) :
      Reads ('*' :: t) (.anyText :: tokens)
  | within {t rest : Text} {tokens : List Token} {negated : Bool} {spans : List Span}
      (short : rest.length < t.length) (more : Reads rest tokens) :
      Reads ('[' :: t) (.within negated spans :: tokens)
  | char {c : Char} {t : Text} {tokens : List Token} (plain : isWild c = false)
      (more : Reads t tokens) : Reads (c :: t) (.char c :: tokens)

section

variable {t rest inside name : Text} {tokens : List Token} {fuel : Nat}

theorem length_of_cutClass (h : cutClass t = some (inside, rest)) : rest.length < t.length := by
  cases t with
  | nil => cases h
  | cons c t =>
    obtain ⟨⟨before, after⟩, hcut, heq⟩ := Option.map_eq_some_iff.mp h
    cases heq
    obtain ⟨rfl, -⟩ := Text.cut?_sound hcut
    simp
    omega

theorem reads_of_readTokens (hfuel : t.length ≤ fuel) (h : readTokens fuel t = .ok tokens) :
    Reads t tokens := by
  induction fuel generalizing t tokens with
  | zero =>
    obtain rfl := List.eq_nil_of_length_eq_zero (Nat.le_zero.mp hfuel)
    cases h
    exact .nil
  | succ fuel ih =>
    cases t with
    | nil =>
      cases h
      exact .nil
    | cons c t =>
      have hlength : t.length ≤ fuel := by simpa using hfuel
      have hmore {token : Token}
          (h : (readTokens fuel t).map (token :: ·) = .ok tokens) :
          ∃ rest, tokens = token :: rest ∧ Reads t rest := by
        obtain ⟨rest, hrest, rfl⟩ := Except.map_eq_ok.mp h
        exact ⟨rest, rfl, ih hlength hrest⟩
      unfold readTokens at h
      split at h
      · obtain ⟨rest, rfl, hrest⟩ := hmore h
        exact .any hrest
      · split at h
        · cases h
        · cases h
        · obtain ⟨rest, rfl, hrest⟩ := hmore h
          exact .anyText hrest
      · dsimp only at h
        split at h
        · cases h
        · next inside rest hcut =>
          obtain ⟨others, hothers, rfl⟩ := Except.map_eq_ok.mp h
          have hshort : rest.length < t.length := by
            have hlt := length_of_cutClass hcut
            split at hlt
            · rw [List.length_drop] at hlt
              omega
            · exact hlt
          exact .within hshort (ih (by omega) hothers)
      · next hquestion hstar hclass =>
        obtain ⟨rest, rfl, hrest⟩ := hmore h
        refine .char ?_ hrest
        simp only [isWild, Bool.or_eq_false_iff, beq_eq_false_iff_ne]
        exact ⟨⟨hstar, hquestion⟩, hclass⟩

theorem readTokens_of_plain (hfuel : t.length ≤ fuel) (h : ∀ c ∈ t, isWild c = false) :
    readTokens fuel t = .ok (t.map .char) := by
  induction t generalizing fuel with
  | nil => cases fuel <;> rfl
  | cons c t ih =>
    obtain ⟨fuel, rfl⟩ := Nat.exists_eq_add_of_le' hfuel
    rw [List.forall_mem_cons] at h
    have hc : ¬ c = '*' ∧ ¬ c = '?' ∧ ¬ c = '[' := by simpa [isWild, and_assoc] using h.1
    have hrest : readTokens (fuel + t.length) t = .ok (t.map .char) := ih (by omega) h.2
    rw [show fuel + (c :: t).length = fuel + t.length + 1 from rfl, readTokens, hrest]
    · rfl
    · exact hc.2.1
    · exact hc.1
    · exact hc.2.2

end

-- ---------------------------------------------------------------------------
-- Texts without wildcards
-- ---------------------------------------------------------------------------

section

variable {t name s : Text} {tokens : List Token}

theorem accepts_iff_of_literal (h : literalOf? tokens = some t) :
    accepts tokens name = true ↔ name = t := by
  induction tokens generalizing t name with
  | nil =>
    cases h
    exact List.isEmpty_iff
  | cons token tokens ih =>
    cases token with
    | char c =>
      obtain ⟨rest, hrest, rfl⟩ := Option.map_eq_some_iff.mp h
      cases name with
      | nil => simp [accepts]
      | cons d name => simp [accepts, Token.accepts, ih hrest]
    | _ => cases h

theorem literalOf?_map_char (t : Text) : literalOf? (t.map .char) = some t := by
  induction t with
  | nil => rfl
  | cons c t ih => rw [List.map_cons, literalOf?, ih]; rfl

theorem Reads.literal (h : Reads t tokens) (hs : literalOf? tokens = some s) : s = t := by
  induction h generalizing s with
  | nil => exact (Option.some.inj hs).symm
  | char plain more ih =>
    obtain ⟨rest, hrest, rfl⟩ := Option.map_eq_some_iff.mp hs
    rw [ih hrest]
  | _ => cases hs

theorem Reads.plain (h : Reads t tokens) (hs : literalOf? tokens = some s) :
    ∀ c ∈ t, isWild c = false := by
  induction h generalizing s with
  | nil => exact List.forall_mem_nil _
  | char plain more ih =>
    obtain ⟨rest, hrest, rfl⟩ := Option.map_eq_some_iff.mp hs
    exact List.forall_mem_cons.mpr ⟨plain, ih hrest⟩
  | _ => cases hs

end

-- ---------------------------------------------------------------------------
-- Other texts
-- ---------------------------------------------------------------------------

section

variable {t name : Text} {tokens : List Token}

theorem accepts_cons {token : Token} (h : token ≠ .anyText) (c : Char) (name : Text) :
    accepts (token :: tokens) (c :: name) = (token.accepts c && accepts tokens name) := by
  cases token with
  | anyText => exact absurd rfl h
  | _ => rfl

theorem exists_longer (hstar : .anyText ∈ tokens) (h : accepts tokens name = true) (c : Char) :
    ∃ other : Text, accepts tokens other = true ∧ other.length = name.length + 1 ∧ c ∈ other ∧
      ∀ d ∈ other, d ∈ name ∨ d = c := by
  induction tokens generalizing name with
  | nil => cases hstar
  | cons token tokens ih =>
    by_cases htoken : token = .anyText
    · subst htoken
      rw [accepts] at h
      refine ⟨c :: name, ?_, rfl, List.mem_cons_self, fun d hd => (List.mem_cons.mp hd).symm⟩
      rw [accepts, someEnding, h, Bool.or_true]
    · have hrest := (List.mem_cons.mp hstar).resolve_left (Ne.symm htoken)
      cases name with
      | nil => simp [accepts] at h
      | cons d name =>
        rw [accepts_cons htoken, Bool.and_eq_true] at h
        obtain ⟨other, haccepts, hlength, hc, hall⟩ := ih hrest h.2
        refine ⟨d :: other, ?_, congrArg Nat.succ hlength, List.mem_cons_of_mem d hc, ?_⟩
        · rw [accepts_cons htoken, h.1, haccepts, Bool.and_self]
        · refine List.forall_mem_cons.mpr ⟨.inl List.mem_cons_self, fun e he => ?_⟩
          exact (hall e he).imp_left (List.mem_cons_of_mem d)

theorem length_of_accepts (hstar : .anyText ∉ tokens) (h : accepts tokens name = true) :
    name.length = tokens.length := by
  induction tokens generalizing name with
  | nil => exact congrArg List.length (List.isEmpty_iff.mp h)
  | cons token tokens ih =>
    rw [List.mem_cons, not_or] at hstar
    cases name with
    | nil =>
      cases token with
      | anyText => exact absurd rfl hstar.1
      | _ => cases h
    | cons c name =>
      rw [accepts_cons (Ne.symm hstar.1), Bool.and_eq_true] at h
      rw [List.length_cons, List.length_cons, ih hstar.2 h.2]

theorem Reads.length_le (h : Reads t tokens) : tokens.length ≤ t.length := by
  induction h with
  | nil => exact Nat.le_refl 0
  | within short more ih =>
    rw [List.length_cons, List.length_cons]
    omega
  | _ => simpa using ‹_›

/-- A class is longer than what it stands for, so a component with one and without stars does
not accept its own text. -/
theorem Reads.no_class (h : Reads t tokens) (hlength : t.length = tokens.length) :
    ∀ negated spans, .within negated spans ∉ tokens := by
  intro negated spans
  induction h with
  | nil => exact List.not_mem_nil
  | within short more ih =>
    have hle := more.length_le
    rw [List.length_cons, List.length_cons] at hlength
    omega
  | _ => simpa using ‹_ → _› (by simpa using hlength)

theorem Reads.accepts_swap (h : Reads t tokens) (hstar : .anyText ∉ tokens)
    (hclass : ∀ negated spans, .within negated spans ∉ tokens) (d : Char) :
    accepts tokens (t.map fun c => if c = '?' then d else c) = true := by
  induction h with
  | nil => rfl
  | any more ih =>
    simp only [List.mem_cons, not_or] at hstar hclass
    rw [List.map_cons, accepts_cons (show Token.any ≠ .anyText from nofun)]
    exact ih hstar.2 fun negated spans => (hclass negated spans).2
  | anyText more ih => simp at hstar
  | within short more ih => exact absurd List.mem_cons_self (hclass _ _)
  | @char c t tokens plain more ih =>
    simp only [List.mem_cons, not_or] at hstar hclass
    have hrest := ih hstar.2 fun negated spans => (hclass negated spans).2
    have hc : c ≠ '?' := by
      rintro rfl
      cases plain
    rw [List.map_cons, accepts_cons (show Token.char c ≠ .anyText from nofun), if_neg hc, hrest,
      Token.accepts, beq_self_eq_true]
    rfl

theorem Reads.question_mem (h : Reads t tokens) (hnone : literalOf? tokens = none)
    (hstar : .anyText ∉ tokens) (hclass : ∀ negated spans, .within negated spans ∉ tokens) :
    '?' ∈ t := by
  induction h with
  | nil => cases hnone
  | any more ih => exact List.mem_cons_self
  | anyText more ih => simp at hstar
  | within short more ih => exact absurd List.mem_cons_self (hclass _ _)
  | char plain more ih =>
    simp only [List.mem_cons, not_or] at hstar hclass
    refine List.mem_cons_of_mem _ (ih (Option.map_eq_none_iff.mp hnone) hstar.2 ?_)
    exact fun negated spans => (hclass negated spans).2

theorem Reads.exists_other (h : Reads t tokens) (hnone : literalOf? tokens = none)
    (haccepts : accepts tokens t = true) (d : Char) (hd : d ≠ '?') :
    ∃ other : Text, other ≠ t ∧ accepts tokens other = true ∧ d ∈ other ∧
      ∀ c ∈ other, c ∈ t ∨ c = d := by
  by_cases hstar : .anyText ∈ tokens
  · obtain ⟨other, hother, hlength, hmem, hall⟩ := exists_longer hstar haccepts d
    refine ⟨other, ?_, hother, hmem, hall⟩
    rintro rfl
    omega
  · have hclass := h.no_class (length_of_accepts hstar haccepts)
    have hquestion := h.question_mem hnone hstar hclass
    refine ⟨_, ?_, h.accepts_swap hstar hclass d, ?_, ?_⟩
    · intro hsame
      have hin : '?' ∈ t.map fun c => if c = '?' then d else c := by rwa [hsame]
      obtain ⟨c, -, hc⟩ := List.mem_map.mp hin
      split at hc
      · exact hd hc
      · next hne => exact hne hc
    · exact List.mem_map.mpr ⟨'?', hquestion, if_pos rfl⟩
    · refine List.forall_mem_map.mpr fun c hc => ?_
      split
      · exact .inr rfl
      · exact .inl hc

end

-- ---------------------------------------------------------------------------
-- Components
-- ---------------------------------------------------------------------------

namespace Component

section

variable {c : Component} {t piece name : Text}

theorem accepts_iff_of_literal (h : c.literal? = some t) : c.accepts name = true ↔ name = t := by
  cases c with
  | name tokens => exact Glob.accepts_iff_of_literal h
  | folders => cases h

theorem mem_dots (h : piece ∈ c.dots) : piece = ['.', '.'] ∨ piece = ['.'] := by
  unfold dots at h
  split at h
  · simpa using (List.mem_filter.mp h).1
  · cases h

theorem reads_of_readComponent {tokens : List Token} (h : readComponent t = .ok (.name tokens)) :
    Reads t tokens := by
  rw [readComponent] at h
  split at h
  · cases h
  · obtain ⟨_, htokens, heq⟩ := Except.map_eq_ok.mp h
    cases heq
    exact reads_of_readTokens le_rfl htokens

theorem literal_of_read (h : readComponent t = .ok c) (hc : c.literal? = some name) : name = t := by
  cases c with
  | name tokens => exact (reads_of_readComponent h).literal hc
  | folders => cases hc

theorem plain_of_literal (h : readComponent t = .ok c) (hc : c.literal? = some name) :
    ∀ d ∈ t, isWild d = false := by
  cases c with
  | name tokens => exact (reads_of_readComponent h).plain hc
  | folders => cases hc

theorem read_of_plain (h : ∀ d ∈ t, isWild d = false) :
    readComponent t = .ok (.name (t.map .char)) := by
  rw [readComponent, if_neg, readTokens_of_plain le_rfl h]
  · rfl
  · intro hstars
    rw [beq_iff_eq.mp hstars] at h
    cases h '*' (by simp)

theorem exists_other (h : readComponent t = .ok c) (hnone : c.literal? = none)
    (haccepts : c.accepts t = true) (d : Char) (hd : d ≠ '?') :
    ∃ other : Text, other ≠ t ∧ c.accepts other = true ∧ d ∈ other ∧
      ∀ e ∈ other, e ∈ t ∨ e = d := by
  cases c with
  | name tokens => exact (reads_of_readComponent h).exists_other hnone haccepts d hd
  | folders => cases haccepts

end

end Component

end Swatchbook.Glob
