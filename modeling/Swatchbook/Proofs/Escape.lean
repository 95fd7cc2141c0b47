import Swatchbook.Comment.Delimiters
import Swatchbook.Proofs.Report

/-!
# Reading escaped literals

A text whose special characters are escaped is read as the pattern that stands
for it. Delimiters that are read from two such texts are the literal ones,
unless a text is too long to be a pattern at all.
-/

namespace Swatchbook.Pattern

open Delimiters (literalPattern gap literal blockText)

/-- The notation of a pattern that stands for `t`. -/
def escape (t : Text) : Text := t.flatMap fun c => if metaChars.contains c then ['\\', c] else [c]

theorem escape_cons_plain {c : Char} (h : metaChars.contains c = false) (t : Text) :
    escape (c :: t) = c :: escape t := by
  rw [escape, List.flatMap_cons, if_neg (by rw [h]; exact Bool.false_ne_true)]
  rfl

theorem escape_cons_special {c : Char} (h : metaChars.contains c = true) (t : Text) :
    escape (c :: t) = '\\' :: c :: escape t := by
  rw [escape, List.flatMap_cons, if_pos h]
  rfl

theorem length_le_escape (t : Text) : t.length ≤ (escape t).length := by
  induction t with
  | nil => exact Nat.zero_le _
  | cons c t ih =>
    cases h : metaChars.contains c with
    | false => rw [escape_cons_plain h, List.length_cons, List.length_cons]; omega
    | true =>
      rw [escape_cons_special h, List.length_cons, List.length_cons, List.length_cons]
      omega

-- ---------------------------------------------------------------------------
-- Steps of the reader
-- ---------------------------------------------------------------------------

/-- From `r` at `t` the reader gets to `r'` at `rest` in `n` steps. -/
def Reads (n : Nat) (r : Reader) (t : Text) (r' : Reader) (rest : Text) : Prop :=
  ∀ fuel, readAll (n + fuel) r t = readAll fuel r' rest

theorem Reads.trans {m n : Nat} {r r' r'' : Reader} {t t' t'' : Text} (first : Reads m r t r' t')
    (second : Reads n r' t' r'' t'') : Reads (m + n) r t r'' t'' := by
  intro fuel
  rw [Nat.add_assoc, first, second]

theorem Reads.step {r r' : Reader} {c : Char} {t rest : Text} (hr : r.modes.verbose = false)
    (h : Pattern.step r c t = .ok (r', rest)) : Reads 1 r (c :: t) r' rest := by
  intro fuel
  rw [Nat.add_comm, readAll]
  simp [skipVerbose, hr, h]

theorem step_plain {c : Char} (h : metaChars.contains c = false) (r : Reader) (t : Text) :
    step r c t = .ok (r.add (charPattern r.modes c) 0, t) := by
  unfold step
  split
  all_goals try rfl
  all_goals exact absurd h (by decide)

theorem step_escaped {c : Char} (h : metaChars.contains c = true) (r : Reader) (t : Text) :
    step r '\\' (c :: t) = .ok (r.add (charPattern r.modes c) 0, t) := by
  have hmeta : metaChars = ['\\', '.', '+', '*', '?', '(', ')', '|', '[', ']', '\x7b', '\x7d', '^',
      '$', '#', '&', '-', '~'] := by decide
  rw [hmeta] at h
  simp only [List.contains_cons, Bool.or_eq_true, beq_iff_eq, List.contains_nil, Bool.false_eq_true,
    or_false] at h
  rcases h with rfl | rfl | rfl | rfl | rfl | rfl | rfl | rfl | rfl | rfl | rfl | rfl | rfl | rfl |
    rfl | rfl | rfl | rfl
  all_goals rfl

def Frame.addText (f : Frame) (t : Text) : Frame :=
  { f with items := (t.map fun c => Item.part ⟨.set (.char c), 0⟩).reverse ++ f.items }

def Reader.addText (r : Reader) (t : Text) : Reader := { r with frame := r.frame.addText t }

theorem reads_escape (t rest : Text) (r : Reader) (hr : r.modes = .initial) :
    Reads t.length r (escape t ++ rest) (r.addText t) rest := by
  induction t generalizing r with
  | nil =>
    intro fuel
    simp [escape, Reader.addText, Frame.addText]
  | cons c t ih =>
    have hchar : charPattern r.modes c = .set (.char c) := by
      rw [hr]
      rfl
    have hadd : (r.add (.set (.char c)) 0).addText t = r.addText (c :: t) := by
      simp [Reader.add, Reader.addText, Frame.add, Frame.addText]
    have hfirst : Reads 1 r (escape (c :: t) ++ rest) (r.add (.set (.char c)) 0)
        (escape t ++ rest) := by
      rw [← hchar]
      cases hc : metaChars.contains c with
      | false =>
        rw [escape_cons_plain hc]
        exact .step (by rw [hr]; rfl) (step_plain hc r _)
      | true =>
        rw [escape_cons_special hc]
        exact .step (by rw [hr]; rfl) (step_escaped hc r _)
    have hall := hfirst.trans (ih (r.add (.set (.char c)) 0) hr)
    rwa [hadd, Nat.add_comm] at hall

theorem reads_open (r : Reader) (hr : r.modes = .initial) (t : Text) :
    Reads 1 r ('(' :: '?' :: ':' :: t) (r.openGroup .initial) t := by
  obtain ⟨modes, frame, outer, names⟩ := r
  obtain rfl : modes = .initial := hr
  exact .step rfl rfl

theorem reads_close (frame parent : Frame) (outer : List Frame) (names : List Text) (t : Text)
    (hf : frame.outside = .initial) :
    Reads 1 ⟨.initial, frame, parent :: outer, names⟩ (')' :: t)
      ⟨.initial, parent.add ⟨frame.close.pattern, frame.close.depth + 1⟩, outer, names⟩ t := by
  refine .step rfl ?_
  simp only [step, hf]

theorem reads_gap (r : Reader) (hr : r.modes = .initial) (t : Text) :
    Reads 2 r ('[' :: '\\' :: 's' :: '\\' :: 'S' :: ']' :: '*' :: '?' :: t) (r.add gap 3) t := by
  obtain ⟨modes, frame, outer, names⟩ := r
  obtain rfl : modes = .initial := hr
  have hclass : Reads 1 ⟨.initial, frame, outer, names⟩
      ('[' :: '\\' :: 's' :: '\\' :: 'S' :: ']' :: '*' :: '?' :: t)
      (Reader.add ⟨.initial, frame, outer, names⟩
        (.set (.union (.union .none .blank) (.not .blank))) 2) ('*' :: '?' :: t) := .step rfl rfl
  exact hclass.trans (.step rfl rfl)

-- ---------------------------------------------------------------------------
-- Whole patterns
-- ---------------------------------------------------------------------------

theorem close_addText (modes : Modes) (t : Text) :
    ((Frame.fresh modes).addText t).close =
      ⟨literalPattern t, if t.length ≤ 1 then 0 else 1⟩ := by
  have hdepth (d : Nat) : (t.map fun c => (⟨.set (.char c), 0⟩ : Nested)).foldl
      (fun d part => max d part.depth) d = d := by
    induction t with
    | nil => rfl
    | cons c t ih => simpa using ih
  have hparts : ((Frame.fresh modes).addText t).items.reverse.map Item.toNested =
      t.map fun c => ⟨.set (.char c), 0⟩ := by
    simp [Frame.fresh, Frame.addText, Function.comp_def, Item.toNested]
  have hcurrent : ((Frame.fresh modes).addText t).current =
      ⟨literalPattern t, if t.length ≤ 1 then 0 else 1⟩ := by
    simp [Frame.current, hparts, Nested.ofList, hdepth, literalPattern, Function.comp_def]
  have hothers : ((Frame.fresh modes).addText t).alternatives = [] := rfl
  rw [Frame.close, hcurrent, hothers]
  simp [Nested.ofList, altOf]

theorem readAll_of_reads {n : Nat} {r r' : Reader} {t : Text} (h : Reads n r t r' [])
    (hr : r'.modes.verbose = false) (houter : r'.outer = []) (hn : n ≤ t.length) :
    readAll (t.length + 1) r t = .ok r'.frame.close := by
  obtain ⟨k, hk⟩ := Nat.exists_eq_add_of_le hn
  rw [hk, Nat.add_assoc, h, readAll]
  simp [skipVerbose, hr, houter]

def initialReader : Reader := ⟨.initial, .fresh .initial, [], []⟩

theorem read_eq {t : Text} {whole : Nested} (h : readAll (t.length + 1) initialReader t = .ok whole)
    (hdepth : whole.depth ≤ depthLimit) :
    read t = if sizeLimit < whole.pattern.bulk then .error .tooLarge else .ok whole.pattern := by
  have hd : ¬ depthLimit < whole.depth := Nat.not_lt.mpr hdepth
  unfold initialReader at h
  simp only [read, readWith, h, bind, Except.bind, hd, if_false, pure, Except.pure]
  split <;> rfl

theorem read_escape (t : Text) : read (escape t) =
    if sizeLimit < (literalPattern t).bulk then .error .tooLarge else .ok (literalPattern t) := by
  have hreads : Reads t.length initialReader (escape t) (initialReader.addText t) [] := by
    simpa using reads_escape t [] initialReader rfl
  have hall := readAll_of_reads hreads rfl rfl (length_le_escape t)
  have hclose : (initialReader.addText t).frame.close =
      ⟨literalPattern t, if t.length ≤ 1 then 0 else 1⟩ := close_addText .initial t
  rw [hclose] at hall
  exact read_eq hall (by simp only [depthLimit]; split <;> omega)

theorem blockText_eq (start stop : Text) : blockText start stop =
    '(' :: '?' :: ':' :: (start ++ ')' :: '[' :: '\\' :: 's' :: '\\' :: 'S' :: ']' :: '*' :: '?' ::
      '(' :: '?' :: ':' :: (stop ++ [')'])) := by
  have hopen : "(?:".toList = ['(', '?', ':'] := by decide
  have hbetween : ")[\\s\\S]*?(?:".toList =
      [')', '[', '\\', 's', '\\', 'S', ']', '*', '?', '(', '?', ':'] := by decide
  have hclose : ")".toList = [')'] := by decide
  rw [blockText, hopen, hbetween, hclose]
  simp

theorem reads_group (frame : Frame) (t rest : Text) :
    Reads (t.length + 2) ⟨.initial, frame, [], []⟩ ('(' :: '?' :: ':' :: (escape t ++ ')' :: rest))
      ⟨.initial, frame.add ⟨literalPattern t, (if t.length ≤ 1 then 0 else 1) + 1⟩, [], []⟩ rest := by
  have hopen := reads_open ⟨.initial, frame, [], []⟩ rfl (escape t ++ ')' :: rest)
  have hinside := reads_escape t (')' :: rest) (Reader.openGroup ⟨.initial, frame, [], []⟩ .initial) rfl
  have hclose := reads_close ((Frame.fresh .initial).addText t) frame [] [] rest rfl
  rw [close_addText] at hclose
  have hall := hopen.trans (hinside.trans hclose)
  rwa [Nat.add_comm, Nat.add_assoc] at hall

theorem read_block (s e : Text) : read (blockText (escape s) (escape e)) =
    if sizeLimit < (literal s e).block.bulk then .error .tooLarge else .ok (literal s e).block := by
  have hs := reads_group (.fresh .initial) s
    ('[' :: '\\' :: 's' :: '\\' :: 'S' :: ']' :: '*' :: '?' :: '(' :: '?' :: ':' :: (escape e ++ [')']))
  have hgap := reads_gap ⟨.initial, (Frame.fresh .initial).add
    ⟨literalPattern s, (if s.length ≤ 1 then 0 else 1) + 1⟩, [], []⟩ rfl
    ('(' :: '?' :: ':' :: (escape e ++ [')']))
  have he := reads_group (((Frame.fresh .initial).add
    ⟨literalPattern s, (if s.length ≤ 1 then 0 else 1) + 1⟩).add ⟨gap, 3⟩) e []
  have hreads := hs.trans (hgap.trans he)
  rw [← blockText_eq] at hreads
  have hsteps : s.length + 2 + (2 + (e.length + 2)) ≤ (blockText (escape s) (escape e)).length := by
    have := length_le_escape s
    have := length_le_escape e
    simp only [blockText_eq, List.length_cons, List.length_append, List.length_nil]
    omega
  have hall := readAll_of_reads hreads rfl rfl hsteps
  refine read_eq hall ?_
  have hshallow (t : Text) : (if t.length ≤ 1 then 0 else 1) + 1 ≤ 2 := by split <;> omega
  have hdepth (a b : Nat) (ha : a ≤ 2) (hb : b ≤ 2) :
      max (max (max 0 a) 3) b + 1 ≤ depthLimit := by
    simp only [depthLimit]
    omega
  exact hdepth _ _ (hshallow s) (hshallow e)

end Swatchbook.Pattern

namespace Swatchbook.Delimiters

open Pattern (escape sizeLimit)

theorem compile_eq_ok {which t : Text} {p : Pattern} :
    compile which t = .ok p ↔ Pattern.read t = .ok p := by
  unfold compile
  cases Pattern.read t <;> simp

theorem read_eq_ok {s e : Text} {d : Delimiters} : read s e = .ok d ↔
    ∃ start, Pattern.read s = .ok start ∧ ∃ stop, Pattern.read e = .ok stop ∧
      ∃ block, Pattern.read (blockText s e) = .ok block ∧ ⟨start, stop, block⟩ = d := by
  simp only [read, Except.bind_eq_ok, compile_eq_ok, pure, Except.pure, Except.ok.injEq]

theorem eq_literal_of_read {s e : Text} {d : Delimiters} (h : read (escape s) (escape e) = .ok d) :
    d = literal s e := by
  obtain ⟨start, hstart, stop, hstop, block, hblock, rfl⟩ := read_eq_ok.mp h
  rw [Pattern.read_escape] at hstart hstop
  rw [Pattern.read_block] at hblock
  split at hstart <;> split at hstop <;> split at hblock
  all_goals simp_all [literal]

/-- Escaped texts are read as delimiters as long as their block is no larger
than a pattern may be. -/
theorem read_escape {s e : Text} (h : (literal s e).block.bulk ≤ sizeLimit) :
    read (escape s) (escape e) = .ok (literal s e) := by
  have hbulk : (literal s e).block.bulk =
      (literalPattern s).bulk + (gap.bulk + (literalPattern e).bulk) := rfl
  refine read_eq_ok.mpr ⟨_, ?_, _, ?_, _, ?_, rfl⟩
  · rw [Pattern.read_escape, if_neg (by omega)]
  · rw [Pattern.read_escape, if_neg (by omega)]
  · rw [Pattern.read_block, if_neg (by omega)]
    rfl

theorem read_default : read defaultStart defaultStop = .ok css := by
  have hstart : defaultStart = escape ['/', '*'] := by decide
  have hstop : defaultStop = escape ['*', '/'] := by decide
  rw [hstart, hstop]
  exact read_escape (by decide)

end Swatchbook.Delimiters
