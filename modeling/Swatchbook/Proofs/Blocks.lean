import Swatchbook.Proofs.Escape
import Swatchbook.Proofs.Literal

/-!
# Blocks of literal delimiters

A scanner with two indices: a block starts at the first place of its beginning
behind the block before, and stops behind the first end that follows. The
blocks that the patterns find are those of the scanner. Together with the
texts between them they give the source back.
-/

namespace Swatchbook

-- ---------------------------------------------------------------------------
-- Places
-- ---------------------------------------------------------------------------

namespace Text

variable {mark text : Text} {i j : Nat}

/-- The first place at or behind `i` where a mark stands. -/
def place? (mark text : Text) (i : Nat) : Option Nat :=
  (List.range' i (text.length + 1 - i)).find? fun j => mark.isPrefixOf (text.drop j)

def slice (text : Text) (i j : Nat) : Text := (text.drop i).take (j - i)

theorem place?_eq_some_iff : place? mark text i = some j ↔
    (i ≤ j ∧ j ≤ text.length) ∧ mark <+: text.drop j ∧
      ∀ k, i ≤ k → k < j → ¬ mark <+: text.drop k := by
  simp only [place?, List.find?_range'_eq_some, List.isPrefixOf_iff_prefix, List.mem_range'_1,
    Bool.not_eq_true', ← Bool.not_eq_true]
  constructor
  · rintro ⟨hj, ⟨hle, hlt⟩, hfirst⟩
    exact ⟨⟨hle, by omega⟩, hj, hfirst⟩
  · rintro ⟨⟨hle, hlt⟩, hj, hfirst⟩
    exact ⟨hj, ⟨hle, by omega⟩, hfirst⟩

theorem le_of_place? (h : place? mark text i = some j) : i ≤ j ∧ j + mark.length ≤ text.length := by
  obtain ⟨⟨hij, hj⟩, hstands, -⟩ := place?_eq_some_iff.mp h
  have := hstands.length_le
  simp only [List.length_drop] at this
  exact ⟨hij, by omega⟩

theorem drop_eq_slice_append (hij : i ≤ j) : text.drop i = slice text i j ++ text.drop j := by
  conv => lhs; rw [← List.take_append_drop (j - i) (text.drop i)]
  rw [List.drop_drop, Nat.add_sub_cancel' hij]
  rfl

theorem take_append_slice (hij : i ≤ j) : text.take i ++ slice text i j = text.take j := by
  rw [slice, ← List.take_add, Nat.add_sub_cancel' hij]

theorem slice_length (text : Text) (i : Nat) : slice text i text.length = text.drop i :=
  List.take_of_length_le (by simp)

theorem slice_append_slice {k : Nat} (hij : i ≤ j) (hjk : j ≤ k) :
    slice text i j ++ slice text j k = slice text i k := by
  have h : k - i = (j - i) + (k - j) := by omega
  unfold slice
  rw [h, List.take_add, List.drop_drop, Nat.add_sub_cancel' hij]

theorem slice_of_place? (h : place? mark text i = some j) :
    slice text j (j + mark.length) = mark := by
  obtain ⟨-, ⟨rest, hrest⟩, -⟩ := place?_eq_some_iff.mp h
  rw [slice, ← hrest, Nat.add_sub_cancel_left, List.take_left]

theorem cut?_of_place? (h : place? mark text i = some j) :
    cut? mark (text.drop i) = some (slice text i j, text.drop (j + mark.length)) := by
  obtain ⟨⟨hij, hj⟩, ⟨rest, hrest⟩, hfirst⟩ := place?_eq_some_iff.mp h
  have hbehind : text.drop (j + mark.length) = rest := by
    rw [← List.drop_drop, ← hrest, List.drop_left]
  refine cut?_eq_some_iff.mpr ⟨?_, ?_⟩
  · rw [drop_eq_slice_append hij, hbehind, ← hrest, List.append_assoc]
  · intro k hk
    simp only [slice, List.length_take, List.length_drop] at hk
    rw [List.drop_drop]
    exact hfirst (i + k) (by omega) (by omega)

theorem cut?_of_place?_eq_none (hm : mark ≠ []) (h : place? mark text i = none) :
    cut? mark (text.drop i) = none := by
  rw [cut?_eq_none_iff hm]
  rintro ⟨before, rest, ht⟩
  have hlen := congrArg List.length ht
  have hpos := List.length_pos_iff.mpr hm
  simp only [List.length_drop, List.length_append] at hlen
  have hstands : mark <+: text.drop (i + before.length) := by
    rw [← List.drop_drop, ← ht, List.append_assoc, List.drop_left]
    exact List.prefix_append _ _
  have hnone := List.find?_eq_none.mp h (i + before.length) (by rw [List.mem_range'_1]; omega)
  exact hnone (List.isPrefixOf_iff_prefix.mpr hstands)

end Text

-- ---------------------------------------------------------------------------
-- The scanner
-- ---------------------------------------------------------------------------

/-- A pair of delimiters that stand for themselves. -/
structure Marks where
  start : Text
  stop : Text
  start_ne : start ≠ []
  stop_ne : stop ≠ []

structure Span where
  start : Nat
  stop : Nat
  deriving DecidableEq

namespace Marks

variable (m : Marks) (text : Text)

def spansFrom (i : Nat) : List Span :=
  match _hs : Text.place? m.start text i with
  | none => []
  | some a =>
    match _he : Text.place? m.stop text (a + m.start.length) with
    | none => []
    | some b => ⟨a, b + m.stop.length⟩ :: spansFrom (b + m.stop.length)
termination_by text.length - i
decreasing_by
  have := List.length_pos_iff.mpr m.stop_ne
  have := Text.le_of_place? _hs
  have := Text.le_of_place? _he
  omega

def spans : List Span := m.spansFrom text 0

def upToStart (i : Nat) : Text :=
  Text.slice text i ((Text.place? m.start text i).getD text.length)

def blockAt (span : Span) : Block :=
  ⟨text.take span.start, Text.slice text span.start span.stop, m.upToStart text span.stop⟩

def delimiters : Delimiters := .literal m.start m.stop

variable {m text}

theorem spansFrom_eq (i : Nat) : m.spansFrom text i =
    match Text.place? m.start text i with
    | none => []
    | some a =>
      match Text.place? m.stop text (a + m.start.length) with
      | none => []
      | some b => ⟨a, b + m.stop.length⟩ :: m.spansFrom text (b + m.stop.length) := by
  rw [spansFrom]
  split
  · next hs => rw [hs]
  · next a hs =>
    rw [hs]
    simp only
    split
    · next he => rw [he]
    · next b he => rw [he]

theorem bounds_of_mem_spansFrom {i : Nat} {span : Span} (h : span ∈ m.spansFrom text i) :
    i ≤ span.start ∧ span.start ≤ span.stop ∧ span.stop ≤ text.length := by
  induction i using spansFrom.induct m text with
  | case1 i hs => simp [spansFrom_eq, hs] at h
  | case2 i a hs he => simp [spansFrom_eq, hs, he] at h
  | case3 i a hs b he ih =>
    have ha := Text.le_of_place? hs
    have hb := Text.le_of_place? he
    rw [spansFrom_eq, hs] at h
    simp only [he, List.mem_cons] at h
    rcases h with rfl | h
    · exact ⟨ha.1, by simp only; omega, hb.2⟩
    · have := ih h
      exact ⟨by omega, this.2⟩

-- ---------------------------------------------------------------------------
-- The blocks are those of the scanner
-- ---------------------------------------------------------------------------

theorem styleIn_literal (after : Text) : m.delimiters.styleIn after =
    match Text.cut? m.start after with
    | some (before, _) => before
    | none => after := by
  have hfind := find?_literal m.start after
  simp only [Delimiters.styleIn, delimiters, Delimiters.literal] at hfind ⊢
  rw [hfind]
  cases Text.cut? m.start after <;> rfl

theorem upToStart_eq_styleIn (i : Nat) :
    m.upToStart text i = m.delimiters.styleIn (text.drop i) := by
  rw [styleIn_literal, upToStart]
  cases hp : Text.place? m.start text i with
  | none =>
    rw [Text.cut?_of_place?_eq_none m.start_ne hp, Option.getD_none, Text.slice_length]
  | some a => rw [Text.cut?_of_place? hp, Option.getD_some]

/-- The blocks of `t`, where the text before it is given backwards. -/
def blocksFrom (m : Marks) (places : Nat) (passed t : Text) : List Block :=
  (m.delimiters.block.plan.scan places false 0 passed t).map fun found =>
    ⟨found.before, found.raw, m.delimiters.styleIn found.after⟩

theorem blocksFrom_eq {places : Nat} {passed t : Text} (hlen : t.length ≤ places) :
    m.blocksFrom places passed t =
      match Text.cut? m.start t with
      | none => []
      | some (before, rest) =>
        match Text.cut? m.stop rest with
        | none => []
        | some (inside, after) =>
          ⟨passed.reverse ++ before, m.start ++ inside ++ m.stop, m.delimiters.styleIn after⟩ ::
            m.blocksFrom places ((before ++ m.start ++ inside ++ m.stop).reverse ++ passed) after := by
  unfold blocksFrom delimiters
  rw [Plan.scan_block m.start_ne m.stop_ne places false passed t hlen]
  cases Text.cut? m.start t with
  | none => rfl
  | some found =>
    obtain ⟨before, rest⟩ := found
    simp only
    cases Text.cut? m.stop rest <;> rfl

theorem blocks_eq_blocksFrom (t : Text) :
    m.delimiters.blocks t = m.blocksFrom (t.length + 1) [] t := by
  -- Whether an empty match may be taken at the beginning does not matter: none is empty.
  have hfresh : m.delimiters.block.findAll t =
      m.delimiters.block.plan.scan (t.length + 1) false 0 [] t := by
    rw [Pattern.findAll, delimiters, Plan.scan_block m.start_ne m.stop_ne _ true _ _ (Nat.le_succ _),
      Plan.scan_block m.start_ne m.stop_ne _ false _ _ (Nat.le_succ _)]
  rw [Delimiters.blocks, hfresh, blocksFrom]

theorem slice_block {i a b : Nat} (hs : Text.place? m.start text i = some a)
    (he : Text.place? m.stop text (a + m.start.length) = some b) :
    Text.slice text a (b + m.stop.length) =
      m.start ++ Text.slice text (a + m.start.length) b ++ m.stop := by
  have hb := Text.le_of_place? he
  calc Text.slice text a (b + m.stop.length)
    _ = Text.slice text a (a + m.start.length) ++ Text.slice text (a + m.start.length) b ++
          Text.slice text b (b + m.stop.length) := by
      rw [Text.slice_append_slice (by omega) hb.1, Text.slice_append_slice (by omega) (by omega)]
    _ = m.start ++ Text.slice text (a + m.start.length) b ++ m.stop := by
      rw [Text.slice_of_place? hs, Text.slice_of_place? he]

theorem blocksFrom_eq_spansFrom {places : Nat} (hlen : text.length ≤ places) (i : Nat) :
    m.blocksFrom places (text.take i).reverse (text.drop i) =
      (m.spansFrom text i).map (m.blockAt text) := by
  have hrest (i : Nat) : (text.drop i).length ≤ places := by
    rw [List.length_drop]
    omega
  induction i using spansFrom.induct m text with
  | case1 i hs =>
    rw [blocksFrom_eq (hrest i), Text.cut?_of_place?_eq_none m.start_ne hs, spansFrom_eq, hs]
    rfl
  | case2 i a hs he =>
    rw [blocksFrom_eq (hrest i), Text.cut?_of_place? hs, spansFrom_eq, hs]
    simp only [he, Text.cut?_of_place?_eq_none m.stop_ne he]
    rfl
  | case3 i a hs b he ih =>
    have ha := Text.le_of_place? hs
    have hb := Text.le_of_place? he
    have hraw := slice_block hs he
    have hbefore : text.take i ++ Text.slice text i a = text.take a := Text.take_append_slice ha.1
    have hpassed : text.take i ++ (Text.slice text i a ++ m.start ++
        Text.slice text (a + m.start.length) b ++ m.stop) = text.take (b + m.stop.length) := by
      rw [← Text.take_append_slice (show a ≤ b + m.stop.length by omega), ← hbefore, hraw]
      simp
    rw [blocksFrom_eq (hrest i), Text.cut?_of_place? hs, spansFrom_eq, hs]
    simp only [he, Text.cut?_of_place? he, List.map_cons, ← ih]
    rw [← List.reverse_append, hpassed, List.reverse_reverse, hbefore, ← hraw,
      ← upToStart_eq_styleIn]
    rfl

theorem blocks_eq_spans (m : Marks) (text : Text) :
    m.delimiters.blocks text = (m.spans text).map (m.blockAt text) := by
  rw [blocks_eq_blocksFrom]
  simpa [spans] using blocksFrom_eq_spansFrom (Nat.le_succ text.length) 0

-- ---------------------------------------------------------------------------
-- What the scanner's blocks are
-- ---------------------------------------------------------------------------

theorem span_blockAt {span : Span} (h : span ∈ m.spans text) :
    (m.blockAt text span).span =
      (Text.byteSize (text.take span.start), Text.byteSize (text.take span.stop)) := by
  obtain ⟨-, hle, -⟩ := bounds_of_mem_spansFrom h
  rw [← Text.take_append_slice hle]
  simp [Block.span, blockAt, Text.byteSize_append]

theorem place?_of_spansFrom_cons {i : Nat} {next : Span} {later : List Span}
    (h : m.spansFrom text i = next :: later) :
    Text.place? m.start text i = some next.start := by
  rw [spansFrom_eq] at h
  cases hs : Text.place? m.start text i with
  | none => simp [hs] at h
  | some a =>
    cases he : Text.place? m.stop text (a + m.start.length) with
    | none => simp [hs, he] at h
    | some b =>
      simp only [hs, he, List.cons.injEq] at h
      rw [← h.1]

theorem style_blockAt {i : Nat} {before after : List Span} {span next : Span}
    (h : m.spansFrom text i = before ++ span :: next :: after) :
    (m.blockAt text span).style = Text.slice text span.stop next.start := by
  induction i using spansFrom.induct m text generalizing before with
  | case1 i hs => simp [spansFrom_eq, hs] at h
  | case2 i a hs he => simp [spansFrom_eq, hs, he] at h
  | case3 i a hs b he ih =>
    rw [spansFrom_eq, hs] at h
    simp only [he] at h
    cases before with
    | nil =>
      simp only [List.nil_append, List.cons.injEq] at h
      obtain ⟨rfl, hlater⟩ := h
      simp [blockAt, upToStart, place?_of_spansFrom_cons hlater]
    | cons first before =>
      simp only [List.cons_append, List.cons.injEq] at h
      exact ih h.2

/-- What follows the last style: nothing, or a beginning without an end. -/
def IsTail (m : Marks) (tail : Text) : Prop :=
  tail = [] ∨ ∃ rest, tail = m.start ++ rest ∧ ¬ m.stop <:+: rest

theorem reassemble_from (i : Nat) (hi : i ≤ text.length) :
    ∃ tail, m.IsTail tail ∧
      text.drop i = m.upToStart text i ++
        ((m.spansFrom text i).map (m.blockAt text)).flatMap (fun b => b.raw ++ b.style) ++ tail := by
  induction i using spansFrom.induct m text with
  | case1 i hs =>
    refine ⟨[], .inl rfl, ?_⟩
    simp [spansFrom_eq, hs, upToStart, Text.slice_length]
  | case2 i a hs he =>
    have ha := Text.le_of_place? hs
    have hcut := Text.cut?_of_place? hs
    refine ⟨text.drop a, .inr ⟨text.drop (a + m.start.length), ?_, ?_⟩, ?_⟩
    · rw [Text.drop_eq_slice_append (show a ≤ a + m.start.length by omega),
        Text.slice_of_place? hs]
    · exact (Text.cut?_eq_none_iff m.stop_ne).mp (Text.cut?_of_place?_eq_none m.stop_ne he)
    · simp [spansFrom_eq, hs, he, upToStart, Text.drop_eq_slice_append ha.1]
  | case3 i a hs b he ih =>
    have ha := Text.le_of_place? hs
    have hb := Text.le_of_place? he
    obtain ⟨tail, htail, hdrop⟩ := ih hb.2
    refine ⟨tail, htail, ?_⟩
    rw [spansFrom_eq, hs]
    simp only [he, List.map_cons, List.flatMap_cons]
    rw [Text.drop_eq_slice_append ha.1,
      Text.drop_eq_slice_append (show a ≤ b + m.stop.length by omega), hdrop]
    simp [upToStart, hs, blockAt]

theorem strip_block {inside : Text} (h : Text.cut? m.stop (inside ++ m.stop) = some (inside, [])) :
    m.delimiters.strip (m.start ++ inside ++ m.stop) = inside := by
  have hstart : Text.cut? m.start (m.start ++ inside ++ m.stop) = some ([], inside ++ m.stop) :=
    Text.cut?_of_after? (Text.after?_eq_some_iff.mpr (List.append_assoc _ _ _))
  simp only [Delimiters.strip, delimiters, Delimiters.literal, removeFirst_literal, hstart,
    List.nil_append, h, List.append_nil]

theorem inside_of_mem_spansFrom {i : Nat} {span : Span} (h : span ∈ m.spansFrom text i) :
    ∃ inside, (m.blockAt text span).raw = m.start ++ inside ++ m.stop ∧
      m.delimiters.strip (m.blockAt text span).raw = inside ∧ ¬ m.stop <:+: inside := by
  induction i using spansFrom.induct m text with
  | case1 i hs => simp [spansFrom_eq, hs] at h
  | case2 i a hs he => simp [spansFrom_eq, hs, he] at h
  | case3 i a hs b he ih =>
    rw [spansFrom_eq, hs] at h
    simp only [he, List.mem_cons] at h
    rcases h with rfl | h
    · have hcut := Text.cut?_of_place? he
      have hraw := slice_block hs he
      have hend := Text.cut?_change_rest hcut []
      rw [List.append_nil] at hend
      exact ⟨_, hraw, by rw [blockAt, hraw, strip_block hend], Text.not_infix_of_cut? m.stop_ne hcut⟩
    · exact ih h

/-- The blocks of escaped literal delimiters are the scanner's, style and span
included; the style of a block is the text up to the next one; the lead, the
blocks with their styles and a tail without a whole block make up the source;
and stripping a block leaves what is between its delimiters. -/
theorem blocks_of_escaped (m : Marks) {d : Delimiters}
    (hd : Delimiters.read (Pattern.escape m.start) (Pattern.escape m.stop) = .ok d) (text : Text) :
    d.blocks text = (m.spans text).map (m.blockAt text) ∧
    (∀ span ∈ m.spans text, (m.blockAt text span).span =
      (Text.byteSize (text.take span.start), Text.byteSize (text.take span.stop))) ∧
    (∀ before span next after, m.spans text = before ++ span :: next :: after →
      (m.blockAt text span).style = Text.slice text span.stop next.start) ∧
    (∃ tail, m.IsTail tail ∧
      text = m.upToStart text 0 ++ (d.blocks text).flatMap (fun b => b.raw ++ b.style) ++ tail) ∧
    ∀ b ∈ d.blocks text, ∃ inside, b.raw = m.start ++ inside ++ m.stop ∧
      d.strip b.raw = inside ∧ ¬ m.stop <:+: inside := by
  obtain rfl : d = m.delimiters := Delimiters.eq_literal_of_read hd
  rw [blocks_eq_spans]
  refine ⟨rfl, fun span => span_blockAt, fun _ _ _ _ => style_blockAt, ?_, ?_⟩
  · exact reassemble_from 0 (Nat.zero_le _)
  · intro b hb
    obtain ⟨span, hspan, rfl⟩ := List.mem_map.mp hb
    exact inside_of_mem_spansFrom hspan

def css : Marks := ⟨['/', '*'], ['*', '/'], by simp, by simp⟩

@[simp] theorem css_start : css.start = ['/', '*'] := rfl

@[simp] theorem css_stop : css.stop = ['*', '/'] := rfl

@[simp] theorem css_delimiters : css.delimiters = .css := rfl

/-- An end that overlaps its beginning is none, and an open comment is no block. -/
theorem blocks_of_escaped_overlap :
    Delimiters.read Delimiters.defaultStart Delimiters.defaultStop = .ok .css ∧
    Delimiters.css.blocks "/*/ */ a /*".toList = [⟨[], "/*/ */".toList, " a ".toList⟩] := by
  refine ⟨Delimiters.read_default, ?_⟩
  have hspans : css.spans "/*/ */ a /*".toList = [⟨0, 6⟩] := by
    have hfirst : Text.place? css.start "/*/ */ a /*".toList 0 = some 0 := by decide
    have hend : Text.place? css.stop "/*/ */ a /*".toList (0 + css.start.length) = some 4 := by decide
    have hsecond : Text.place? css.start "/*/ */ a /*".toList (4 + css.stop.length) = some 9 := by decide
    have hopen : Text.place? css.stop "/*/ */ a /*".toList (9 + css.start.length) = none := by decide
    rw [spans, spansFrom_eq, hfirst]
    simp only [hend]
    rw [spansFrom_eq, hsecond]
    simp only [hopen]
    rfl
  rw [(blocks_of_escaped css Delimiters.read_default _).1, hspans]
  decide

end Marks

end Swatchbook
