import Swatchbook.Comment.Block
import Swatchbook.Proofs.Grouping
import Swatchbook.Proofs.Matching

/-!
# How blocks are laid out

The blocks of a text stand one behind the other, each followed by its style.
The next block begins with a match of the beginning, so the search for the end
of a style, which looks for a beginning alone, ends there at the latest.
-/

namespace Swatchbook

-- ---------------------------------------------------------------------------
-- Bytes
-- ---------------------------------------------------------------------------

namespace Text

/-- A text split behind a number of bytes, if they end between two characters. -/
def splitBytes? : Nat → Text → Option (Text × Text)
  | 0, t => some ([], t)
  | _ + 1, [] => none
  | n + 1, c :: t =>
    if c.utf8Size ≤ n + 1 then
      (splitBytes? (n + 1 - c.utf8Size) t).map fun (before, rest) => (c :: before, rest)
    else none

/-- The text between two positions, in bytes. -/
def bytes? (t : Text) (span : Nat × Nat) : Option Text := do
  let (_, rest) ← splitBytes? span.1 t
  let (found, _) ← splitBytes? (span.2 - span.1) rest
  return found

theorem byteSize_cons (c : Char) (t : Text) : byteSize (c :: t) = c.utf8Size + byteSize t := rfl

theorem byteSize_pos {t : Text} (h : t ≠ []) : 0 < byteSize t := by
  cases t with
  | nil => exact absurd rfl h
  | cons c t =>
    rw [byteSize_cons]
    exact Nat.add_pos_left (Char.utf8Size_pos c) _

theorem splitBytes?_append (s t : Text) : splitBytes? (byteSize s) (s ++ t) = some (s, t) := by
  induction s with
  | nil => cases t <;> rfl
  | cons c s ih =>
    obtain ⟨n, hn⟩ := Nat.exists_eq_add_one.mpr (byteSize_pos (List.cons_ne_nil c s))
    have hrest : n + 1 - c.utf8Size = byteSize s := by
      rw [← hn, byteSize_cons, Nat.add_sub_cancel_left]
    have hfits : c.utf8Size ≤ n + 1 := by
      rw [← hn, byteSize_cons]
      exact Nat.le_add_right _ _
    rw [hn, List.cons_append, splitBytes?, if_pos hfits, hrest, ih]
    rfl

theorem bytes?_append (before t rest : Text) :
    bytes? (before ++ (t ++ rest)) (byteSize before, byteSize before + byteSize t) = some t := by
  simp [bytes?, splitBytes?_append]

end Text

namespace Plan

-- ---------------------------------------------------------------------------
-- Matches from left to right
-- ---------------------------------------------------------------------------

/-- A match that stands in `t`, not before `skip` characters of it, where `passed` is what
comes before `t`, backwards. -/
def Ahead (p : Plan) (places skip : Nat) (passed t : Text) (found : Found) : Prop :=
  ∃ gap before, found.before = passed.reverse ++ gap ∧ t = gap ++ (found.raw ++ found.after) ∧
    skip ≤ gap.length ∧ (p.lengthAt? places before (found.raw ++ found.after)).isSome = true

def Behind (first next : Found) : Prop :=
  ∃ gap, next.before = first.before ++ (first.raw ++ gap) ∧
    first.after = gap ++ (next.raw ++ next.after) ∧ first.before.length < next.before.length

section

variable {p : Plan} {places skip : Nat} {passed t : Text} {c : Char} {found : Found}

theorem Ahead.cons {k : Nat} (h : Ahead p places skip (c :: passed) t found) (hk : k ≤ skip + 1) :
    Ahead p places k passed (c :: t) found := by
  obtain ⟨gap, before, hbefore, ht, hskip, hmatch⟩ := h
  refine ⟨c :: gap, before, ?_, by rw [ht]; rfl, ?_, hmatch⟩
  · rw [hbefore, List.reverse_cons, List.append_assoc]
    rfl
  · rw [List.length_cons]
    omega

theorem ahead_here {n : Nat} (h : (p.lengthAt? places passed.head? t).isSome = true) :
    Ahead p places 0 passed t ⟨passed.reverse, t.take n, t.drop n⟩ := by
  refine ⟨[], passed.head?, by simp, by simp, Nat.zero_le _, ?_⟩
  simpa using h

theorem Ahead.behind {n : Nat} (h : Ahead p places skip (c :: passed) t found) (hn : n ≤ skip + 1) :
    Behind ⟨passed.reverse, (c :: t).take n, (c :: t).drop n⟩ found := by
  obtain ⟨gap, before, hbefore, ht, hskip, -⟩ := h
  have hlength : n ≤ (c :: gap).length := by
    rw [List.length_cons]
    omega
  have hsplit : c :: t = (c :: gap) ++ (found.raw ++ found.after) := by rw [ht]; rfl
  refine ⟨(c :: gap).drop n, ?_, ?_, ?_⟩
  · rw [hsplit, List.take_append_of_le_length hlength, List.take_append_drop, hbefore,
      List.reverse_cons, List.append_assoc]
    rfl
  · rw [hsplit, List.drop_append_of_le_length hlength]
  · simp [hbefore]

theorem ahead_of_mem_scan {fresh : Bool} (h : found ∈ p.scan places fresh skip passed t) :
    Ahead p places skip passed t found := by
  induction t generalizing fresh skip passed with
  | nil =>
    rw [scan] at h
    split at h
    · next hhere =>
      simp only [Bool.and_eq_true, beq_iff_eq] at hhere
      obtain ⟨⟨rfl, -⟩, hmatch⟩ := hhere
      rw [List.mem_singleton.mp h]
      exact ahead_here (n := 0) hmatch
    · cases h
  | cons c t ih =>
    cases skip with
    | succ k => exact (ih h).cons (Nat.le_refl _)
    | zero =>
      rw [scan] at h
      split at h
      · next n hmatch =>
        rcases List.mem_cons.mp h with rfl | h
        · exact ahead_here (by rw [hmatch]; rfl)
        · exact (ih h).cons (Nat.zero_le _)
      · next hmatch =>
        split at h
        · rcases List.mem_cons.mp h with rfl | h
          · exact ahead_here (n := 0) (by rw [hmatch]; rfl)
          · exact (ih h).cons (Nat.zero_le _)
        · exact (ih h).cons (Nat.zero_le _)
      · exact (ih h).cons (Nat.zero_le _)

theorem pairwise_scan (fresh : Bool) (skip : Nat) (passed t : Text) :
    (p.scan places fresh skip passed t).Pairwise Behind := by
  induction t generalizing fresh skip passed with
  | nil =>
    rw [scan]
    split
    · exact List.pairwise_singleton _ _
    · exact .nil
  | cons c t ih =>
    cases skip with
    | succ k => exact ih _ _ _
    | zero =>
      rw [scan]
      split
      · next n _ =>
        exact .cons (fun later hm => (ahead_of_mem_scan hm).behind (Nat.le_refl _)) (ih _ _ _)
      · split
        · exact .cons (fun later hm => (ahead_of_mem_scan hm).behind (n := 0) (Nat.zero_le _))
            (ih _ _ _)
        · exact ih _ _ _
      · exact ih _ _ _

-- ---------------------------------------------------------------------------
-- The first match
-- ---------------------------------------------------------------------------

theorem before_of_seek (h : p.seek places passed t = some found) :
    found.before <+: passed.reverse ++ t := by
  induction t generalizing passed with
  | nil =>
    obtain ⟨n, -, rfl⟩ := Option.map_eq_some_iff.mp h
    exact List.prefix_append _ _
  | cons c t ih =>
    rw [seek] at h
    split at h
    · cases h
      exact List.prefix_append _ _
    · have hlater := ih h
      rwa [List.reverse_cons, List.append_assoc] at hlater

theorem seek_of_match {gap rest : Text}
    (h : ∀ before, (p.lengthAt? places before rest).isSome = true) :
    ∃ found, p.seek places passed (gap ++ rest) = some found ∧
      found.before <+: passed.reverse ++ gap := by
  induction gap generalizing passed with
  | nil =>
    obtain ⟨n, hn⟩ := Option.isSome_iff_exists.mp (h passed.head?)
    cases rest with
    | nil =>
      refine ⟨⟨passed.reverse, [], []⟩, ?_, by simp⟩
      rw [List.append_nil, seek, hn]
      rfl
    | cons c rest =>
      refine ⟨⟨passed.reverse, (c :: rest).take n, (c :: rest).drop n⟩, ?_, by simp⟩
      rw [List.nil_append, seek, hn]
  | cons c gap ih =>
    rw [List.cons_append, seek]
    split
    · exact ⟨_, rfl, List.prefix_append _ _⟩
    · obtain ⟨found, hfound, hbefore⟩ := @ih (c :: passed)
      rw [List.reverse_cons, List.append_assoc] at hbefore
      exact ⟨found, hfound, hbefore⟩

end

end Plan

namespace Delimiters

variable {d : Delimiters}

theorem styleIn_prefix (d : Delimiters) (after : Text) : d.styleIn after <+: after := by
  rw [styleIn]
  split
  · next next hnext => exact Plan.before_of_seek hnext
  · exact List.prefix_rfl

theorem styleIn_of_match {gap rest : Text}
    (h : ∀ before, (d.start.plan.lengthAt? ((gap ++ rest).length + 1) before rest).isSome = true) :
    d.styleIn (gap ++ rest) <+: gap := by
  obtain ⟨found, hfound, hbefore⟩ := @Plan.seek_of_match _ _ [] gap rest h
  have hfind : d.start.find? (gap ++ rest) = some found := hfound
  rw [styleIn, hfind]
  exact hbefore

end Delimiters

-- ---------------------------------------------------------------------------
-- Blocks in a text
-- ---------------------------------------------------------------------------

namespace Block

/-- A block stands in a text with its style behind it. -/
def StandsIn (text : Text) (b : Block) : Prop :=
  ∃ rest, text = b.before ++ (b.raw ++ (b.style ++ rest))

def Precedes (b next : Block) : Prop :=
  ∃ gap, next.before = b.before ++ (b.raw ++ (b.style ++ gap)) ∧
    b.before.length < next.before.length

section

variable {text : Text} {b next : Block}

theorem StandsIn.bytes?_raw (h : b.StandsIn text) : text.bytes? b.span = some b.raw := by
  obtain ⟨rest, rfl⟩ := h
  exact Text.bytes?_append _ _ _

theorem StandsIn.bytes?_style (h : b.StandsIn text) :
    text.bytes? (b.span.2, b.span.2 + Text.byteSize b.style) = some b.style := by
  obtain ⟨rest, rfl⟩ := h
  have hend : b.span.2 = Text.byteSize (b.before ++ b.raw) := (Text.byteSize_append _ _).symm
  rw [hend, ← List.append_assoc]
  exact Text.bytes?_append _ _ _

theorem Precedes.span (h : b.Precedes next) :
    b.span.1 < next.span.1 ∧ b.span.2 + Text.byteSize b.style ≤ next.span.1 := by
  obtain ⟨gap, hbefore, hlength⟩ := h
  have hsize : next.span.1 = b.span.1 + Text.byteSize (b.raw ++ (b.style ++ gap)) := by
    rw [Block.span, hbefore, Text.byteSize_append]
    rfl
  have hne : b.raw ++ (b.style ++ gap) ≠ [] := by
    intro hnil
    rw [hbefore, hnil, List.append_nil] at hlength
    exact Nat.lt_irrefl _ hlength
  have hpos := Text.byteSize_pos hne
  have hend : b.span.2 = b.span.1 + Text.byteSize b.raw := rfl
  rw [Text.byteSize_append, Text.byteSize_append] at hsize
  rw [Text.byteSize_append, Text.byteSize_append] at hpos
  omega

/-- Blocks that precede one another are, with their styles, separate parts of the text. -/
theorem exists_parts {blocks : List Block} {passed t : Text}
    (hstands : ∀ b ∈ blocks, b.StandsIn (passed ++ t)) (hpassed : ∀ b ∈ blocks, passed <+: b.before)
    (horder : blocks.Pairwise Precedes) :
    ∃ gaps tail, gaps.length = blocks.length ∧
      t = (List.zipWith (fun gap b => gap ++ (b.raw ++ b.style)) gaps blocks).flatten ++ tail := by
  induction blocks generalizing passed t with
  | nil => exact ⟨[], t, rfl, rfl⟩
  | cons b blocks ih =>
    obtain ⟨hfirst, horder⟩ := List.pairwise_cons.mp horder
    obtain ⟨rest, htext⟩ := hstands b List.mem_cons_self
    obtain ⟨gap, hgap⟩ := hpassed b List.mem_cons_self
    have ht : t = gap ++ (b.raw ++ (b.style ++ rest)) := by
      rw [← hgap, List.append_assoc] at htext
      exact List.append_cancel_left htext
    have hwhole : passed ++ t = (b.before ++ (b.raw ++ b.style)) ++ rest := by
      rw [htext]
      simp only [List.append_assoc]
    obtain ⟨gaps, tail, hlength, hrest⟩ := @ih (b.before ++ (b.raw ++ b.style)) rest
      (fun c hc => hwhole ▸ hstands c (List.mem_cons_of_mem _ hc))
      (fun c hc => by
        obtain ⟨gap, hbefore, -⟩ := hfirst c hc
        exact ⟨gap, by rw [hbefore]; simp only [List.append_assoc]⟩)
      horder
    refine ⟨gap :: gaps, tail, by rw [List.length_cons, List.length_cons, hlength], ?_⟩
    rw [ht, hrest]
    simp only [List.zipWith_cons_cons, List.flatten_cons, List.append_assoc]

end

end Block

namespace Delimiters

theorem standsIn_of_mem {d : Delimiters} {text : Text} {b : Block} (h : b ∈ d.blocks text) :
    b.StandsIn text := by
  obtain ⟨found, hfound, rfl⟩ := List.mem_map.mp h
  obtain ⟨gap, before, hbefore, ht, -, -⟩ := Plan.ahead_of_mem_scan hfound
  obtain ⟨rest, hrest⟩ := d.styleIn_prefix found.after
  refine ⟨rest, ?_⟩
  rw [hrest, hbefore]
  exact ht

theorem precedes_blocks {d : Delimiters} (hblock : d.block = .seq d.start (.seq gap d.stop))
    (hfree : d.start.lookFree = true) (text : Text) : (d.blocks text).Pairwise Block.Precedes := by
  refine List.pairwise_map.mpr (List.Pairwise.imp_of_mem ?_ (Plan.pairwise_scan _ _ _ _))
  intro first next _ hnext hbehind
  obtain ⟨gap, hbefore, hafter, hlength⟩ := hbehind
  obtain ⟨lead, before, -, ht, -, hmatch⟩ := Plan.ahead_of_mem_scan hnext
  have hstyle : d.styleIn first.after <+: gap := by
    rw [hafter]
    refine styleIn_of_match fun before' => ?_
    rw [hblock] at hmatch
    refine Plan.lengthAt?_of_seq (Pattern.lookFree_planFrom hfree 0) ?_ ?_ hmatch before'
    · simp only [ht, List.length_append]
      omega
    · simp only [List.length_append]
      omega
  obtain ⟨between, hbetween⟩ := hstyle
  refine ⟨between, ?_, hlength⟩
  rw [hbetween]
  exact hbefore

/-- In every text the blocks come one behind the other, each the part of the text that its span
tells, with its style beginning at its end and ending before the next block: blocks and styles are
separate parts of the text. -/
theorem blocks_laid_out {start stop : Text} {d : Delimiters} (hd : read start stop = .ok d)
    (hstart : Pattern.neverVerbose start = true) (hstop : Pattern.neverVerbose stop = true)
    (hfree : d.start.lookFree = true) (text : Text) :
    (d.blocks text).Pairwise (fun b next =>
      b.span.1 < next.span.1 ∧ b.span.2 + Text.byteSize b.style ≤ next.span.1) ∧
    (∀ b ∈ d.blocks text, text.bytes? b.span = some b.raw ∧
      text.bytes? (b.span.2, b.span.2 + Text.byteSize b.style) = some b.style) ∧
    ∃ gaps tail, gaps.length = (d.blocks text).length ∧
      text = (List.zipWith (fun gap b => gap ++ (b.raw ++ b.style)) gaps (d.blocks text)).flatten ++
        tail := by
  have horder := precedes_blocks (block_of_read hd hstart hstop) hfree text
  have hstands (b : Block) (hb : b ∈ d.blocks text) : b.StandsIn text := standsIn_of_mem hb
  refine ⟨horder.imp Block.Precedes.span, ?_, ?_⟩
  · intro b hb
    exact ⟨(hstands b hb).bytes?_raw, (hstands b hb).bytes?_style⟩
  · exact @Block.exists_parts _ [] text hstands (fun b _ => List.nil_prefix) horder

def twoKinds : Delimiters :=
  let slash := Pattern.set (.char '/')
  let star := Pattern.set (.char '*')
  let start := Pattern.alt (.seq slash (.repeated 1 none true slash)) (.seq slash star)
  let stop := Pattern.alt (.set (.char '\n')) (.seq star slash)
  ⟨start, stop, .seq start (.seq gap stop)⟩

theorem blocks_laid_out_two_kinds :
    read "//+|/\\*".toList "\\n|\\*/".toList = .ok twoKinds ∧
    Pattern.neverVerbose "//+|/\\*".toList = true ∧ Pattern.neverVerbose "\\n|\\*/".toList = true ∧
    twoKinds.start.lookFree = true ∧
    twoKinds.blocks "//a\nb/*c*/".toList =
      [⟨[], "//a\n".toList, ['b']⟩, ⟨"//a\nb".toList, "/*c*/".toList, []⟩] ∧
    (twoKinds.blocks "//a\nb/*c*/".toList).Pairwise (fun b next =>
      b.span.1 < next.span.1 ∧ b.span.2 + Text.byteSize b.style ≤ next.span.1) ∧
    ∀ b ∈ twoKinds.blocks "//a\nb/*c*/".toList,
      Text.bytes? "//a\nb/*c*/".toList b.span = some b.raw ∧
      Text.bytes? "//a\nb/*c*/".toList (b.span.2, b.span.2 + Text.byteSize b.style) =
        some b.style := by
  have hread : read "//+|/\\*".toList "\\n|\\*/".toList = .ok twoKinds :=
    read_eq_ok.mpr ⟨_, by decide +kernel, _, by decide +kernel, _, by decide +kernel, rfl⟩
  have hstart : Pattern.neverVerbose "//+|/\\*".toList = true := by decide +kernel
  have hstop : Pattern.neverVerbose "\\n|\\*/".toList = true := by decide +kernel
  obtain ⟨horder, hparts, -⟩ := blocks_laid_out hread hstart hstop rfl "//a\nb/*c*/".toList
  refine ⟨hread, hstart, hstop, rfl, ?_, horder, hparts⟩
  simp [twoKinds, blocks, styleIn, gap, Pattern.findAll, Pattern.find?, Pattern.plan,
    Pattern.planFrom, Plan.scan, Plan.seek, Plan.lengthAt?, Plan.run, Plan.more, Plan.once,
    Plan.copies, Plan.option, Plan.Attempt.orElse, Plan.Attempt.fail, Cursor.advance, Class.has]

end Delimiters

end Swatchbook
