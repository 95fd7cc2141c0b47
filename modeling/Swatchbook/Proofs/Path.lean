import Swatchbook.Path
import Swatchbook.Proofs.Text
import Mathlib.Data.List.Basic
import Mathlib.Data.List.Induction

/-!
# Parts of paths

What a path means is known from its pieces. Joining puts the parts of one path
behind those of another, a normal form is spelled from parts that are read
back from it, and the way from one path to another below it, or back up, is
the parts in which they differ.
-/

namespace Swatchbook

/-- Double points and names: their text is one piece, which stands for them. -/
structure Part.Proper (part : Part) : Prop where
  reads : Path.partOf? part.text = some part
  slash : '/' ∉ part.text

theorem Part.Proper.ne_root {part : Part} (h : part.Proper) : part ≠ .root := by
  rintro rfl
  cases h.reads

theorem Part.Proper.ne_here {part : Part} (h : part.Proper) : part ≠ .here := by
  rintro rfl
  cases h.reads

theorem Part.Proper.ne_nil {part : Part} (h : part.Proper) : part.text ≠ [] := by
  intro hnil
  have hreads := h.reads
  rw [hnil] at hreads
  cases hreads

namespace Path

-- ---------------------------------------------------------------------------
-- Pieces
-- ---------------------------------------------------------------------------

def pieces (p : Path) : List Text := Text.splitBy (· == '/') p.spelling

def lead (absolute : Bool) (first : Option Text) : List Part :=
  if absolute then [.root] else if first == some ['.'] then [.here] else []

theorem parts_eq (p : Path) :
    p.parts = lead p.isAbsolute p.pieces.head? ++ p.pieces.filterMap partOf? := rfl

theorem pieces_ne_nil (p : Path) : p.pieces ≠ [] := Text.splitBy_ne_nil _ _

theorem join_pieces (p : Path) : Text.join ['/'] p.pieces = p.spelling := Text.join_splitBy '/' _

theorem not_mem_of_mem_pieces {p : Path} {piece : Text} (h : piece ∈ p.pieces) : '/' ∉ piece :=
  Text.not_mem_of_mem_splitBy h

theorem partOf?_eq_some_iff {piece : Text} {part : Part} : partOf? piece = some part ↔
    piece = ['.', '.'] ∧ part = .up ∨
      piece ≠ [] ∧ piece ≠ ['.'] ∧ piece ≠ ['.', '.'] ∧ part = .name piece := by
  unfold partOf?
  split
  · next h =>
    simp only [Bool.or_eq_true, beq_iff_eq] at h
    rcases h with rfl | rfl <;> simp
  · next h =>
    simp only [Bool.or_eq_true, beq_iff_eq, not_or] at h
    split
    · next hup =>
      obtain rfl := beq_iff_eq.mp hup
      simp only [Option.some.injEq, true_and, ne_eq, not_true_eq_false, false_and, and_false,
        or_false]
      exact eq_comm
    · next hup =>
      have hup : piece ≠ ['.', '.'] := fun e => hup (beq_iff_eq.mpr e)
      simp only [Option.some.injEq, hup, h.1, h.2, false_and, false_or, ne_eq, not_false_eq_true,
        true_and]
      exact eq_comm

theorem partOf?_eq_none_iff {piece : Text} :
    partOf? piece = none ↔ piece = [] ∨ piece = ['.'] := by
  rw [partOf?]
  split
  · next h => simpa using h
  · next h => split <;> simpa using h

theorem text_of_partOf? {piece : Text} {part : Part} (h : partOf? piece = some part) :
    part.text = piece := by
  rcases partOf?_eq_some_iff.mp h with ⟨rfl, rfl⟩ | ⟨-, -, -, rfl⟩ <;> rfl

theorem partOf?_ne_root {piece : Text} : partOf? piece ≠ some .root := by
  intro h
  rcases partOf?_eq_some_iff.mp h with ⟨-, h⟩ | ⟨-, -, -, h⟩ <;> cases h

theorem proper_of_partOf? {piece : Text} {part : Part} (hslash : '/' ∉ piece)
    (h : partOf? piece = some part) : part.Proper := by
  have htext := text_of_partOf? h
  exact ⟨by rw [htext, h], by rw [htext]; exact hslash⟩

theorem proper_up : Part.up.Proper := ⟨rfl, by decide⟩

theorem proper_ups (n : Nat) : ∀ part ∈ List.replicate n Part.up, part.Proper := by
  intro part hm
  rw [List.eq_of_mem_replicate hm]
  exact proper_up

theorem proper_of_mem_pieces {p : Path} {part : Part} (h : part ∈ p.pieces.filterMap partOf?) :
    part.Proper := by
  obtain ⟨piece, hm, hpart⟩ := List.mem_filterMap.mp h
  exact proper_of_partOf? (not_mem_of_mem_pieces hm) hpart

theorem mem_lead {absolute : Bool} {first : Option Text} {part : Part}
    (h : part ∈ lead absolute first) : part = .root ∨ part = .here := by
  unfold lead at h
  split at h
  · exact .inl (List.mem_singleton.mp h)
  · split at h
    · exact .inr (List.mem_singleton.mp h)
    · cases h

theorem proper_of_name_mem {p : Path} {name : Text} (h : .name name ∈ p.parts) :
    (Part.name name).Proper := by
  rw [parts_eq] at h
  rcases List.mem_append.mp h with h | h
  · rcases mem_lead h with h | h <;> cases h
  · exact proper_of_mem_pieces h

theorem isAbsolute_eq (p : Path) : p.isAbsolute = (p.parts.head? == some .root) := by
  rw [parts_eq]
  cases hp : p.isAbsolute with
  | true => rfl
  | false =>
    rw [eq_comm, beq_eq_false_iff_ne]
    intro hroot
    have hmem := List.mem_of_mem_head? hroot
    rcases List.mem_append.mp hmem with hmem | hmem
    · unfold lead at hmem
      split at hmem
      · contradiction
      · split at hmem <;> simp at hmem
    · obtain ⟨piece, -, hpart⟩ := List.mem_filterMap.mp hmem
      exact partOf?_ne_root hpart

theorem parts_of_isAbsolute {p : Path} (h : p.isAbsolute = true) :
    ∃ rest, p.parts = .root :: rest ∧ ∀ part ∈ rest, part.Proper := by
  refine ⟨p.pieces.filterMap partOf?, ?_, fun _ => proper_of_mem_pieces⟩
  rw [parts_eq, h]
  rfl

theorem pieces_mk {pieces : List Text} (hne : pieces ≠ []) (h : ∀ piece ∈ pieces, '/' ∉ piece) :
    Path.pieces ⟨Text.join ['/'] pieces⟩ = pieces := Text.splitBy_join hne h

theorem head?_pieces_of_isAbsolute {p : Path} (h : p.isAbsolute = true) :
    p.pieces.head? = some [] := by
  obtain ⟨rest, hrest⟩ := List.head?_eq_some_iff.mp (beq_iff_eq.mp h)
  rw [pieces, hrest]
  rfl

theorem parts_eq_filterMap {p : Path} {first : Text} {part : Part}
    (hfirst : p.pieces.head? = some first) (h : partOf? first = some part) :
    p.parts = p.pieces.filterMap partOf? := by
  have hrelative : p.isAbsolute = false := by
    rw [← Bool.not_eq_true]
    intro habsolute
    rw [head?_pieces_of_isAbsolute habsolute, Option.some.injEq] at hfirst
    subst hfirst
    cases h
  have hpoint : first ≠ ['.'] := by
    rintro rfl
    cases h
  rw [parts_eq, hrelative, hfirst]
  simp [lead, hpoint]

theorem parts_of_piece {part : Part} (h : part.Proper) : Path.parts ⟨part.text⟩ = [part] := by
  have hpieces : Path.pieces ⟨part.text⟩ = [part.text] := Text.splitBy_of_not_mem h.slash
  rw [parts_eq_filterMap (by rw [hpieces]; rfl) h.reads, hpieces]
  simp [h.reads]

theorem isAbsolute_of_piece {part : Part} (h : part.Proper) :
    Path.isAbsolute ⟨part.text⟩ = false := by
  rw [isAbsolute_eq, parts_of_piece h, beq_eq_false_iff_ne]
  exact fun hroot => h.ne_root (Option.some.inj hroot)

theorem isAbsolute_of_slash {t : Text} (h : '/' ∉ t) : Path.isAbsolute ⟨t⟩ = false := by
  rw [isAbsolute, beq_eq_false_iff_ne]
  exact fun hhead => h (List.mem_of_mem_head? hhead)

-- ---------------------------------------------------------------------------
-- Joining
-- ---------------------------------------------------------------------------

theorem spelling_join {a b : Path} (hb : b.isAbsolute = false) (ha : a.spelling ≠ []) :
    ∃ front, (a.join b).spelling = front ++ '/' :: b.spelling ∧
      (a.spelling = front ∨ a.spelling = front ++ ['/']) := by
  have hkeep : (b.isAbsolute || a.spelling == []) = false := by simp [hb, ha]
  cases hlast : a.spelling.getLast? == some '/' with
  | true =>
    obtain ⟨front, hfront⟩ := List.getLast?_eq_some_iff.mp (beq_iff_eq.mp hlast)
    refine ⟨front, ?_, .inr hfront⟩
    simp only [join, hkeep, hlast, if_true, Bool.false_eq_true, if_false]
    rw [hfront, List.append_assoc, List.singleton_append]
  | false =>
    refine ⟨a.spelling, ?_, .inl rfl⟩
    simp only [join, hkeep, hlast, Bool.false_eq_true, if_false]

theorem parts_join {a b : Path} (hb : b.isAbsolute = false) (ha : a.spelling ≠ []) :
    (a.join b).parts = a.parts ++ b.pieces.filterMap partOf? := by
  obtain ⟨front, hjoin, ha'⟩ := spelling_join hb ha
  obtain ⟨first, rest, hsplit⟩ := List.exists_cons_of_ne_nil (Text.splitBy_ne_nil (· == '/') front)
  have hpieces : (a.join b).pieces = (first :: rest) ++ b.pieces := by
    rw [pieces, hjoin, Text.splitBy_append_cons, hsplit]
    rfl
  have hself : a.pieces = first :: rest ∨ a.pieces = first :: rest ++ [[]] := by
    rcases ha' with h | h
    · exact .inl (by rw [pieces, h, hsplit])
    · exact .inr (by rw [pieces, h, Text.splitBy_append_cons, hsplit]; rfl)
  have habsolute : (a.join b).isAbsolute = a.isAbsolute := by
    rw [isAbsolute, isAbsolute, hjoin]
    rcases ha' with h | h <;> rw [h] <;> cases front with
    | nil => simp_all
    | cons c front => rfl
  rw [parts_eq, parts_eq, hpieces, habsolute, List.filterMap_append, ← List.append_assoc]
  rcases hself with h | h
  · rw [h]
    rfl
  · rw [h, List.filterMap_append]
    simp [partOf?]

theorem join_of_isAbsolute {a b : Path} (hb : b.isAbsolute = true) : a.join b = b := by
  simp [join, hb]

theorem join_of_empty {a b : Path} (ha : a.spelling = []) : a.join b = b := by
  simp [join, ha]

theorem parts_of_empty {a : Path} (ha : a.spelling = []) : a.parts = [] := by
  obtain ⟨spelling⟩ := a
  obtain rfl : spelling = [] := ha
  rfl

theorem getLast?_pieces_join (a : Path) {b : Path} (hb : b.isAbsolute = false) :
    (a.join b).pieces.getLast? = b.pieces.getLast? := by
  by_cases ha : a.spelling = []
  · rw [join_of_empty ha]
  · obtain ⟨front, hjoin, -⟩ := spelling_join hb ha
    rw [pieces, hjoin, Text.splitBy_append_cons,
      List.getLast?_append]
    cases hb : b.pieces.getLast? with
    | none => exact absurd (List.getLast?_eq_none_iff.mp hb) b.pieces_ne_nil
    | some last =>
      unfold pieces at hb
      rw [hb]
      rfl

theorem parts_join_part (a : Path) {part : Part} (h : part.Proper) :
    (a.join ⟨part.text⟩).parts = a.parts ++ [part] := by
  by_cases ha : a.spelling = []
  · rw [join_of_empty ha, parts_of_empty ha, parts_of_piece h]
    rfl
  · have hpieces : Path.pieces ⟨part.text⟩ = [part.text] := Text.splitBy_of_not_mem h.slash
    rw [parts_join (isAbsolute_of_piece h) ha, hpieces]
    simp [h.reads]

theorem parts_join_name (a : Path) {name : Text} (h : (Part.name name).Proper) :
    (a.join ⟨name⟩).parts = a.parts ++ [.name name] := by
  have hparts := parts_join_part a h
  rwa [Part.text] at hparts

-- ---------------------------------------------------------------------------
-- Normal forms
-- ---------------------------------------------------------------------------

theorem normalParts_append (xs ys : List Part) :
    normalParts (xs ++ ys) = ys.foldl fold (normalParts xs) := List.foldl_append

theorem foldl_fold_of_isAbsolute {p : Path} (h : p.isAbsolute = true) (done : List Part) :
    p.parts.foldl fold done = normalParts p.parts := by
  rw [isAbsolute_eq, beq_iff_eq] at h
  obtain ⟨rest, hrest⟩ := List.head?_eq_some_iff.mp h
  rw [hrest]
  rfl

theorem foldl_fold_relative {p : Path} (h : p.isAbsolute = false) (done : List Part) :
    p.parts.foldl fold done = (p.pieces.filterMap partOf?).foldl fold done := by
  rw [parts_eq, List.foldl_append, h]
  unfold lead
  split
  · contradiction
  · split <;> rfl

theorem foldl_fold_join (done : List Part) (a b : Path) :
    (a.join b).parts.foldl fold done = b.parts.foldl fold (a.parts.foldl fold done) := by
  cases hb : b.isAbsolute with
  | true =>
    rw [join_of_isAbsolute hb, foldl_fold_of_isAbsolute hb, foldl_fold_of_isAbsolute hb]
  | false =>
    by_cases ha : a.spelling = []
    · rw [join_of_empty ha, parts_of_empty ha]
      rfl
    · rw [parts_join hb ha, List.foldl_append, foldl_fold_relative hb]

theorem normalParts_join (a b : Path) :
    normalParts (a.join b).parts = normalParts (a.parts ++ b.parts) := by
  rw [normalParts_append]
  exact foldl_fold_join [] a b

theorem foldl_fold_names (done : List Part) (names : List Text) :
    (names.map Part.name).foldl fold done = done ++ names.map Part.name := by
  induction names generalizing done with
  | nil => simp
  | cons name names ih => simp [fold, ih]

theorem fold_up_name (done : List Part) (name : Text) : fold (done ++ [.name name]) .up = done := by
  simp [fold]

/-- As many double points as names lead back to where the names began. -/
theorem foldl_fold_climb (done : List Part) (names : List Text) :
    (List.replicate names.length .up).foldl fold (done ++ names.map Part.name) = done := by
  induction names using List.reverseRecOn with
  | nil => simp
  | append_singleton names name ih =>
    rw [List.map_append, List.map_singleton, ← List.append_assoc, List.length_append,
      List.length_singleton, List.replicate_succ, List.foldl_cons, fold_up_name, ih]

/-- A root or double points, and then names only. -/
def Normal (parts : List Part) : Prop :=
  ∃ (front : List Part) (names : List Text), parts = front ++ names.map .name ∧
    (front = [.root] ∨ ∃ k, front = List.replicate k .up) ∧ ∀ name ∈ names, (Part.name name).Proper

theorem Normal.fold {done : List Part} {part : Part} (h : Normal done)
    (hpart : ∀ name, part = .name name → part.Proper) : Normal (fold done part) := by
  obtain ⟨front, names, rfl, hfront, hnames⟩ := h
  cases part with
  | root => exact ⟨[.root], [], rfl, .inl rfl, by simp⟩
  | here => exact ⟨front, names, rfl, hfront, hnames⟩
  | name name =>
    refine ⟨front, names ++ [name], by simp [Path.fold], hfront, ?_⟩
    intro other hother
    rcases List.mem_append.mp hother with hother | hother
    · exact hnames other hother
    · rw [List.mem_singleton.mp hother]
      exact hpart name rfl
  | up =>
    cases names using List.reverseRecOn with
    | append_singleton names name =>
      refine ⟨front, names, ?_, hfront, fun other hm => hnames other (List.mem_append_left _ hm)⟩
      rw [List.map_append, List.map_singleton, ← List.append_assoc, fold_up_name]
    | nil =>
      rcases hfront with rfl | ⟨k, rfl⟩
      · exact ⟨[.root], [], rfl, .inl rfl, by simp⟩
      · refine ⟨List.replicate (k + 1) .up, [], ?_, .inr ⟨k + 1, rfl⟩, by simp⟩
        cases k with
        | zero => rfl
        | succ k => simp [Path.fold, List.getLast?_replicate, List.replicate_succ']

theorem Normal.root_or_proper {parts : List Part} {part : Part} (h : Normal parts)
    (hm : part ∈ parts) : part = .root ∨ part.Proper := by
  obtain ⟨front, names, rfl, hfront, hnames⟩ := h
  rcases List.mem_append.mp hm with hm | hm
  · rcases hfront with rfl | ⟨k, rfl⟩
    · exact .inl (List.mem_singleton.mp hm)
    · exact .inr (proper_ups k part hm)
  · obtain ⟨name, hname, rfl⟩ := List.mem_map.mp hm
    exact .inr (hnames name hname)

theorem Normal.proper_name {parts : List Part} {name : Text} (h : Normal parts)
    (hm : .name name ∈ parts) : (Part.name name).Proper :=
  (h.root_or_proper hm).resolve_left nofun

theorem Normal.here_not_mem {parts : List Part} (h : Normal parts) : .here ∉ parts := fun hm =>
  ((h.root_or_proper hm).resolve_left nofun).ne_here rfl

theorem Normal.proper_behind {front rest : List Part} {part : Part}
    (h : Normal (front ++ part :: rest)) : ∀ other ∈ rest, other.Proper := by
  obtain ⟨lead, names, hparts, hlead, hnames⟩ := h
  have hproper : ∀ other ∈ (lead ++ names.map Part.name).tail, other.Proper := by
    have hnames : ∀ other ∈ names.map Part.name, other.Proper := List.forall_mem_map.mpr hnames
    rcases hlead with rfl | ⟨k, rfl⟩
    · exact hnames
    · intro other hm
      rcases List.mem_append.mp (List.mem_of_mem_tail hm) with hm | hm
      · exact proper_ups k other hm
      · exact hnames other hm
  intro other hm
  refine hproper other ?_
  rw [← hparts]
  cases front with
  | nil => exact hm
  | cons first front => exact List.mem_append_right _ (List.mem_cons_of_mem _ hm)

theorem Normal.proper_of_relative {p : Path} (h : Normal p.parts) (hp : p.isAbsolute = false) :
    ∀ part ∈ p.parts, part.Proper := by
  rw [isAbsolute_eq, beq_eq_false_iff_ne] at hp
  cases hparts : p.parts with
  | nil => exact List.forall_mem_nil _
  | cons part rest =>
    rw [hparts] at h hp
    refine List.forall_mem_cons.mpr ⟨?_, @Normal.proper_behind [] rest part h⟩
    refine (h.root_or_proper List.mem_cons_self).resolve_left ?_
    rintro rfl
    exact hp rfl

theorem Normal.names_behind {front rest : List Part} {name : Text}
    (h : Normal (front ++ .name name :: rest)) : ∃ names : List Text, rest = names.map .name := by
  obtain ⟨lead, names, hparts, hlead, -⟩ := h
  have hfree : .name name ∉ lead := by
    rcases hlead with rfl | ⟨k, rfl⟩ <;> simp
  rcases List.append_eq_append_iff.mp hparts with ⟨more, rfl, hrest⟩ | ⟨more, rfl, hrest⟩
  · cases more with
    | nil =>
      obtain ⟨_, names, -, -, hnames⟩ := List.map_eq_cons_iff.mp hrest.symm
      exact ⟨names, hnames.symm⟩
    | cons part more =>
      obtain ⟨rfl, -⟩ := List.cons.inj hrest
      simp at hfree
  · obtain ⟨_, behind, -, -, hbehind⟩ := List.map_eq_append_iff.mp hrest
    obtain ⟨_, names, -, -, hnames⟩ := List.map_eq_cons_iff.mp hbehind
    exact ⟨names, hnames.symm⟩

theorem Normal.foldl_fold {done parts : List Part} (h : Normal done)
    (hnames : ∀ name, .name name ∈ parts → (Part.name name).Proper) :
    Normal (parts.foldl Path.fold done) := by
  induction parts generalizing done with
  | nil => exact h
  | cons part parts ih =>
    refine ih (h.fold ?_) fun name hm => hnames name (List.mem_cons_of_mem _ hm)
    rintro name rfl
    exact hnames name List.mem_cons_self

theorem normal_nil : Normal [] := ⟨[], [], rfl, .inr ⟨0, rfl⟩, List.forall_mem_nil _⟩

theorem normal_normalParts (p : Path) : Normal (normalParts p.parts) :=
  normal_nil.foldl_fold fun _ => proper_of_name_mem

theorem Normal.of_append {parts rest : List Part} (h : Normal (parts ++ rest)) : Normal parts := by
  induction rest using List.reverseRecOn with
  | nil => rwa [List.append_nil] at h
  | append_singleton rest part ih =>
    refine ih ?_
    rw [← List.append_assoc] at h
    obtain ⟨front, names, hparts, hfront, hnames⟩ := h
    cases names using List.reverseRecOn with
    | append_singleton names name =>
      rw [List.map_append, ← List.append_assoc] at hparts
      exact ⟨front, names, (List.append_inj' hparts rfl).1, hfront,
        fun other hm => hnames other (List.mem_append_left _ hm)⟩
    | nil =>
      rw [List.map_nil, List.append_nil] at hparts
      rcases hfront with rfl | ⟨k, rfl⟩
      · obtain ⟨hnil, -⟩ := List.append_inj' (hparts.trans (List.nil_append _).symm) rfl
        rw [hnil]
        exact normal_nil
      · refine ⟨List.replicate (parts ++ rest).length .up, [], ?_, .inr ⟨_, rfl⟩, by simp⟩
        rw [List.map_nil, List.append_nil, List.eq_replicate_length]
        intro other hm
        exact List.eq_of_mem_replicate (hparts ▸ List.mem_append_left _ hm)

theorem Normal.normalParts_eq {parts : List Part} (h : Normal parts) :
    normalParts parts = parts := by
  obtain ⟨front, names, rfl, hfront, -⟩ := h
  rw [normalParts_append, foldl_fold_names]
  congr 1
  rcases hfront with rfl | ⟨k, rfl⟩
  · rfl
  · induction k with
    | zero => rfl
    | succ k ih =>
      rw [List.replicate_succ', normalParts_append, ih]
      cases k <;> simp [Path.fold, List.getLast?_replicate]

theorem ofParts_concat (parts : List Part) (part : Part) :
    ofParts (parts ++ [part]) = (ofParts parts).join ⟨part.text⟩ := by
  rw [ofParts, List.foldl_append]
  rfl

/-- What is spelled from a root or none and then proper parts has just these parts. -/
theorem parts_ofParts {front parts : List Part} (hfront : front = [] ∨ front = [.root])
    (h : ∀ part ∈ parts, part.Proper) : (ofParts (front ++ parts)).parts = front ++ parts := by
  induction parts using List.reverseRecOn with
  | nil => rcases hfront with rfl | rfl <;> rfl
  | append_singleton parts part ih =>
    rw [← List.append_assoc, ofParts_concat, parts_join_part _ (h part (by simp)),
      ih fun other hm => h other (List.mem_append_left _ hm)]

section

variable {parts : List Part} (h : ∀ part ∈ parts, part.Proper)

include h

theorem exists_names (hup : .up ∉ parts) : ∃ names : List Text, parts = names.map .name := by
  induction parts with
  | nil => exact ⟨[], rfl⟩
  | cons part parts ih =>
    rw [List.forall_mem_cons] at h
    rw [List.mem_cons, not_or] at hup
    obtain ⟨names, rfl⟩ := ih h.2 hup.2
    cases part with
    | root => exact absurd rfl h.1.ne_root
    | here => exact absurd rfl h.1.ne_here
    | up => exact absurd rfl hup.1
    | name name => exact ⟨name :: names, rfl⟩

theorem root_not_mem : .root ∉ parts := fun hm => (h _ hm).ne_root rfl

theorem parts_ofProper : (ofParts parts).parts = parts := @parts_ofParts [] parts (.inl rfl) h

omit h in
theorem isAbsolute_of_proper {p : Path} (h : ∀ part ∈ p.parts, part.Proper) :
    p.isAbsolute = false := by
  rw [isAbsolute_eq, beq_eq_false_iff_ne]
  exact fun hroot => root_not_mem h (List.mem_of_mem_head? hroot)

theorem isAbsolute_ofProper : (ofParts parts).isAbsolute = false :=
  isAbsolute_of_proper (by rwa [parts_ofProper h])

omit h in
theorem parts_eq_of_proper {p : Path} (h : ∀ part ∈ p.parts, part.Proper) :
    p.parts = p.pieces.filterMap partOf? := by
  rw [parts_eq] at h ⊢
  cases hlead : lead p.isAbsolute p.pieces.head? with
  | nil => rfl
  | cons part rest =>
    have hpart : part.Proper := h part (by simp [hlead])
    rcases mem_lead (by rw [hlead]; exact List.mem_cons_self) with hroot | hhere
    · exact absurd hroot hpart.ne_root
    · exact absurd hhere hpart.ne_here

theorem parts_join_ofParts (a : Path) : (a.join (ofParts parts)).parts = a.parts ++ parts := by
  have hparts := parts_ofProper h
  by_cases ha : a.spelling = []
  · rw [join_of_empty ha, parts_of_empty ha, hparts, List.nil_append]
  · rw [parts_join (isAbsolute_ofProper h) ha, ← parts_eq_of_proper (by rwa [hparts]), hparts]

end

theorem join_spelled (front : List Text) {last part : Part} (hlast : last.Proper)
    (hpart : part.Proper) : Path.join ⟨Text.join ['/'] (front ++ [last.text])⟩ ⟨part.text⟩ =
      ⟨Text.join ['/'] (front ++ [last.text, part.text])⟩ := by
  have hspelling := Text.join_concat '/' front last.text
  have hne : Text.join ['/'] (front ++ [last.text]) ≠ [] := by simp [hspelling, hlast.ne_nil]
  have hslash : (Text.join ['/'] (front ++ [last.text])).getLast? ≠ some '/' := by
    rw [hspelling, List.getLast?_append_of_ne_nil _ hlast.ne_nil]
    exact fun hend => hlast.slash (List.mem_of_getLast? hend)
  rw [join, isAbsolute_of_piece hpart]
  simp only [Bool.false_or, beq_iff_eq, hne, hslash, if_false]
  have hlonger := Text.join_concat '/' (front ++ [last.text]) part.text
  rw [← List.append_cons] at hlonger
  simp [hlonger, hspelling]

theorem pieces_spelled (front : List Text) (hfront : ∀ piece ∈ front, '/' ∉ piece) {last : Part}
    {parts : List Part} (hlast : last.Proper) (h : ∀ part ∈ parts, part.Proper) :
    pieces (parts.foldl (fun p part => p.join ⟨part.text⟩)
      ⟨Text.join ['/'] (front ++ [last.text])⟩) = front ++ last.text :: parts.map Part.text := by
  induction parts generalizing front last with
  | nil =>
    refine pieces_mk (List.concat_ne_nil _ _) fun piece hm => ?_
    rcases List.mem_append.mp hm with hm | hm
    · exact hfront piece hm
    · rw [List.mem_singleton.mp hm]
      exact hlast.slash
  | cons part parts ih =>
    obtain ⟨hpart, h⟩ := List.forall_mem_cons.mp h
    rw [List.foldl_cons, join_spelled front hlast hpart, List.append_cons front,
      ih (front ++ [last.text]) (by simpa [or_imp, forall_and, hlast.slash] using hfront) hpart h]
    simp

/-- A normal form has no other pieces than its parts, and an empty one where it starts at the
root. -/
theorem pieces_ofParts {parts : List Part} (hne : parts ≠ []) (h : ∀ part ∈ parts, part.Proper) :
    (ofParts parts).pieces = parts.map Part.text ∧
      (ofParts (.root :: parts)).pieces = [] :: parts.map Part.text := by
  obtain ⟨first, rest, rfl⟩ := List.exists_cons_of_ne_nil hne
  obtain ⟨hfirst, hrest⟩ := List.forall_mem_cons.mp h
  have hroot : Path.join ⟨['/']⟩ ⟨first.text⟩ = ⟨Text.join ['/'] ([[]] ++ [first.text])⟩ := by
    rw [join, isAbsolute_of_piece hfirst]
    simp [Text.join, List.intercalate]
  have hbare : empty.join ⟨first.text⟩ = ⟨Text.join ['/'] ([] ++ [first.text])⟩ := by
    simp [join_of_empty (a := empty) rfl, Text.join, List.intercalate]
  constructor
  · rw [ofParts, List.foldl_cons, hbare, pieces_spelled [] (List.forall_mem_nil _) hfirst hrest]
    rfl
  · have hempty : empty.join ⟨Part.root.text⟩ = ⟨['/']⟩ := rfl
    rw [ofParts, List.foldl_cons, List.foldl_cons, hempty, hroot,
      pieces_spelled [[]] (by simp) hfirst hrest]
    rfl

theorem Normal.parts_ofParts {parts : List Part} (h : Normal parts) :
    (ofParts parts).parts = parts := by
  obtain ⟨front, names, rfl, hfront, hnames⟩ := h
  have hproper : ∀ part ∈ names.map Part.name, part.Proper := List.forall_mem_map.mpr hnames
  rcases hfront with rfl | ⟨k, rfl⟩
  · exact Path.parts_ofParts (.inr rfl) hproper
  · refine parts_ofProper fun part hm => ?_
    rcases List.mem_append.mp hm with hm | hm
    · exact proper_ups k part hm
    · exact hproper part hm

theorem parts_normalize (p : Path) : p.normalize.parts = normalParts p.parts :=
  (normal_normalParts p).parts_ofParts

theorem normalize_eq_iff {p q : Path} :
    p.normalize = q.normalize ↔ normalParts p.parts = normalParts q.parts := by
  constructor
  · intro h
    rw [← parts_normalize, h, parts_normalize]
  · intro h
    rw [normalize, h, normalize]

theorem normalize_normalize (p : Path) : p.normalize.normalize = p.normalize := by
  rw [normalize_eq_iff, parts_normalize]
  exact (normal_normalParts p).normalParts_eq

theorem same_iff {p q : Path} : p.same q = true ↔ p.parts = q.parts := beq_iff_eq

theorem same_normalize_iff {p q : Path} :
    p.normalize.same q.normalize = true ↔ p.normalize = q.normalize := by
  rw [same, beq_iff_eq, parts_normalize, parts_normalize, normalize_eq_iff]

-- ---------------------------------------------------------------------------
-- Ways between paths
-- ---------------------------------------------------------------------------

theorem between_common (common target base : List Part) :
    between true (common ++ target) (common ++ base) = between true target base := by
  induction common with
  | nil => rfl
  | cons part common ih => simpa [between] using ih

theorem between_climb (fresh : Bool) (base : List Part) :
    between fresh [] base = some (List.replicate base.length .up) := by
  induction base generalizing fresh with
  | nil => rfl
  | cons part base ih => simp [between, ih false, List.replicate_succ]

theorem between_down (base below : List Part) : between true (base ++ below) base = some below := by
  have hbetween := between_common base below []
  rw [List.append_nil] at hbetween
  rw [hbetween]
  cases below <;> rfl

theorem between_up (base below : List Part) :
    between true base (base ++ below) = some (List.replicate below.length .up) := by
  have hbetween := between_common base [] below
  rw [List.append_nil] at hbetween
  rw [hbetween, between_climb]

def Parted (target base : List Part) : Prop :=
  ∀ part, target.head? = some part → base.head? ≠ some part

theorem exists_common (target base : List Part) : ∃ common target' base',
    target = common ++ target' ∧ base = common ++ base' ∧ Parted target' base' := by
  induction target generalizing base with
  | nil => exact ⟨[], [], base, rfl, rfl, nofun⟩
  | cons part target ih =>
    by_cases hbase : base.head? = some part
    · obtain ⟨base, rfl⟩ := List.head?_eq_some_iff.mp hbase
      obtain ⟨common, target, base, rfl, rfl, hparted⟩ := ih base
      exact ⟨part :: common, target, base, rfl, rfl, hparted⟩
    · refine ⟨[], part :: target, base, rfl, rfl, ?_⟩
      rintro _ ⟨⟩
      exact hbase

/-- Where the ways part, one climbs all of the base and goes on. There is no way if the base
climbs itself there, unless the target is above it. -/
theorem between_of_parted {target base : List Part} (h : Parted target base)
    (hhere : base.head? ≠ some .here) : between true target base =
      if target ≠ [] ∧ base.head? = some .up then none
      else some (List.replicate base.length .up ++ target) := by
  cases target with
  | nil => simp [between_climb]
  | cons part target =>
    cases base with
    | nil => simp [between]
    | cons other base =>
      have hother : part ≠ other := by
        rintro rfl
        exact h part rfl rfl
      have hpoint : other ≠ .here := fun e => hhere (congrArg some e)
      by_cases hup : other = .up
      · subst hup
        simp [between, hother]
      · simp [between, hother, hpoint, hup, List.replicate_succ]

theorem isAbsolute_of_below {base below : Path} {rest : List Part}
    (h : below.parts = base.parts ++ rest) (hroot : .root ∉ rest) :
    below.isAbsolute = base.isAbsolute := by
  rw [isAbsolute_eq, isAbsolute_eq, h]
  cases base.parts with
  | cons part parts => rfl
  | nil =>
    have hhead : rest.head? ≠ some .root := fun h => hroot (List.mem_of_mem_head? h)
    simpa using hhead

theorem relativeTo?_down {base below : Path} {rest : List Part}
    (h : below.parts = base.parts ++ rest) (hroot : .root ∉ rest) :
    below.relativeTo? base = some (ofParts rest) := by
  rw [relativeTo?, isAbsolute_of_below h hroot, bne_self_eq_false, h, between_down]
  rfl

theorem relativeTo?_up {base below : Path} {rest : List Part}
    (h : below.parts = base.parts ++ rest) (hroot : .root ∉ rest) :
    base.relativeTo? below = some (ofParts (List.replicate rest.length .up)) := by
  rw [relativeTo?, isAbsolute_of_below h hroot, bne_self_eq_false, h, between_up]
  rfl

theorem slash_ofParts {parts : List Part} (h : ∀ part ∈ parts, part.Proper) :
    (ofParts parts).slash = Text.join ['/'] (parts.map Part.text) := by
  rw [slash, parts_ofProper h]

/-- A link that is written from proper parts is read as these parts. -/
theorem parts_slash {parts : List Part} (hne : parts ≠ []) (h : ∀ part ∈ parts, part.Proper) :
    Path.parts ⟨(ofParts parts).slash⟩ = parts := by
  have hpieces : Path.pieces ⟨(ofParts parts).slash⟩ = parts.map Part.text := by
    rw [slash_ofParts h]
    refine pieces_mk (by simpa using hne) ?_
    exact List.forall_mem_map.mpr fun part hm => (h part hm).slash
  obtain ⟨first, rest, rfl⟩ := List.exists_cons_of_ne_nil hne
  rw [parts_eq_filterMap (by rw [hpieces]; rfl) (h first List.mem_cons_self).reads, hpieces,
    List.filterMap_map]
  exact (List.filterMap_congr fun part hm => (h part hm).reads).trans List.filterMap_some

end Path

end Swatchbook
