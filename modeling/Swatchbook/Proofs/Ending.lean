import Swatchbook.Proofs.Path

/-!
# The end of a path

Taking the last part off a path and giving its last name another extension
work on the spelling. In terms of parts both leave alone whatever stands
before the end: the parent has all parts but the last, and another extension
changes only the last name.
-/

namespace Swatchbook.Path

-- ---------------------------------------------------------------------------
-- The last piece
-- ---------------------------------------------------------------------------

theorem isAbsolute_iff_pieces {p : Path} :
    p.isAbsolute = true ↔ ∃ second rest, p.pieces = [] :: second :: rest := by
  constructor
  · intro h
    obtain ⟨t, ht⟩ := List.head?_eq_some_iff.mp (beq_iff_eq.mp h)
    obtain ⟨second, rest, hrest⟩ := List.exists_cons_of_ne_nil (Text.splitBy_ne_nil (· == '/') t)
    refine ⟨second, rest, ?_⟩
    rw [pieces, ht, ← hrest]
    rfl
  · rintro ⟨second, rest, h⟩
    rw [isAbsolute, ← join_pieces, h]
    simp [Text.join]

theorem significant_concat (front : List Text) (piece : Text) : significant (front ++ [piece]) =
    if isPart front.length piece then front ++ [piece] else significant front := by
  rw [significant, List.zipIdx_append]
  simp only [List.zipIdx_singleton, List.reverse_append, List.reverse_singleton,
    List.singleton_append, List.dropWhile_cons, Nat.zero_add]
  cases isPart front.length piece <;> simp [significant]

theorem significant_split (pieces : List Text) : ∃ tail, pieces = significant pieces ++ tail ∧
    tail.filterMap partOf? = [] ∧ (significant pieces = [] → pieces.head? ≠ some ['.']) ∧
    ∀ front piece, significant pieces = front ++ [piece] → isPart front.length piece = true := by
  induction pieces using List.reverseRecOn with
  | nil => exact ⟨[], rfl, rfl, by simp, by simp [significant]⟩
  | append_singleton front piece ih =>
    rw [significant_concat]
    split
    · next hpart =>
      refine ⟨[], by simp, rfl, by simp, ?_⟩
      intro front' piece' h
      obtain ⟨rfl, hpiece⟩ := List.append_inj' h rfl
      rw [← List.singleton_inj.mp hpiece]
      exact hpart
    · next hpart =>
      obtain ⟨tail, hsplit, htail, hhead, hlast⟩ := ih
      rw [Bool.not_eq_true, isPart, Bool.or_eq_false_iff, Option.isSome_eq_false_iff,
        Option.isNone_iff_eq_none] at hpart
      refine ⟨tail ++ [piece], ?_, ?_, ?_, hlast⟩
      · rw [← List.append_assoc, ← hsplit]
      · simp [htail, hpart.1]
      · intro hnil
        cases front with
        | nil => simpa using hpart.2
        | cons first front => exact hhead hnil

/-- The parts that pieces lead to, where an empty first piece is the root. -/
def above (pieces : List Text) : List Part :=
  lead (pieces.head? == some []) pieces.head? ++ pieces.filterMap partOf?

theorem isAbsolute_of_cons {p : Path} {first second : Text} {rest : List Text}
    (h : p.pieces = first :: second :: rest) : p.isAbsolute = (first == []) := by
  rw [Bool.eq_iff_iff, isAbsolute_iff_pieces, beq_iff_eq, h]
  simp

theorem parts_eq_above {p : Path} (h : p.spelling ≠ []) : p.parts = above p.pieces := by
  rw [parts_eq, above]
  cases hp : p.pieces with
  | nil => exact absurd hp p.pieces_ne_nil
  | cons first rest =>
    cases rest with
    | cons second rest => rw [isAbsolute_of_cons hp, List.head?_cons, Option.some_beq_some]
    | nil =>
      have hfirst : first = p.spelling := by
        rw [← join_pieces, hp]
        simp [Text.join]
      have hrelative : p.isAbsolute = false := by
        rw [← Bool.not_eq_true, isAbsolute_iff_pieces, hp]
        simp
      rw [hrelative, List.head?_cons, Option.some_beq_some, beq_eq_false_iff_ne.mpr (hfirst ▸ h)]

theorem parts_of_relative {p : Path} (h : p.isAbsolute = false) :
    p.parts = p.pieces.filterMap partOf? ∨ p.parts = .here :: p.pieces.filterMap partOf? := by
  rw [parts_eq, h, lead]
  cases p.pieces.head? == some ['.'] <;> simp

theorem eq_nil_of_parts {p : Path} (h : p.parts = []) : p.spelling = [] := by
  by_contra hne
  rw [parts_eq_above hne, above, List.append_eq_nil_iff] at h
  obtain ⟨hlead, hpieces⟩ := h
  obtain ⟨first, rest, hfirst⟩ := List.exists_cons_of_ne_nil p.pieces_ne_nil
  rw [hfirst] at hlead hpieces
  have hnone := List.filterMap_eq_nil_iff.mp hpieces first List.mem_cons_self
  -- A first piece that stands for no part is the root or a point.
  rcases partOf?_eq_none_iff.mp hnone with rfl | rfl <;> simp [lead] at hlead

theorem above_append {pieces tail : List Text} (hne : pieces ≠ [])
    (htail : tail.filterMap partOf? = []) : above (pieces ++ tail) = above pieces := by
  rw [above, above, List.filterMap_append, htail, List.append_nil,
    List.head?_append_of_ne_nil _ hne]

theorem above_concat (front : List Text) {piece : Text} {part : Part}
    (h : partOf? piece = some part) : above (front ++ [piece]) = above front ++ [part] := by
  have hread : ([piece] : List Text).filterMap partOf? = [part] := by simp [h]
  cases front with
  | cons first front =>
    rw [above, above, List.filterMap_append, hread, ← List.append_assoc]
    rfl
  | nil =>
    have hne : piece ≠ [] ∧ piece ≠ ['.'] := by
      constructor <;> rintro rfl <;> cases h
    rw [above, List.nil_append, hread]
    simp [above, lead, hne]

theorem parts_ofPieces {p : Path} {front rest : List Text} {piece : Text}
    (h : p.pieces = front ++ piece :: rest) (hpiece : piece ≠ []) :
    (ofPieces p front).parts = above front := by
  have hroot : p.isAbsolute = (front.head? == some []) := by
    cases front with
    | cons first front =>
      cases front <;> rw [isAbsolute_of_cons h, List.head?_cons, Option.some_beq_some]
    | nil =>
      change p.isAbsolute = false
      rw [← Bool.not_eq_true, isAbsolute_iff_pieces, h]
      simp [hpiece]
  obtain ⟨tail, hsplit, htail, hhead, hlast⟩ := significant_split front
  by_cases hs : significant front = []
  · have hparts : front.filterMap partOf? = [] := by
      rw [hsplit, hs, List.nil_append, htail]
    have hpoint : front.head? ≠ some ['.'] := hhead hs
    rw [above, ← hroot, hparts, List.append_nil, ofPieces, hs]
    cases p.isAbsolute with
    | true => rfl
    | false => simp [lead, hpoint, Text.join, parts_of_empty]
  · have hslash : ∀ other ∈ significant front, '/' ∉ other := by
      intro other hm
      apply not_mem_of_mem_pieces (p := p)
      rw [h, hsplit]
      exact List.mem_append_left _ (List.mem_append_left _ hm)
    have hpieces := pieces_mk hs hslash
    have hspelling : Text.join ['/'] (significant front) ≠ [] := by
      intro hnil
      rw [hnil] at hpieces
      have hpart := hlast [] [] hpieces.symm
      cases hpart
    have hof : ofPieces p front = ⟨Text.join ['/'] (significant front)⟩ := by
      rw [ofPieces]
      simp [hspelling]
    have hparts := parts_eq_above (p := ⟨Text.join ['/'] (significant front)⟩) hspelling
    rw [hpieces] at hparts
    rw [hof, hparts, ← above_append hs htail, ← hsplit]

/-- The piece that the last part is read from. Only a point at the beginning counts for a
part that it is not read as. -/
theorem exists_last_piece {p : Path} {init : List Part} {last : Part}
    (h : p.parts = init ++ [last]) (hlast : last ≠ .root) : ∃ front piece tail,
      p.pieces = front ++ piece :: tail ∧ significant p.pieces = front ++ [piece] ∧
      tail.filterMap partOf? = [] ∧ piece ≠ [] ∧ above front = init ∧
      (partOf? piece = some last ∨ last = .here) := by
  have hspelling : p.spelling ≠ [] := by
    intro hnil
    rw [parts_of_empty hnil] at h
    simp at h
  rw [parts_eq_above hspelling] at h
  obtain ⟨tail, hsplit, htail, hhead, hpart⟩ := significant_split p.pieces
  cases hs : significant p.pieces using List.reverseRecOn with
  | nil =>
    have hpoint := hhead hs
    have hnone : p.pieces.filterMap partOf? = [] := by rw [hsplit, hs, List.nil_append, htail]
    rw [above, hnone, List.append_nil] at h
    have hmem : last ∈ lead (p.pieces.head? == some []) p.pieces.head? := by
      rw [h]
      simp
    rcases mem_lead hmem with hroot | rfl
    · exact absurd hroot hlast
    · unfold lead at hmem
      split at hmem
      · simp at hmem
      · simp [hpoint] at hmem
  | append_singleton front piece =>
    have habove : above (front ++ [piece]) = init ++ [last] := by
      rw [← h, hsplit, hs, above_append (by simp) htail]
    have hisPart := hpart front piece hs
    have hpiece : piece ≠ [] := by
      rintro rfl
      simp [isPart, partOf?] at hisPart
    rw [hs, List.append_assoc] at hsplit
    refine ⟨front, piece, tail, hsplit, rfl, htail, hpiece, ?_⟩
    cases hread : partOf? piece with
    | some part =>
      rw [above_concat front hread] at habove
      obtain ⟨hinit, hsame⟩ := List.append_inj' habove rfl
      exact ⟨hinit, .inl (congrArg some (List.singleton_inj.mp hsame))⟩
    | none =>
      simp only [isPart, hread, Option.isSome_none, Bool.false_or, Bool.and_eq_true,
        beq_iff_eq, List.length_eq_zero_iff] at hisPart
      obtain ⟨rfl, rfl⟩ := hisPart
      have hhere : [] ++ [Part.here] = init ++ [last] := habove
      obtain ⟨rfl, hsame⟩ := List.append_inj' hhere rfl
      exact ⟨rfl, .inr (List.singleton_inj.mp hsame).symm⟩

theorem parts_parent? {p : Path} {init : List Part} {last : Part} (h : p.parts = init ++ [last])
    (hlast : last ≠ .root) : ∃ parent, p.parent? = some parent ∧ parent.parts = init := by
  obtain ⟨front, piece, tail, hpieces, hs, -, hpiece, habove, -⟩ := exists_last_piece h hlast
  have hparent : p.parent? = some (ofPieces p front) := by
    have hlast? : p.parts.getLast? = some last := by
      rw [h, List.getLast?_concat]
    have hfront : (significant (Text.splitBy (· == '/') p.spelling)).dropLast = front := by
      rw [← pieces, hs, List.dropLast_concat]
    rw [parent?, hlast?, hfront]
    cases last with
    | root => exact absurd rfl hlast
    | _ => rfl
  exact ⟨_, hparent, by rw [parts_ofPieces hpieces hpiece, habove]⟩

-- ---------------------------------------------------------------------------
-- Another extension
-- ---------------------------------------------------------------------------

theorem splitName_cases (name : Text) : splitName name = (name, none) ∨
    ∃ stem extension, splitName name = (stem, some extension) ∧
      name = stem ++ '.' :: extension ∧ stem ≠ [] := by
  have hsplit : name.reverse.takeWhile (· != '.') ++ name.reverse.dropWhile (· != '.') =
      name.reverse := List.takeWhile_append_dropWhile
  match hdrop : name.reverse.dropWhile (· != '.') with
  | [] => exact .inl (by simp [splitName, hdrop])
  | [_] => exact .inl (by simp [splitName, hdrop])
  | point :: last :: stem =>
    have hpoint : point = '.' := by
      have hhead := List.head?_dropWhile_not (· != '.') name.reverse
      rw [hdrop] at hhead
      simpa using hhead
    refine .inr ⟨(last :: stem).reverse, _, by simp [splitName, hdrop]; rfl, ?_, by simp⟩
    have hname := congrArg List.reverse hsplit
    rw [hdrop, hpoint] at hname
    simpa using hname.symm

theorem splitName_stem {stem extension : Text} (h : stem ≠ []) (hpoint : '.' ∉ extension) :
    splitName (stem ++ '.' :: extension) = (stem, some extension) := by
  obtain ⟨last, front, hstem⟩ := List.exists_cons_of_ne_nil (List.reverse_ne_nil_iff.mpr h)
  have hself : stem = front.reverse ++ [last] := by
    simpa using congrArg List.reverse hstem
  have hfree : ∀ c ∈ extension.reverse, (c != '.') = true := by
    intro c hc
    simpa using fun e : c = '.' => hpoint (e ▸ List.mem_reverse.mp hc)
  have hreverse : (stem ++ '.' :: extension).reverse = extension.reverse ++ '.' :: last :: front := by
    rw [List.reverse_append, List.reverse_cons, hstem, List.append_assoc]
    rfl
  rw [splitName, hreverse, List.takeWhile_append_of_pos hfree, List.dropWhile_append_of_pos hfree]
  simp [hself]

theorem splitName_point {stem : Text} (h : stem ≠ []) :
    splitName (stem ++ ['.']) = (stem, some []) := splitName_stem h List.not_mem_nil

/-- What a name becomes with another extension. Of a name with two points in front
and no other only the points are left. -/
def renamed (extension name : Text) : Text :=
  match splitName name with
  | (stem, none) => stem ++ '.' :: extension
  | (stem, some _) => if stem = ['.'] then ['.', '.'] else stem ++ '.' :: extension

theorem renamed_of_none {name : Text} (extension : Text) (h : splitName name = (name, none)) :
    renamed extension name = name ++ '.' :: extension := by
  rw [renamed, h]

theorem renamed_of_some {name stem old : Text} (extension : Text)
    (h : splitName name = (stem, some old)) : renamed extension name =
      if stem = ['.'] then ['.', '.'] else stem ++ '.' :: extension := by
  rw [renamed, h]

theorem partOf?_stem {stem extension : Text} (hstem : stem ≠ []) (hne : extension ≠ []) :
    partOf? (stem ++ '.' :: extension) = some (.name (stem ++ '.' :: extension)) := by
  obtain ⟨c, stem, rfl⟩ := List.exists_cons_of_ne_nil hstem
  obtain ⟨d, extension, rfl⟩ := List.exists_cons_of_ne_nil hne
  refine partOf?_eq_some_iff.mpr (.inr ⟨by simp, by simp, ?_, rfl⟩)
  intro h
  have hlen := congrArg List.length h
  simp only [List.length_cons, List.length_append, List.length_nil] at hlen
  omega

section

variable {name extension : Text} (hname : (Part.name name).Proper) (hext : extension ≠ [])

include hname hext

omit hext in
theorem splitName_proper : (splitName name).1 ≠ [] ∧ '/' ∉ (splitName name).1 := by
  have hfree : '/' ∉ name := hname.slash
  rcases splitName_cases name with h | ⟨stem, old, h, hcut, hstem⟩
  · rw [h]
    refine ⟨?_, hfree⟩
    rintro rfl
    cases hname.reads
  · rw [h]
    exact ⟨hstem, fun hm => hfree (hcut ▸ List.mem_append_left _ hm)⟩

theorem proper_stem (hslash : '/' ∉ extension) :
    (Part.name ((splitName name).1 ++ '.' :: extension)).Proper :=
  ⟨partOf?_stem (splitName_proper hname).1 hext,
    by simp [Part.text, (splitName_proper hname).2, hslash]⟩

theorem exists_renamed_part (hslash : '/' ∉ extension) :
    ∃ part : Part, part.Proper ∧ part.text = renamed extension name := by
  have hproper := proper_stem hname hext hslash
  rcases splitName_cases name with h | ⟨stem, old, h, -, -⟩
  · rw [h] at hproper
    exact ⟨_, hproper, (renamed_of_none extension h).symm⟩
  · rw [renamed_of_some extension h]
    rw [h] at hproper
    split
    · exact ⟨.up, proper_up, rfl⟩
    · exact ⟨_, hproper, rfl⟩

variable {p : Path} {front tail : List Text}

omit hname hext in
theorem parts_of_last {part : Part} (h : p.pieces = front ++ part.text :: tail)
    (hpart : part.Proper) (htail : tail.filterMap partOf? = []) :
    p.parts = above front ++ [part] := by
  have hspelling : p.spelling ≠ [] := by
    intro hnil
    have hempty : p.pieces = [[]] := by
      rw [pieces, hnil]
      rfl
    rw [hempty] at h
    cases front with
    | nil =>
      have hreads := hpart.reads
      rw [← (List.cons.inj h).1] at hreads
      cases hreads
    | cons first front => simp at h
  rw [parts_eq_above hspelling, h, List.append_cons,
    above_append (List.concat_ne_nil _ _) htail, above_concat front hpart.reads]

omit hext in
theorem fileName?_of_last (h : p.pieces = front ++ name :: tail)
    (htail : tail.filterMap partOf? = []) : p.fileName? = some name := by
  rw [fileName?, parts_of_last h hname htail, List.getLast?_concat]

omit hname hext in
theorem significant_of_last {part : Part} (hpart : part.Proper)
    (htail : tail.filterMap partOf? = []) :
    significant (front ++ part.text :: tail) = front ++ [part.text] := by
  induction tail using List.reverseRecOn with
  | nil =>
    rw [significant_concat, if_pos]
    rw [isPart, hpart.reads]
    rfl
  | append_singleton tail piece ih =>
    obtain ⟨htail, hpiece⟩ := List.append_eq_nil_iff.mp (List.filterMap_append ▸ htail)
    rw [← List.cons_append, ← List.append_assoc, significant_concat, if_neg, ih htail]
    have hnone := List.filterMap_eq_nil_iff.mp hpiece piece List.mem_cons_self
    simp [isPart, hnone]

theorem setExtension_of_last (h : p.pieces = front ++ name :: tail)
    (htail : tail.filterMap partOf? = []) : p.setExtension extension =
      ⟨Text.join ['/'] (front ++ [(splitName name).1 ++ '.' :: extension])⟩ := by
  have hsignificant : significant (Text.splitBy (· == '/') p.spelling) = front ++ [name] := by
    rw [← pieces, h]
    exact significant_of_last hname htail
  rw [setExtension, fileName?_of_last hname h htail]
  simp [hsignificant, hext]

omit hname in
theorem setExtension_of_point {stem : Text} (hstem : stem ≠ [])
    (h : p.pieces = front ++ [stem ++ ['.']]) :
    p.setExtension extension = ⟨Text.join ['/']
      (front ++ [if stem = ['.'] then ['.', '.'] else stem ++ '.' :: extension])⟩ := by
  by_cases hpoint : stem = ['.']
  · subst hpoint
    have hnone : p.fileName? = none := by
      rw [fileName?, parts_of_last h proper_up rfl, List.getLast?_concat]
    have hself : p = ⟨Text.join ['/'] (front ++ [['.', '.']])⟩ := by
      rw [← List.singleton_append (x := '.'), ← h, join_pieces]
    rw [setExtension, hnone, if_pos rfl]
    exact hself
  · have hne : stem ++ ['.'] ≠ ['.'] ∧ stem ++ ['.'] ≠ ['.', '.'] := by
      constructor <;> intro e
      · exact hstem (by simpa using congrArg List.dropLast e)
      · exact hpoint (by simpa using congrArg List.dropLast e)
    have hpart : (Part.name (stem ++ ['.'])).Proper := by
      refine ⟨partOf?_eq_some_iff.mpr (.inr ⟨List.concat_ne_nil _ _, hne.1, hne.2, rfl⟩), ?_⟩
      exact not_mem_of_mem_pieces (p := p) (by rw [h]; exact List.mem_append_right _ (.head _))
    rw [setExtension_of_last hpart hext h rfl, splitName_point hstem, if_neg hpoint]

theorem withExtension_of_last (h : p.pieces = front ++ [name]) :
    p.withExtension extension = ⟨Text.join ['/'] (front ++ [renamed extension name])⟩ := by
  have hextension : p.extension? = (splitName name).2 := by
    rw [extension?, fileName?_of_last hname h rfl]
    rfl
  rcases splitName_cases name with hsplit | ⟨stem, old, hsplit, hcut, hstem⟩
  · have hself : p.withExtension extension = p.setExtension extension := by
      rw [withExtension, hextension, hsplit]
    rw [hself, setExtension_of_last hname hext h rfl, renamed_of_none extension hsplit, hsplit]
  · have hspelling : p.spelling = Text.join ['/'] (front ++ [stem ++ ['.']]) ++ old := by
      rw [← join_pieces, h, hcut, Text.join_concat, Text.join_concat]
      simp
    have htake : p.spelling.take (p.spelling.length - old.length) =
        Text.join ['/'] (front ++ [stem ++ ['.']]) := by
      rw [hspelling, List.length_append, Nat.add_sub_cancel, List.take_left]
    have hfree : ∀ piece ∈ front ++ [stem ++ ['.']], '/' ∉ piece := by
      intro piece hm
      rcases List.mem_append.mp hm with hm | hm
      · exact not_mem_of_mem_pieces (p := p) (by rw [h]; exact List.mem_append_left _ hm)
      · have hslash : '/' ∉ name := hname.slash
        rw [hcut, ← List.singleton_append, ← List.append_assoc] at hslash
        rw [List.mem_singleton.mp hm]
        exact fun hm => hslash (List.mem_append_left _ hm)
    have hself : p.withExtension extension =
        Path.setExtension ⟨Text.join ['/'] (front ++ [stem ++ ['.']])⟩ extension := by
      rw [withExtension, hextension, hsplit, ← htake]
    rw [hself, setExtension_of_point hext hstem (pieces_mk (List.concat_ne_nil _ _) hfree),
      renamed_of_some extension hsplit]

end

theorem partOf?_of_prefix {piece other : Text} (h : piece <+: other)
    (hother : partOf? other = none) : partOf? piece = none := by
  rw [partOf?_eq_none_iff] at hother ⊢
  rcases hother with rfl | rfl
  · exact .inl (List.prefix_nil.mp h)
  · rcases List.prefix_cons_iff.mp h with rfl | ⟨rest, rfl, hrest⟩
    · exact .inl rfl
    · exact .inr (by rw [List.prefix_nil.mp hrest])

/-- Taking as much off the spelling as the old extension is long leaves the last piece up to
its last point, and behind the pieces that stand for no part no other. -/
theorem pieces_take {p : Path} {front tail : List Text} {stem old : Text}
    (h : p.pieces = front ++ (stem ++ '.' :: old) :: tail) (htail : tail.filterMap partOf? = []) :
    ∃ rest tail', tail'.filterMap partOf? = [] ∧
      Path.pieces ⟨p.spelling.take (p.spelling.length - old.length)⟩ =
        front ++ (stem ++ '.' :: rest) :: tail' := by
  have hslash : ∀ piece ∈ front ++ (stem ++ '.' :: old) :: tail, '/' ∉ piece := by
    rw [← h]
    exact fun piece => not_mem_of_mem_pieces
  rw [List.forall_mem_append, List.forall_mem_cons, List.mem_append, List.mem_cons, not_or,
    not_or] at hslash
  obtain ⟨hfront, ⟨hstem, -, hold⟩, hbehind⟩ := hslash
  -- What is left of the end is a beginning of it.
  let rest := Text.join ['/'] (old :: tail)
  have hspelling : p.spelling = Text.join ['/'] (front ++ [stem ++ ['.']]) ++ rest := by
    rw [← join_pieces, h, ← Text.join_cut, List.append_assoc, List.singleton_append]
  have hlen : old.length ≤ rest.length := by
    cases tail <;> simp [rest, Text.join, List.intercalate]
  have htake : p.spelling.take (p.spelling.length - old.length) =
      Text.join ['/'] (front ++ [stem ++ ['.']]) ++ rest.take (rest.length - old.length) := by
    rw [hspelling, List.length_append, Nat.add_sub_assoc hlen, List.take_length_add_append]
  obtain ⟨first, tail', _, _, hfirst, hrest, -, hbegins⟩ :=
    Text.splitBy_of_prefix (· == '/') (List.take_prefix (rest.length - old.length) rest)
  have hpieces : Text.splitBy (· == '/') rest = old :: tail :=
    Text.splitBy_join (List.cons_ne_nil _ _) (List.forall_mem_cons.mpr ⟨hold, hbehind⟩)
  obtain ⟨rfl, rfl⟩ := List.cons.inj (hrest.symm.trans hpieces)
  refine ⟨first, tail', ?_, ?_⟩
  · rw [List.filterMap_eq_nil_iff] at htail ⊢
    intro piece hm
    obtain ⟨other, hother, hpiece⟩ := hbegins piece hm
    exact partOf?_of_prefix hpiece (htail other hother)
  · have hfree : ∀ piece ∈ first :: tail', '/' ∉ piece := by
      rw [← hfirst]
      exact fun piece => Text.not_mem_of_mem_splitBy
    rw [List.forall_mem_cons] at hfree
    rw [htake, ← Text.join_splitBy '/' (rest.take _), hfirst, ← Text.join_cut,
      List.append_assoc, List.singleton_append]
    refine pieces_mk (by simp) (List.forall_mem_append.mpr ⟨hfront, ?_⟩)
    exact List.forall_mem_cons.mpr ⟨by simp [hstem, hfree.1], hfree.2⟩

section

variable {extension : Text} (hext : extension ≠ []) (hslash : '/' ∉ extension) {p : Path}

include hext hslash

theorem exists_setExtension {part : Part} {front tail : List Text}
    (h : p.pieces = front ++ part.text :: tail) (hpart : part.Proper)
    (htail : tail.filterMap partOf? = []) :
    ∃ last : Part, last.Proper ∧ (p.setExtension extension).parts = above front ++ [last] := by
  cases part with
  | root => exact absurd rfl hpart.ne_root
  | here => exact absurd rfl hpart.ne_here
  | up =>
    have hnone : p.fileName? = none := by
      rw [fileName?, parts_of_last h hpart htail, List.getLast?_concat]
    have hself : p.setExtension extension = p := by rw [setExtension, hnone]
    exact ⟨.up, hpart, by rw [hself, parts_of_last h hpart htail]⟩
  | name name =>
    have hlast := proper_stem hpart hext hslash
    refine ⟨_, hlast, ?_⟩
    rw [setExtension_of_last hpart hext h htail]
    refine parts_of_last (pieces_mk (List.concat_ne_nil _ _) fun piece hm => ?_) hlast rfl
    rcases List.mem_append.mp hm with hm | hm
    · exact not_mem_of_mem_pieces (p := p) (by rw [h]; exact List.mem_append_left _ hm)
    · rw [List.mem_singleton.mp hm]
      exact hlast.slash

theorem exists_withExtension {init : List Part} {name : Text}
    (h : p.parts = init ++ [.name name]) :
    ∃ last : Part, last.Proper ∧ (p.withExtension extension).parts = init ++ [last] := by
  have hname : (Part.name name).Proper := proper_of_name_mem (p := p) (by rw [h]; simp)
  obtain ⟨front, piece, tail, hpieces, -, htail, -, rfl, hread⟩ := exists_last_piece h nofun
  obtain rfl := text_of_partOf? (hread.resolve_right nofun)
  have hextension : p.extension? = (splitName name).2 := by
    rw [extension?, fileName?_of_last hname hpieces htail]
    rfl
  rcases splitName_cases name with hsplit | ⟨stem, old, hsplit, rfl, hstem⟩
  · have hself : p.withExtension extension = p.setExtension extension := by
      rw [withExtension, hextension, hsplit]
    rw [hself]
    exact exists_setExtension hext hslash hpieces hname htail
  · obtain ⟨rest, tail', htail', htake⟩ := pieces_take hpieces htail
    -- The stem and a point are two characters at least, so they stand for a part.
    obtain ⟨part, hread⟩ : ∃ part, partOf? (stem ++ '.' :: rest) = some part := by
      rw [← Option.ne_none_iff_exists', ne_eq, partOf?_eq_none_iff]
      simp [List.append_eq_singleton_iff, hstem]
    have hself : p.withExtension extension =
        Path.setExtension ⟨p.spelling.take (p.spelling.length - old.length)⟩ extension := by
      rw [withExtension, hextension, hsplit]
    have hfree : '/' ∉ stem ++ '.' :: rest := by
      apply not_mem_of_mem_pieces
      rw [htake]
      exact List.mem_append_right _ List.mem_cons_self
    rw [← text_of_partOf? hread] at htake
    rw [hself]
    exact exists_setExtension hext hslash htake (proper_of_partOf? hfree hread) htail'

/-- Whatever is spelled behind the last part, another extension changes this part alone, and
only if it is a name. -/
theorem withExtension_cases (p : Path) : p.withExtension extension = p ∨
    ∃ init name last, p.parts = init ++ [.name name] ∧ last.Proper ∧
      (p.withExtension extension).parts = init ++ [last] := by
  cases hname : p.fileName? with
  | none =>
    have hextension : p.extension? = none := by rw [extension?, hname, Option.bind_none]
    exact .inl (by rw [withExtension, hextension, setExtension, hname])
  | some name =>
    obtain ⟨init, hinit⟩ : ∃ init, p.parts = init ++ [.name name] := by
      rw [fileName?] at hname
      split at hname
      · next hlast =>
        cases hname
        exact List.getLast?_eq_some_iff.mp hlast
      · cases hname
    obtain ⟨last, hlast, hparts⟩ := exists_withExtension hext hslash hinit
    exact .inr ⟨init, name, last, hinit, hlast, hparts⟩

theorem isAbsolute_withExtension (p : Path) :
    (p.withExtension extension).isAbsolute = p.isAbsolute := by
  rcases withExtension_cases hext hslash p with h | ⟨init, name, last, h, hlast, hparts⟩
  · rw [h]
  · rw [isAbsolute_eq, isAbsolute_eq, h, hparts]
    cases init with
    | nil => simp [hlast.ne_root]
    | cons first init => rfl

end

end Swatchbook.Path
