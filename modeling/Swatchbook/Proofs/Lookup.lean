import Swatchbook.Proofs.Lineage
import Swatchbook.Proofs.Way

/-!
# Looking paths up

A path is looked up piece by piece, so a piece behind a path is looked up where
the path leads. What is on the way to a place is on the way to it without
points and without the names that double points take back, so a path that leads
somewhere has a normal form that leads to the same place.
-/

namespace Swatchbook.Volume

open Swatchbook.Path (partOf? fold normalParts Normal ofParts)

variable {v : Volume} {p : Path} {here next : Location} {piece name : Text}

-- ---------------------------------------------------------------------------
-- What is there
-- ---------------------------------------------------------------------------

theorem look_eq_ok {item : Item} :
    v.look p = .ok item ↔ v.locate p = .ok (v.place p) ∧ v.at? (v.place p) = some item := by
  rw [look, Except.bind_eq_ok]
  constructor
  · rintro ⟨place, hlocate, hitem⟩
    obtain rfl := locate_eq_ok hlocate
    refine ⟨hlocate, ?_⟩
    cases hat : v.at? (v.place p) with
    | none =>
      rw [hat] at hitem
      cases hitem
    | some found =>
      rw [hat] at hitem
      cases hitem
      rfl
  · rintro ⟨hlocate, hat⟩
    exact ⟨_, hlocate, by rw [hat]; rfl⟩

theorem isFile_iff : v.isFile p = true ↔
    v.locate p = .ok (v.place p) ∧ ∃ bytes, v.at? (v.place p) = some (.file bytes) := by
  rw [isFile]
  split
  · next bytes hlook =>
    obtain ⟨hlocate, hat⟩ := look_eq_ok.mp hlook
    simp [hlocate, hat]
  · next hnone =>
    simp only [Bool.false_eq_true, false_iff, not_and, not_exists]
    exact fun hlocate bytes hat => hnone bytes (look_eq_ok.mpr ⟨hlocate, hat⟩)

theorem isFolder_iff : v.isFolder p = true ↔
    v.locate p = .ok (v.place p) ∧ v.at? (v.place p) = some .folder := by
  rw [isFolder]
  split
  · next hlook => simpa using look_eq_ok.mp hlook
  · next hnone =>
    simp only [Bool.false_eq_true, false_iff]
    exact fun hat => hnone (look_eq_ok.mpr hat)

theorem holds_iff : v.holds p = true ↔ v.isFile p = true ∨ v.isFolder p = true := by
  rw [holds, isFile, isFolder]
  cases v.look p with
  | error trouble => simp [Except.isOk, Except.toBool]
  | ok item => cases item <;> simp [Except.isOk, Except.toBool]

theorem holds_iff_locate : v.holds p = true ↔
    ∃ place item, v.locate p = .ok place ∧ v.at? place = some item := by
  constructor
  · intro h
    rcases holds_iff.mp h with h | h
    · obtain ⟨hlocate, bytes, hat⟩ := isFile_iff.mp h
      exact ⟨_, _, hlocate, hat⟩
    · obtain ⟨hlocate, hat⟩ := isFolder_iff.mp h
      exact ⟨_, _, hlocate, hat⟩
  · rintro ⟨place, item, hlocate, hat⟩
    obtain rfl := locate_eq_ok hlocate
    rw [holds, look_eq_ok.mpr ⟨hlocate, hat⟩]
    rfl

theorem isFolder_of_file {bytes : ByteArray} (h : v.at? (v.place p) = some (.file bytes)) :
    v.isFolder p = false := by
  rw [← Bool.not_eq_true]
  intro hfolder
  cases h.symm.trans (isFolder_iff.mp hfolder).2

theorem isFolder_of_isFile (h : v.isFile p = true) : v.isFolder p = false := by
  obtain ⟨-, bytes, hfile⟩ := isFile_iff.mp h
  exact isFolder_of_file hfile

theorem isFolder_of_isFile_normalize (h : v.isFile p.normalize = true) : v.isFolder p = false := by
  obtain ⟨-, bytes, hfile⟩ := isFile_iff.mp h
  rw [place_normalize] at hfile
  exact isFolder_of_file hfile

theorem isFolder_of_locate (h : v.locate p = .ok next) (hat : v.at? next = some .folder) :
    v.isFolder p = true := by
  obtain rfl := locate_eq_ok h
  exact isFolder_iff.mpr ⟨h, hat⟩

-- ---------------------------------------------------------------------------
-- Piece by piece
-- ---------------------------------------------------------------------------

theorem follow_name (here : Location) (h : (Part.name name).Proper) :
    follow here name = here ++ [name] := by
  have hreads : partOf? name = some (.name name) := h.reads
  rw [follow, hreads]
  rfl

theorem follow_point (here : Location) (h : partOf? piece = none) : follow here piece = here := by
  rw [follow, h]
  rfl

theorem step_name {item : Item} (hfolder : v.at? here = some .folder)
    (hname : (Part.name name).Proper) (hitem : v.at? (here ++ [name]) = some item) :
    v.step here name = .ok (here ++ [name]) :=
  step_eq_ok.mpr ⟨hfolder, (follow_name here hname).symm, fun _ => by rw [hitem, Option.isSome_some]⟩

theorem step_point (hfolder : v.at? here = some .folder) (h : partOf? piece = none) :
    v.step here piece = .ok here := by
  refine step_eq_ok.mpr ⟨hfolder, (follow_point here h).symm, ?_⟩
  rw [h]
  rintro ⟨_, ⟨⟩⟩

theorem step_empty_bind (v : Volume) (here : Location) (piece : Text) :
    (v.step here [] >>= fun place => v.step place piece) = v.step here piece := by
  rw [step]
  cases hat : v.at? here with
  | none => simp [step, hat, bind, Except.bind]
  | some item => cases item <;> simp [step, hat, bind, Except.bind]

theorem locate_join {a : Path} (hne : a.spelling ≠ []) (hslash : '/' ∉ piece) :
    v.locate (a.join ⟨piece⟩) = v.locate a >>= fun place => v.step place piece := by
  obtain ⟨front, hjoin, hfront⟩ := Path.spelling_join (Path.isAbsolute_of_slash hslash) hne
  have hpieces : pieces (a.join ⟨piece⟩) = Text.splitBy (· == '/') front ++ [piece] := by
    rw [pieces, hjoin, Text.splitBy_append_cons, Text.splitBy_of_not_mem hslash]
  have hstart : v.start (a.join ⟨piece⟩) = v.start a := by
    rw [start, start, Path.isAbsolute, Path.isAbsolute, hjoin]
    rcases hfront with h | h <;> rw [h] <;> cases front with
    | nil => simp_all
    | cons c front => rfl
  have hspelling : (a.join ⟨piece⟩).spelling ≠ [] := by simp [hjoin]
  rw [locate, locate, if_neg (by simpa using hspelling), if_neg (by simpa using hne), hpieces,
    hstart, List.foldlM_append]
  have hself : pieces a = Text.splitBy (· == '/') front ∨
      pieces a = Text.splitBy (· == '/') front ++ [[]] := by
    rcases hfront with h | h
    · exact .inl (by rw [pieces, h])
    · exact .inr (by rw [pieces, h, Text.splitBy_append_cons]; rfl)
  rcases hself with h | h
  · rw [h]
    simp only [List.foldlM_cons, List.foldlM_nil, bind_pure]
  · rw [h, List.foldlM_append, bind_assoc]
    simp only [List.foldlM_cons, List.foldlM_nil, bind_pure, step_empty_bind]

theorem locate_piece (hne : piece ≠ []) (hslash : '/' ∉ piece) :
    v.locate ⟨piece⟩ = v.step v.base piece := by
  rw [locate, if_neg (by simpa using hne), start, Path.isAbsolute_of_slash hslash, pieces,
    Text.splitBy_of_not_mem hslash]
  simp only [List.foldlM_cons, List.foldlM_nil, bind_pure, Bool.false_eq_true, if_false]

-- ---------------------------------------------------------------------------
-- Normal forms
-- ---------------------------------------------------------------------------

/-- Every part is looked up in a folder, and every name is there. A root is looked up nowhere. -/
def Passes (v : Volume) : Location → List Part → Prop
  | _, [] => True
  | here, part :: rest => (part = .root ∨ v.at? here = some .folder) ∧
      ((∃ name, part = .name name) → (v.at? (descend here part)).isSome = true) ∧
      Passes v (descend here part) rest

theorem passes_append {front back : List Part} : v.Passes here (front ++ back) ↔
    v.Passes here front ∧ v.Passes (front.foldl descend here) back := by
  induction front generalizing here with
  | nil => simp [Passes]
  | cons part front ih => simp [Passes, ih, and_assoc]

theorem passes_of_steps {pieces : List Text} (h : pieces.foldlM v.step here = .ok next) :
    v.Passes here (pieces.filterMap partOf?) := by
  induction pieces generalizing here with
  | nil => trivial
  | cons piece pieces ih =>
    rw [List.foldlM_cons] at h
    obtain ⟨middle, hstep, hrest⟩ := Except.bind_eq_ok.mp h
    obtain ⟨hfolder, rfl, hsome⟩ := step_eq_ok.mp hstep
    have ih := ih hrest
    cases hpiece : partOf? piece with
    | none =>
      rw [List.filterMap_cons_none hpiece]
      simpa [follow, hpiece] using ih
    | some part =>
      rw [List.filterMap_cons_some hpiece]
      simp only [follow, hpiece, Option.map_some, Option.getD_some, Option.some.injEq] at ih hsome
      exact ⟨.inr hfolder, hsome, ih⟩

theorem passes_of_locate (h : v.locate p = .ok next) : v.Passes v.base p.parts := by
  rw [locate] at h
  split at h
  · cases h
  · rw [Path.parts_eq, passes_append, foldl_descend_lead]
    refine ⟨?_, passes_of_steps h⟩
    rw [Path.lead]
    split
    · exact ⟨.inl rfl, by rintro ⟨_, ⟨⟩⟩, trivial⟩
    · next hrelative =>
      split
      · next hpoint =>
        -- The first piece is a point, so it is looked up where relative paths start.
        obtain ⟨pieces, hpieces⟩ := List.head?_eq_some_iff.mp (beq_iff_eq.mp hpoint)
        have hpieces : Volume.pieces p = ['.'] :: pieces := hpieces
        rw [hpieces, start, if_neg hrelative, List.foldlM_cons] at h
        obtain ⟨middle, hstep, -⟩ := Except.bind_eq_ok.mp h
        exact ⟨.inr (step_eq_ok.mp hstep).1, by rintro ⟨_, ⟨⟩⟩, trivial⟩
      · trivial

theorem Passes.fold {done : List Part} {part : Part} (h : v.Passes v.base done)
    (hpart : v.Passes (done.foldl descend v.base) [part]) :
    v.Passes v.base (fold done part) := by
  have hkeep := passes_append.mpr ⟨h, hpart⟩
  cases part with
  | root => exact ⟨.inl rfl, by rintro ⟨_, ⟨⟩⟩, trivial⟩
  | here => exact h
  | name name => exact hkeep
  | up =>
    rw [Path.fold]
    split
    · next name hlast =>
      obtain ⟨front, rfl⟩ := List.getLast?_eq_some_iff.mp hlast
      rw [List.dropLast_concat]
      exact (passes_append.mp h).1
    · exact h
    · exact hkeep

theorem Passes.normalParts {parts : List Part} (h : v.Passes v.base parts) :
    v.Passes v.base (normalParts parts) := by
  induction parts using List.reverseRecOn with
  | nil => trivial
  | append_singleton parts part ih =>
    obtain ⟨hfront, hpart⟩ := passes_append.mp h
    rw [Path.normalParts_append, List.foldl_cons, List.foldl_nil]
    refine (ih hfront).fold ?_
    rwa [Path.normalParts, foldl_descend_foldl_fold]

theorem locate_ofParts {parts : List Part} (hnormal : Normal parts) (hne : parts ≠ [])
    (h : v.Passes v.base parts) :
    v.locate (ofParts parts) = .ok (parts.foldl descend v.base) := by
  induction parts using List.reverseRecOn with
  | nil => exact absurd rfl hne
  | append_singleton parts part ih =>
    obtain ⟨hfront, hpart⟩ := passes_append.mp h
    rcases hnormal.root_or_proper (show part ∈ parts ++ [part] by simp) with rfl | hproper
    · -- A root has nothing before it.
      cases parts with
      | nil => rfl
      | cons first parts =>
        exact absurd rfl (@Normal.proper_behind [] _ first hnormal .root (by simp)).ne_root
    · have hstep : v.step (parts.foldl descend v.base) part.text =
          .ok (descend (parts.foldl descend v.base) part) := by
        obtain ⟨hfolder, hsome, -⟩ := hpart
        refine step_eq_ok.mpr ⟨hfolder.resolve_left hproper.ne_root, ?_, ?_⟩
        · rw [follow, hproper.reads]
          rfl
        · rw [hproper.reads]
          rintro ⟨name, hname⟩
          exact hsome ⟨name, Option.some.inj hname⟩
      rw [Path.ofParts_concat, List.foldl_append, List.foldl_cons, List.foldl_nil]
      by_cases hfirst : parts = []
      · subst hfirst
        have hjoin : (ofParts []).join ⟨part.text⟩ = ⟨part.text⟩ := Path.join_of_empty rfl
        rw [hjoin, locate_piece hproper.ne_nil hproper.slash]
        exact hstep
      · have hspelling : (ofParts parts).spelling ≠ [] := by
          intro hnil
          have hparts := hnormal.of_append.parts_ofParts
          rw [Path.parts_of_empty hnil] at hparts
          exact hfirst hparts.symm
        rw [locate_join hspelling hproper.slash, ih hnormal.of_append hfirst hfront]
        exact hstep

theorem isFile_normalize (h : v.isFile p = true) : v.isFile p.normalize = true := by
  obtain ⟨hlocate, bytes, hat⟩ := isFile_iff.mp h
  have hpasses := passes_of_locate hlocate
  have hplace : (normalParts p.parts).foldl descend v.base = v.place p := by
    rw [normalParts, foldl_descend_foldl_fold]
    rfl
  rw [isFile_iff, place_normalize]
  refine ⟨?_, bytes, hat⟩
  rw [← hplace]
  refine locate_ofParts (Path.normal_normalParts p) (fun hnil => ?_) hpasses.normalParts
  -- Where a path without parts leads, the first part was looked up, so it is no file.
  rw [hnil] at hplace
  rw [← hplace] at hat
  cases hparts : p.parts with
  | nil =>
    rw [locate, if_pos (by simpa using Path.eq_nil_of_parts hparts)] at hlocate
    cases hlocate
  | cons part rest =>
    rw [hparts] at hpasses hnil
    rcases hpasses.1 with rfl | hfolder
    · obtain ⟨names, hnames⟩ := Path.foldl_fold_root [] rest
      cases hnil.symm.trans hnames
    · cases hat.symm.trans hfolder

-- ---------------------------------------------------------------------------
-- Around a folder
-- ---------------------------------------------------------------------------

theorem exists_at?_of_mem_namesAt (h : name ∈ v.namesAt here) :
    ∃ item, v.at? (here ++ [name]) = some item := by
  rw [namesAt, (List.mergeSort_perm _ _).mem_iff, List.mem_filterMap] at h
  obtain ⟨entry, hentry, hname⟩ := h
  have hfound : (v.items.find? fun other => other.1 == here ++ [name]).isSome = true :=
    List.find?_isSome.mpr ⟨entry, hentry, beq_iff_eq.mpr (nameBelow?_eq_some_iff.mp hname)⟩
  obtain ⟨found, hfound⟩ := Option.isSome_iff_exists.mp hfound
  exact ⟨found.2, by simp [at?, hfound]⟩

theorem folder_above (habs : p.isAbsolute = true) (h : v.locate p = .ok next) :
    v.at? next.dropLast = some .folder := by
  obtain rfl := locate_eq_ok h
  have hpasses := (passes_of_locate h).normalParts
  obtain ⟨rest, hrest, -⟩ := Path.parts_of_isAbsolute habs
  obtain ⟨names, hnames⟩ := Path.foldl_fold_root [] rest
  have hnormal : normalParts p.parts = .root :: names.map .name := by
    rw [hrest]
    exact hnames
  have hplace : v.place p = names := by
    rw [← place_normalize, place, Path.parts_normalize, hnormal, List.foldl_cons,
      foldl_descend_names]
    rfl
  rw [hplace]
  cases names using List.reverseRecOn with
  | nil => rfl
  | append_singleton names name =>
    rw [hnormal, List.map_append, ← List.cons_append] at hpasses
    obtain ⟨hfolder, -, -⟩ := (passes_append.mp hpasses).2
    rw [List.dropLast_concat]
    simpa [foldl_descend_names, descend] using hfolder

end Swatchbook.Volume
