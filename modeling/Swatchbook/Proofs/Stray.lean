import Swatchbook.Proofs.Relative
import Mathlib.Data.List.Dedup

/-!
# Patterns that stray from a directory

Below a directory with a wildcard in one of its names patterns are not relative
to it. If a file in the directory is found at all, then every name of the
directory is led over by what was read from it. But two stars lead over more
names than that, and any other component with a wildcard that accepts its own
text accepts another one, so in some volume a file elsewhere is found too.
-/

namespace Swatchbook

open Swatchbook.Path (partOf?)

-- ---------------------------------------------------------------------------
-- Where pieces lead
-- ---------------------------------------------------------------------------

namespace Volume

variable {here : Location} {piece : Text} {pieces names : List Text}

theorem follow_cases (here : Location) (piece : Text) :
    follow here piece = here ∨ follow here piece = here.dropLast ∨
      follow here piece = here ++ [piece] := by
  rw [follow]
  cases hpart : partOf? piece with
  | none => exact .inl rfl
  | some part =>
    rcases Path.partOf?_eq_some_iff.mp hpart with ⟨-, rfl⟩ | ⟨-, -, -, rfl⟩
    · exact .inr (.inl rfl)
    · exact .inr (.inr rfl)

theorem foldl_follow_names (h : ∀ name ∈ names, (Part.name name).Proper) (here : Location) :
    names.foldl follow here = here ++ names := by
  induction names generalizing here with
  | nil => exact (List.append_nil here).symm
  | cons name names ih =>
    rw [List.forall_mem_cons] at h
    rw [List.foldl_cons, ih h.2, follow_name here h.1, List.append_assoc, List.singleton_append]

theorem foldl_follow_keeps (keep : Location) {tail : List Text} (h : pieces.length ≤ tail.length) :
    ∃ tail', pieces.foldl follow (keep ++ tail) = keep ++ tail' := by
  induction pieces generalizing tail with
  | nil => exact ⟨tail, rfl⟩
  | cons piece pieces ih =>
    rw [List.length_cons] at h
    rw [List.foldl_cons]
    rcases follow_cases (keep ++ tail) piece with heq | heq | heq <;> rw [heq]
    · exact ih (by omega)
    · rw [List.dropLast_append_of_ne_nil (List.ne_nil_of_length_pos (by omega))]
      exact ih (by rw [List.length_dropLast]; omega)
    · rw [List.append_assoc]
      exact ih (by rw [List.length_append]; omega)

theorem length_foldl_follow (pieces : List Text) (here : Location) :
    (pieces.foldl follow here).length ≤ here.length + pieces.length := by
  induction pieces generalizing here with
  | nil => exact Nat.le_refl _
  | cons piece pieces ih =>
    have hrest := ih (follow here piece)
    rw [List.foldl_cons, List.length_cons]
    rcases follow_cases here piece with heq | heq | heq <;> rw [heq] at hrest ⊢
    · omega
    · rw [List.length_dropLast] at hrest
      omega
    · rw [List.length_append, List.length_singleton] at hrest
      omega

/-- Pieces that lead down as far as they can are the names they lead over. -/
theorem foldl_follow_eq_append
    (h : (pieces.foldl follow here).length = here.length + pieces.length) :
    pieces.foldl follow here = here ++ pieces := by
  induction pieces generalizing here with
  | nil => exact (List.append_nil here).symm
  | cons piece pieces ih =>
    have hrest := length_foldl_follow pieces (follow here piece)
    rw [List.foldl_cons] at h ⊢
    rw [h, List.length_cons] at hrest
    rcases follow_cases here piece with heq | heq | heq <;> rw [heq] at h hrest ⊢
    · omega
    · rw [List.length_dropLast] at hrest
      omega
    · rw [List.append_cons here piece pieces]
      refine ih ?_
      rw [h, List.length_append, List.length_singleton, List.length_cons]
      omega

-- ---------------------------------------------------------------------------
-- A volume for a trail
-- ---------------------------------------------------------------------------

/-- The places that pieces lead over. -/
def passed (here : Location) : List Text → List Location
  | [] => [here]
  | piece :: rest => here :: passed (follow here piece) rest

theorem mem_passed_end (here : Location) (pieces : List Text) :
    pieces.foldl follow here ∈ passed here pieces := by
  induction pieces generalizing here with
  | nil => exact List.mem_singleton_self here
  | cons piece pieces ih => exact List.mem_cons_of_mem here (ih _)

theorem mem_of_passed {place : Location} {name : Text} (h : place ∈ passed here pieces)
    (hname : name ∈ place) : name ∈ here ∨ name ∈ pieces ∧ partOf? name = some (.name name) := by
  induction pieces generalizing here with
  | nil =>
    rw [List.mem_singleton.mp h] at hname
    exact .inl hname
  | cons piece pieces ih =>
    rcases List.mem_cons.mp h with rfl | h
    · exact .inl hname
    · rcases ih h with hfollow | ⟨hmem, hreads⟩
      · rw [follow] at hfollow
        cases hpart : partOf? piece with
        | none =>
          rw [hpart] at hfollow
          exact .inl hfollow
        | some part =>
          rw [hpart] at hfollow
          rcases Path.partOf?_eq_some_iff.mp hpart with ⟨-, rfl⟩ | ⟨-, -, -, rfl⟩
          · exact .inl (List.mem_of_mem_dropLast hfollow)
          · rcases List.mem_append.mp hfollow with hin | hlast
            · exact .inl hin
            · obtain rfl := List.mem_singleton.mp hlast
              exact .inr ⟨List.mem_cons_self, hpart⟩
      · exact .inr ⟨List.mem_cons_of_mem piece hmem, hreads⟩

theorem steps_of_passed {v : Volume}
    (h : ∀ place ∈ passed here pieces, v.at? place = some .folder) :
    pieces.foldlM v.step here = .ok (pieces.foldl follow here) := by
  induction pieces generalizing here with
  | nil => rfl
  | cons piece pieces ih =>
    rw [passed, List.forall_mem_cons] at h
    have hnext : v.at? (follow here piece) = some .folder := by
      refine h.2 _ ?_
      cases pieces <;> exact List.mem_cons_self
    have hstep : v.step here piece = .ok (follow here piece) :=
      step_eq_ok.mpr ⟨h.1, rfl, fun _ => by rw [hnext, Option.isSome_some]⟩
    rw [List.foldlM_cons, hstep]
    exact ih h.2

def ofFolders (folders : List Location) (file : Location) : Volume :=
  ⟨[], (file, .file .empty) :: folders.dedup.map fun place => (place, .folder)⟩

section

variable {folders : List Location} {file : Location}

theorem at?_ofFolders (hne : here ≠ []) : (ofFolders folders file).at? here =
    if file = here then some (.file .empty) else if here ∈ folders then some .folder else none := by
  have hfind (places : List Location) :
      ((places.map fun place => (place, Item.folder)).find? fun entry => entry.1 == here) =
        if here ∈ places then some (here, .folder) else none := by
    induction places with
    | nil => rfl
    | cons place places ih =>
      by_cases hplace : place = here
      · simp [hplace]
      · simp [hplace, Ne.symm hplace, ih]
  rw [at?, if_neg (by simpa using hne), ofFolders, List.find?_cons]
  by_cases hfile : file = here
  · simp [hfile]
  · rw [beq_eq_false_iff_ne.mpr hfile, if_neg hfile]
    dsimp only
    rw [hfind]
    split <;> simp_all

theorem wellFormed_ofFolders (hfile : file ∉ folders)
    (hnamed : ∀ place ∈ file :: folders, ∀ name ∈ place, (Part.name name).Proper) :
    (ofFolders folders file).WellFormed := by
  refine ⟨?_, ?_⟩
  · rw [ofFolders, List.map_cons, List.map_map]
    refine List.nodup_cons.mpr ⟨?_, ?_⟩
    · simpa using hfile
    · have hid : (Prod.fst ∘ fun place => (place, Item.folder)) = (id : Location → Location) := rfl
      rw [hid, List.map_id]
      exact List.nodup_dedup folders
  · refine List.forall_mem_cons.mpr ⟨hnamed file List.mem_cons_self, ?_⟩
    rw [List.forall_mem_map]
    exact fun place hplace => hnamed place (List.mem_cons_of_mem file (List.mem_dedup.mp hplace))

end

end Volume

namespace Glob

/-- The folders on the way to a directory and over a trail, and a file at its end. -/
def volumeOf (names trail : List Text) (name : Text) : Volume :=
  .ofFolders (Volume.passed [] trail ++ Volume.passed [] names)
    (trail.foldl Volume.follow [] ++ [name])

theorem spelled_root (names : List Text) :
    Path.ofParts (.root :: names.map .name) = spelled "/" names := by
  rw [Path.ofParts, List.foldl_cons, List.foldl_map]
  rfl

theorem locate_spelled_root {v : Volume} {pieces : List Text}
    (hslash : ∀ piece ∈ pieces, '/' ∉ piece) :
    v.locate (spelled "/" pieces) = pieces.foldlM v.step [] := by
  rw [locate_spelled rfl hslash]
  rfl

section

variable {names trail : List Text} {name : Text}
  (htrail : name ∉ trail) (hnames : name ∉ names)

include htrail hnames

theorem not_mem_of_passed : ∀ place ∈ Volume.passed [] trail ++ Volume.passed [] names,
    name ∉ place := by
  intro place hplace hin
  rcases List.mem_append.mp hplace with hm | hm
  · exact htrail ((Volume.mem_of_passed hm hin).resolve_left List.not_mem_nil).1
  · exact hnames ((Volume.mem_of_passed hm hin).resolve_left List.not_mem_nil).1

theorem file_not_mem : trail.foldl Volume.follow [] ++ [name] ∉
    Volume.passed [] trail ++ Volume.passed [] names :=
  fun hm => not_mem_of_passed htrail hnames _ hm (by simp)

theorem folder_volumeOf : ∀ place ∈ Volume.passed [] trail ++ Volume.passed [] names,
    (volumeOf names trail name).at? place = some .folder := by
  intro place hplace
  by_cases hne : place = []
  · rw [hne]
    rfl
  · rw [volumeOf, Volume.at?_ofFolders hne, if_neg ?_, if_pos hplace]
    rintro rfl
    exact file_not_mem htrail hnames hplace

theorem not_mem_of_folder {here : Location}
    (h : (volumeOf names trail name).at? here = some .folder) : name ∉ here := by
  by_cases hne : here = []
  · rw [hne]
    exact List.not_mem_nil
  · rw [volumeOf, Volume.at?_ofFolders hne] at h
    split at h
    · cases h
    · split at h
      · next hm => exact not_mem_of_passed htrail hnames here hm
      · cases h

variable (hproper : ∀ name ∈ names, (Part.name name).Proper) (hname : (Part.name name).Proper)
  (hslash : ∀ piece ∈ trail, '/' ∉ piece)

include hproper in
theorem isFolder_volumeOf :
    (volumeOf names trail name).isFolder (Path.ofParts (.root :: names.map .name)) = true := by
  have hfolder := folder_volumeOf htrail hnames
  rw [spelled_root]
  have hlocate : (volumeOf names trail name).locate (spelled "/" names) =
      .ok (names.foldl Volume.follow []) := by
    rw [locate_spelled_root fun other hm => (hproper other hm).slash]
    exact Volume.steps_of_passed fun place hm => hfolder place (List.mem_append_right _ hm)
  exact Volume.isFolder_of_locate hlocate
    (hfolder _ (List.mem_append_right _ (Volume.mem_passed_end [] names)))

include hname hslash

include hproper in
theorem wellFormed_volumeOf : (volumeOf names trail name).WellFormed := by
  have hnamed : ∀ place ∈ Volume.passed [] trail ++ Volume.passed [] names,
      ∀ other ∈ place, (Part.name other).Proper := by
    intro place hplace other hin
    rcases List.mem_append.mp hplace with hm | hm
    · obtain ⟨hmem, hreads⟩ := (Volume.mem_of_passed hm hin).resolve_left List.not_mem_nil
      exact Path.proper_of_partOf? (hslash other hmem) hreads
    · exact hproper other ((Volume.mem_of_passed hm hin).resolve_left List.not_mem_nil).1
  refine Volume.wellFormed_ofFolders (file_not_mem htrail hnames)
    (List.forall_mem_cons.mpr ⟨fun other hin => ?_, hnamed⟩)
  rcases List.mem_append.mp hin with hin | hin
  · exact hnamed _ (List.mem_append_left _ (Volume.mem_passed_end [] trail)) other hin
  · rwa [List.mem_singleton.mp hin]

theorem isFile_volumeOf :
    (volumeOf names trail name).isFile (spelled "/" (trail ++ [name])) = true := by
  have hpieces : ∀ piece ∈ trail ++ [name], '/' ∉ piece :=
    List.forall_mem_append.mpr ⟨hslash, List.forall_mem_singleton.mpr hname.slash⟩
  have hfolder := folder_volumeOf htrail hnames
  have hitem : (volumeOf names trail name).at? (trail.foldl Volume.follow [] ++ [name]) =
      some (.file .empty) := by
    rw [volumeOf, Volume.at?_ofFolders (List.concat_ne_nil _ _), if_pos rfl]
  have hsteps : trail.foldlM (volumeOf names trail name).step [] =
      .ok (trail.foldl Volume.follow []) :=
    Volume.steps_of_passed fun place hm => hfolder place (List.mem_append_left _ hm)
  have hlast : (volumeOf names trail name).step (trail.foldl Volume.follow []) name =
      .ok (trail.foldl Volume.follow [] ++ [name]) :=
    Volume.step_name (hfolder _ (List.mem_append_left _ (Volume.mem_passed_end [] trail)))
      hname hitem
  have hlocate : (volumeOf names trail name).locate (spelled "/" (trail ++ [name])) =
      .ok (trail.foldl Volume.follow [] ++ [name]) := by
    rw [locate_spelled_root hpieces, List.foldlM_append, hsteps]
    exact Except.bind_eq_ok.mpr ⟨_, rfl, Except.bind_eq_ok.mpr ⟨_, hlast, rfl⟩⟩
  refine Volume.isFile_iff.mpr ⟨Volume.locate_eq_ok hlocate ▸ hlocate, .empty, ?_⟩
  rw [← Volume.locate_eq_ok hlocate, hitem]

end

-- ---------------------------------------------------------------------------
-- Other trails
-- ---------------------------------------------------------------------------

section

variable {c : Component} {components lead : List Component} {name : Text}
  {names pieces : List Text}

theorem proper_of_mem {d : Char} (h : d ∈ name) (hd : d ≠ '.') (hslash : '/' ∉ name) :
    (Part.name name).Proper := by
  refine Path.proper_of_partOf? hslash (Path.partOf?_eq_some_iff.mpr (.inr ⟨?_, ?_, ?_, rfl⟩))
  · rintro rfl
    cases h
  · rintro rfl
    exact hd (List.mem_singleton.mp h)
  · rintro rfl
    simp [hd] at h

theorem Trail.getLast (h : Trail components pieces) (hlast : components.getLast? = some c)
    (hc : c.literal? = some name) : pieces.getLast? = some name := by
  induction h with
  | nil => cases hlast
  | @piece d rest piece pieces takes more ih =>
    cases rest with
    | nil =>
      cases hlast
      cases more
      rcases takes with hd | ⟨hd, -⟩
      · cases hc.symm.trans hd
        rfl
      · cases hc.symm.trans hd
    | cons e rest =>
      rw [List.getLast?_cons, ih (by rwa [List.getLast?_cons_cons] at hlast), Option.getD_some]
  | @deep d rest other above pieces proper accepts more ih =>
    cases rest with
    | nil =>
      cases hlast
      cases more
      rw [(Component.accepts_iff_of_literal hc).mp accepts, List.getLast?_concat]
    | cons e rest =>
      have hpieces := ih (by rwa [List.getLast?_cons_cons, List.getLast?_cons_cons] at hlast)
      simp [List.getLast?_append, List.getLast?_cons, hpieces]
  | again more ih => exact ih (by rwa [List.getLast?_cons_cons] at hlast)

theorem Trail.exists_longer (h : Trail components pieces) (hstars : .folders ∈ components) :
    ∃ front back, pieces = front ++ back ∧ back ≠ [] ∧ ∀ more : List Text,
      (∀ name ∈ more, (Part.name name).Proper) → Trail components (front ++ more ++ back) := by
  induction h with
  | nil => cases hstars
  | @piece c rest piece pieces takes _ ih =>
    have hc : Component.folders ≠ c := by
      rintro rfl
      exact not_takes_folders takes
    obtain ⟨front, back, rfl, hback, hmore⟩ := ih ((List.mem_cons.mp hstars).resolve_left hc)
    exact ⟨piece :: front, back, rfl, hback, fun more hproper => .piece takes (hmore more hproper)⟩
  | @deep c rest name above pieces proper accepts more ih =>
    refine ⟨[], above ++ name :: pieces, rfl, by simp, fun names hproper => ?_⟩
    rw [List.nil_append, ← List.append_assoc]
    refine .deep ?_ accepts more
    rw [List.append_assoc]
    exact List.forall_mem_append.mpr ⟨hproper, proper⟩
  | again _ ih =>
    obtain ⟨front, back, rfl, hback, hmore⟩ := ih List.mem_cons_self
    exact ⟨front, back, rfl, hback, fun more hproper => .again (hmore more hproper)⟩

theorem trail_iff_forall₂ (hstars : .folders ∉ components) :
    Trail components pieces ↔ List.Forall₂ Component.Takes components pieces := by
  constructor
  · intro h
    induction h with
    | nil => exact .nil
    | piece takes more ih =>
      rw [List.mem_cons, not_or] at hstars
      exact .cons takes (ih hstars.2)
    | deep => simp at hstars
    | again => simp at hstars
  · intro h
    induction h with
    | nil => exact .nil
    | cons takes _ ih =>
      rw [List.mem_cons, not_or] at hstars
      exact .piece takes (ih hstars.2)

/-- What a component with wildcards that leads over its own text leads over besides. -/
theorem exists_other_name (hread : readComponent name = .ok c) (takes : c.Takes name)
    (hproper : (Part.name name).Proper) (hwild : ∃ d ∈ name, isWild d = true) :
    ∃ other : Text, other ≠ name ∧ c.Takes other ∧ (Part.name other).Proper ∧ 'a' ∈ other := by
  have hnone : c.literal? = none := by
    cases hc : c.literal? with
    | none => rfl
    | some t =>
      obtain ⟨d, hd, hwild⟩ := hwild
      rw [Component.plain_of_literal hread hc d hd] at hwild
      cases hwild
  obtain ⟨other, hne, hother, hmem, hall⟩ :=
    Component.exists_other hread hnone (takes.accepts hproper.reads) 'a' (by decide)
  have hslash : '/' ∉ other := fun hm => (hall '/' hm).elim hproper.slash (by decide)
  have hother' := proper_of_mem hmem (by decide) hslash
  exact ⟨other, hne, takes_of_accepts hother hother', hother', hmem⟩

/-- If one of the names that are led over by what was read from them has a wildcard, then other
names are led over as well. -/
theorem exists_other_names
    (hread : List.Forall₂ (fun name c => readComponent name = .ok c) names lead)
    (htakes : List.Forall₂ Component.Takes lead names)
    (hproper : ∀ name ∈ names, (Part.name name).Proper)
    (hwild : ∃ name ∈ names, ∃ d ∈ name, isWild d = true) :
    ∃ others : List Text, others ≠ names ∧ List.Forall₂ Component.Takes lead others ∧
      ∀ other ∈ others, (Part.name other).Proper ∧ (other ∈ names ∨ 'a' ∈ other) := by
  induction hread with
  | nil =>
    obtain ⟨name, hm, -⟩ := hwild
    cases hm
  | @cons name c names lead hread _ ih =>
    obtain ⟨htake, htakes⟩ := List.forall₂_cons.mp htakes
    rw [List.forall_mem_cons] at hproper
    rcases (List.exists_mem_cons_iff ..).mp hwild with hwild | hwild
    · obtain ⟨other, hne, hother, hproper', hmem⟩ :=
        exists_other_name hread htake hproper.1 hwild
      refine ⟨other :: names, fun heq => hne (List.cons.inj heq).1, .cons hother htakes, ?_⟩
      exact List.forall_mem_cons.mpr ⟨⟨hproper', .inr hmem⟩, fun x hx =>
        ⟨hproper.2 x hx, .inl (List.mem_cons_of_mem name hx)⟩⟩
    · obtain ⟨others, hne, hothers, hall⟩ := ih htakes hproper.2 hwild
      refine ⟨name :: others, fun heq => hne (List.cons.inj heq).2, .cons htake hothers, ?_⟩
      refine List.forall_mem_cons.mpr ⟨⟨hproper.1, .inl List.mem_cons_self⟩, fun x hx => ?_⟩
      exact ⟨(hall x hx).1, (hall x hx).2.imp_left (List.mem_cons_of_mem name)⟩

end

end Glob

-- ---------------------------------------------------------------------------
-- What is relative to a directory
-- ---------------------------------------------------------------------------

namespace Glob

section

variable {v : Volume} {pieces : List Text} {name : Text}

theorem place_of_holds (hslash : ∀ piece ∈ pieces, '/' ∉ piece)
    (h : v.holds (spelled "/" pieces) = true) :
    v.place (spelled "/" pieces) = pieces.foldl Volume.follow [] := by
  obtain ⟨place, item, hlocate, -⟩ := Volume.holds_iff_locate.mp h
  obtain rfl := Volume.locate_eq_ok hlocate
  rw [locate_spelled_root hslash] at hlocate
  exact Volume.foldlM_step_eq hlocate

theorem not_mem_of_trail (hname : (Part.name name).Proper)
    (hslash : ∀ piece ∈ pieces, '/' ∉ piece)
    (hfree : ∀ here, v.at? here = some .folder → name ∉ here)
    (h : v.isFile (spelled "/" (pieces ++ [name])) = true) : name ∉ pieces := by
  intro hm
  obtain ⟨front, back, rfl⟩ := List.append_of_mem hm
  have hsplit : front ++ name :: back ++ [name] = front ++ [name] ++ (back ++ [name]) := by simp
  rw [List.append_cons, List.forall_mem_append] at hslash
  rw [hsplit, spelled_append] at h
  have hback : ∀ piece ∈ back ++ [name], '/' ∉ piece :=
    List.forall_mem_append.mpr ⟨hslash.2, List.forall_mem_singleton.mpr hname.slash⟩
  have hfolder := isFolder_of_spelled (isAbsolute_spelled rfl _) hback (by simp)
    (Volume.holds_iff.mpr (.inl h))
  obtain ⟨-, hat⟩ := Volume.isFolder_iff.mp hfolder
  refine hfree _ hat ?_
  rw [place_of_holds hslash.1 (Volume.holds_iff.mpr (.inr hfolder)), List.foldl_append,
    List.foldl_cons, List.foldl_nil, Volume.follow_name _ hname]
  exact List.mem_concat_self

end

end Glob

namespace Styleguide

def patternOf (name : Text) : Glob := ⟨".", [.name (name.map .char)], false⟩

section

variable {name : Text} (hname : (Part.name name).Proper)

include hname

theorem read_patternOf (hplain : ∀ c ∈ name, Glob.isWild c = false) :
    Glob.read name = .ok (patternOf name) := by
  have hslash : '/' ∉ name := hname.slash
  have hne : name ≠ [] := hname.ne_nil
  have hhead : (name.head? == some '/') = false := Path.isAbsolute_of_slash hslash
  have hlast : (name.getLast? == some '/') = false := by
    rw [beq_eq_false_iff_ne]
    exact fun h => hslash (List.mem_of_getLast? h)
  have hempty : name.isEmpty = false := by simpa using hne
  have hpieces : Glob.piecesOf name = [name] := by
    rw [Glob.piecesOf, Text.splitBy_of_not_mem hslash]
    simp [hne]
  rw [Glob.read_eq_ok]
  simp only [hhead, hlast, hempty, hpieces, Bool.false_eq_true, if_false, patternOf]
  refine ⟨_, Except.mapM_eq_ok.mpr (.cons (Glob.Component.read_of_plain hplain) .nil), rfl⟩

theorem matches_patternOf_iff {names : List Text} :
    (patternOf name).Matches names ↔ names = [name] := by
  have hiff : Glob.Matching ([.name (name.map .char)] ++ []) names ↔
      ∃ more, names = [name] ++ more ∧ Glob.Matching [] more :=
    Glob.matching_append_iff (.cons (Glob.literalOf?_map_char name) .nil) (by simpa using hname)
  rw [Glob.Matches, patternOf]
  simp only [true_and]
  rw [← List.append_nil [Glob.Component.name _], hiff]
  constructor
  · rintro ⟨more, rfl, hmore⟩
    cases hmore
    rfl
  · rintro rfl
    exact ⟨[], rfl, .nil⟩

end

section

variable {base : Path} {names : List Text} {lead : List Glob.Component} {name : Text}
  {trail : List Text} (h : Relative base)
  (hbase : base = Path.ofParts (.root :: names.map .name))
  (hproper : ∀ name ∈ names, (Part.name name).Proper) (hname : (Part.name name).Proper)
  (hplain : ∀ c ∈ name, Glob.isWild c = false) (hnames : name ∉ names)

include h hbase hproper hname hplain

/-- The names of such a directory can be read, and a name behind them finds the file in it. -/
theorem found_of_relative {v : Volume} (hv : v.WellFormed) (hfolder : v.isFolder base = true) :
    ∃ lead, names.mapM Glob.readComponent = .ok lead ∧ ∀ p, (v.isFile p = true ∧
      ∃ found ∈ ((patternOf name).behind lead).find v, found.normalize = p) ↔
        p.normalize = p ∧ v.isFile p = true ∧ p.parts = base.parts ++ [.name name] := by
  have hslash : '/' ∉ name := hname.slash
  have hrelative := Path.isAbsolute_of_slash hslash
  have hread := read_patternOf hname hplain
  have hpieces : Path.pieces ⟨name⟩ = [name] := Text.splitBy_of_not_mem hslash
  have hup : ['.', '.'] ∉ Path.pieces ⟨name⟩ := by
    rw [hpieces, List.mem_singleton]
    rintro rfl
    cases hname.reads
  have hdots : ∀ c ∈ (patternOf name).components.dropLast, c.literal? = none → c.dots = [] :=
    List.forall_mem_nil _
  obtain ⟨files, hfiles, hmem⟩ := h v hv hfolder name _ hrelative hread hup hdots
  obtain ⟨joined, hjoined⟩ : ∃ joined, Glob.read (base.join ⟨name⟩).spelling = .ok joined := by
    cases hjoined : Glob.read (base.join ⟨name⟩).spelling with
    | ok joined => exact ⟨joined, rfl⟩
    | error fault =>
      rw [expand, Outlook.expand_eq, List.foldlM_cons, Outlook.expandNext, Outlook.expandOne,
        hjoined] at hfiles
      cases hfiles
  obtain ⟨files', hfiles', hmem'⟩ := expand_singleton (v := v) hjoined
  cases hfiles.symm.trans hfiles'
  rw [hbase] at hjoined
  obtain ⟨lead, hlead, rfl⟩ := (Glob.read_behind hproper hrelative hname.ne_nil hread).mp hjoined
  refine ⟨lead, hlead, fun p => ?_⟩
  rw [← hmem', hmem]
  simp only [matches_patternOf_iff hname, exists_eq_right, List.map_cons, List.map_nil]

omit h hplain hbase in
theorem mem_find_behind_iff {v : Volume} (hv : v.WellFormed)
    (hlead : names.mapM Glob.readComponent = .ok lead) {p : Path} (hp : v.isFolder p = false) :
    p ∈ ((patternOf name).behind lead).find v ↔ v.isFile p = true ∧
      ∃ pieces, Glob.Trail (lead ++ [.name (name.map .char)]) pieces ∧
        (∀ piece ∈ pieces, '/' ∉ piece) ∧ p = Glob.spelled "/" pieces := by
  have hslash : ∀ c ∈ ((patternOf name).behind lead).components, ∀ t, c.literal? = some t →
      '/' ∉ t := by
    refine List.forall_mem_append.mpr
      ⟨Glob.slash_of_read hlead fun other hm => (hproper other hm).slash, ?_⟩
    refine List.forall_mem_singleton.mpr fun t ht => ?_
    cases (Glob.literalOf?_map_char name).symm.trans ht
    exact hname.slash
  rw [Glob.mem_find_iff hv rfl (List.concat_ne_nil _ _) hslash hp]
  refine and_congr Iff.rfl ⟨?_, ?_⟩
  · rintro ⟨-, pieces, htrail, rfl⟩
    exact ⟨pieces, htrail, htrail.slash hslash, rfl⟩
  · rintro ⟨pieces, htrail, -, rfl⟩
    exact ⟨rfl, pieces, htrail, rfl⟩

include hnames

theorem end_of_relative (hlead : names.mapM Glob.readComponent = .ok lead)
    (htrail : Glob.Trail (lead ++ [.name (name.map .char)]) (trail ++ [name]))
    (hfree : name ∉ trail) (hslash : ∀ piece ∈ trail, '/' ∉ piece) :
    trail.foldl Volume.follow [] = names := by
  have hv := Glob.wellFormed_volumeOf hfree hnames hproper hname hslash
  have hfolder := Glob.isFolder_volumeOf hfree hnames hproper
  have hfile := Glob.isFile_volumeOf hfree hnames hname hslash
  have hpieces : ∀ piece ∈ trail ++ [name], '/' ∉ piece :=
    List.forall_mem_append.mpr ⟨hslash, List.forall_mem_singleton.mpr hname.slash⟩
  rw [← hbase] at hfolder
  obtain ⟨_, hlead', hfound⟩ := found_of_relative h hbase hproper hname hplain hv hfolder
  cases hlead.symm.trans hlead'
  have hmem := (mem_find_behind_iff hproper hname hv hlead (Volume.isFolder_of_isFile hfile)).mpr
    ⟨hfile, _, htrail, hpieces, rfl⟩
  obtain ⟨-, -, hparts⟩ := (hfound _).mp ⟨Volume.isFile_normalize hfile, _, hmem, rfl⟩
  have hplace := Volume.place_normalize (Glob.volumeOf names trail name)
    (Glob.spelled "/" (trail ++ [name]))
  rw [Glob.place_of_holds hpieces (Volume.holds_iff.mpr (.inl hfile)), List.foldl_append,
    List.foldl_cons, List.foldl_nil, Volume.follow_name _ hname, Volume.place, hparts, hbase,
    Glob.spelled_root, Glob.parts_spelled_names hproper, List.foldl_append, List.foldl_append,
    Volume.foldl_descend_names] at hplace
  exact (List.append_cancel_right hplace).symm

theorem exists_trail : ∃ lead trail, names.mapM Glob.readComponent = .ok lead ∧
    Glob.Trail (lead ++ [.name (name.map .char)]) (trail ++ [name]) ∧ name ∉ trail ∧
      ∀ piece ∈ trail, '/' ∉ piece := by
  have hslash : ∀ other ∈ names, '/' ∉ other := fun other hm => (hproper other hm).slash
  have hv := Glob.wellFormed_volumeOf hnames hnames hproper hname hslash
  have hfolder := Glob.isFolder_volumeOf hnames hnames hproper
  have hfile := Glob.isFile_volumeOf hnames hnames hname hslash
  have hall : ∀ other ∈ names ++ [name], (Part.name other).Proper :=
    List.forall_mem_append.mpr ⟨hproper, List.forall_mem_singleton.mpr hname⟩
  rw [← hbase] at hfolder
  obtain ⟨lead, hlead, hfound⟩ := found_of_relative h hbase hproper hname hplain hv hfolder
  have hparts : (Glob.spelled "/" (names ++ [name])).parts =
      Path.parts "/" ++ (names ++ [name]).map .name := Glob.parts_spelled_names hall
  have hnormal : (Glob.spelled "/" (names ++ [name])).normalize =
      Glob.spelled "/" (names ++ [name]) := by
    rw [Path.normalize, hparts, ← Glob.spelled_root]
    exact congrArg Path.ofParts (Glob.normalParts_names _)
  obtain ⟨-, found, hmem, hsame⟩ := (hfound _).mpr ⟨hnormal, hfile, by
    rw [hparts, hbase, Glob.spelled_root, Glob.parts_spelled_names hproper, List.map_append,
      List.append_assoc]
    rfl⟩
  rw [← hsame] at hfile
  obtain ⟨hthere, pieces, htrail, hpieces, rfl⟩ :=
    (mem_find_behind_iff hproper hname hv hlead
      (Volume.isFolder_of_isFile_normalize hfile)).mp hmem
  have hlast := htrail.getLast List.getLast?_concat (Glob.literalOf?_map_char name)
  obtain ⟨trail, rfl⟩ := List.getLast?_eq_some_iff.mp hlast
  rw [List.forall_mem_append] at hpieces
  exact ⟨lead, trail, hlead, htrail, Glob.not_mem_of_trail hname hpieces.1
    (fun here => Glob.not_mem_of_folder hnames hnames) hthere, hpieces.1⟩

end

section

variable {names trail : List Text} {lead : List Glob.Component} {name other : Text}
  (hend : ∀ {trail : List Text},
    Glob.Trail (lead ++ [.name (name.map .char)]) (trail ++ [name]) → name ∉ trail →
      (∀ piece ∈ trail, '/' ∉ piece) → trail.foldl Volume.follow [] = names)
  (htrail : Glob.Trail (lead ++ [.name (name.map .char)]) (trail ++ [name])) (hfree : name ∉ trail)
  (hslash : ∀ piece ∈ trail, '/' ∉ piece)

include hend htrail hfree hslash

theorem not_stars_of_end (hother : (Part.name other).Proper) (hne : name ≠ other)
    (hothers : other ∉ names) : .folders ∉ lead := by
  intro hstars
  obtain ⟨front, back, hsplit, hback, hmore⟩ :=
    htrail.exists_longer (List.mem_append_left _ hstars)
  obtain ⟨back, last, rfl⟩ := (List.eq_nil_or_concat' back).resolve_left hback
  rw [← List.append_assoc] at hsplit
  obtain ⟨rfl, hlast⟩ := List.append_inj' hsplit rfl
  cases hlast
  rw [List.mem_append, not_or] at hfree
  rw [List.forall_mem_append] at hslash
  have hreplicate : ∀ piece ∈ List.replicate (back.length + 1) other, piece = other :=
    fun piece hm => List.eq_of_mem_replicate hm
  have hproper : ∀ piece ∈ List.replicate (back.length + 1) other, (Part.name piece).Proper :=
    fun piece hm => hreplicate piece hm ▸ hother
  have hlonger := hmore _ hproper
  rw [← List.append_assoc] at hlonger
  have hnames := hend hlonger
    (by
      simp only [List.mem_append, not_or]
      exact ⟨⟨hfree.1, fun hm => hne (hreplicate name hm)⟩, hfree.2⟩)
    (by
      simp only [List.forall_mem_append]
      exact ⟨⟨hslash.1, fun piece hm => (hproper piece hm).slash⟩, hslash.2⟩)
  rw [List.foldl_append, List.foldl_append, Volume.foldl_follow_names hproper, List.replicate_succ,
    List.append_cons] at hnames
  have hlength : back.length ≤ (List.replicate back.length other).length := by simp
  obtain ⟨tail, htail⟩ :=
    Volume.foldl_follow_keeps (front.foldl Volume.follow [] ++ [other]) hlength
  rw [htail] at hnames
  exact hothers (hnames ▸ by simp)

/-- Without two stars a trail goes over as many pieces as there are names, so these are the
names. -/
theorem plain_of_end (hread : names.mapM Glob.readComponent = .ok lead)
    (hstars : .folders ∉ lead) (hname : 'a' ∉ name) (hnames : name ∉ names)
    (hproper : ∀ name ∈ names, (Part.name name).Proper) :
    ∀ name ∈ names, ∀ c ∈ name, Glob.isWild c = false := by
  have hstars' : Glob.Component.folders ∉ lead ++ [.name (name.map .char)] := by simpa using hstars
  rw [Except.mapM_eq_ok] at hread
  have hplace := hend htrail hfree hslash
  have htakes := (Glob.trail_iff_forall₂ hstars').mp htrail
  have hlength : trail.length = names.length := by
    have hlengths := htakes.length_eq
    have hlead := hread.length_eq
    simp only [List.length_append, List.length_singleton] at hlengths
    omega
  obtain rfl : trail = names := by
    have hdown : trail.foldl Volume.follow [] = [] ++ trail :=
      Volume.foldl_follow_eq_append (by rw [hplace, hlength, List.length_nil, Nat.zero_add])
    rw [← hplace, hdown, List.nil_append]
  have hfirst : List.Forall₂ Glob.Component.Takes lead trail := by
    have htake := List.forall₂_take_append _ _ _ htakes
    rwa [List.take_left' hread.length_eq.symm] at htake
  by_contra hwild
  simp only [not_forall, Bool.not_eq_false] at hwild
  obtain ⟨wild, hwild, d, hd, hd'⟩ := hwild
  obtain ⟨others, hne, hothers, hall⟩ := Glob.exists_other_names hread hfirst hproper
    ⟨wild, hwild, d, hd, hd'⟩
  have hmore : Glob.Trail (lead ++ [.name (name.map .char)]) (others ++ [name]) := by
    rw [Glob.trail_iff_forall₂ hstars']
    exact List.rel_append hothers (.cons (.inl (Glob.literalOf?_map_char name)) .nil)
  have hsame := hend hmore
    (fun hm => (hall name hm).2.elim hnames hname)
    (fun piece hm => (hall piece hm).1.slash)
  rw [Volume.foldl_follow_names fun piece hm => (hall piece hm).1, List.nil_append] at hsame
  exact hne hsame

end

/-- Patterns are relative only to directories without wildcards in their names. -/
theorem plain_of_relative {base : Path} (habs : base.isAbsolute = true)
    (hnormal : base.normalize = base) (h : Relative base) :
    ∀ name, .name name ∈ base.parts → ∀ c ∈ name, Glob.isWild c = false := by
  obtain ⟨names, hparts, hbase, hproper⟩ := exists_names_of_absolute habs hnormal
  -- Two names that are longer than those of the directory.
  let name : Text := List.replicate (names.flatten.length + 1) 'b'
  let other : Text := 'c' :: name
  have hlong {t : Text} (ht : names.flatten.length < t.length) : t ∉ names := fun hm =>
    Nat.not_lt.mpr (List.sublist_flatten_of_mem hm).length_le ht
  have hnames : name ∉ names := hlong (by simp [name])
  have hothers : other ∉ names := hlong (by
    rw [List.length_cons, List.length_replicate]
    omega)
  have hb : ∀ d ∈ name, d = 'b' := fun d hd => List.eq_of_mem_replicate hd
  have hname : (Part.name name).Proper :=
    Glob.proper_of_mem (d := 'b') (by simp [name]) (by decide) fun hm => by cases hb _ hm
  have hother : (Part.name other).Proper :=
    Glob.proper_of_mem (d := 'c') List.mem_cons_self (by decide) fun hm => by
      rcases List.mem_cons.mp hm with hm | hm
      · cases hm
      · cases hb _ hm
  have hplain : ∀ d ∈ name, Glob.isWild d = false := fun d hd => by
    rw [hb d hd]
    rfl
  obtain ⟨lead, trail, hlead, htrail, hfree, hslash⟩ :=
    exists_trail h hbase hproper hname hplain hnames
  have hend {trail : List Text} :=
    @end_of_relative _ _ _ _ trail h hbase hproper hname hplain hnames hlead
  have hstars := not_stars_of_end hend htrail hfree hslash hother
    (fun heq => by simpa [other] using congrArg List.length heq) hothers
  have hall := plain_of_end hend htrail hfree hslash hlead hstars
    (fun hm => by cases hb _ hm) hnames hproper
  intro text hm
  rw [hparts] at hm
  refine hall text ?_
  simpa using hm

/-- Patterns are relative to a directory just if none of its names has a wildcard in it. -/
theorem relative_iff {base : Path} (habs : base.isAbsolute = true)
    (hnormal : base.normalize = base) : Relative base ↔
      ∀ name, .name name ∈ base.parts → ∀ c ∈ name, c ≠ '*' ∧ c ≠ '?' ∧ c ≠ '[' := by
  have hwild (c : Char) : Glob.isWild c = false ↔ c ≠ '*' ∧ c ≠ '?' ∧ c ≠ '[' := by
    simp [Glob.isWild, and_assoc]
  simp only [← hwild]
  exact ⟨plain_of_relative habs hnormal, relative_of_plain habs hnormal⟩

/-- A bracket that closes nothing is no wildcard, and one that opens is. -/
theorem relative_iff_brackets : Relative "/a].b" ∧ ¬ Relative "/p/a[b" := by
  have hclosed := @relative_iff "/a].b" (by decide) (by decide)
  have hopen := @relative_iff "/p/a[b" (by decide) (by decide)
  refine ⟨hclosed.mpr fun name hm => ?_, fun h => ?_⟩
  · have hparts : Path.parts "/a].b" = [.root, .name ['a', ']', '.', 'b']] := by decide
    rw [hparts] at hm
    obtain rfl : name = ['a', ']', '.', 'b'] := by simpa using hm
    simp
  · obtain ⟨-, -, hne⟩ := hopen.mp h "a[b".toList (by decide) '[' (by decide)
    exact hne rfl

/-- A file in a directory that has brackets in its name is not found. And a pattern with a star
behind a point finds a file beside the directory, because the star stands for a point too. -/
theorem expand_strays :
    let v := (Volume.mk [] []).plant ["app[v2]".toList, "a.css".toList] (.file .empty)
    let w := ((Volume.mk [] []).plant ["p".toList, "a".toList] .folder).plant
      ["p".toList, "y.css".toList] (.file .empty)
    (v.isFolder "/app[v2]" = true ∧ v.isFile "/app[v2]/a.css" = true ∧
      expand v "/app[v2]" ["a.css".toList] = .ok []) ∧
    w.isFolder "/p/a" = true ∧ expand w "/p/a" [".*/y.css".toList] = .ok ["/p/y.css"] := by
  decide +kernel

end Styleguide

end Swatchbook
