import Swatchbook.Proofs.Ending
import Swatchbook.Proofs.Volume
import Swatchbook.Proofs.Walk
import Mathlib.Data.List.Forall2
import Mathlib.Data.List.Nodup
import Mathlib.Data.List.Perm.Subperm

/-!
# Lines of a walk

The names that lead from a root to a file are a line of what a walk comes by:
each folder and then what is in it. Where no two sightings have one path, a
catalog keeps every line as a chain from the root, and all its chains are
lines, because what names a folder as its own is recorded as a child of it.
-/

namespace Swatchbook

-- ---------------------------------------------------------------------------
-- The way to a file
-- ---------------------------------------------------------------------------

namespace Volume

open Swatchbook.Path (partOf? normalParts fold)

theorem foldl_descend_fold (base : Location) (done : List Part) (part : Part) :
    (fold done part).foldl descend base = descend (done.foldl descend base) part := by
  cases part with
  | root => rfl
  | here => rfl
  | name text => rw [fold, List.foldl_append]; rfl
  | up =>
    rw [fold]
    split
    · next name hlast =>
      obtain ⟨init, rfl⟩ := List.getLast?_eq_some_iff.mp hlast
      simp [descend]
    · next hlast =>
      obtain ⟨init, rfl⟩ := List.getLast?_eq_some_iff.mp hlast
      simp [descend]
    · rw [List.foldl_append]
      rfl

theorem foldl_descend_foldl_fold (base : Location) (done parts : List Part) :
    (parts.foldl fold done).foldl descend base =
      parts.foldl descend (done.foldl descend base) := by
  induction parts generalizing done with
  | nil => rfl
  | cons part parts ih => rw [List.foldl_cons, ih, foldl_descend_fold, List.foldl_cons]

theorem place_normalize (v : Volume) (p : Path) : v.place p.normalize = v.place p := by
  rw [place, Path.parts_normalize, normalParts, foldl_descend_foldl_fold]
  rfl

theorem foldl_descend_names (place : Location) (names : List Text) :
    (names.map Part.name).foldl descend place = place ++ names := by
  induction names generalizing place with
  | nil => simp
  | cons name names ih => simp [descend, ih]

section

variable {v : Volume} {here next : Location} {p : Path}

theorem folder_of_steps {pieces : List Text} (h : pieces.foldlM v.step here = .ok next)
    {front back : List Part} {part : Part}
    (hparts : pieces.filterMap partOf? = front ++ part :: back) :
    v.at? (front.foldl descend here) = some .folder := by
  induction pieces generalizing here front with
  | nil => simp at hparts
  | cons piece pieces ih =>
    rw [List.foldlM_cons] at h
    obtain ⟨middle, hstep, hrest⟩ := Except.bind_eq_ok.mp h
    obtain ⟨hfolder, rfl, -⟩ := step_eq_ok.mp hstep
    cases hpiece : partOf? piece with
    | none =>
      rw [List.filterMap_cons_none hpiece] at hparts
      rw [follow, hpiece] at hrest
      exact ih hrest hparts
    | some first =>
      rw [List.filterMap_cons_some hpiece] at hparts
      rw [follow, hpiece] at hrest
      cases front with
      | nil => exact hfolder
      | cons first' front =>
        obtain ⟨rfl, hpieces⟩ := List.cons.inj hparts
        exact ih hrest hpieces

theorem foldl_descend_lead (v : Volume) (p : Path) :
    (Path.lead p.isAbsolute p.pieces.head?).foldl descend v.base = v.start p := by
  rw [Path.lead, start]
  cases p.isAbsolute with
  | true => rfl
  | false => cases (p.pieces.head? == some ['.']) <;> rfl

theorem folder_of_locate (h : v.locate p = .ok next) {front back : List Part} {name : Text}
    (hparts : p.parts = front ++ .name name :: back) :
    v.at? (front.foldl descend v.base) = some .folder := by
  rw [locate] at h
  split at h
  · cases h
  · rw [Path.parts_eq] at hparts
    -- What a path begins with is no name, so all of it is in front.
    obtain ⟨middle, rfl, hmiddle⟩ | ⟨middle, hlead, hmiddle⟩ := List.append_eq_append_iff.mp hparts
    · rw [List.foldl_append, foldl_descend_lead]
      exact folder_of_steps h hmiddle
    · cases middle with
      | nil =>
        rw [List.append_nil] at hlead
        rw [← hlead, foldl_descend_lead]
        exact @folder_of_steps _ _ _ _ h [] _ _ hmiddle.symm
      | cons first middle =>
        obtain ⟨rfl, -⟩ := List.cons.inj hmiddle
        have hmem : Part.name name ∈ Path.lead p.isAbsolute p.pieces.head? := by
          rw [hlead]
          simp
        rcases Path.mem_lead hmem with hname | hname <;> cases hname

end

/-- Names that lead from a place through folders to a file. -/
def Way (v : Volume) (place : Location) : List Text → Prop
  | [] => ∃ bytes, v.at? place = some (.file bytes)
  | name :: rest => v.at? place = some .folder ∧ Way v (place ++ [name]) rest

section

variable {v : Volume} {place : Location} {names : List Text}

theorem way_iff : v.Way place names ↔
    (∀ front name back, names = front ++ name :: back → v.at? (place ++ front) = some .folder) ∧
      ∃ bytes, v.at? (place ++ names) = some (.file bytes) := by
  induction names generalizing place with
  | nil => simp [Way]
  | cons name rest ih =>
    rw [Way, ih]
    constructor
    · rintro ⟨hfolder, hfolders, hfile⟩
      refine ⟨fun front name' back hsplit => ?_, by simpa using hfile⟩
      cases front with
      | nil => simpa using hfolder
      | cons first front =>
        obtain ⟨rfl, hrest⟩ := List.cons.inj hsplit
        simpa using hfolders front name' back hrest
    · rintro ⟨hfolders, hfile⟩
      refine ⟨by simpa using hfolders [] name rest rfl, fun front name' back hsplit => ?_,
        by simpa using hfile⟩
      simpa using hfolders (name :: front) name' back (by rw [hsplit]; rfl)

theorem way_of_read {p : Path} {bytes : ByteArray} (h : v.read p = .ok bytes) {front : List Part}
    (hparts : p.parts = front ++ names.map .name) : v.Way (front.foldl descend v.base) names := by
  obtain ⟨hlocate, hat⟩ := read_eq_ok.mp h
  have hplace : v.place p = front.foldl descend v.base ++ names := by
    rw [Volume.place, hparts, List.foldl_append, foldl_descend_names]
  refine way_iff.mpr ⟨fun before name after hsplit => ?_, bytes, hplace ▸ hat⟩
  have hbefore : p.parts = front ++ before.map Part.name ++ .name name :: after.map Part.name := by
    rw [hparts, hsplit]
    simp
  have hfolder := folder_of_locate hlocate hbefore
  rwa [List.foldl_append, foldl_descend_names] at hfolder

theorem exists_mem_of_at? {item : Item} (hne : place ≠ []) (h : v.at? place = some item) :
    place ∈ v.items.map Prod.fst := by
  rw [at?, if_neg (by simpa using hne)] at h
  obtain ⟨entry, hentry, -⟩ := Option.map_eq_some_iff.mp h
  have hkey := List.find?_some hentry
  exact List.mem_map.mpr ⟨entry, List.mem_of_find?_eq_some hentry, beq_iff_eq.mp hkey⟩

theorem mem_namesAt {name : Text} {item : Item} (h : v.at? (place ++ [name]) = some item) :
    name ∈ v.namesAt place := by
  have hkey := exists_mem_of_at? (List.concat_ne_nil _ _) h
  obtain ⟨entry, hentry, hkey⟩ := List.mem_map.mp hkey
  rw [namesAt, (List.mergeSort_perm _ _).mem_iff, List.mem_filterMap]
  exact ⟨entry, hentry, nameBelow?_eq_some_iff.mpr hkey⟩

theorem Way.exists_item (h : v.Way place names) : ∃ item, v.at? place = some item := by
  cases names with
  | nil => exact h.imp' _ fun bytes hat => hat
  | cons name rest => exact ⟨_, h.1⟩

theorem length_le_of_items (place : Location) (h : ∀ k < names.length, ∃ item,
    v.at? (place ++ names.take (k + 1)) = some item) : names.length ≤ v.items.length := by
  let passed := (List.range names.length).map fun k => place ++ names.take (k + 1)
  have hnodup : passed.Nodup := by
    refine List.Nodup.of_map List.length ?_
    have hlengths : passed.map List.length =
        (List.range names.length).map fun k => place.length + (k + 1) := by
      rw [List.map_map]
      refine List.map_congr_left fun k hk => ?_
      have hlt := List.mem_range.mp hk
      simp only [Function.comp_apply, List.length_append, List.length_take]
      omega
    rw [hlengths]
    exact List.Nodup.map (fun i j hij => by omega) List.nodup_range
  have hsubset : passed ⊆ v.items.map Prod.fst := by
    intro here hhere
    obtain ⟨k, hk, rfl⟩ := List.mem_map.mp hhere
    have hlt := List.mem_range.mp hk
    obtain ⟨item, hitem⟩ := h k hlt
    refine exists_mem_of_at? (fun hnil => ?_) hitem
    have hlength := congrArg List.length hnil
    simp only [List.length_append, List.length_take, List.length_nil] at hlength
    omega
  have hle := (List.subperm_of_subset hnodup hsubset).length_le
  simpa [passed] using hle

/-- What a way passes are different items, so a way is not longer than there are items. -/
theorem Way.length_le (h : v.Way place names) : names.length ≤ v.items.length := by
  refine length_le_of_items place fun k hlt => ?_
  obtain ⟨hfolders, bytes, hfile⟩ := way_iff.mp h
  rcases Nat.lt_or_ge (k + 1) names.length with hmore | hall
  · refine ⟨_, hfolders _ names[k + 1] (names.drop (k + 2)) ?_⟩
    rw [← List.drop_eq_getElem_cons hmore, List.take_append_drop]
  · exact ⟨_, by rw [List.take_of_length_le hall, hfile]⟩

end

end Volume

-- ---------------------------------------------------------------------------
-- Lines
-- ---------------------------------------------------------------------------

namespace Walk

open Swatchbook.Path

/-- What a walk comes by on the way to a file. -/
def line (depth : Nat) (path : Path) : List Text → List Sighting
  | [] => []
  | name :: rest =>
    ⟨path, name, if rest.isEmpty then .file else .folder, depth⟩ ::
      line (depth + 1) (path.join ⟨name⟩) rest

section

variable {v : Volume} {fuel depth : Nat} {place : Location} {path : Path} {names : List Text}

theorem line_sublist (h : v.Way place names) (hfuel : names.length ≤ fuel) :
    (line depth path names).Sublist (below v fuel depth place path) := by
  induction names generalizing fuel depth place path with
  | nil => exact List.nil_sublist _
  | cons name rest ih =>
    obtain ⟨fuel, rfl⟩ : ∃ n, fuel = n + 1 := ⟨fuel - 1, by simp at hfuel; omega⟩
    obtain ⟨item, hitem⟩ := h.2.exists_item
    have hname : (line depth path (name :: rest)).Sublist
        (belowName v fuel depth place path name) := by
      cases rest with
      | nil =>
        obtain ⟨bytes, hfile⟩ := h.2
        rw [belowName, hfile]
        exact List.Sublist.refl _
      | cons next rest =>
        rw [belowName, h.2.1]
        exact (ih h.2 (by simpa using hfuel)).cons_cons _
    rw [below_succ]
    exact hname.trans (List.sublist_flatten_of_mem
      (List.mem_map_of_mem (Volume.mem_namesAt hitem)))

theorem isChain_line (s : Sighting) (hs : s.path.parts = path.parts) :
    (s :: line depth path names).IsChain fun a b => a.path.same b.parentPath = true := by
  induction names generalizing depth path s with
  | nil => exact .singleton _
  | cons name rest ih => exact .cons_cons (same_iff.mpr hs) (ih _ rfl)

theorem map_name_line : (line depth path names).map Sighting.name = names := by
  induction names generalizing depth path with
  | nil => rfl
  | cons name rest ih => rw [line, List.map_cons, ih]

theorem exists_line_eq (hne : names ≠ []) : ∃ folders file,
    line depth path names = folders ++ [file] ∧ (∀ s ∈ folders, s.kind = .folder) ∧
      file.kind = .file := by
  induction names generalizing depth path with
  | nil => exact absurd rfl hne
  | cons name rest ih =>
    cases rest with
    | nil => exact ⟨[], ⟨path, name, .file, depth⟩, rfl, List.forall_mem_nil _, rfl⟩
    | cons next rest =>
      obtain ⟨folders, file, hline, hfolders, hfile⟩ := ih (List.cons_ne_nil next rest)
      refine ⟨⟨path, name, .folder, depth⟩ :: folders, file, ?_, ?_, hfile⟩
      · rw [line, hline]
        rfl
      · exact List.forall_mem_cons.mpr ⟨rfl, hfolders⟩

theorem folder_of_mem_line (h : v.Way (v.place path) names)
    (hproper : ∀ name ∈ names, (Part.name name).Proper) {s : Sighting}
    (hs : s ∈ line depth path names) (hfolder : s.kind = .folder) :
    v.at? (v.place s.path) = some .folder := by
  induction names generalizing depth path with
  | nil => cases hs
  | cons name rest ih =>
    rw [List.forall_mem_cons] at hproper
    have hplace : v.place (path.join ⟨name⟩) = v.place path ++ [name] := by
      rw [Volume.place, parts_join_name path hproper.1, List.foldl_append]
      rfl
    rcases List.mem_cons.mp hs with rfl | hs
    · cases rest with
      | nil => cases hfolder
      | cons next rest =>
        rw [Sighting.path, hplace]
        exact h.2.1
    · exact ih (hplace ▸ h.2) hproper.2 hs

end

section

variable {v : Volume} (hv : v.WellFormed) {fuel depth : Nat} {place : Location} {path : Path}
  {s : Sighting}

include hv

theorem proper_of_mem_below (h : s ∈ below v fuel depth place path) :
    (Part.name s.name).Proper := by
  induction fuel generalizing depth place path with
  | zero => cases h
  | succ fuel ih =>
    rw [below_succ] at h
    obtain ⟨name, hname, hs⟩ := List.mem_flatMap.mp h
    have hproper := hv.proper_of_mem_namesAt hname
    rw [belowName] at hs
    split at hs
    · cases hs
    · rw [List.mem_singleton.mp hs]
      exact hproper
    · rcases List.mem_cons.mp hs with rfl | hs
      · exact hproper
      · exact ih hs

theorem exists_parentPath (h : s ∈ below v fuel depth place path) :
    ∃ names : List Text, s.parentPath.parts = path.parts ++ names.map .name := by
  obtain ⟨name, names, hparts⟩ := exists_under hv h
  have hpath : s.path.parts = s.parentPath.parts ++ [.name s.name] :=
    parts_join_name s.parentPath (proper_of_mem_below hv h)
  refine ⟨(name :: names).dropLast, ?_⟩
  have hdrop := congrArg List.dropLast (hpath.symm.trans hparts)
  rwa [List.dropLast_concat, List.dropLast_append_of_ne_nil (List.cons_ne_nil _ _),
    ← List.map_cons (f := Part.name), ← List.map_dropLast] at hdrop

end

-- ---------------------------------------------------------------------------
-- The root
-- ---------------------------------------------------------------------------

/-- A root that is recorded under its own path. Only a relative path with a double point
behind something else is recorded under another. -/
def Traced (root : Path) : Prop :=
  root.isAbsolute = true ∨ root.parts.getLast? ≠ some .up ∨ root.parts = [.up] ∨
    root.parts = [.here, .up]

instance (root : Path) : Decidable (Traced root) := inferInstanceAs (Decidable (_ ∨ _))

section

variable {root : Path} {kind : FileKind}

theorem rootSighting_of_name {init : List Part} {name : Text}
    (h : root.parts = init ++ [.name name]) :
    (rootSighting root kind).path.parts = root.parts := by
  obtain ⟨parent, hparent, hinit⟩ := parts_parent? h (by simp)
  have hname : root.fileName? = some name := by
    rw [fileName?, h, List.getLast?_concat]
  have hproper : (Part.name name).Proper := proper_of_name_mem (p := root) (by simp [h])
  rw [Sighting.path, rootSighting, hparent, hname, h, ← hinit]
  exact parts_join_name parent hproper

theorem rootSighting_of_none (h : root.fileName? = none) :
    (rootSighting root kind).path = (root.parent?.getD .empty).join root := by
  rw [Sighting.path, rootSighting, h]
  rfl

theorem fileName?_eq_none (h : ∀ name, root.parts.getLast? ≠ some (.name name)) :
    root.fileName? = none := by
  rw [fileName?]
  split
  · next name hlast => exact absurd hlast (h name)
  · rfl

theorem rootSighting_of_isAbsolute (h : root.isAbsolute = true) :
    (rootSighting root kind).path.parts = root.parts := by
  by_cases hname : ∃ name, root.parts.getLast? = some (.name name)
  · obtain ⟨name, hname⟩ := hname
    obtain ⟨init, hinit⟩ := List.getLast?_eq_some_iff.mp hname
    exact rootSighting_of_name hinit
  · rw [rootSighting_of_none (fileName?_eq_none fun name hlast => hname ⟨name, hlast⟩),
      join_of_isAbsolute h]

theorem rootSighting_of_no_pieces (h : root.isAbsolute = false)
    (hpieces : root.pieces.filterMap partOf? = []) :
    (rootSighting root kind).path.parts = root.parts := by
  have hparts := parts_of_relative h
  rw [hpieces] at hparts
  have hparent : (root.parent?.getD .empty).spelling = [] := by
    rcases hparts with hnil | hhere
    · rw [parent?, hnil]
      rfl
    · obtain ⟨parent, hparent, hinit⟩ := @parts_parent? root [] .here hhere (by simp)
      rw [hparent, Option.getD_some]
      exact eq_nil_of_parts hinit
  have hname : root.fileName? = none := by
    rw [fileName?]
    rcases hparts with hnil | hhere
    · rw [hnil]
      rfl
    · rw [hhere]
      rfl
  rw [rootSighting_of_none hname, join_of_empty hparent]

/-- A relative path with a double point at its end is put behind the folder it names. -/
theorem rootSighting_of_up (h : root.isAbsolute = false) {init front : List Part}
    (hinit : root.parts = init ++ [.up])
    (hfront : root.pieces.filterMap partOf? = front ++ [.up]) :
    (rootSighting root kind).path.parts =
      if init = [] then [.up] else init ++ front ++ [.up] := by
  obtain ⟨parent, hparent, hfolder⟩ := parts_parent? hinit (by simp)
  rw [rootSighting_of_none (fileName?_eq_none (by simp [hinit])), hparent, Option.getD_some]
  split
  · next hnil =>
    rw [join_of_empty (eq_nil_of_parts (hfolder.trans hnil)), hinit, hnil]
    rfl
  · next hne =>
    have hspelling : parent.spelling ≠ [] := fun hempty =>
      hne (hfolder.symm.trans (parts_of_empty hempty))
    rw [parts_join h hspelling, hfolder, hfront, List.append_assoc]

theorem rootSighting_cases (root : Path) (kind : FileKind) :
    Traced root ∧ (rootSighting root kind).path.parts = root.parts ∨
      ¬ Traced root ∧ ∃ init front : List Part, front ≠ [] ∧ root.parts = init ++ [.up] ∧
        (rootSighting root kind).path.parts = init ++ front ++ [.up] := by
  cases habsolute : root.isAbsolute with
  | true => exact .inl ⟨.inl habsolute, rootSighting_of_isAbsolute habsolute⟩
  | false =>
    have hparts := parts_of_relative habsolute
    rcases List.eq_nil_or_concat' (root.pieces.filterMap partOf?) with hnil | ⟨front, last, hfront⟩
    · refine .inl ⟨.inr (.inl ?_), rootSighting_of_no_pieces habsolute hnil⟩
      rw [hnil] at hparts
      rcases hparts with hparts | hparts <;> simp [hparts]
    · have hproper : ∀ part ∈ front ++ [last], part.Proper := fun part hm =>
        proper_of_mem_pieces (hfront ▸ hm)
      obtain ⟨init, hinit, hlead⟩ : ∃ init, root.parts = init ++ [last] ∧
          (init = front ∨ init = .here :: front) := by
        rw [hfront] at hparts
        rcases hparts with hparts | hparts
        · exact ⟨front, hparts, .inl rfl⟩
        · exact ⟨.here :: front, hparts, .inr rfl⟩
      cases last with
      | root => exact absurd rfl (hproper _ (by simp)).ne_root
      | here => exact absurd rfl (hproper _ (by simp)).ne_here
      | name name =>
        refine .inl ⟨.inr (.inl ?_), rootSighting_of_name hinit⟩
        simp [hinit]
      | up =>
        have hpath := @rootSighting_of_up root kind habsolute _ _ hinit hfront
        by_cases hfirst : front = []
        · subst hfirst
          refine .inl ?_
          rcases hlead with rfl | rfl
          · exact ⟨.inr (.inr (.inl hinit)), hpath.trans hinit.symm⟩
          · exact ⟨.inr (.inr (.inr hinit)), hpath.trans hinit.symm⟩
        · refine .inr ⟨?_, init, front, hfirst, hinit, ?_⟩
          · rintro (htraced | htraced | htraced | htraced)
            · rw [habsolute] at htraced
              cases htraced
            · simp [hinit] at htraced
            · have hnil : init = [] := by simpa using hinit.symm.trans htraced
              rcases hlead with rfl | rfl
              · exact hfirst hnil
              · cases hnil
            · have hhere : init = [.here] := List.append_inj_left' (hinit.symm.trans htraced) rfl
              rcases hlead with rfl | rfl
              · exact (hproper .here (by simp [hhere])).ne_here rfl
              · exact hfirst (List.cons.inj hhere).2
          · rw [hpath, if_neg]
            rcases hlead with rfl | rfl
            · exact hfirst
            · simp

theorem rootSighting_of_traced (h : Traced root) :
    (rootSighting root kind).path.parts = root.parts := by
  rcases rootSighting_cases root kind with ⟨-, hpath⟩ | ⟨hnot, -⟩
  · exact hpath
  · exact absurd h hnot

/-- A root that anything is recorded below is recorded under its own path. -/
theorem traced_of_parts {names : List Text}
    (h : (rootSighting root kind).path.parts = root.parts ++ names.map .name) :
    Traced root := by
  rcases rootSighting_cases root kind with ⟨htraced, -⟩ | ⟨-, init, front, hne, hroot, hpath⟩
  · exact htraced
  · rw [hpath, hroot, List.append_assoc, List.append_assoc] at h
    have hrest := List.append_cancel_left h
    rcases List.eq_nil_or_concat' names with rfl | ⟨before, name, rfl⟩
    · exact absurd (List.append_left_eq_self.mp hrest) hne
    · rw [List.map_append, ← List.append_assoc] at hrest
      cases List.append_inj_right' hrest rfl

theorem sightings_eq_ok {v : Volume} {found : List Sighting} (h : sightings v root = .ok found) :
    v.locate root = .ok (v.place root) ∧
      ((∃ bytes, v.at? (v.place root) = some (.file bytes)) ∧ found = [rootSighting root .file] ∨
        v.at? (v.place root) = some .folder ∧ found = rootSighting root .folder ::
          below v (v.items.length + 1) 1 (v.place root) root) := by
  rw [sightings] at h
  split at h
  · cases h
  · next place hlocate =>
    obtain rfl := Volume.locate_eq_ok hlocate
    refine ⟨hlocate, ?_⟩
    split at h
    · cases h
    · next bytes hfile =>
      cases h
      exact .inl ⟨⟨bytes, hfile⟩, rfl⟩
    · next hfolder =>
      cases h
      exact .inr ⟨hfolder, rfl⟩

end

end Walk

-- ---------------------------------------------------------------------------
-- Children
-- ---------------------------------------------------------------------------

namespace Catalog

section

variable {c : Catalog} {s : Sighting} {i : Nat} {e : Entry}

theorem exists_of_parentId? (h : c.Sound) (hparent : c.parentId? s = some i) :
    ∃ e, c.entry? i = some e ∧ e.path.same s.parentPath = true := by
  obtain ⟨e, hfind, rfl⟩ := Option.map_eq_some_iff.mp hparent
  have hsame := @List.find?_some _ _ _ c.entries.reverse hfind
  exact ⟨e, h.entry?_of_find? hfind, hsame⟩

theorem parentId?_eq_some (h : c.Sound) (he : c.entry? i = some e)
    (hsame : e.path.same s.parentPath = true)
    (honly : ∀ {k x}, c.entry? k = some x → x.path.same s.parentPath = true → k = i) :
    c.parentId? s = some i := by
  cases hparent : c.parentId? s with
  | none =>
    have hnone := Option.map_eq_none_iff.mp hparent
    have hmem : e ∈ c.entries.reverse := List.mem_reverse.mpr (List.mem_of_getElem? he)
    exact absurd hsame (List.find?_eq_none.mp hnone e hmem)
  | some k =>
    obtain ⟨x, hx, hother⟩ := exists_of_parentId? h hparent
    rw [honly hx hother]

/-- Whatever names a folder as its parent is a child of it. -/
def Complete (c : Catalog) : Prop :=
  ∀ i j x, c.entry? j = some x → x.parent = some i → c.Step i j

theorem Step.insert {j : Nat} (h : c.Step i j) (s : Sighting) : (c.insert s).Step i j := by
  obtain ⟨e, he, hj⟩ := h
  exact ⟨_, entry?_insert_of_some s he, mem_children_grown.mpr (.inl hj)⟩

theorem Complete.insert (h : c.Complete) (hsound : c.Sound) (s : Sighting) :
    (c.insert s).Complete := by
  intro i j x hx hparent
  obtain ⟨rfl, rfl⟩ | ⟨-, old, hold, rfl⟩ := entry?_insert_cases hx
  · obtain ⟨e, he, -⟩ := exists_of_parentId? hsound hparent
    exact ⟨_, entry?_insert_of_some s he, mem_children_grown.mpr (.inr ⟨hparent, rfl⟩)⟩
  · rw [parent_grown] at hparent
    exact (h i j old hold hparent).insert s

theorem complete_ofSightings (found : List Sighting) : (ofSightings found).Complete := by
  refine ofSightings_induction (P := fun _ c => c.Complete) ?_ ?_ found
  · intro i j x hx
    simp [empty, entry?] at hx
  · exact fun found s h => h.insert (sound_ofSightings found) s

theorem parent_foldl (after : List Sighting) (h : c.entry? i = some e) :
    ∃ x, Catalog.entry? (after.foldl Catalog.insert c) i = some x ∧ x.parent = e.parent := by
  induction after generalizing c e with
  | nil => exact ⟨e, h, rfl⟩
  | cons s after ih =>
    obtain ⟨x, hx, hparent⟩ := ih (entry?_insert_of_some s h)
    exact ⟨x, hx, hparent.trans parent_grown⟩

theorem length_ofSightings (found : List Sighting) :
    (ofSightings found).entries.length = found.length := by
  simpa using congrArg List.length (map_seen_ofSightings found)

theorem exists_parent (before : List Sighting) (s : Sighting) (after : List Sighting) :
    ∃ x, Catalog.entry? (ofSightings (before ++ s :: after)) before.length = some x ∧
      x.parent = (ofSightings before).parentId? s := by
  have hentry : Catalog.entry? ((ofSightings before).insert s) before.length =
      some ((ofSightings before).recorded s) := by
    rw [entry?_insert, if_pos (length_ofSightings before).symm]
  rw [ofSightings, List.foldl_append, List.foldl_cons]
  exact parent_foldl after hentry

end

section

variable {found : List Sighting} {i j : Nat} {s t : Sighting}

theorem exists_around (h : found[i]? = some s) :
    ∃ before after, found = before ++ s :: after ∧ before.length = i := by
  obtain ⟨hi, rfl⟩ := List.getElem?_eq_some_iff.mp h
  refine ⟨found.take i, found.drop (i + 1), ?_, by simp; omega⟩
  rw [← List.drop_eq_getElem_cons hi, List.take_append_drop]

theorem exists_of_step (h : (ofSightings found).Step i j) : ∃ t s, found[i]? = some t ∧
    found[j]? = some s ∧ t.path.same s.parentPath = true := by
  have hsound := sound_ofSightings found
  obtain ⟨e, he, hj⟩ := h
  obtain ⟨-, x, hx, hparent⟩ := hsound.child he hj
  obtain ⟨s, hs, -⟩ := exists_records hx
  obtain ⟨before, after, rfl, rfl⟩ := exists_around hs
  obtain ⟨y, hy, hother⟩ := exists_parent before s after
  obtain rfl : x = y := Option.some.inj (hx.symm.trans hy)
  obtain ⟨d, hd, hsame⟩ := exists_of_parentId? (sound_ofSightings before) (hother.symm.trans hparent)
  obtain ⟨t, ht, hrecords⟩ := exists_records hd
  refine ⟨t, s, ?_, hs, by rwa [hrecords.path]⟩
  rw [List.getElem?_append_left (List.getElem?_eq_some_iff.mp ht).1, ht]

/-- If no two sightings have one path, whatever comes behind its folder is a child of it. -/
theorem step_of_parentPath (hnodup : (found.map fun s => s.path.parts).Nodup)
    (hi : found[i]? = some t) (hj : found[j]? = some s) (hlt : i < j)
    (hsame : t.path.same s.parentPath = true) : (ofSightings found).Step i j := by
  obtain ⟨before, after, rfl, rfl⟩ := exists_around hj
  rw [List.getElem?_append_left hlt] at hi
  obtain ⟨x, hx, hparent⟩ := exists_parent before s after
  refine complete_ofSightings _ _ _ x hx (hparent.trans ?_)
  obtain ⟨e, he, hrecords⟩ := exists_entry hi
  rw [hrecords.path] at hsame
  refine parentId?_eq_some (sound_ofSightings before) he hsame ?_
  intro k y hy hother
  obtain ⟨u, hu, hrecords'⟩ := exists_records hy
  rw [← hrecords'.path] at hother
  -- Both have the path of the folder, and one path is recorded once.
  have hparts : u.path.parts = t.path.parts := by
    rw [Path.same_iff.mp hother, hrecords.path, Path.same_iff.mp hsame]
  rw [List.map_append] at hnodup
  refine (List.getElem?_inj ?_ (List.nodup_append.mp hnodup).1).mp ?_
  · simpa using (List.getElem?_eq_some_iff.mp hu).1
  · rw [List.getElem?_map, List.getElem?_map, hu, hi, Option.map_some, Option.map_some, hparts]

theorem exists_of_cons_sublist {line : List Sighting} (h : (s :: line).Sublist found) :
    ∃ k, found[k]? = some s ∧ line.Sublist (found.drop (k + 1)) := by
  obtain ⟨front, back, rfl, hmem, hline⟩ := List.cons_sublist_iff.mp h
  obtain ⟨before, after, rfl⟩ := List.append_of_mem hmem
  refine ⟨before.length, by simp, hline.trans ?_⟩
  have hdrop : (before ++ s :: after ++ back).drop (before.length + 1) = after ++ back := by
    simp
  rw [hdrop]
  exact List.sublist_append_right after back

theorem chain_of_line (hnodup : (found.map fun s => s.path.parts).Nodup)
    {line : List Sighting} (hi : found[i]? = some t) (hline : line.Sublist (found.drop (i + 1)))
    (hlinked : (t :: line).IsChain fun a b => a.path.same b.parentPath = true) :
    ∃ above last, (ofSightings found).Chain i above last ∧
      List.Forall₂ Records (t :: line) (above ++ [last]) := by
  induction line generalizing i t with
  | nil =>
    obtain ⟨e, he, hrecords⟩ := exists_entry hi
    exact ⟨[], e, .here he, .cons hrecords .nil⟩
  | cons s line ih =>
    obtain ⟨hsame, hrest⟩ := List.isChain_cons_cons.mp hlinked
    obtain ⟨k, hk, hbehind⟩ := exists_of_cons_sublist hline
    rw [List.getElem?_drop] at hk
    rw [List.drop_drop] at hbehind
    obtain ⟨e, he, hrecords⟩ := exists_entry hi
    obtain ⟨above, last, hchain, hforall⟩ := ih hk hbehind hrest
    obtain ⟨e', he', hj⟩ := step_of_parentPath hnodup hi hk (by omega) hsame
    obtain rfl : e = e' := Option.some.inj (he.symm.trans he')
    exact ⟨e :: above, last, .child he hj hchain, .cons hrecords hforall⟩

theorem head_of_chain {c : Catalog} {above : List Entry} {last e : Entry}
    (h : c.Chain i above last) (he : c.entry? i = some e) :
    ∃ rest, above ++ [last] = e :: rest := by
  cases h with
  | here hi => exact ⟨[], by rw [Option.some.inj (he.symm.trans hi)]; rfl⟩
  | child hi _ _ => exact ⟨_, by rw [Option.some.inj (he.symm.trans hi)]; rfl⟩

theorem parts_of_chain (hproper : ∀ s ∈ found.tail, (Part.name s.name).Proper) {above : List Entry}
    {last : Entry} (h : (ofSightings found).Chain i above last) {e : Entry}
    (he : Catalog.entry? (ofSightings found) i = some e) :
    last.path.parts = e.path.parts ++ (above ++ [last]).tail.map fun x => .name x.name := by
  induction h generalizing e with
  | here hi =>
    obtain rfl := Option.some.inj (hi.symm.trans he)
    simp
  | @child i j d last above hi hj hchain ih =>
    obtain rfl := Option.some.inj (hi.symm.trans he)
    obtain ⟨hlt, -⟩ := (sound_ofSightings found).child hi hj
    obtain ⟨t, s, ht, hs, hsame⟩ := exists_of_step ⟨d, hi, hj⟩
    obtain ⟨x, hx, hrecords⟩ := exists_entry hs
    obtain ⟨t', ht', hfolder⟩ := exists_records hi
    obtain rfl := Option.some.inj (ht.symm.trans ht')
    have hmem : s ∈ found.tail := by
      rw [List.mem_iff_getElem?]
      refine ⟨j - 1, ?_⟩
      rw [List.getElem?_tail, Nat.sub_add_cancel (by omega), hs]
    have hparts : x.path.parts = d.path.parts ++ [.name x.name] := by
      rw [← hrecords.path, ← hrecords.name, ← hfolder.path, Path.same_iff.mp hsame]
      exact Path.parts_join_name s.parentPath (hproper s hmem)
    obtain ⟨rest, hrest⟩ := head_of_chain hchain hx
    rw [ih hx, hparts, List.cons_append, List.tail_cons, hrest, List.append_assoc]
    rfl

end

end Catalog

-- ---------------------------------------------------------------------------
-- Chains of a walk
-- ---------------------------------------------------------------------------

namespace Catalog

theorem forall₂_concat {xs : List Sighting} {x : Sighting} {ys : List Entry} {y : Entry}
    (h : List.Forall₂ Records (xs ++ [x]) (ys ++ [y])) : List.Forall₂ Records xs ys ∧ Records x y := by
  rw [← List.forall₂_reverse_iff, List.reverse_concat, List.reverse_concat, List.forall₂_cons,
    List.forall₂_reverse_iff] at h
  exact h.symm

theorem map_name_of_records {xs : List Sighting} {ys : List Entry} (h : List.Forall₂ Records xs ys) :
    xs.map Sighting.name = ys.map Entry.name := by
  induction h with
  | nil => rfl
  | cons hxy _ ih => rw [List.map_cons, List.map_cons, hxy.name, ih]

theorem forall_of_records {P : Sighting → Prop} {Q : Entry → Prop}
    (himp : ∀ {s e}, Records s e → P s → Q e) {xs : List Sighting} {ys : List Entry}
    (h : List.Forall₂ Records xs ys) (hxs : ∀ s ∈ xs, P s) : ∀ e ∈ ys, Q e := by
  induction h with
  | nil => exact List.forall_mem_nil _
  | cons hxy _ ih =>
    rw [List.forall_mem_cons] at hxs ⊢
    exact ⟨himp hxy hxs.1, ih hxs.2⟩

end Catalog

namespace Walk

open Swatchbook.Catalog

variable {v : Volume} {root : Path} {found : List Sighting}

/-- The root comes first, and all else is below it. -/
theorem exists_rest (h : sightings v root = .ok found) : ∃ kind rest,
    found = rootSighting root kind :: rest ∧
      ∀ s ∈ rest, s ∈ below v (v.items.length + 1) 1 (v.place root) root := by
  obtain ⟨-, ⟨-, rfl⟩ | ⟨-, rfl⟩⟩ := sightings_eq_ok h
  · exact ⟨.file, [], rfl, List.forall_mem_nil _⟩
  · exact ⟨.folder, _, rfl, fun s hs => hs⟩

section

variable (hv : v.WellFormed) (hfound : sightings v root = .ok found)

include hv hfound

theorem nodup_sightings (htraced : Traced root) : (found.map fun s => s.path.parts).Nodup := by
  obtain ⟨-, ⟨-, rfl⟩ | ⟨-, rfl⟩⟩ := sightings_eq_ok hfound
  · exact List.nodup_singleton _
  · rw [List.map_cons, rootSighting_of_traced htraced]
    refine List.nodup_cons.mpr ⟨fun hm => ?_, nodup_below hv _ _ _ _⟩
    obtain ⟨s, hs, hparts⟩ := List.mem_map.mp hm
    obtain ⟨name, hname⟩ := exists_under hv hs
    exact Nat.lt_irrefl _ (hparts ▸ hname.longer)

/-- A chain that leads anywhere shows that the root is recorded under its own path. What it
leads to is spelled from this path and the names on the way. -/
theorem parts_of_leaf {first leaf : Entry} {between : List Entry}
    (h : (ofSightings found).Chain 0 (first :: between) leaf) : Traced root ∧
      leaf.path.parts = root.parts ++ ((between ++ [leaf]).map Entry.name).map Part.name := by
  obtain ⟨kind, rest, rfl, hrest⟩ := exists_rest hfound
  have hproper : ∀ s ∈ (rootSighting root kind :: rest).tail, (Part.name s.name).Proper :=
    fun s hs => proper_of_mem_below hv (hrest s hs)
  cases h with
  | @child _ j _ _ _ hroot hj hchain =>
    have hparts := parts_of_chain hproper (.child hroot hj hchain) hroot
    obtain ⟨hlt, -⟩ := (sound_ofSightings _).child hroot hj
    obtain ⟨t, s, ht, hs, hsame⟩ := exists_of_step ⟨first, hroot, hj⟩
    obtain ⟨t', ht', hrecords⟩ := exists_records hroot
    obtain rfl := Option.some.inj (ht.symm.trans ht')
    cases ht
    have hmem : s ∈ rest := by
      obtain ⟨j, rfl⟩ : ∃ k, j = k + 1 := ⟨j - 1, by omega⟩
      exact List.mem_of_getElem? hs
    obtain ⟨names, hnames⟩ := exists_parentPath hv (hrest s hmem)
    have htraced := traced_of_parts ((Path.same_iff.mp hsame).trans hnames)
    refine ⟨htraced, ?_⟩
    rw [hparts, ← hrecords.path, rootSighting_of_traced htraced, List.map_map]
    rfl

/-- The way to a file is a chain from the root. -/
theorem exists_chain (htraced : Traced root) {names : List Text} (hne : names ≠ [])
    (hway : v.Way (v.place root) names) (hproper : ∀ name ∈ names, (Part.name name).Proper) :
    ∃ first between leaf, (ofSightings found).Chain 0 (first :: between) leaf ∧
      Records (rootSighting root .folder) first ∧
      (∀ e ∈ between, e.kind = .folder ∧ v.at? (v.place e.path) = some .folder) ∧
      leaf.kind = .file ∧ (between ++ [leaf]).map Entry.name = names := by
  have hnodup := nodup_sightings hv hfound htraced
  have hfolder : v.at? (v.place root) = some .folder := by
    cases names with
    | nil => exact absurd rfl hne
    | cons name rest => exact hway.1
  obtain ⟨-, ⟨⟨bytes, hfile⟩, -⟩ | ⟨-, rfl⟩⟩ := sightings_eq_ok hfound
  · rw [hfolder] at hfile
    cases hfile
  obtain ⟨above, leaf, hchain, hrecords⟩ := @chain_of_line _ 0 (rootSighting root .folder) hnodup
    (line 1 root names) rfl (line_sublist hway (Nat.le_succ_of_le hway.length_le))
    (isChain_line _ (rootSighting_of_traced htraced))
  obtain ⟨folders, file, hline, hfolders, hfile⟩ := @exists_line_eq 1 root names hne
  have hnames := @map_name_line 1 root names
  have hplaces : ∀ s ∈ folders, s.kind = .folder ∧ v.at? (v.place s.path) = some .folder := by
    intro s hs
    have hmem : s ∈ line 1 root names := by simp [hline, hs]
    exact ⟨hfolders s hs, folder_of_mem_line hway hproper hmem (hfolders s hs)⟩
  rw [hline, ← List.cons_append] at hrecords
  obtain ⟨habove, hleaf⟩ := forall₂_concat hrecords
  cases habove with
  | @cons _ first _ between hfirst hbetween =>
    refine ⟨first, between, leaf, hchain, hfirst, ?_, hleaf.kind ▸ hfile, ?_⟩
    · refine forall_of_records ?_ hbetween hplaces
      rintro s e hse ⟨hs, hplace⟩
      exact ⟨hse.kind ▸ hs, hse.path ▸ hplace⟩
    · rw [← hnames, hline, map_name_of_records (List.rel_append hbetween (.cons hleaf .nil))]

end

end Walk

end Swatchbook
