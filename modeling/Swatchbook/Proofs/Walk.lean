import Swatchbook.Proofs.Catalog
import Swatchbook.Proofs.Path
import Mathlib.Data.List.Nodup

/-!
# Walks

In a file system each location is taken once, and what takes it has a name.
There a walk comes by every file below a root once: what it finds below a
folder is spelled from the path of the folder and the names on the way, so no
two of the files have one normal path.
-/

namespace Swatchbook

-- ---------------------------------------------------------------------------
-- Volumes that are file systems
-- ---------------------------------------------------------------------------

instance (part : Part) : Decidable part.Proper :=
  decidable_of_iff (Path.partOf? part.text = some part ∧ '/' ∉ part.text)
    ⟨fun h => ⟨h.1, h.2⟩, fun h => ⟨h.1, h.2⟩⟩

namespace Volume

/-- What holds of any file system: nothing stands at a location twice, and locations
consist of names. -/
structure WellFormed (v : Volume) : Prop where
  once : (v.items.map Prod.fst).Nodup
  named : ∀ entry ∈ v.items, ∀ name ∈ entry.1, (Part.name name).Proper

theorem wellFormed_empty (base : Location) : (Volume.mk base []).WellFormed :=
  ⟨List.nodup_nil, fun _ hm => absurd hm List.not_mem_nil⟩

section

variable {v : Volume} {place : Location} (hplace : ∀ name ∈ place, (Part.name name).Proper)

include hplace

theorem WellFormed.put (hv : v.WellFormed) (item : Item) : (v.put place item).WellFormed := by
  refine ⟨?_, ?_⟩
  · rw [Volume.put, List.map_cons]
    refine List.nodup_cons.mpr ⟨fun hm => ?_, (List.filter_sublist.map Prod.fst).nodup hv.once⟩
    obtain ⟨entry, hentry, rfl⟩ := List.mem_map.mp hm
    simpa using (List.mem_filter.mp hentry).2
  · intro entry hm
    rcases List.mem_cons.mp hm with rfl | hm
    · exact hplace
    · exact hv.named entry (List.mem_filter.mp hm).1

theorem WellFormed.ways (hv : v.WellFormed) {ways : List Location}
    (hways : ∀ way ∈ ways, way <+: place) :
    (ways.foldl (fun v way =>
      if (v.at? way).isSome then v else v.put way .folder) v).WellFormed := by
  induction ways generalizing v with
  | nil => exact hv
  | cons way ways ih =>
    rw [List.forall_mem_cons] at hways
    rw [List.foldl_cons]
    refine ih ?_ hways.2
    split
    · exact hv
    · exact hv.put (fun name hname => hplace name (hways.1.subset hname)) .folder

theorem WellFormed.plant (hv : v.WellFormed) (item : Item) : (v.plant place item).WellFormed := by
  have hways : ∀ way ∈ ((List.range place.length).drop 1).map place.take, way <+: place := by
    rw [List.forall_mem_map]
    exact fun k _ => List.take_prefix k place
  have hfolders := hv.ways hplace hways
  unfold Volume.plant
  dsimp only
  split
  · exact hfolders
  · exact hfolders.put hplace _

end

theorem nameBelow?_eq_some_iff {place : Location} {entry : Location × Item} {name : Text} :
    nameBelow? place entry = some name ↔ entry.1 = place ++ [name] := by
  have hrest {rest : Location} :
      List.isPrefixOf? place entry.1 = some rest ↔ place ++ rest = entry.1 :=
    List.isPrefixOf?_eq_some_iff_append_eq
  rw [@eq_comm _ entry.1, ← hrest, nameBelow?]
  split
  · next found hfound => simp [hfound]
  · next hnone =>
    simp only [reduceCtorEq, false_iff]
    exact hnone name

section

variable {v : Volume} (hv : v.WellFormed) {place : Location}

include hv

theorem WellFormed.nodup_namesAt : (v.namesAt place).Nodup := by
  rw [namesAt, (List.mergeSort_perm _ _).nodup_iff]
  have hpairs := List.pairwise_map.mp hv.once
  refine List.pairwise_filterMap.mpr (hpairs.imp ?_)
  rintro a b hne name ha _ hb rfl
  rw [nameBelow?_eq_some_iff] at ha hb
  exact hne (ha.trans hb.symm)

theorem WellFormed.proper_of_mem_namesAt {name : Text} (h : name ∈ v.namesAt place) :
    (Part.name name).Proper := by
  obtain ⟨entry, hm, hname⟩ := List.mem_filterMap.mp ((List.mergeSort_perm _ _).mem_iff.mp h)
  refine hv.named entry hm name ?_
  rw [nameBelow?_eq_some_iff.mp hname]
  simp

end

end Volume

-- ---------------------------------------------------------------------------
-- Everything below a root
-- ---------------------------------------------------------------------------

namespace Walk

open Swatchbook.Path

variable {v : Volume} {fuel depth : Nat} {place : Location} {path : Path} {name : Text}
  {s : Sighting}

def belowName (v : Volume) (fuel depth : Nat) (place : Location) (path : Path) (name : Text) :
    List Sighting :=
  match v.at? (place ++ [name]) with
  | none => []
  | some (.file _) => [⟨path, name, .file, depth⟩]
  | some .folder =>
    ⟨path, name, .folder, depth⟩ :: below v fuel (depth + 1) (place ++ [name]) (path.join ⟨name⟩)

theorem below_succ : below v (fuel + 1) depth place path =
    (v.namesAt place).flatMap (belowName v fuel depth place path) := rfl

theorem belowName_cases (v : Volume) (fuel depth : Nat) (place : Location) (path : Path)
    (name : Text) : belowName v fuel depth place path name = [] ∨
      ∃ found : Sighting, found.path = path.join ⟨name⟩ ∧
        (belowName v fuel depth place path name = [found] ∨
          belowName v fuel depth place path name =
            found :: below v fuel (depth + 1) (place ++ [name]) (path.join ⟨name⟩)) := by
  rw [belowName]
  split
  · exact .inl rfl
  · exact .inr ⟨_, rfl, .inl rfl⟩
  · exact .inr ⟨_, rfl, .inr rfl⟩

/-- Parts that are found under a name: those of the name, and of names behind it. -/
def Under (path : Path) (name : Text) (parts : List Part) : Prop :=
  ∃ names : List Text, parts = path.parts ++ .name name :: names.map .name

theorem Under.name_unique {name' : Text} {parts : List Part} (h : Under path name parts)
    (h' : Under path name' parts) : name = name' := by
  obtain ⟨names, rfl⟩ := h
  obtain ⟨names', heq⟩ := h'
  have hcons := List.append_cancel_left heq
  exact Part.name.inj (List.cons.inj hcons).1

theorem Under.longer {parts : List Part} (h : Under path name parts) :
    path.parts.length < parts.length := by
  obtain ⟨names, rfl⟩ := h
  simp

theorem Under.join {next : Text} {parts : List Part} (hproper : (Part.name name).Proper)
    (h : Under (path.join ⟨name⟩) next parts) : Under path name parts := by
  obtain ⟨names, rfl⟩ := h
  exact ⟨next :: names, by rw [parts_join_name path hproper, List.append_assoc]; rfl⟩

theorem under_join (path : Path) (hproper : (Part.name name).Proper) :
    Under path name (path.join ⟨name⟩).parts := ⟨[], parts_join_name path hproper⟩

theorem under_of_mem_belowName (hproper : (Part.name name).Proper)
    (hbelow : ∀ s ∈ below v fuel (depth + 1) (place ++ [name]) (path.join ⟨name⟩),
      ∃ next, Under (path.join ⟨name⟩) next s.path.parts)
    (h : s ∈ belowName v fuel depth place path name) : Under path name s.path.parts := by
  obtain hnil | ⟨found, hfound, hone | hmore⟩ := belowName_cases v fuel depth place path name
  · rw [hnil] at h
    cases h
  · rw [hone, List.mem_singleton] at h
    rw [h, hfound]
    exact under_join path hproper
  · rw [hmore] at h
    rcases List.mem_cons.mp h with rfl | h
    · rw [hfound]
      exact under_join path hproper
    · obtain ⟨next, hnext⟩ := hbelow s h
      exact hnext.join hproper

/-- Two sightings do not have one normal path, if they are files. -/
def Apart (s t : Sighting) : Prop :=
  s.kind = .file → t.kind = .file → s.path.normalize ≠ t.path.normalize

theorem apart_of_ne {found : List Sighting} (h : found.Pairwise Apart) {i j : Nat} {s t : Sighting}
    (hi : found[i]? = some s) (hj : found[j]? = some t) (hne : i ≠ j) : Apart s t := by
  obtain ⟨hilen, rfl⟩ := List.getElem?_eq_some_iff.mp hi
  obtain ⟨hjlen, rfl⟩ := List.getElem?_eq_some_iff.mp hj
  rw [List.pairwise_iff_getElem] at h
  rcases Nat.lt_or_gt_of_ne hne with hlt | hgt
  · exact h i j hilen hjlen hlt
  · exact fun hs ht heq => h j i hjlen hilen hgt ht hs heq.symm

section

variable (hv : v.WellFormed)

include hv

theorem exists_under (h : s ∈ below v fuel depth place path) :
    ∃ name, Under path name s.path.parts := by
  induction fuel generalizing depth place path s with
  | zero => cases h
  | succ fuel ih =>
    rw [below_succ] at h
    obtain ⟨name, hname, hs⟩ := List.mem_flatMap.mp h
    exact ⟨name, under_of_mem_belowName (hv.proper_of_mem_namesAt hname) (fun _ hm => ih hm) hs⟩

theorem nodup_below (fuel depth : Nat) (place : Location) (path : Path) :
    ((below v fuel depth place path).map fun s => s.path.parts).Nodup := by
  induction fuel generalizing depth place path with
  | zero => exact List.nodup_nil
  | succ fuel ih =>
    have hunder {name : Text} (hname : name ∈ v.namesAt place) {parts : List Part}
        (hparts : parts ∈ (belowName v fuel depth place path name).map fun s => s.path.parts) :
        Under path name parts := by
      obtain ⟨s, hs, rfl⟩ := List.mem_map.mp hparts
      exact under_of_mem_belowName (hv.proper_of_mem_namesAt hname)
        (fun _ hm => exists_under hv hm) hs
    rw [below_succ, List.map_flatMap]
    refine List.nodup_flatMap.mpr ⟨fun name _ => ?_, ?_⟩
    · obtain hnil | ⟨found, hfound, hone | hmore⟩ := belowName_cases v fuel depth place path name
      · rw [hnil]
        exact List.nodup_nil
      · rw [hone]
        exact List.nodup_singleton _
      · rw [hmore, List.map_cons]
        refine List.nodup_cons.mpr ⟨fun hm => ?_, ih _ _ _⟩
        -- Whatever is below the folder has more parts than the folder.
        obtain ⟨s, hs, heq⟩ := List.mem_map.mp hm
        obtain ⟨next, hnext⟩ := exists_under hv hs
        have hlonger := hnext.longer
        rw [heq, hfound] at hlonger
        exact Nat.lt_irrefl _ hlonger
    · refine hv.nodup_namesAt.imp_of_mem fun {name name'} hname hname' hne => ?_
      exact fun parts hm hm' => hne ((hunder hname hm).name_unique (hunder hname' hm'))

omit hv in
theorem parts_eq_of_normalize {other : Path} {name' : Text} {p : Path}
    (hp : Under path name p.parts) (hother : Under path name' other.parts)
    (h : p.normalize = other.normalize) : p.parts = other.parts := by
  obtain ⟨names, hnames⟩ := hp
  obtain ⟨names', hnames'⟩ := hother
  rw [← List.map_cons (f := Part.name)] at hnames hnames'
  rw [normalize_eq_iff, hnames, hnames', normalParts_append, normalParts_append,
    foldl_fold_names, foldl_fold_names] at h
  rw [hnames, hnames', List.append_cancel_left h]

/-- No two files that a walk comes by have one normal path. -/
theorem pairwise_apart {root : Path} {found : List Sighting} (h : sightings v root = .ok found) :
    found.Pairwise Apart := by
  rw [sightings] at h
  split at h
  · cases h
  · split at h
    · cases h
    · cases h
      exact List.pairwise_singleton _ _
    · cases h
      refine List.pairwise_cons.mpr ⟨fun t _ hroot => ?_, ?_⟩
      · cases hroot
      · refine (List.pairwise_map.mp (nodup_below hv _ _ _ _)).imp_of_mem ?_
        intro s t hs ht hne _ _ heq
        obtain ⟨name, hname⟩ := exists_under hv hs
        obtain ⟨name', hname'⟩ := exists_under hv ht
        exact hne (parts_eq_of_normalize hname hname' heq)

end

end Walk

-- ---------------------------------------------------------------------------
-- Catalogs of walks
-- ---------------------------------------------------------------------------

namespace Catalog

def seen (e : Entry) : Path × Text × FileKind := (e.path, e.name, e.kind)

theorem map_seen_insert (c : Catalog) (s : Sighting) :
    (c.insert s).entries.map seen = c.entries.map seen ++ [(s.path, s.name, s.kind)] := by
  refine c.map_insert s fun i e => ?_
  rw [grown]
  split <;> rfl

theorem map_seen_ofSightings (found : List Sighting) :
    (ofSightings found).entries.map seen = found.map fun s => (s.path, s.name, s.kind) := by
  refine ofSightings_induction (P := fun found c =>
    c.entries.map seen = found.map fun s => (s.path, s.name, s.kind)) rfl ?_ found
  intro found s ih
  rw [map_seen_insert, ih, List.map_append]
  rfl

/-- The entry keeps what the sighting has. -/
structure Records (s : Sighting) (e : Entry) : Prop where
  path : s.path = e.path
  name : s.name = e.name
  kind : s.kind = e.kind

section

variable {found : List Sighting} {i : Nat} {s : Sighting} {e : Entry}

theorem map_seen_entry? (found : List Sighting) (i : Nat) :
    (Catalog.entry? (ofSightings found) i).map seen =
      found[i]?.map fun s => (s.path, s.name, s.kind) := by
  rw [← List.getElem?_map, ← map_seen_ofSightings, List.getElem?_map]
  rfl

theorem records_of_seen (h : (s.path, s.name, s.kind) = seen e) : Records s e := by
  obtain ⟨hpath, hrest⟩ := Prod.mk.inj h
  obtain ⟨hname, hkind⟩ := Prod.mk.inj hrest
  exact ⟨hpath, hname, hkind⟩

theorem exists_records (h : Catalog.entry? (ofSightings found) i = some e) :
    ∃ s, found[i]? = some s ∧ Records s e := by
  have hseen := map_seen_entry? found i
  rw [h, Option.map_some, eq_comm, Option.map_eq_some_iff] at hseen
  obtain ⟨s, hs, hsame⟩ := hseen
  exact ⟨s, hs, records_of_seen hsame⟩

theorem exists_entry (h : found[i]? = some s) :
    ∃ e, Catalog.entry? (ofSightings found) i = some e ∧ Records s e := by
  have hseen := map_seen_entry? found i
  rw [h, Option.map_some, Option.map_eq_some_iff] at hseen
  obtain ⟨e, he, hsame⟩ := hseen
  exact ⟨e, he, records_of_seen hsame.symm⟩

theorem exists_sighting (h : Catalog.entry? (ofSightings found) i = some e) :
    ∃ s, found[i]? = some s ∧ s.path = e.path ∧ s.kind = e.kind := by
  obtain ⟨s, hs, hrecords⟩ := exists_records h
  exact ⟨s, hs, hrecords.path, hrecords.kind⟩

end

theorem entry?_of_chain {c : Catalog} {id : Nat} {above : List Entry} {last : Entry}
    (h : c.Chain id above last) : ∃ i, c.entry? i = some last := by
  induction h with
  | here hi => exact ⟨_, hi⟩
  | child _ _ _ ih => exact ih

end Catalog

end Swatchbook
