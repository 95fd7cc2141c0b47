import Swatchbook.Proofs.Course
import Swatchbook.Proofs.Path

/-!
# Reading and writing files

Where a path leads is known from its parts alone, if it leads anywhere. Making
folders takes nothing away, and writing a file changes no other: whatever could
be read before is read again afterwards, but at the place that was written.
-/

namespace Swatchbook.Volume

open Swatchbook.Path (partOf?)

-- ---------------------------------------------------------------------------
-- Places
-- ---------------------------------------------------------------------------

/-- Where one part leads to from a place. -/
def descend (place : Location) : Part → Location
  | .root => []
  | .here => place
  | .up => place.dropLast
  | .name text => place ++ [text]

/-- Where a path leads to if everything is there. -/
def place (v : Volume) (p : Path) : Location := p.parts.foldl descend v.base

/-- Where a piece leads to. A piece that stands for no part leads nowhere else. -/
def follow (place : Location) (piece : Text) : Location :=
  ((partOf? piece).map (descend place)).getD place

theorem place_eq (v : Volume) (p : Path) : v.place p = (pieces p).foldl follow (v.start p) := by
  have hfollow (places : List Text) (start : Location) :
      (places.filterMap partOf?).foldl descend start = places.foldl follow start := by
    induction places generalizing start with
    | nil => rfl
    | cons piece places ih =>
      rw [List.foldl_cons, ← ih, follow]
      cases h : partOf? piece <;> simp [h]
  rw [place, Path.parts_eq, List.foldl_append, ← hfollow]
  congr 1
  rw [Path.lead, start]
  cases p.isAbsolute with
  | true => rfl
  | false => cases (p.pieces.head? == some ['.']) <;> rfl

section

variable {v w : Volume} {here next : Location} {piece : Text}

theorem step_eq_ok : v.step here piece = .ok next ↔
    v.at? here = some .folder ∧ next = follow here piece ∧
      ((∃ name, partOf? piece = some (.name name)) → (v.at? next).isSome = true) := by
  rw [step]
  cases hat : v.at? here with
  | none => simp
  | some item =>
    cases item with
    | file bytes => simp
    | folder =>
      rw [follow, partOf?]
      dsimp only
      split
      · simp only [Except.ok.injEq, Option.map_none, Option.getD_none, reduceCtorEq, exists_false,
          false_implies, and_true, true_and]
        exact eq_comm
      · split
        · simp only [Except.ok.injEq, Option.map_some, Option.getD_some, descend, Option.some.injEq,
            reduceCtorEq, exists_false, false_implies, and_true, true_and]
          exact eq_comm
        · split
          · next hsome =>
            simp only [Except.ok.injEq, Option.map_some, Option.getD_some, descend, true_and]
            exact ⟨fun h => ⟨h.symm, fun _ => h ▸ hsome⟩, fun h => h.1.symm⟩
          · next hnone =>
            simp only [reduceCtorEq, Option.map_some, Option.getD_some, descend, true_and,
              false_iff]
            rintro ⟨rfl, hsome⟩
            exact hnone (hsome ⟨piece, rfl⟩)

theorem foldlM_step_eq {names : List Text} (h : names.foldlM v.step here = .ok next) :
    next = names.foldl follow here := by
  induction names generalizing here with
  | nil => exact (Except.ok.inj h).symm
  | cons name names ih =>
    rw [List.foldlM_cons, Except.bind_eq_ok] at h
    obtain ⟨middle, hstep, hrest⟩ := h
    obtain ⟨-, rfl, -⟩ := step_eq_ok.mp hstep
    rw [ih hrest, List.foldl_cons]

theorem locate_eq_ok {p : Path} (h : v.locate p = .ok next) : next = v.place p := by
  rw [locate] at h
  split at h
  · cases h
  · rw [place_eq, foldlM_step_eq h]

theorem read_eq_ok {p : Path} {bytes : ByteArray} : v.read p = .ok bytes ↔
    v.locate p = .ok (v.place p) ∧ v.at? (v.place p) = some (.file bytes) := by
  rw [read, look]
  constructor
  · intro h
    obtain ⟨item, hlook, hitem⟩ := Except.bind_eq_ok.mp h
    obtain ⟨here, hlocate, hlook⟩ := Except.bind_eq_ok.mp hlook
    obtain rfl := locate_eq_ok hlocate
    refine ⟨hlocate, ?_⟩
    cases hat : v.at? (v.place p) with
    | none =>
      rw [hat] at hlook
      cases hlook
    | some found =>
      rw [hat] at hlook
      cases hlook
      cases item with
      | folder => cases hitem
      | file other =>
        cases hitem
        rfl
  · rintro ⟨hlocate, hat⟩
    rw [hlocate]
    simp only [bind, Except.bind, hat]
    rfl

end

-- ---------------------------------------------------------------------------
-- Volumes that grow
-- ---------------------------------------------------------------------------

/-- Everything that is there stays there: folders as folders, files as files. -/
structure Extends (v w : Volume) : Prop where
  base : w.base = v.base
  folder : ∀ {here}, v.at? here = some .folder → w.at? here = some .folder
  file : ∀ {here bytes}, v.at? here = some (.file bytes) → ∃ other, w.at? here = some (.file other)

/-- Everything that is there stays as it is. -/
structure Grows (v w : Volume) : Prop where
  base : w.base = v.base
  item : ∀ {here item}, v.at? here = some item → w.at? here = some item

section

variable {u v w : Volume} {here next : Location} {p : Path}

theorem Grows.extends (h : Grows v w) : Extends v w := ⟨h.base, h.item, fun hat => ⟨_, h.item hat⟩⟩

theorem Grows.refl (v : Volume) : Grows v v := ⟨rfl, id⟩

theorem Grows.trans (h : Grows u v) (h' : Grows v w) : Grows u w :=
  ⟨h'.base.trans h.base, fun hat => h'.item (h.item hat)⟩

theorem place_of_base (h : w.base = v.base) (p : Path) : w.place p = v.place p := by
  rw [place, place, h]

theorem Extends.place_eq (h : Extends v w) (p : Path) : w.place p = v.place p :=
  place_of_base h.base p

theorem Extends.isSome (h : Extends v w) (hat : (v.at? here).isSome = true) :
    (w.at? here).isSome = true := by
  obtain ⟨item, hitem⟩ := Option.isSome_iff_exists.mp hat
  cases item with
  | folder => rw [h.folder hitem, Option.isSome_some]
  | file bytes =>
    obtain ⟨other, hother⟩ := h.file hitem
    rw [hother, Option.isSome_some]

theorem Extends.foldlM_step (h : Extends v w) {names : List Text}
    (hfold : names.foldlM v.step here = .ok next) : names.foldlM w.step here = .ok next := by
  induction names generalizing here with
  | nil => exact hfold
  | cons name names ih =>
    rw [List.foldlM_cons, Except.bind_eq_ok] at hfold ⊢
    obtain ⟨middle, hstep, hrest⟩ := hfold
    obtain ⟨hfolder, hnext, hsome⟩ := step_eq_ok.mp hstep
    have hstep' := step_eq_ok.mpr ⟨h.folder hfolder, hnext, fun hname => h.isSome (hsome hname)⟩
    exact ⟨middle, hstep', ih hrest⟩

theorem Extends.locate (h : Extends v w) (hlocate : v.locate p = .ok next) :
    w.locate p = .ok next := by
  rw [Volume.locate] at hlocate ⊢
  split at hlocate
  · cases hlocate
  · next hne =>
    rw [if_neg hne, start, h.base]
    exact h.foldlM_step hlocate

theorem Extends.read (h : Extends v w) {bytes other : ByteArray} (hread : v.read p = .ok other)
    (hat : w.at? (v.place p) = some (.file bytes)) : w.read p = .ok bytes := by
  obtain ⟨hlocate, -⟩ := read_eq_ok.mp hread
  rw [read_eq_ok, h.place_eq]
  exact ⟨h.locate hlocate, hat⟩

theorem grows_put (hne : here ≠ []) (hnew : v.at? here = none) (item : Item) :
    Grows v (v.put here item) := by
  refine ⟨rfl, fun {other _} hat => ?_⟩
  rw [at?_put v here other item hne, if_neg]
  · exact hat
  · rintro rfl
    rw [hnew] at hat
    cases hat

theorem extends_put_file (hne : here ≠ []) (hfile : v.at? here ≠ some .folder) (bytes : ByteArray) :
    Extends v (v.put here (.file bytes)) := by
  refine ⟨rfl, fun {other} hat => ?_, fun {other old} hat => ?_⟩
  · rw [at?_put v here other _ hne, if_neg]
    · exact hat
    · rintro rfl
      exact hfile hat
  · rw [at?_put v here other _ hne]
    split
    · exact ⟨bytes, rfl⟩
    · exact ⟨old, hat⟩

end

-- ---------------------------------------------------------------------------
-- Making folders
-- ---------------------------------------------------------------------------

section

variable {v w : Volume} {here : Location} {p : Path}

theorem newPlace_eq_ok {names : List Text} {dotted : Trouble}
    (h : v.newPlace p names dotted = .ok here) :
    ∃ front name parent, names = front ++ [name] ∧ partOf? name = some (.name name) ∧
      front.foldlM v.step (v.start p) = .ok parent ∧ v.at? parent = some .folder ∧
      here = parent ++ [name] := by
  rw [newPlace] at h
  cases hlast : names.getLast? with
  | none =>
    rw [hlast] at h
    cases h
  | some name =>
    obtain ⟨front, rfl⟩ := List.getLast?_eq_some_iff.mp hlast
    rw [hlast, List.dropLast_concat] at h
    obtain ⟨parent, hparent, hrest⟩ := Except.bind_eq_ok.mp h
    obtain ⟨same, hsame, hnamed⟩ := Except.bind_eq_ok.mp hrest
    obtain ⟨hfolder, hself, -⟩ := step_eq_ok.mp hsame
    obtain rfl : same = parent := hself
    split at hnamed
    · cases hnamed
    · next hname =>
      cases hnamed
      simp only [Bool.or_eq_true, beq_iff_eq, not_or] at hname
      obtain ⟨⟨hempty, hpoint⟩, hup⟩ := hname
      exact ⟨front, name, same, rfl,
        Path.partOf?_eq_some_iff.mpr (.inr ⟨hempty, hpoint, hup, rfl⟩), hparent, hfolder, rfl⟩

theorem makeFolder_eq_ok (h : v.makeFolder p = .ok w) :
    ∃ here, v.newPlace p (named p) .taken = .ok here ∧ here ≠ [] ∧ v.at? here = none ∧
      w = v.put here .folder := by
  rw [makeFolder] at h
  split at h
  · cases h
  · obtain ⟨here, hplace, h⟩ := Except.bind_eq_ok.mp h
    split at h
    · cases h
    · next hnone =>
      cases h
      obtain ⟨_, name, parent, -, -, -, -, hhere⟩ := newPlace_eq_ok hplace
      exact ⟨here, hplace, hhere ▸ List.concat_ne_nil _ _, by simpa using hnone, rfl⟩

theorem grows_makeFolder (h : v.makeFolder p = .ok w) : Grows v w := by
  obtain ⟨here, -, hne, hnew, rfl⟩ := makeFolder_eq_ok h
  exact grows_put hne hnew .folder

theorem grows_serve {folders : Path → Prop} {request : Request}
    (h : Errand.Clears folders request) (v : Volume) : Grows v (serve request v).2 := by
  cases request with
  | makeFolder folder =>
    rw [serve_makeFolder]
    cases hmade : v.makeFolder folder with
    | ok made => exact grows_makeFolder hmade
    | error trouble => exact .refl v
  | isFolder folder => exact .refl v
  | _ => exact h.elim

theorem grows_makeWay (p : Path) (v : Volume) :
    Grows v (Errand.via serve (Errand.makeWay p) v).2 :=
  (Errand.asks_makeWay p).rel Grows.refl Grows.trans (fun _ v h => grows_serve h v) v

-- ---------------------------------------------------------------------------
-- Writing files
-- ---------------------------------------------------------------------------

theorem put_put (v : Volume) (here : Location) (first second : Item) :
    (v.put here first).put here second = v.put here second := by
  simp [put, List.filter_filter]

theorem exists_of_filePlace (h : v.filePlace p = .ok here) : ∃ front name parent,
    p.spelling.isEmpty = false ∧ pieces p = front ++ [name] ∧
      partOf? name = some (.name name) ∧ front.foldlM v.step (v.start p) = .ok parent ∧
      v.at? parent = some .folder ∧ here = parent ++ [name] ∧ v.at? here ≠ some .folder := by
  rw [filePlace] at h
  split at h
  · cases h
  · next hspelling =>
    obtain ⟨place, hplace, hfile⟩ := Except.bind_eq_ok.mp h
    obtain ⟨front, name, parent, hpieces, hname, hparent, hfolder, rfl⟩ := newPlace_eq_ok hplace
    split at hfile
    · cases hfile
    · next hfile =>
      cases hfile
      exact ⟨front, name, parent, by simpa using hspelling, hpieces, hname, hparent, hfolder, rfl,
        hfile⟩

theorem filePlace_eq_ok (h : v.filePlace p = .ok here) (bytes : ByteArray) :
    Extends v (v.put here (.file bytes)) ∧ (v.put here (.file bytes)).read p = .ok bytes ∧
      ∀ {other : Location}, other ≠ v.place p →
        (v.put here (.file bytes)).at? other = v.at? other := by
  obtain ⟨front, name, parent, hspelling, hpieces, hname, hparent, hfolder, rfl, hfile⟩ :=
    exists_of_filePlace h
  have hne : parent ++ [name] ≠ [] := List.concat_ne_nil _ _
  have hextends := extends_put_file hne hfile bytes
  have hhere : parent ++ [name] = v.place p := by
    rw [place_eq, hpieces, List.foldl_append, ← foldlM_step_eq hparent]
    simp [follow, hname, descend]
  have hat : (v.put (parent ++ [name]) (.file bytes)).at? (parent ++ [name]) =
      some (.file bytes) := by
    rw [at?_put _ _ _ _ hne, if_pos rfl]
  refine ⟨hextends, ?_, ?_⟩
  · rw [read_eq_ok, hextends.place_eq, ← hhere]
    refine ⟨?_, hat⟩
    rw [locate, hspelling, if_neg Bool.false_ne_true, hpieces, List.foldlM_append,
      Except.bind_eq_ok]
    refine ⟨parent, hextends.foldlM_step hparent, ?_⟩
    rw [List.foldlM_cons, Except.bind_eq_ok]
    refine ⟨parent ++ [name], step_eq_ok.mpr ⟨hextends.folder hfolder, ?_, fun _ => ?_⟩, rfl⟩
    · simp [follow, hname, descend]
    · rw [hat, Option.isSome_some]
  · intro other hother
    rw [at?_put _ _ _ _ hne, if_neg (hhere ▸ hother)]

theorem fillFile_eq_ok {bytes : ByteArray}
    (h : Errand.via serve (Errand.fillFile p bytes) v = (.ok (), w)) :
    ∃ here, v.filePlace p = .ok here ∧ w = v.put here (.file bytes) := by
  rw [Errand.fillFile, Errand.via_bind, Step.bind_of_ok (Errand.via_request _ v),
    serve_create] at h
  cases hplace : v.filePlace p with
  | error trouble =>
    rw [hplace] at h
    cases h
  | ok here =>
    rw [hplace] at h
    dsimp only at h
    obtain ⟨-, name, parent, -, -, -, -, -, hhere, -⟩ := exists_of_filePlace hplace
    have hne : here ≠ [] := hhere ▸ List.concat_ne_nil name parent
    rw [Errand.via_bind, Step.bind_of_ok (Errand.via_request _ _), serve_fill,
      at?_put _ _ _ _ hne, if_pos rfl, put_put] at h
    exact ⟨here, rfl, (congrArg Prod.snd h).symm⟩

theorem exists_grows_of_write {bytes : ByteArray} (h : write p bytes v = (.ok (), w)) :
    ∃ u here, Grows v u ∧ u.filePlace p = .ok here ∧ w = u.put here (.file bytes) := by
  rw [write, Errand.write, Errand.via_bind] at h
  obtain ⟨_, u, hway, hfill⟩ := Step.bind_eq_ok.mp h
  have hgrows := grows_makeWay p v
  rw [hway] at hgrows
  obtain ⟨here, hplace, hput⟩ := fillFile_eq_ok hfill
  exact ⟨u, here, hgrows, hplace, hput⟩

/-- A file that is written has its bytes, and every other file keeps those it had. -/
theorem write_eq_ok {bytes : ByteArray} (h : write p bytes v = (.ok (), w)) :
    w.base = v.base ∧ w.read p = .ok bytes ∧ ∀ {q : Path} {old : ByteArray},
      v.read q = .ok old → (v.place q = v.place p → old = bytes) → w.read q = .ok old := by
  obtain ⟨u, here, hgrows, hfill, rfl⟩ := exists_grows_of_write h
  obtain ⟨hextends, hread, hother⟩ := filePlace_eq_ok hfill bytes
  have hplace := hgrows.extends.place_eq
  refine ⟨hextends.base.trans hgrows.base, hread, fun {q old} hold hagree => ?_⟩
  obtain ⟨-, hat⟩ := read_eq_ok.mp hold
  have hold' : u.read q = .ok old := hgrows.extends.read hold (hgrows.item hat)
  by_cases hsame : v.place q = v.place p
  · obtain ⟨-, hbytes⟩ := read_eq_ok.mp hread
    rw [hextends.place_eq, hplace, ← hsame, ← hplace] at hbytes
    exact hagree hsame ▸ hextends.read hold' hbytes
  · refine hextends.read hold' ?_
    rw [hother, hplace, hgrows.item hat]
    rwa [hplace, hplace]

end

end Swatchbook.Volume
