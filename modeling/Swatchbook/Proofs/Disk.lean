import Swatchbook.Disk
import Swatchbook.Proofs.Canonical
import Swatchbook.Proofs.Lookup

/-!
# Disks that grow

A run only adds to a disk. Where a path leads, it still leads afterwards, with
all links on the way; what a run has opened stays what it was. So what several
errands do to one disk can be said of each of them by itself. Only a double
point tells a path from its normal form: it leads up from where a link has led.
-/

namespace Swatchbook

/-- A loop that succeeds also succeeds with steps that give all that its own steps give. -/
theorem Except.foldlM_mono {ε α β : Type} {step other : β → α → Except ε β} {xs : List α}
    {b r : β} (hstep : ∀ {b a b'}, step b a = .ok b' → other b a = .ok b')
    (h : xs.foldlM step b = .ok r) : xs.foldlM other b = .ok r := by
  induction xs generalizing b with
  | nil => exact h
  | cons x xs ih =>
    rw [List.foldlM_cons] at h ⊢
    obtain ⟨next, hnext, hrest⟩ := Except.bind_eq_ok.mp h
    exact Except.bind_eq_ok.mpr ⟨next, hstep hnext, ih hrest⟩

namespace Disk

open Swatchbook.Path (partOf? normalParts)

/-- What stands somewhere stays there, and what is new is a folder or a file of its own. -/
structure Grows (d e : Disk) : Prop where
  base : e.base = d.base
  kept : ∀ {here thing}, d.at? here = some thing → e.at? here = some thing
  new : ∀ {here}, d.at? here = none →
    e.at? here = none ∨ e.at? here = some .folder ∨ e.at? here = some (.file here)

section

variable {d e f : Disk} {p : Path} {place : Location} {thing : Thing}

theorem Grows.refl (d : Disk) : Grows d d := ⟨rfl, id, .inl⟩

theorem Grows.trans (h : Grows d e) (h' : Grows e f) : Grows d f := by
  refine ⟨h'.base.trans h.base, fun hat => h'.kept (h.kept hat), fun hnone => ?_⟩
  rcases h.new hnone with hnone | hfolder | hfile
  · exact h'.new hnone
  · exact .inr (.inl (h'.kept hfolder))
  · exact .inr (.inr (h'.kept hfile))

-- ---------------------------------------------------------------------------
-- Where paths lead
-- ---------------------------------------------------------------------------

theorem Grows.enter (h : Grows d e) {onLink onLink' : Location → Path → Except Trouble Location}
    (hlink : ∀ {here target next}, onLink here target = .ok next → onLink' here target = .ok next)
    {here next : Location} {name : Text} (henter : d.enter onLink here name = .ok next) :
    e.enter onLink' here name = .ok next := by
  rw [Disk.enter] at henter ⊢
  cases hat : d.at? (here ++ [name]) with
  | none =>
    rw [hat] at henter
    rcases h.new hat with hnew | hnew | hnew <;> rw [hnew] <;> exact henter
  | some thing =>
    rw [hat] at henter
    rw [h.kept hat]
    cases thing with
    | link target => exact hlink henter
    | _ => exact henter

theorem Grows.step (h : Grows d e) {onLink onLink' : Location → Path → Except Trouble Location}
    (hlink : ∀ {here target next}, onLink here target = .ok next → onLink' here target = .ok next)
    {here next : Location} {piece : Text} (hstep : d.step onLink here piece = .ok next) :
    e.step onLink' here piece = .ok next := by
  rw [Disk.step] at hstep ⊢
  split at hstep
  · next hfolder =>
    rw [h.kept hfolder]
    dsimp only
    split
    · next hpoint => rwa [if_pos hpoint] at hstep
    · next hpoint =>
      rw [if_neg hpoint] at hstep
      split
      · next hup => rwa [if_pos hup] at hstep
      · next hup =>
        rw [if_neg hup] at hstep
        exact h.enter hlink hstep
  · cases hstep
  · cases hstep

theorem Grows.follow (h : Grows d e) {limit : Nat} {here : Location}
    (hfollow : d.follow limit here p = .ok place) : e.follow limit here p = .ok place := by
  induction limit generalizing here p place with
  | zero => cases hfollow
  | succ limit ih =>
    rw [Disk.follow] at hfollow ⊢
    split at hfollow
    · cases hfollow
    · next hne =>
      rw [if_neg hne]
      exact Except.foldlM_mono (h.step ih) hfollow

theorem Grows.locate (h : Grows d e) (hlocate : d.locate p = .ok place) :
    e.locate p = .ok place := by
  rw [Disk.locate, h.base]
  exact h.follow hlocate

theorem step_empty {onLink : Location → Path → Except Trouble Location}
    {here next : Location} : d.step onLink here [] = .ok next ↔
      d.at? here = some .folder ∧ next = here := by
  rw [step]
  cases d.at? here with
  | none => simp
  | some thing => cases thing <;> simp [eq_comm]

theorem folder_of_step {onLink : Location → Path → Except Trouble Location} {here next : Location}
    {piece : Text} (h : d.step onLink here piece = .ok next) : d.at? here = some .folder := by
  rw [step] at h
  split at h
  · assumption
  · cases h
  · cases h

theorem look_eq_some : d.look p = some thing ↔
    ∃ place, d.locate p = .ok place ∧ d.at? place = some thing := by
  rw [look, Option.bind_eq_some_iff]
  simp only [Except.toOption_eq_some]

theorem Grows.look (h : Grows d e) (hlook : d.look p = some thing) : e.look p = some thing := by
  obtain ⟨place, hlocate, hat⟩ := look_eq_some.mp hlook
  exact look_eq_some.mpr ⟨place, h.locate hlocate, h.kept hat⟩

-- ---------------------------------------------------------------------------
-- Normal forms
-- ---------------------------------------------------------------------------

theorem foldlM_step_filter {onLink : Location → Path → Except Trouble Location}
    {pieces : List Text} {here next : Location}
    (h : pieces.foldlM (d.step onLink) here = .ok next) :
    ((pieces.filterMap partOf?).map Part.text).foldlM (d.step onLink) here = .ok next := by
  induction pieces generalizing here with
  | nil => exact h
  | cons piece pieces ih =>
    obtain ⟨middle, hstep, hrest⟩ := Except.bind_eq_ok.mp h
    cases hpart : partOf? piece with
    | none =>
      rw [List.filterMap_cons_none hpart]
      obtain rfl : middle = here := by
        rw [step] at hstep
        split at hstep
        · rcases Path.partOf?_eq_none_iff.mp hpart with rfl | rfl <;> cases hstep <;> rfl
        · cases hstep
        · cases hstep
      exact ih hrest
    | some part =>
      rw [List.filterMap_cons_some hpart, List.map_cons, Path.text_of_partOf? hpart]
      exact Except.bind_eq_ok.mpr ⟨middle, hstep, ih hrest⟩

theorem isFile_eq_true : d.isFile p = true ↔ ∃ id, d.look p = some (.file id) := by
  rw [isFile]
  split
  · next id hlook => simp [hlook]
  · next hnone => simpa using hnone

theorem locate_normalize (hup : .up ∉ p.parts) (hne : p.pieces.filterMap partOf? ≠ [])
    (hfolder : d.at? (start d.base p) = some .folder) : d.locate p.normalize =
      ((p.pieces.filterMap partOf?).map Part.text).foldlM (d.step (d.follow linkLimit))
        (start d.base p) := by
  have hproper : ∀ part ∈ p.pieces.filterMap partOf?, part.Proper := fun _ =>
    Path.proper_of_mem_pieces
  obtain ⟨names, hnames⟩ := Path.exists_names hproper fun hm =>
    hup (Path.parts_eq p ▸ List.mem_append_right _ hm)
  rw [hnames] at hne hproper ⊢
  have hnormal : normalParts p.parts = (if p.isAbsolute then [.root] else []) ++
      names.map .name := by
    cases habs : p.isAbsolute with
    | true =>
      rw [Path.parts_eq, habs, hnames, Path.normalParts_append, Path.foldl_fold_names]
      rfl
    | false =>
      rw [normalParts, Path.foldl_fold_relative habs, hnames, Path.foldl_fold_names]
      rfl
  have hspelling : ¬p.normalize.spelling.isEmpty = true := by
    intro hempty
    have hparts := p.parts_normalize
    rw [Path.parts_of_empty (List.isEmpty_iff.mp hempty), hnormal] at hparts
    exact hne (List.append_eq_nil_iff.mp hparts.symm).2
  obtain ⟨hbare, hrooted⟩ := Path.pieces_ofParts hne hproper
  rw [locate, follow, if_neg hspelling, start, Path.isAbsolute_normalize, ← start]
  cases habs : p.isAbsolute with
  | true =>
    have hpieces : Volume.pieces p.normalize = [] :: (names.map Part.name).map Part.text := by
      rw [Path.normalize, hnormal, habs]
      exact hrooted
    rw [hpieces, List.foldlM_cons, step_empty.mpr ⟨hfolder, rfl⟩]
    rfl
  | false =>
    have hpieces : Volume.pieces p.normalize = (names.map Part.name).map Part.text := by
      rw [Path.normalize, hnormal, habs]
      exact hbare
    rw [hpieces]

/-- A file that is found without double points is also where its normal path leads: links
matter only for what a double point leads up from. -/
theorem isFile_normalize (hup : .up ∉ p.parts) (h : d.isFile p = true) :
    d.isFile p.normalize = true := by
  obtain ⟨id, hlook⟩ := isFile_eq_true.mp h
  obtain ⟨place, hlocate, hat⟩ := look_eq_some.mp hlook
  refine isFile_eq_true.mpr ⟨id, look_eq_some.mpr ⟨place, ?_, hat⟩⟩
  rw [locate, follow] at hlocate
  split at hlocate
  · cases hlocate
  obtain ⟨first, rest, hpieces⟩ := List.exists_cons_of_ne_nil p.pieces_ne_nil
  have hfolder : d.at? (start d.base p) = some .folder := by
    have hpieces : Volume.pieces p = first :: rest := hpieces
    rw [hpieces] at hlocate
    obtain ⟨middle, hstep, -⟩ := Except.bind_eq_ok.mp hlocate
    exact folder_of_step hstep
  have hnames := foldlM_step_filter hlocate
  rw [locate_normalize hup ?_ hfolder]
  · exact hnames
  · -- Without a name the path leads to where it starts, which is a folder.
    intro hnil
    have hnil : (Volume.pieces p).filterMap partOf? = [] := hnil
    rw [hnil] at hnames
    cases hnames
    cases hat.symm.trans hfolder

-- ---------------------------------------------------------------------------
-- New things
-- ---------------------------------------------------------------------------

/-- From `d` to `e` only files that targets lead to were made or written, and only folders above
targets were made. -/
structure Changes (targets : Path → Prop) (d e : Disk) : Prop extends Grows d e where
  folder : ∀ {here}, d.at? here = none → e.at? here = some .folder →
    ∃ target, targets target ∧ ∃ folder : Path, folder.IsAncestor target ∧
      e.locate folder = .ok here
  file : ∀ {here id}, d.at? here = none → e.at? here = some (.file id) →
    ∃ target, targets target ∧ e.locate target = .ok here
  bytes : ∀ {id}, e.bytes id ≠ d.bytes id →
    ∃ target, targets target ∧ e.look target = some (.file id)

variable {targets : Path → Prop}

theorem Changes.refl (targets : Path → Prop) (d : Disk) : Changes targets d d where
  toGrows := .refl d
  folder hnone hsome := by
    rw [hnone] at hsome
    cases hsome
  file hnone hsome := by
    rw [hnone] at hsome
    cases hsome
  bytes hne := absurd rfl hne

theorem Changes.trans (h : Changes targets d e) (h' : Changes targets e f) :
    Changes targets d f where
  toGrows := h.toGrows.trans h'.toGrows
  folder {here} hnone hsome := by
    cases hat : e.at? here with
    | none => exact h'.folder hat hsome
    | some thing =>
      cases (h'.kept hat).symm.trans hsome
      obtain ⟨target, htarget, folder, habove, hlocate⟩ := h.folder hnone hat
      exact ⟨target, htarget, folder, habove, h'.locate hlocate⟩
  file {here id} hnone hsome := by
    cases hat : e.at? here with
    | none => exact h'.file hat hsome
    | some thing =>
      cases (h'.kept hat).symm.trans hsome
      obtain ⟨target, htarget, hlocate⟩ := h.file hnone hat
      exact ⟨target, htarget, h'.locate hlocate⟩
  bytes {id} hne := by
    by_cases hsame : f.bytes id = e.bytes id
    · rw [hsame] at hne
      obtain ⟨target, htarget, hlook⟩ := h.bytes hne
      exact ⟨target, htarget, h'.look hlook⟩
    · exact h'.bytes hsame

variable {target : Path}

variable {handle : Handle}

end

end Disk

-- ---------------------------------------------------------------------------
-- Volumes
-- ---------------------------------------------------------------------------

namespace Volume

section

variable {v w : Volume} {here next place : Location} {p : Path} {bytes : ByteArray}

theorem enter_toDisk (v : Volume) (onLink : Location → Path → Except Trouble Location)
    (here : Location) (name : Text) :
    v.toDisk.enter onLink here name = .ok (here ++ [name]) := by
  rw [Disk.enter, at?_toDisk]
  cases v.at? (here ++ [name]) with
  | none => rfl
  | some item => cases item <;> rfl

theorem step_toDisk (h : v.at? here = some .folder)
    (onLink : Location → Path → Except Trouble Location) (piece : Text) :
    v.toDisk.step onLink here piece = .ok (follow here piece) := by
  rw [Disk.step, at?_toDisk, h, follow, Path.partOf?]
  dsimp only [Option.map_some, Item.thing]
  split
  · rfl
  · split
    · rfl
    · exact enter_toDisk v onLink here piece

theorem foldlM_step_toDisk {onLink : Location → Path → Except Trouble Location}
    {names : List Text} (h : names.foldlM v.step here = .ok next) :
    names.foldlM (v.toDisk.step onLink) here = .ok next := by
  refine Except.foldlM_mono (fun {here piece next} hstep => ?_) h
  obtain ⟨hfolder, rfl, -⟩ := step_eq_ok.mp hstep
  exact step_toDisk hfolder onLink piece

theorem locate_toDisk (h : v.locate p = .ok place) : v.toDisk.locate p = .ok place := by
  rw [locate] at h
  rw [Disk.locate, Disk.follow]
  split at h
  · cases h
  · next hne =>
    rw [if_neg hne]
    exact foldlM_step_toDisk h

theorem look_toDisk {item : Item} (h : v.look p = .ok item) :
    v.toDisk.look p = some (item.thing (v.place p)) := by
  obtain ⟨hlocate, hat⟩ := look_eq_ok.mp h
  exact Disk.look_eq_some.mpr ⟨_, locate_toDisk hlocate, by rw [at?_toDisk, hat]; rfl⟩

theorem room_toDisk (h : v.newPlace p (named p) .taken = .ok place) :
    v.toDisk.room p = .ok place := by
  obtain ⟨front, name, parent, hnamed, hname, hparent, hfolder, rfl⟩ := newPlace_eq_ok h
  have hdots : (name == ['.'] || name == ['.', '.']) = false := by
    rcases Path.partOf?_eq_some_iff.mp hname with ⟨-, h⟩ | ⟨-, hpoint, hup, -⟩
    · cases h
    · simp [hpoint, hup]
  have hhere : v.toDisk.at? parent = some .folder := by
    rw [at?_toDisk, hfolder]
    rfl
  rw [Disk.room, hnamed, List.getLast?_concat, List.dropLast_concat]
  dsimp only
  refine Except.bind_eq_ok.mpr ⟨parent, foldlM_step_toDisk hparent, ?_⟩
  refine Except.bind_eq_ok.mpr ⟨parent, Disk.step_empty.mpr ⟨hhere, rfl⟩, ?_⟩
  rw [hdots, if_neg Bool.false_ne_true]

theorem locate_of_filePlace (h : v.filePlace p = .ok place) : v.toDisk.locate p = .ok place := by
  obtain ⟨front, name, parent, hspelling, hpieces, hname, hparent, hfolder, rfl, -⟩ :=
    exists_of_filePlace h
  rw [Disk.locate, Disk.follow, hspelling, if_neg Bool.false_ne_true, hpieces, List.foldlM_append]
  refine Except.bind_eq_ok.mpr ⟨parent, foldlM_step_toDisk hparent, ?_⟩
  rw [List.foldlM_cons]
  refine Except.bind_eq_ok.mpr ⟨_, step_toDisk hfolder _ name, ?_⟩
  simp [follow, hname, descend, pure, Except.pure]

theorem isFile_toDisk (h : v.isFile p = true) : v.toDisk.isFile p = true := by
  obtain ⟨hlocate, bytes, hat⟩ := isFile_iff.mp h
  rw [Disk.isFile, look_toDisk (look_eq_ok.mpr ⟨hlocate, hat⟩)]
  rfl

theorem isFolder_toDisk (h : v.isFolder p = true) : v.toDisk.isFolder p = true := by
  rw [Disk.isFolder, look_toDisk (look_eq_ok.mpr (isFolder_iff.mp h))]
  rfl

theorem read_toDisk (h : v.read p = .ok bytes) : v.toDisk.read p = .ok bytes := by
  obtain ⟨hlocate, hat⟩ := read_eq_ok.mp h
  rw [Disk.read, look_toDisk (look_eq_ok.mpr ⟨hlocate, hat⟩)]
  simp [Item.thing, bytes_toDisk, hat, Item.bytes]

theorem toDisk_eq_none (h : v.at? here = none) : v.toDisk.at? here = none := by
  rw [at?_toDisk, h]
  rfl

theorem toDisk_put_folder (hne : here ≠ []) (hnew : v.at? here = none) :
    (v.put here .folder).toDisk = v.toDisk.addFolder here (toDisk_eq_none hnew) := by
  refine Disk.ext rfl (funext fun other => ?_) (funext fun id => ?_)
  · rw [at?_toDisk, at?_put v here other .folder hne, Disk.addFolder]
    dsimp only
    split <;> rfl
  · rw [bytes_toDisk, at?_put v here id .folder hne, Disk.addFolder, bytes_toDisk]
    split
    · next hid =>
      rw [hid, hnew]
      rfl
    · rfl

theorem toDisk_put_file (hne : here ≠ []) (hnew : v.at? here = none) :
    (v.put here (.file .empty)).toDisk = v.toDisk.addFile here (toDisk_eq_none hnew) := by
  refine Disk.ext rfl (funext fun other => ?_) (funext fun id => ?_)
  · rw [at?_toDisk, at?_put v here other _ hne, Disk.addFile]
    dsimp only
    split
    · next hother =>
      rw [hother]
      rfl
    · rfl
  · rw [bytes_toDisk, at?_put v here id _ hne, Disk.addFile]
    dsimp only
    split <;> rfl

theorem toDisk_fill {old : ByteArray} (hne : here ≠ []) (hold : v.at? here = some (.file old))
    (bytes : ByteArray) : (v.put here (.file bytes)).toDisk = v.toDisk.fill here bytes := by
  refine Disk.ext rfl (funext fun other => ?_) (funext fun id => ?_)
  · rw [at?_toDisk, at?_put v here other _ hne, Disk.fill, at?_toDisk]
    split
    · next hother =>
      rw [hother, hold]
      rfl
    · rfl
  · rw [bytes_toDisk, at?_put v here id _ hne, Disk.fill]
    dsimp only
    split <;> rfl

/-- What a volume replies is something that a disk may reply. -/
theorem serves_toDisk (request : Request) (v : Volume) :
    v.toDisk.Serves request (serve request v).1 (serve request v).2.toDisk := by
  have granted {request : Request} {reply : request.Reply} {e : Disk}
      (h : Disk.serve request v.toDisk = (reply, e)) : v.toDisk.Serves request reply e := by
    have hgranted := Disk.Serves.granted (d := v.toDisk) request
    rwa [h] at hgranted
  cases request with
  | isFile p =>
    rw [serve_isFile]
    cases hfile : v.isFile p with
    | false => exact .refused (.isFile p) .notFound
    | true => exact granted (Prod.ext (isFile_toDisk hfile) rfl)
  | isFolder p =>
    rw [serve_isFolder]
    cases hfolder : v.isFolder p with
    | false => exact .refused (.isFolder p) .notFound
    | true => exact granted (Prod.ext (isFolder_toDisk hfolder) rfl)
  | read p =>
    rw [serve_read]
    cases hread : v.read p with
    | error trouble => exact .refused (.read p) trouble
    | ok bytes => exact granted (Prod.ext (read_toDisk hread) rfl)
  | makeFolder p =>
    rw [serve_makeFolder]
    cases hmade : v.makeFolder p with
    | error trouble => exact .refused (.makeFolder p) trouble
    | ok w =>
      obtain ⟨here, hplace, hne, hnew, rfl⟩ := makeFolder_eq_ok hmade
      refine granted ?_
      rw [Disk.serve_makeFolder, room_toDisk hplace]
      dsimp only
      rw [dif_pos (toDisk_eq_none hnew), toDisk_put_folder hne hnew]
  | create p =>
    rw [serve_create]
    cases hplace : v.filePlace p with
    | error trouble => exact .refused (.create p) trouble
    | ok here =>
      obtain ⟨-, name, parent, -, -, -, -, -, hhere, hfile⟩ := exists_of_filePlace hplace
      have hne : here ≠ [] := hhere ▸ List.concat_ne_nil name parent
      refine granted ?_
      rw [Disk.serve_create, locate_of_filePlace hplace]
      dsimp only
      cases hat : v.at? here with
      | none => rw [dif_pos (toDisk_eq_none hat), toDisk_put_file hne hat]
      | some item =>
        cases item with
        | folder => exact absurd hat hfile
        | file old =>
          have hold : v.toDisk.at? here = some (.file here) := by
            rw [at?_toDisk, hat]
            rfl
          rw [dif_neg (by simp [hold]), hold, toDisk_fill hne hat]
  | fill handle bytes =>
    cases handle with
    | other => exact granted rfl
    | file here =>
      rw [serve_fill]
      split
      · next old hat =>
        have hne : here ≠ [] := by
          rintro rfl
          simp [at?] at hat
        exact granted (Prod.ext rfl (toDisk_fill hne hat bytes).symm)
      · exact .refused (.fill (.file here) bytes) .notFound
  | note told => exact granted rfl

end

end Volume

end Swatchbook
