import Swatchbook.Proofs.Completeness
import Swatchbook.Proofs.Disk
import Mathlib.Data.Set.List

/-!
# Expanding lists of patterns

What a list of patterns finds is an ordered union: what the first of them find,
and then what the others find besides. Paths are told apart by their parts, so
it matters that all of them are normal. Whatever one of the patterns finds is
there once, by its normal path, if that path leads to a regular file. It does if
the pattern has found a file and there are no links, or no double points behind
them.
-/

namespace Swatchbook

namespace Styleguide

-- ---------------------------------------------------------------------------
-- Normal paths
-- ---------------------------------------------------------------------------

def Normalized (paths : List Path) : Prop := ∀ path ∈ paths, path.normalize = path

theorem eq_of_same {p q : Path} (hp : p.normalize = p) (hq : q.normalize = q)
    (h : p.parts = q.parts) : p = q := by
  rw [← hp, ← hq, Path.normalize, Path.normalize, h]

theorem any_same_iff {found : List Path} {path : Path} (hfound : Normalized found)
    (hpath : path.normalize = path) : found.any path.same = true ↔ path ∈ found := by
  rw [List.any_eq_true]
  constructor
  · rintro ⟨other, hother, hsame⟩
    rwa [eq_of_same hpath (hfound other hother) (Path.same_iff.mp hsame)]
  · exact fun hm => ⟨path, hm, Path.same_iff.mpr rfl⟩

theorem nodup_parts {paths : List Path} (hnodup : paths.Nodup) (hnormal : Normalized paths) :
    (paths.map Path.parts).Nodup := by
  refine List.pairwise_map.mpr (hnodup.imp_of_mem fun {p q} hp hq hne hparts => ?_)
  exact hne (eq_of_same (hnormal p hp) (hnormal q hq) hparts)

-- ---------------------------------------------------------------------------
-- Unions
-- ---------------------------------------------------------------------------

def union (first second : List Path) : List Path := first ++ second.filter (· ∉ first)

def addOne (found : List Path) (path : Path) : List Path :=
  if found.any path.same then found else found ++ [path]

theorem addNew_cons (found new : List Path) (path : Path) :
    addNew found (path :: new) = addNew (addOne found path) new := rfl

theorem union_nil (first : List Path) : union first [] = first := List.append_nil first

section

variable {first second new : List Path} {path : Path}

theorem mem_union : path ∈ union first second ↔ path ∈ first ∨ path ∈ second := by
  simp only [union, List.mem_append, List.mem_filter, decide_eq_true_eq]
  tauto

theorem Normalized.union (hfirst : Normalized first) (hsecond : Normalized second) :
    Normalized (union first second) := fun path hm =>
  (mem_union.mp hm).elim (hfirst path) (hsecond path)

theorem Normalized.addOne (hfirst : Normalized first) (hpath : path.normalize = path) :
    Normalized (addOne first path) := by
  rw [Styleguide.addOne]
  split
  · exact hfirst
  · exact List.forall_mem_append.mpr ⟨hfirst, List.forall_mem_singleton.mpr hpath⟩

theorem Normalized.addNew (hfirst : Normalized first) (hnew : Normalized new) :
    Normalized (addNew first new) := fun path hm => (mem_addNew hm).elim (hfirst path) (hnew path)

theorem addOne_union (hfirst : Normalized first) (hsecond : Normalized second)
    (hpath : path.normalize = path) :
    addOne (union first second) path = union first (addOne second path) := by
  simp only [addOne, any_same_iff (hfirst.union hsecond) hpath, any_same_iff hsecond hpath,
    mem_union]
  by_cases hin : path ∈ second
  · rw [if_pos (.inr hin), if_pos hin]
  · by_cases hold : path ∈ first
    · rw [if_pos (.inl hold), if_neg hin]
      simp [union, List.filter_append, hold]
    · rw [if_neg (not_or.mpr ⟨hold, hin⟩), if_neg hin]
      simp [union, List.filter_append, hold]

/-- What is new to a union is what is new to its second list, as far as the first has it not. -/
theorem addNew_union (hfirst : Normalized first) (hsecond : Normalized second)
    (hnew : Normalized new) :
    addNew (union first second) new = union first (addNew second new) := by
  induction new generalizing second with
  | nil => rfl
  | cons path new ih =>
    obtain ⟨hpath, hnew⟩ := List.forall_mem_cons.mp hnew
    rw [addNew_cons, addNew_cons, addOne_union hfirst hsecond hpath,
      ih (hsecond.addOne hpath) hnew]

theorem mem_addOne (hfirst : Normalized first) (hpath : path.normalize = path) {other : Path} :
    other ∈ addOne first path ↔ other ∈ first ∨ other = path := by
  rw [addOne]
  split
  · next hany =>
    have hin := (any_same_iff hfirst hpath).mp hany
    exact ⟨.inl, fun h => h.elim id fun heq => heq ▸ hin⟩
  · rw [List.mem_append, List.mem_singleton]

theorem mem_addNew_iff (hfirst : Normalized first) (hnew : Normalized new) :
    path ∈ addNew first new ↔ path ∈ first ∨ path ∈ new := by
  induction new generalizing first with
  | nil => simp [addNew]
  | cons next new ih =>
    obtain ⟨hnext, hnew⟩ := List.forall_mem_cons.mp hnew
    rw [addNew_cons, ih (hfirst.addOne hnext) hnew, mem_addOne hfirst hnext, List.mem_cons,
      or_assoc]

end

end Styleguide

-- ---------------------------------------------------------------------------
-- Lists of patterns
-- ---------------------------------------------------------------------------

namespace Outlook

open Styleguide

variable {o : Outlook} {base : Path} {patterns : List Text} {files : List Path}

def expandNext (o : Outlook) (base : Path) (found : List Path) (pattern : Text) :
    Except Fault (List Path) := do
  return addNew found (← o.expandOne base pattern)

theorem expand_eq : o.expand base patterns = patterns.foldlM (o.expandNext base) [] := rfl

theorem normalized_of_expandOne {pattern : Text} (h : o.expandOne base pattern = .ok files) :
    Normalized files := fun path hm => (found_of_expandOne h path hm).2

theorem foldlM_expandNext_union {first second : List Path} (hfirst : Normalized first)
    (hsecond : Normalized second) : patterns.foldlM (o.expandNext base) (union first second) =
      (patterns.foldlM (o.expandNext base) second).map (union first) := by
  induction patterns generalizing second with
  | nil => rfl
  | cons pattern patterns ih =>
    rw [List.foldlM_cons, List.foldlM_cons, expandNext, expandNext]
    cases hnew : o.expandOne base pattern with
    | error fault => rfl
    | ok new =>
      have hnew := normalized_of_expandOne hnew
      have hrest := ih (hsecond.addNew hnew)
      rw [← addNew_union hfirst hsecond hnew] at hrest
      exact hrest

theorem normalized_of_expand (h : o.expand base patterns = .ok files) : Normalized files :=
  (distinct_of_expand h).normal

theorem expand_append_eq_ok {others : List Text} :
    o.expand base (patterns ++ others) = .ok files ↔
      ∃ first second, o.expand base patterns = .ok first ∧ o.expand base others = .ok second ∧
        files = union first second := by
  have hsplit : o.expand base (patterns ++ others) =
      o.expand base patterns >>= others.foldlM (o.expandNext base) := List.foldlM_append
  have hmore {first : List Path} (hfirst : o.expand base patterns = .ok first) :
      others.foldlM (o.expandNext base) first = (o.expand base others).map (union first) := by
    have hunion := @foldlM_expandNext_union o base others first [] (normalized_of_expand hfirst)
      (List.forall_mem_nil _)
    rwa [union_nil] at hunion
  rw [hsplit, Except.bind_eq_ok]
  constructor
  · rintro ⟨first, hfirst, hrest⟩
    rw [hmore hfirst] at hrest
    obtain ⟨second, hsecond, hfiles⟩ := Except.map_eq_ok.mp hrest
    exact ⟨first, second, hfirst, hsecond, hfiles.symm⟩
  · rintro ⟨first, second, hfirst, hsecond, rfl⟩
    exact ⟨first, hfirst, by rw [hmore hfirst, hsecond]; rfl⟩

theorem mem_expand_iff (h : o.expand base patterns = .ok files) {path : Path} :
    path ∈ files ↔ ∃ pattern ∈ patterns, ∃ found, o.expandOne base pattern = .ok found ∧
      path ∈ found := by
  rw [expand_eq] at h
  have hrun {start : List Path} (hstart : Normalized start)
      (h : patterns.foldlM (o.expandNext base) start = .ok files) : path ∈ files ↔
        path ∈ start ∨ ∃ pattern ∈ patterns, ∃ found, o.expandOne base pattern = .ok found ∧
          path ∈ found := by
    clear * - hstart h
    induction patterns generalizing start with
    | nil =>
      cases h
      simp
    | cons pattern patterns ih =>
      obtain ⟨next, hnext, hrest⟩ := Except.bind_eq_ok.mp h
      obtain ⟨new, hnew, hadd⟩ := Except.bind_eq_ok.mp hnext
      cases hadd
      have hnormal := normalized_of_expandOne hnew
      rw [ih (hstart.addNew hnormal) hrest, mem_addNew_iff hstart hnormal, or_assoc]
      refine or_congr Iff.rfl ?_
      simp [hnew]
  simpa using hrun (List.forall_mem_nil _) h

theorem exists_expand_iff : (∃ files, o.expand base patterns = .ok files) ↔
    ∀ pattern ∈ patterns, ∃ found, o.expandOne base pattern = .ok found := by
  have hrun (start : List Path) : (∃ files, patterns.foldlM (o.expandNext base) start = .ok files) ↔
      ∀ pattern ∈ patterns, ∃ found, o.expandOne base pattern = .ok found := by
    induction patterns generalizing start with
    | nil => simp [pure, Except.pure]
    | cons pattern patterns ih =>
      rw [List.forall_mem_cons, List.foldlM_cons, expandNext]
      cases hnew : o.expandOne base pattern with
      | error fault => simp [bind, Except.bind]
      | ok new =>
        simp only [Except.ok.injEq, exists_eq', true_and]
        exact ih (addNew start new)
  exact hrun []

def Finds (o : Outlook) (base : Path) (pattern : Text) (match? : Except Fault Path) : Prop :=
  ∃ glob, Glob.read (base.join ⟨pattern⟩).spelling = .ok glob ∧ match? ∈ o.found glob

theorem mem_of_expandOne {pattern : Text} (h : o.expandOne base pattern = .ok files) {path : Path} :
    path ∈ files ↔ o.isFile path = true ∧ ∃ found, o.Finds base pattern (.ok found) ∧
      found.normalize = path := by
  obtain ⟨glob, paths, hread, hfound, rfl⟩ := expandOne_eq_ok.mp h
  rw [List.mem_filter, List.mem_map, and_comm]
  refine and_congr Iff.rfl (exists_congr fun found => and_congr ?_ Iff.rfl)
  simp [Finds, hread, hfound]

/-- A pattern can be expanded just if it can be read and all that it finds can be listed. -/
theorem exists_expandOne_iff {pattern : Text} :
    (∃ files, o.expandOne base pattern = .ok files) ↔
      (∃ glob, Glob.read (base.join ⟨pattern⟩).spelling = .ok glob) ∧
        ∀ fault, ¬o.Finds base pattern (.error fault) := by
  constructor
  · rintro ⟨files, h⟩
    obtain ⟨glob, paths, hread, hfound, -⟩ := expandOne_eq_ok.mp h
    refine ⟨⟨glob, hread⟩, fun fault ⟨other, hother, hm⟩ => ?_⟩
    cases hread.symm.trans hother
    rw [hfound] at hm
    obtain ⟨path, -, hpath⟩ := List.mem_map.mp hm
    cases hpath
  · rintro ⟨⟨glob, hread⟩, hnone⟩
    have hok : ∀ match? ∈ o.found glob, match? ∈ Set.range (Except.ok : Path → _) := by
      intro match? hm
      cases match? with
      | error fault => exact absurd ⟨glob, hread, hm⟩ (hnone fault)
      | ok found => exact ⟨found, rfl⟩
    obtain ⟨paths, hpaths⟩ := (Set.range_list_map Except.ok).ge hok
    exact ⟨_, expandOne_eq_ok.mpr ⟨glob, paths, hread, hpaths.symm, rfl⟩⟩

/-- Lists of patterns find ordered unions. Each of the paths is normal, leads to a regular file
and is there once, and a match is there just if its normal path leads to a regular file, as that
of every file does on a disk if it has no double points, and on a volume, which has no links. -/
theorem expand_ordered_union (o : Outlook) (base : Path) (ps qs : List Text) :
    (∀ files, o.expand base (ps ++ qs) = .ok files ↔ ∃ first second,
      o.expand base ps = .ok first ∧ o.expand base qs = .ok second ∧
        files = first ++ second.filter (· ∉ first)) ∧
    ((∃ files, o.expand base ps = .ok files) ↔ ∀ pattern ∈ ps,
      (∃ glob, Glob.read (base.join ⟨pattern⟩).spelling = .ok glob) ∧
        ∀ fault, ¬o.Finds base pattern (.error fault)) ∧
    ∀ files, o.expand base ps = .ok files →
      (files.map Path.parts).Nodup ∧
      (∀ path ∈ files, path.normalize = path ∧ o.isFile path = true ∧
        ∃ pattern ∈ ps, ∃ found, o.Finds base pattern (.ok found) ∧ found.normalize = path) ∧
      ∀ pattern ∈ ps, ∀ found, o.Finds base pattern (.ok found) →
        (found.normalize ∈ files ↔ o.isFile found.normalize = true) ∧
        (∀ d : Disk, o.isFile = d.isFile → d.isFile found = true → .up ∉ found.parts →
          found.normalize ∈ files) ∧
        ∀ v : Volume, o.isFile = v.isFile → v.isFile found = true → found.normalize ∈ files := by
  refine ⟨fun files => expand_append_eq_ok, ?_, fun files h => ?_⟩
  · exact exists_expand_iff.trans (forall₂_congr fun _ _ => exists_expandOne_iff)
  obtain ⟨hnodup, hnormal⟩ := distinct_of_expand h
  refine ⟨nodup_parts hnodup hnormal, fun path hm => ⟨hnormal path hm, ?_⟩, ?_⟩
  · obtain ⟨pattern, hpattern, new, hnew, hm⟩ := (mem_expand_iff h).mp hm
    obtain ⟨hfile, hfound⟩ := (mem_of_expandOne hnew).mp hm
    exact ⟨hfile, pattern, hpattern, hfound⟩
  · intro pattern hpattern found hfound
    have hmem : found.normalize ∈ files ↔ o.isFile found.normalize = true := by
      constructor
      · intro hm
        obtain ⟨_, -, new, hnew, hm⟩ := (mem_expand_iff h).mp hm
        exact ((mem_of_expandOne hnew).mp hm).1
      · intro hfile
        obtain ⟨new, hnew⟩ := exists_expand_iff.mp ⟨files, h⟩ pattern hpattern
        refine (mem_expand_iff h).mpr ⟨pattern, hpattern, new, hnew, ?_⟩
        exact (mem_of_expandOne hnew).mpr ⟨hfile, found, hfound, rfl⟩
    refine ⟨hmem, fun d hd hfile hup => hmem.mpr ?_, fun v hv hfile => hmem.mpr ?_⟩
    · rw [hd]
      exact Disk.isFile_normalize hup hfile
    · rw [hv]
      exact Volume.isFile_normalize hfile

/-- A file that is found under three spellings, and one that only the second list finds. -/
theorem expand_ordered_union_spelled :
    let v := ((Volume.mk [] []).plant ["s".toList, "d".toList, "b.css".toList] (.file .empty)).plant
      ["s".toList, "a.css".toList] (.file .empty)
    let files : List Path := ["s/a.css", "s/d/b.css"]
    let first := ["a.css".toList, "d/../a.css".toList]
    let second := ["./a.css".toList, "d/*.css".toList]
    Styleguide.expand v "s" first = .ok ["s/a.css"] ∧
      Styleguide.expand v "s" second = .ok files ∧
      Styleguide.expand v "s" (first ++ second) = .ok files ∧
      (files.map Path.parts).Nodup ∧
      v.outlook.Finds "s" "./a.css".toList (.ok "s/./a.css") ∧
      Path.normalize "s/./a.css" ∈ files := by
  intro v files first second
  have hfirst : v.outlook.expand "s" first = .ok ["s/a.css"] := by decide +kernel
  have hsecond : v.outlook.expand "s" second = .ok files := by decide +kernel
  have hfinds : v.outlook.Finds "s" "./a.css".toList (.ok "s/./a.css") :=
    ⟨_, rfl, by decide +kernel⟩
  obtain ⟨hunion, -⟩ := expand_ordered_union v.outlook "s" first second
  obtain ⟨-, -, hfiles⟩ := expand_ordered_union v.outlook "s" second []
  obtain ⟨hnodup, -, hmatches⟩ := hfiles files hsecond
  obtain ⟨-, -, hvolume⟩ := hmatches "./a.css".toList (by simp [second]) "s/./a.css" hfinds
  exact ⟨hfirst, hsecond, (hunion _).mpr ⟨_, _, hfirst, hsecond, by decide +kernel⟩, hnodup,
    hfinds, hvolume v rfl (by decide +kernel)⟩

/-- A pattern finds a file by a double point behind a link. The normal path leads nowhere, so the
file is left out. -/
theorem expand_drops_linked :
    let d := Disk.ofList [([], .folder), (["l".toList], .link "/d/e"), (["d".toList], .folder),
      (["d".toList, "e".toList], .folder),
      (["d".toList, "x.css".toList], .file ["d".toList, "x.css".toList])] (fun _ => .empty)
      (by decide)
    let o : Outlook := ⟨fun _ => [.ok "/l/../x.css"], d.isFile⟩
    o.Finds "/" "l/../*.css".toList (.ok "/l/../x.css") ∧ d.isFile "/l/../x.css" = true ∧
      o.expand "/" ["l/../*.css".toList] = .ok [] := by
  intro d o
  exact ⟨⟨_, rfl, List.mem_singleton_self _⟩, by decide +kernel, by decide +kernel⟩

end Outlook

end Swatchbook
