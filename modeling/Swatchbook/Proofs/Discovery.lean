import Swatchbook.Styleguide
import Swatchbook.Proofs.Path
import Swatchbook.Proofs.Report

/-!
# What patterns find

Patterns find files, each by its normal path. So do the entries for stylesheets
and scripts, apart from those that are addresses.
-/

namespace Swatchbook

-- ---------------------------------------------------------------------------
-- Lists of patterns
-- ---------------------------------------------------------------------------

theorem Styleguide.mem_addNew {found new : List Path} {path : Path} (h : path ∈ addNew found new) :
    path ∈ found ∨ path ∈ new := by
  induction new generalizing found with
  | nil => exact .inl h
  | cons first new ih =>
    rw [addNew, List.foldl_cons] at h
    rcases ih h with hm | hm
    · split at hm
      · exact .inl hm
      · rcases List.mem_append.mp hm with hm | hm
        · exact .inl hm
        · exact .inr (List.mem_singleton.mp hm ▸ List.mem_cons_self)
    · exact .inr (List.mem_cons_of_mem _ hm)

namespace Outlook

variable {o : Outlook} {base : Path} {files : List Path}

theorem expandOne_eq_ok {pattern : Text} : o.expandOne base pattern = .ok files ↔
    ∃ glob, ∃ paths : List Path, Glob.read (base.join ⟨pattern⟩).spelling = .ok glob ∧
      o.found glob = paths.map .ok ∧ files = (paths.map Path.normalize).filter o.isFile := by
  rw [expandOne]
  cases Glob.read (base.join ⟨pattern⟩).spelling with
  | error fault => simp
  | ok glob =>
    simp only [Except.bind_eq_ok, Except.mapM_id_eq_ok, pure, Except.pure, Except.ok.injEq,
      existsAndEq, true_and, eq_comm (a := files)]

theorem found_of_expandOne {pattern : Text} (h : o.expandOne base pattern = .ok files) :
    ∀ path ∈ files, o.isFile path = true ∧ path.normalize = path := by
  obtain ⟨glob, paths, -, -, rfl⟩ := expandOne_eq_ok.mp h
  intro path hm
  obtain ⟨hm, hfile⟩ := List.mem_filter.mp hm
  obtain ⟨other, -, rfl⟩ := List.mem_map.mp hm
  exact ⟨hfile, Path.normalize_normalize other⟩

theorem found_of_expand {patterns : List Text} (h : o.expand base patterns = .ok files) :
    ∀ path ∈ files, o.isFile path = true ∧ path.normalize = path := by
  refine Except.foldlM_invariant
    (P := fun files => ∀ path ∈ files, o.isFile path = true ∧ path.normalize = path) ?_ h
    (List.forall_mem_nil _)
  intro found pattern more hmore hfound path hm
  obtain ⟨new, hnew, hadd⟩ := Except.bind_eq_ok.mp hmore
  cases hadd
  rcases Styleguide.mem_addNew hm with hm | hm
  · exact hfound path hm
  · exact found_of_expandOne hnew path hm

end Outlook

namespace Styleguide

variable {v : Volume} {base : Path}

/-- A file that a pattern can find. -/
structure Found (v : Volume) (path : Path) : Prop where
  isFile : v.isFile path = true
  normal : path.normalize = path

theorem found_of_expand {patterns : List Text} {files : List Path}
    (h : expand v base patterns = .ok files) : ∀ path ∈ files, Found v path := fun path hm =>
  have hfound := Outlook.found_of_expand h path hm
  ⟨hfound.1, hfound.2⟩

-- ---------------------------------------------------------------------------
-- Stylesheets and scripts
-- ---------------------------------------------------------------------------

variable {includes : List Include} {before after : List Note}

theorem found_of_resolveInclude {entry : Text}
    (h : resolveInclude v base entry before = (.ok includes, after)) :
    ∀ path, .file path ∈ includes → Found v path := by
  unfold resolveInclude at h
  split at h
  · cases h
    intro path hm
    cases List.mem_singleton.mp hm
  · obtain ⟨files, middle, hfiles, hrest⟩ := Step.bind_eq_ok.mp h
    have hincludes : includes = files.map .file := by
      split at hrest
      · obtain ⟨_, _, -, hreturn⟩ := Step.bind_eq_ok.mp hrest
        cases hreturn
        rfl
      · cases hrest
        rfl
    subst hincludes
    intro path hm
    obtain ⟨other, hother, heq⟩ := List.mem_map.mp hm
    cases heq
    exact found_of_expand (Report.ofExcept_eq_ok hfiles) path hother

theorem found_of_resolveIncludes {entries : List Text}
    (h : resolveIncludes v base entries before = (.ok includes, after)) :
    ∀ path, .file path ∈ includes → Found v path := by
  obtain ⟨found, middle, hfound, hreturn⟩ := Step.bind_eq_ok.mp h
  cases hreturn
  clear h
  induction entries generalizing found before with
  | nil =>
    cases hfound
    exact fun path hm => absurd hm List.not_mem_nil
  | cons entry entries ih =>
    rw [List.mapM_cons] at hfound
    obtain ⟨first, _, hfirst, hrest⟩ := Step.bind_eq_ok.mp hfound
    obtain ⟨rest, _, hrest, hreturn⟩ := Step.bind_eq_ok.mp hrest
    cases hreturn
    intro path hm
    rw [List.flatten_cons, List.mem_append] at hm
    rcases hm with hm | hm
    · exact found_of_resolveInclude hfirst path hm
    · exact ih rest hrest path hm

end Styleguide

end Swatchbook
