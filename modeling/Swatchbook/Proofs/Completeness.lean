import Swatchbook.Proofs.Discovery
import Swatchbook.Proofs.Lineage
import Swatchbook.Proofs.Styleguide
import Mathlib.Data.Option.Basic

/-!
# Pages that the navigation leads to

The files of a styleguide are found as normal paths and the navigation goes by
what a walk from the source directory comes by. Both agree about what is below
that directory, so each page is a leaf once if no name on the way to it is
junk, and otherwise never. But the walk also asks for the name of the
directory, and finds what is in it by its path: a directory with a junk name,
or one that is recorded under another path, has no leaves at all.
-/

namespace Swatchbook

namespace Styleguide

-- ---------------------------------------------------------------------------
-- Discovered files
-- ---------------------------------------------------------------------------

section

variable {v : Volume} {config : Config} {files : List Path}

/-- The files that are found are normal paths, each there once. -/
structure Distinct (files : List Path) : Prop where
  nodup : files.Nodup
  normal : ∀ path ∈ files, path.normalize = path

theorem Distinct.addNew {found new : List Path} (h : Distinct found)
    (hnew : ∀ path ∈ new, path.normalize = path) : Distinct (addNew found new) := by
  induction new generalizing found with
  | nil => exact h
  | cons first new ih =>
    rw [List.forall_mem_cons] at hnew
    rw [Styleguide.addNew, List.foldl_cons]
    refine ih ?_ hnew.2
    split
    · exact h
    · next habsent =>
      refine ⟨?_, ?_⟩
      · refine List.nodup_append.mpr ⟨h.nodup, List.nodup_singleton _, ?_⟩
        rintro path hm _ hfirst rfl
        rw [List.mem_singleton.mp hfirst] at hm
        exact habsent (List.any_eq_true.mpr ⟨first, hm, Path.same_iff.mpr rfl⟩)
      · exact List.forall_mem_append.mpr ⟨h.normal, List.forall_mem_singleton.mpr hnew.1⟩

theorem distinct_of_expand {o : Outlook} {base : Path} {patterns : List Text}
    (h : o.expand base patterns = .ok files) : Distinct files := by
  refine Except.foldlM_invariant ?_ h ⟨List.nodup_nil, List.forall_mem_nil _⟩
  intro found pattern more hmore hfound
  obtain ⟨new, hnew, hadd⟩ := Except.bind_eq_ok.mp hmore
  cases hadd
  exact hfound.addNew fun path hm => (Outlook.found_of_expandOne hnew path hm).2

theorem distinct_of_discover (h : (discover v config).outcome.1 = .ok files) : Distinct files := by
  have hrun : discover v config [] = (.ok files, (discover v config).outcome.2) := by
    rw [← h]
    rfl
  obtain ⟨found, _, hfound, hrest⟩ := Step.bind_eq_ok.mp hrun
  obtain ⟨_, _, -, hreturn⟩ := Step.bind_eq_ok.mp hrest
  cases hreturn
  exact distinct_of_expand (Report.ofExcept_eq_ok hfound)

theorem exists_bytes_of_reads {sources : List SourceFile}
    (h : List.Forall₂ (fun path file => SourceFile.read v path = .ok file) files sources) :
    ∀ path ∈ files, ∃ bytes, v.read path = .ok bytes := by
  induction h with
  | nil => exact List.forall_mem_nil _
  | @cons path file _ _ hread _ ih =>
    refine List.forall_mem_cons.mpr ⟨?_, ih⟩
    rw [SourceFile.read] at hread
    split at hread
    · next text htext =>
      obtain ⟨bytes, hbytes, -⟩ := Except.bind_eq_ok.mp htext
      exact ⟨bytes, hbytes⟩
    · cases hread

end

-- ---------------------------------------------------------------------------
-- A styleguide of discovered files
-- ---------------------------------------------------------------------------

/-- What a styleguide of discovered files consists of: `built` are all of its pages, also
those that are left out, and `found` is what the walk came by. -/
structure Assembled (v : Volume) (config : Config) (guide : Styleguide) (built : List Page)
    (found : List Sighting) : Prop where
  pages : guide.pages = built.filter fun page => !page.excluded
  excluded : guide.excluded = (built.filter Page.excluded).map Page.src
  walk : Walk.sightings v config.src = .ok found
  tree : guide.tree = Navigation.build (.ofSightings found) guide.pages guide.excluded
  nodup : (built.map Page.src).Nodup
  normal : ∀ page ∈ built, page.src.normalize = page.src
  readable : ∀ page ∈ built, ∃ bytes, v.read page.src = .ok bytes

section

variable {v : Volume} {config : Config} {files : List Path} {guide : Styleguide}

theorem exists_assembled (hfiles : (discover v config).outcome.1 = .ok files)
    (h : (build v config files).outcome.1 = .ok guide) :
    ∃ built found, Assembled v config guide built found := by
  have hdistinct := distinct_of_discover hfiles
  obtain ⟨layout, built, catalog, -, hbuilt, hcatalog, hpages, hexcluded, htree⟩ := build_eq_ok h
  obtain ⟨sources, hreads, hbuilds⟩ := exists_sources hbuilt
  obtain ⟨found, hfound, rfl⟩ : ∃ found, Walk.sightings v config.src = .ok found ∧
      Catalog.ofSightings found = catalog := by
    rw [Catalog.build] at hcatalog
    cases hwalk : Walk.sightings v config.src with
    | error fault =>
      rw [hwalk] at hcatalog
      cases hcatalog
    | ok found =>
      rw [hwalk] at hcatalog
      exact ⟨found, rfl, Except.ok.inj hcatalog⟩
  have hsrc : built.map Page.src = files := by
    rw [map_src_of_builds hbuilds, ← Function.comp_def Path.normalize, ← List.map_map,
      map_path_of_reads hreads, List.map_congr_left hdistinct.normal, List.map_id']
  refine ⟨built, found, hpages, hexcluded, hfound, htree, hsrc ▸ hdistinct.nodup,
    fun page hm => normalize_src hbuilds hm, fun page hm => ?_⟩
  refine exists_bytes_of_reads hreads page.src ?_
  rw [← hsrc]
  exact List.mem_map_of_mem hm

variable {built : List Page} {found : List Sighting} {page : Page}

theorem Assembled.mem_built (h : Assembled v config guide built found)
    (hpage : page ∈ guide.pages) : page ∈ built ∧ page.excluded = false := by
  rw [h.pages] at hpage
  simpa using List.mem_filter.mp hpage

theorem Assembled.page_unique (h : Assembled v config guide built found) {other : Page}
    (hpage : page ∈ built) (hother : other ∈ built)
    (hsame : other.src.normalize = page.src.normalize) : other = page := by
  rw [h.normal _ hpage, h.normal _ hother] at hsame
  exact List.inj_on_of_nodup_map h.nodup hother hpage hsame

theorem Assembled.pageOf? (h : Assembled v config guide built found) (hpage : page ∈ guide.pages)
    {path : Path} (hpath : path.normalize = page.src.normalize) :
    Navigation.pageOf? guide.pages path = some page := by
  have hsame : page.src.normalize.same path.normalize = true := by
    rw [hpath]
    exact Path.same_iff.mpr rfl
  cases hfind : Navigation.pageOf? guide.pages path with
  | none =>
    have hnone := List.find?_eq_none.mp hfind page (List.mem_reverse.mpr hpage)
    exact absurd hsame hnone
  | some other =>
    have hother := List.mem_reverse.mp (List.mem_of_find?_eq_some hfind)
    have halike := @List.find?_some _ _ _ guide.pages.reverse hfind
    rw [h.page_unique (h.mem_built hpage).1 (h.mem_built hother).1
      ((Path.same_normalize_iff.mp halike).trans hpath)]

theorem Assembled.kept_folder (h : Assembled v config guide built found) {path other : Path}
    (hfolder : v.at? (v.place path) = some .folder) (hother : other ∈ guide.excluded) :
    other.normalize.same path.normalize = false := by
  rw [← Bool.not_eq_true, Path.same_normalize_iff]
  intro hsame
  rw [h.excluded] at hother
  obtain ⟨left, hleft, rfl⟩ := List.mem_map.mp hother
  obtain ⟨bytes, hread⟩ := h.readable left (List.mem_filter.mp hleft).1
  obtain ⟨-, hfile⟩ := Volume.read_eq_ok.mp hread
  rw [← Volume.place_normalize, hsame, Volume.place_normalize, hfolder] at hfile
  cases hfile

theorem Assembled.kept_page (h : Assembled v config guide built found) {path other : Path}
    (hpage : page ∈ guide.pages) (hpath : path.normalize = page.src.normalize)
    (hother : other ∈ guide.excluded) : other.normalize.same path.normalize = false := by
  rw [← Bool.not_eq_true, Path.same_normalize_iff]
  intro hsame
  rw [h.excluded] at hother
  obtain ⟨left, hleft, rfl⟩ := List.mem_map.mp hother
  obtain ⟨hmem, hexcluded⟩ := List.mem_filter.mp hleft
  obtain ⟨hbuilt, hkept⟩ := h.mem_built hpage
  rw [h.page_unique hbuilt hmem (hsame.trans hpath), hkept] at hexcluded
  cases hexcluded

-- ---------------------------------------------------------------------------
-- Leaves
-- ---------------------------------------------------------------------------

def Clean (directory path : Path) : Prop :=
  ∃ names : List Text, names ≠ [] ∧
    Path.normalParts path.parts = Path.normalParts directory.parts ++ names.map .name ∧
    ∀ name ∈ names, isJunk name = false

/-- A directory that a walk keeps: it has no junk name, and it is recorded under its path. -/
def Kept (directory : Path) : Prop :=
  isJunk (directory.fileName?.getD directory.spelling) = false ∧ Walk.Traced directory

theorem Assembled.mem_leaves (h : Assembled v config guide built found) (hv : v.WellFormed)
    (hpage : page ∈ guide.pages) (hkept : Kept config.src) (hclean : Clean config.src page.src) :
    page ∈ Navigation.Node.leavesAll guide.tree := by
  obtain ⟨names, hne, hnames, hjunk⟩ := hclean
  have hbuilt := (h.mem_built hpage).1
  have hparts : page.src.parts = Path.normalParts config.src.parts ++ names.map .name := by
    rw [← hnames, ← Path.parts_normalize, h.normal page hbuilt]
  have hproper : ∀ name ∈ names, (Part.name name).Proper := by
    intro name hm
    refine Path.proper_of_name_mem (p := page.src) ?_
    simp [hparts, hm]
  have hway : v.Way (v.place config.src) names := by
    obtain ⟨bytes, hread⟩ := h.readable page hbuilt
    have hway := Volume.way_of_read hread hparts
    rwa [← Path.parts_normalize, ← Volume.place, Volume.place_normalize] at hway
  obtain ⟨root, between, leaf, hchain, hroot, hbetween, hfile, hbelow⟩ :=
    Walk.exists_chain hv h.walk hkept.2 hne hway hproper
  have hleaf : leaf.path.normalize = page.src.normalize := by
    obtain ⟨-, hleaf⟩ := Walk.parts_of_leaf hv h.walk hchain
    rw [Path.normalize_eq_iff, hleaf, hbelow, hnames, Path.normalParts_append,
      Path.foldl_fold_names]
  have hlisted : Navigation.Listed guide.excluded root between leaf := by
    refine ⟨?_, hfile, ?_, ?_⟩
    · exact List.forall_mem_cons.mpr ⟨hroot.kind.symm, fun e he => (hbetween e he).1⟩
    · rw [List.cons_append]
      refine List.forall_mem_cons.mpr ⟨hroot.name ▸ hkept.1, fun e he => ?_⟩
      exact hjunk e.name (hbelow ▸ List.mem_map_of_mem he)
    · refine List.forall_mem_append.mpr ⟨fun e he other hother => ?_, ?_⟩
      · exact h.kept_folder (hbetween e he).2 hother
      · exact List.forall_mem_singleton.mpr fun other hother => h.kept_page hpage hleaf hother
  have hroute : Navigation.route? guide.pages guide.excluded (root :: between, leaf) =
      some (between.map Entry.name, page) := by
    rw [Navigation.route?, if_pos hlisted, h.pageOf? hpage hleaf]
    rfl
  rw [h.tree, Navigation.Node.leavesAll_eq_routes, Navigation.routesAll_build]
  refine List.mem_map.mpr ⟨_, List.mem_filterMap.mpr ⟨_, ?_, hroute⟩, rfl⟩
  exact (Catalog.sound_ofSightings found).mem_chains.mpr hchain

theorem Assembled.clean_of_mem_leaves (h : Assembled v config guide built found)
    (hv : v.WellFormed) (hleaf : page ∈ Navigation.Node.leavesAll guide.tree) :
    Kept config.src ∧ Clean config.src page.src := by
  rw [h.tree, Navigation.Node.leavesAll_eq_routes, Navigation.routesAll_build] at hleaf
  obtain ⟨route, hroute, rfl⟩ := List.mem_map.mp hleaf
  obtain ⟨⟨above, leaf⟩, hm, hroute⟩ := List.mem_filterMap.mp hroute
  have hleads := Navigation.leads_of_route? hroute
  have hchain := Catalog.chain_of_mem hm
  cases above with
  | nil => cases hroute
  | cons root between =>
    rw [Navigation.route?] at hroute
    split at hroute
    · next hlisted =>
      obtain ⟨htraced, hparts⟩ := Walk.parts_of_leaf hv h.walk hchain
      obtain ⟨kind, rest, rfl, -⟩ := Walk.exists_rest h.walk
      have hroot : isJunk (config.src.fileName?.getD config.src.spelling) = false := by
        cases hchain with
        | child hi _ _ =>
          obtain ⟨s, hs, hrecords⟩ := Catalog.exists_records hi
          cases hs
          have hname : config.src.fileName?.getD config.src.spelling = root.name := hrecords.name
          rw [hname]
          exact hlisted.clean root List.mem_cons_self
      refine ⟨⟨hroot, htraced⟩, (between ++ [leaf]).map Entry.name, by simp, ?_, ?_⟩
      · rw [Path.normalize_eq_iff.mp hleads.src, hparts, Path.normalParts_append,
          Path.foldl_fold_names]
      · refine List.forall_mem_map.mpr fun e he => ?_
        exact hlisted.clean e (List.mem_cons_of_mem _ he)
    · cases hroute

/-- A page of discovered sources is a leaf of the navigation once if the source directory is
kept and no name from there to the source is junk, and otherwise it is no leaf. -/
theorem build_complete (hv : v.WellFormed) (hfiles : (discover v config).outcome.1 = .ok files)
    (h : (build v config files).outcome.1 = .ok guide) (hpage : page ∈ guide.pages) :
    ((Navigation.Node.leavesAll guide.tree).count page = 1 ↔
      Kept config.src ∧ Clean config.src page.src) ∧
    (¬ (Kept config.src ∧ Clean config.src page.src) →
      page ∉ Navigation.Node.leavesAll guide.tree) := by
  obtain ⟨built, found, hassembled⟩ := exists_assembled hfiles h
  have hnodup : (Navigation.Node.leavesAll guide.tree).Nodup := by
    rw [hassembled.tree]
    exact (Navigation.nodup_leaves (Walk.pairwise_apart hv hassembled.walk)).of_map _
  refine ⟨⟨fun hcount => ?_, fun ⟨hkept, hclean⟩ => ?_⟩, fun hnot hleaf => ?_⟩
  · refine hassembled.clean_of_mem_leaves hv (List.count_pos_iff.mp ?_)
    omega
  · exact List.count_eq_one_of_mem hnodup (hassembled.mem_leaves hv hpage hkept hclean)
  · exact hnot (hassembled.clean_of_mem_leaves hv hleaf)

end

/-- The directory is spelled with a double point at its end. -/
theorem build_complete_nested :
    let v := (Volume.mk [] []).plant ["s".toList, "d".toList, "a.css".toList] (.file .empty)
    let config : Config := { src := "/s/d/.." }
    v.WellFormed ∧ ∃ files guide page, (discover v config).outcome.1 = .ok files ∧
      (build v config files).outcome.1 = .ok guide ∧ page ∈ guide.pages ∧ Kept config.src ∧
      Clean config.src page.src ∧ (Navigation.Node.leavesAll guide.tree).count page = 1 := by
  intro v config
  have hv : v.WellFormed := (Volume.wellFormed_empty []).plant (by decide) _
  have hrun : (do
      let files ← (discover v config).outcome.1.toOption
      let guide ← (build v config files).outcome.1.toOption
      let page ← guide.pages.head?
      guard (page.src = "/s/d/a.css")) = some () := by
    decide +kernel
  obtain ⟨files, hfiles, hrun⟩ := Option.bind_eq_some_iff.mp hrun
  obtain ⟨guide, hguide, hrun⟩ := Option.bind_eq_some_iff.mp hrun
  obtain ⟨page, hpage, hrun⟩ := Option.bind_eq_some_iff.mp hrun
  have hsrc := (Option.guard_eq_some' _).mp hrun
  have hfiles := Except.toOption_eq_some.mp hfiles
  have hguide := Except.toOption_eq_some.mp hguide
  have hmem := List.mem_of_mem_head? hpage
  have hkept : Kept config.src := by
    unfold Kept
    decide
  have hclean : Clean config.src page.src := by
    refine ⟨["d".toList, "a.css".toList], by simp, ?_, by decide⟩
    rw [hsrc]
    decide
  exact ⟨hv, files, guide, page, hfiles, hguide, hmem, hkept, hclean,
    (build_complete hv hfiles hguide hmem).1.mpr ⟨hkept, hclean⟩⟩

/-- The styleguide of a single file, whose name below the source directory is clean, is built
without it. -/
def LosesPage (names : List Text) (src : Path) : Prop :=
  ∃ files guide page,
    (discover ((Volume.mk [] []).plant names (.file .empty)) { src }).outcome.1 = .ok files ∧
    (build ((Volume.mk [] []).plant names (.file .empty)) { src } files).outcome.1 = .ok guide ∧
    guide.pages = [page] ∧ Clean src page.src ∧
    (Navigation.Node.leavesAll guide.tree).count page = 0

theorem losesPage_of_run {names : List Text} {src : Path}
    (hclean : names.drop 1 ≠ [] ∧
      names.map Part.name = Path.normalParts src.parts ++ (names.drop 1).map Part.name ∧
      ∀ name ∈ names.drop 1, isJunk name = false)
    (hrun : (do
      let v := (Volume.mk [] []).plant names (.file .empty)
      let files ← (discover v { src }).outcome.1.toOption
      let guide ← (build v { src } files).outcome.1.toOption
      let page ← guide.pages.head?
      guard (guide.pages = [page] ∧ Navigation.Node.leavesAll guide.tree = [] ∧
        Path.normalParts page.src.parts = names.map .name)) = some ()) : LosesPage names src := by
  obtain ⟨files, hfiles, hrun⟩ := Option.bind_eq_some_iff.mp hrun
  obtain ⟨guide, hguide, hrun⟩ := Option.bind_eq_some_iff.mp hrun
  obtain ⟨page, -, hrun⟩ := Option.bind_eq_some_iff.mp hrun
  obtain ⟨hpages, hleaves, hsrc⟩ := (Option.guard_eq_some' _).mp hrun
  rw [← hsrc] at hclean
  exact ⟨files, guide, page, Except.toOption_eq_some.mp hfiles,
    Except.toOption_eq_some.mp hguide, hpages, ⟨_, hclean⟩, by rw [hleaves]; rfl⟩

/-- The only page is lost if the directory has a junk name, and also if it is spelled with a
double point behind a name. -/
theorem build_loses_pages :
    LosesPage ["s~".toList, "a.css".toList] "s~" ∧
    LosesPage ["s".toList, "d".toList, "a.css".toList] "s/d/.." :=
  ⟨losesPage_of_run (by decide) (by decide +kernel),
    losesPage_of_run (by decide) (by decide +kernel)⟩

end Styleguide

end Swatchbook
