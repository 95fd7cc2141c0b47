import Swatchbook.Styleguide
import Swatchbook.Proofs.Extraction
import Swatchbook.Proofs.Navigation
import Swatchbook.Proofs.Walk

/-!
# Built styleguides

A styleguide has a page for every source that is not left out, in the order of
the sources. Its navigation leads to pages of it only, to each by one way, and
to none that is left out. The pages, what is left out and the navigation come
from different passes, which agree because all of them compare normal paths.
-/

namespace Swatchbook

namespace Page

variable {layout : Layout} {file : SourceFile} {page : Page}

theorem steady_build (layout : Layout) (file : SourceFile) : (build layout file).Steady :=
  (Report.steady_ofExcept _).bind fun _ =>
    (gives_notes _ _ _).steady.bind fun _ => Report.steady_pure _

theorem of_build (h : (build layout file).outcome.1 = .ok page) : ∃ dest href,
    page = ofBlocks layout file dest href (layout.delimiters.blocks file.text) := by
  rw [build_eq] at h
  cases haddress : address layout.source layout.output file.path with
  | error fault =>
    rw [haddress] at h
    cases h
  | ok found =>
    rw [haddress] at h
    cases h
    exact ⟨_, _, rfl⟩

end Page

-- ---------------------------------------------------------------------------
-- Leaves
-- ---------------------------------------------------------------------------

namespace Navigation

variable {pages : List Page} {excluded : List Path} {c : Catalog}

/-- A leaf is a file that is not excluded, with a page of its normal path. -/
structure Leads (pages : List Page) (excluded : List Path) (leaf : Entry) (page : Page) :
    Prop where
  file : leaf.kind = .file
  kept : ∀ other ∈ excluded, other.normalize ≠ leaf.path.normalize
  mem : page ∈ pages
  src : page.src.normalize = leaf.path.normalize

theorem leads_of_route? {above : List Entry} {leaf : Entry} {route : List Text × Page}
    (h : route? pages excluded (above, leaf) = some route) :
    Leads pages excluded leaf route.2 := by
  cases above with
  | nil => cases h
  | cons root between =>
    rw [route?] at h
    split at h
    · next hlisted =>
      obtain ⟨page, hpage, rfl⟩ := Option.map_eq_some_iff.mp h
      have hfind : (pages.reverse.find? fun page => page.src.normalize.same leaf.path.normalize) =
          some page := hpage
      have hsame := List.find?_some hfind
      refine ⟨hlisted.file, fun other hother heq => ?_, ?_, ?_⟩
      · have hkept := hlisted.kept leaf (List.mem_append_right _ (.head _)) other hother
        rw [Path.same_normalize_iff.mpr heq] at hkept
        cases hkept
      · exact List.mem_reverse.mp (List.mem_of_find?_eq_some hfind)
      · exact Path.same_normalize_iff.mp hsame
    · cases h

theorem exists_leads {page : Page} (h : page ∈ Node.leavesAll (build c pages excluded)) :
    ∃ i leaf, c.entry? i = some leaf ∧ Leads pages excluded leaf page := by
  rw [Node.leavesAll_eq_routes, routesAll_build] at h
  obtain ⟨route, hroute, rfl⟩ := List.mem_map.mp h
  obtain ⟨⟨above, leaf⟩, hm, hsome⟩ := List.mem_filterMap.mp hroute
  obtain ⟨i, hi⟩ := Catalog.entry?_of_chain (Catalog.chain_of_mem hm)
  exact ⟨i, leaf, hi, leads_of_route? hsome⟩

theorem nodup_leaves {found : List Sighting} (hfiles : found.Pairwise Walk.Apart) :
    ((Node.leavesAll (build (.ofSightings found) pages excluded)).map
      fun page => page.src.normalize).Nodup := by
  have hsound := Catalog.sound_ofSightings found
  rw [Node.leavesAll_eq_routes, routesAll_build, List.map_map, List.Nodup, List.pairwise_map,
    List.pairwise_filterMap]
  have hchains := List.pairwise_map.mp (hsound.nodup_chainsFrom
    ((Catalog.ofSightings found).entries.length + 1) 0)
  refine hchains.imp_of_mem ?_
  rintro ⟨above, leaf⟩ ⟨above', leaf'⟩ hm hm' hne route hroute route' hroute' heq
  have hleads := leads_of_route? hroute
  have hleads' := leads_of_route? hroute'
  obtain ⟨i, hi⟩ := Catalog.entry?_of_chain (Catalog.chain_of_mem hm)
  obtain ⟨j, hj⟩ := Catalog.entry?_of_chain (Catalog.chain_of_mem hm')
  obtain ⟨s, hs, hpath, hfolder⟩ := Catalog.exists_sighting hi
  obtain ⟨t, ht, hpath', hfolder'⟩ := Catalog.exists_sighting hj
  have hij : i ≠ j := by
    rw [← hsound.id_eq hi, ← hsound.id_eq hj]
    exact hne
  refine Walk.apart_of_ne hfiles hs ht hij (hfolder.trans hleads.file)
    (hfolder'.trans hleads'.file) ?_
  rw [hpath, hpath', ← hleads.src, ← hleads'.src]
  exact heq

end Navigation

-- ---------------------------------------------------------------------------
-- Pages
-- ---------------------------------------------------------------------------

namespace Styleguide

variable {v : Volume} {config : Config} {files : List Path} {guide : Styleguide}

theorem steady_buildPage (v : Volume) (layout : Layout) (path : Path) :
    (buildPage v layout path).Steady :=
  (Report.steady_ofExcept _).bind fun _ => Page.steady_build _ _

theorem buildPage_eq_ok {layout : Layout} {path : Path} {page : Page} :
    (buildPage v layout path).outcome.1 = .ok page ↔
      ∃ file, SourceFile.read v path = .ok file ∧
        (Page.build layout file).outcome.1 = .ok page := by
  rw [buildPage, Report.outcome_bind fun _ => Page.steady_build _ _, Except.bind_eq_ok]
  rfl

theorem build_eq_ok (h : (build v config files).outcome.1 = .ok guide) :
    ∃ layout built catalog, config.layout = .ok layout ∧
      List.Forall₂ (fun path page => (buildPage v layout path).outcome.1 = .ok page) files built ∧
      Catalog.build v config.src = .ok catalog ∧
      guide.pages = (built.filter fun page => !page.excluded) ∧
      guide.excluded = (built.filter Page.excluded).map Page.src ∧
      guide.tree = Navigation.build catalog guide.pages guide.excluded := by
  have hrun : build v config files [] = (.ok guide, (build v config files).outcome.2) := by
    rw [← h]
    rfl
  unfold build at hrun
  split at hrun
  · cases hrun
  · obtain ⟨layout, _, hlayout, hrun⟩ := Step.bind_eq_ok.mp hrun
    obtain ⟨built, _, hbuilt, hrun⟩ := Step.bind_eq_ok.mp hrun
    obtain ⟨catalog, _, hcatalog, hrun⟩ := Step.bind_eq_ok.mp hrun
    obtain ⟨-, _, -, hrun⟩ := Step.bind_eq_ok.mp hrun
    have hsteady := steady_buildPage v layout
    have hbuilt := (Report.steady_mapM hsteady files).outcome_of_run hbuilt
    rw [Report.outcome_mapM hsteady, Except.mapM_eq_ok] at hbuilt
    cases hrun
    exact ⟨layout, built, catalog, Report.ofExcept_eq_ok hlayout, hbuilt,
      Report.ofExcept_eq_ok hcatalog, rfl, rfl, rfl⟩

theorem path_of_read {path : Path} {file : SourceFile} (h : SourceFile.read v path = .ok file) :
    file.path = path := by
  unfold SourceFile.read at h
  split at h
  · cases h
    rfl
  · cases h

def leavesOut (config : Config) (layout : Layout) (file : SourceFile) : Bool :=
  (config.excludeMissing || config.dryRun) && (layout.delimiters.blocks file.text).isEmpty

theorem excludeMissing_of_layout {layout : Layout} (h : config.layout = .ok layout) :
    layout.excludeMissing = (config.excludeMissing || config.dryRun) := by
  obtain ⟨delimiters, -, hlayout⟩ := Except.bind_eq_ok.mp h
  cases hlayout
  rfl

/-- The relation between a source and its page. -/
def Builds (layout : Layout) (file : SourceFile) (page : Page) : Prop :=
  (Page.build layout file).outcome.1 = .ok page

section

variable {layout : Layout} {file : SourceFile} {page : Page}

theorem Builds.src (h : Builds layout file page) : page.src = file.path.normalize := by
  obtain ⟨dest, href, rfl⟩ := Page.of_build h
  rfl

theorem Builds.excluded (h : Builds layout file page) (hlayout : config.layout = .ok layout) :
    page.excluded = leavesOut config layout file := by
  obtain ⟨dest, href, rfl⟩ := Page.of_build h
  rw [leavesOut, ← excludeMissing_of_layout hlayout, Bool.and_comm]
  rfl

end

theorem exists_sources {layout : Layout} {built : List Page}
    (h : List.Forall₂ (fun path page => (buildPage v layout path).outcome.1 = .ok page)
      files built) :
    ∃ sources, List.Forall₂ (fun path file => SourceFile.read v path = .ok file) files sources ∧
      List.Forall₂ (Builds layout) sources built := by
  induction h with
  | nil => exact ⟨[], .nil, .nil⟩
  | cons hpage _ ih =>
    obtain ⟨file, hread, hbuild⟩ := buildPage_eq_ok.mp hpage
    obtain ⟨sources, hreads, hbuilds⟩ := ih
    exact ⟨file :: sources, .cons hread hreads, .cons hbuild hbuilds⟩

theorem map_path_of_reads {sources : List SourceFile}
    (h : List.Forall₂ (fun path file => SourceFile.read v path = .ok file) files sources) :
    sources.map SourceFile.path = files := by
  induction h with
  | nil => rfl
  | cons hread _ ih => rw [List.map_cons, ih, path_of_read hread]

section

variable {layout : Layout} {sources : List SourceFile} {built : List Page}
  (h : List.Forall₂ (Builds layout) sources built)

include h

theorem forall₂_filter (hlayout : config.layout = .ok layout) (keep : Bool → Bool) :
    List.Forall₂ (Builds layout) (sources.filter fun file => keep (leavesOut config layout file))
      (built.filter fun page => keep page.excluded) := by
  refine List.rel_filter ?_ h
  intro file page hbuild
  simp only [hbuild.excluded hlayout]

theorem map_src_of_builds : built.map Page.src = sources.map fun file => file.path.normalize := by
  induction h with
  | nil => rfl
  | cons hbuild _ ih => rw [List.map_cons, ih, hbuild.src, List.map_cons]

theorem normalize_src {page : Page} (hm : page ∈ built) : page.src.normalize = page.src := by
  have hsrc := List.mem_map_of_mem (f := Page.src) hm
  rw [map_src_of_builds h] at hsrc
  obtain ⟨file, -, hfile⟩ := List.mem_map.mp hsrc
  rw [← hfile, Path.normalize_normalize]

end

/-- A styleguide has the page of every source that is not left out, in the order of the
sources, and the normal paths of all others. Every leaf of its tree is one of its pages,
stands for a file that the walk came by, and for none that is left out; no two leaves
stand for one source. -/
theorem build_sound (h : (build v config files).outcome.1 = .ok guide) :
    ∃ layout sources found, config.layout = .ok layout ∧
      List.Forall₂ (fun path file => SourceFile.read v path = .ok file) files sources ∧
      sources.map SourceFile.path = files ∧
      Walk.sightings v config.src = .ok found ∧
      List.Forall₂ (fun file page => (Page.build layout file).outcome.1 = .ok page)
        (sources.filter fun file => !leavesOut config layout file) guide.pages ∧
      guide.excluded =
        (sources.filter (leavesOut config layout)).map (fun file => file.path.normalize) ∧
      (∀ page ∈ Navigation.Node.leavesAll guide.tree, page ∈ guide.pages ∧
        (∃ s ∈ found, s.kind = .file ∧ page.src = s.path.normalize) ∧
        page.src ∉ guide.excluded) ∧
      (v.WellFormed → ((Navigation.Node.leavesAll guide.tree).map Page.src).Nodup) := by
  obtain ⟨layout, built, catalog, hlayout, hbuilt, hcatalog, hpages, hexcluded, htree⟩ :=
    build_eq_ok h
  obtain ⟨sources, hreads, hbuilds⟩ := exists_sources hbuilt
  have hkept := forall₂_filter hbuilds hlayout (!·)
  rw [← hpages] at hkept
  have hleft := map_src_of_builds (forall₂_filter hbuilds hlayout id)
  obtain ⟨found, hfound, rfl⟩ : ∃ found, Walk.sightings v config.src = .ok found ∧
      Catalog.ofSightings found = catalog := by
    rw [Catalog.build] at hcatalog
    cases hwalk : Walk.sightings v config.src with
    | error fault =>
      rw [hwalk] at hcatalog
      cases hcatalog
    | ok found =>
      rw [hwalk] at hcatalog
      exact ⟨found, rfl, Except.ok.inj hcatalog⟩
  refine ⟨layout, sources, found, hlayout, hreads, map_path_of_reads hreads, hfound, hkept,
    hexcluded.trans hleft, ?_, ?_⟩
  · intro page hpage
    rw [htree] at hpage
    obtain ⟨i, leaf, hleaf, hleads⟩ := Navigation.exists_leads hpage
    obtain ⟨s, hs, hpath, hfolder⟩ := Catalog.exists_sighting hleaf
    have hsrc : page.src = leaf.path.normalize := by
      rw [← hleads.src, normalize_src hkept hleads.mem]
    refine ⟨hleads.mem, ⟨s, List.mem_of_getElem? hs, hfolder.trans hleads.file, ?_⟩, fun hm => ?_⟩
    · rw [hpath, hsrc]
    · exact hleads.kept _ hm hleads.src
  · intro hv
    have hnodup := @Navigation.nodup_leaves guide.pages guide.excluded found
      (Walk.pairwise_apart hv hfound)
    rw [← htree] at hnodup
    -- The tree tells leaves apart by normal paths, and those of its pages are normal.
    have hsame : (Navigation.Node.leavesAll guide.tree).map (fun page => page.src.normalize) =
        (Navigation.Node.leavesAll guide.tree).map Page.src := by
      refine List.map_congr_left fun page hpage => ?_
      rw [htree] at hpage
      obtain ⟨_, _, _, hleads⟩ := Navigation.exists_leads hpage
      exact normalize_src hkept hleads.mem
    rwa [hsame] at hnodup

/-- One file that is given twice has two pages and one leaf. -/
theorem build_sound_twice :
    let v := (Volume.mk [] []).plant ["s".toList, "d".toList, "a.css".toList] (.file .empty)
    ∃ guide, (build v { src := "s" } ["s/d/a.css", "s/./d/a.css"]).outcome.1 = .ok guide ∧
      guide.pages.length = 2 ∧ guide.excluded = [] ∧
      (Navigation.Node.leavesAll guide.tree).map Page.src = ["s/d/a.css"] ∧
      (∀ page ∈ Navigation.Node.leavesAll guide.tree, page ∈ guide.pages) ∧
      ((Navigation.Node.leavesAll guide.tree).map Page.src).Nodup := by
  intro v
  have hv : v.WellFormed := (Volume.wellFormed_empty []).plant (by decide) _
  have hbuild : ∃ guide,
      (build v { src := "s" } ["s/d/a.css", "s/./d/a.css"]).outcome.1 = .ok guide ∧
        guide.pages.length = 2 ∧ guide.excluded = [] ∧
        (Navigation.Node.leavesAll guide.tree).map Page.src = ["s/d/a.css"] :=
    ⟨_, rfl, by decide +kernel, by decide +kernel, by decide +kernel⟩
  obtain ⟨guide, hguide, hlength, hexcluded, hleaves⟩ := hbuild
  obtain ⟨layout, sources, found, -, -, -, -, -, -, hleaf, hnodup⟩ := build_sound hguide
  exact ⟨guide, hguide, hlength, hexcluded, hleaves, fun page hm => (hleaf page hm).1, hnodup hv⟩

end Styleguide

end Swatchbook
