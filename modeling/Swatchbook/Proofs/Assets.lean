import Swatchbook.Program
import Swatchbook.Proofs.Discovery
import Swatchbook.Proofs.Reach

/-!
# Addresses of assets

Assets are found by their normal paths, and each page refers to one by the way
from the directory of the page. A relative output root is made absolute and
normal when the settings are loaded, but an absolute one keeps the spelling it
was given. Main statement: the address in the tag of an asset leads to the
asset unless the directory of the page misleads, and what is read of it does
just if moreover nothing in it is misread.
-/

namespace Swatchbook

open Swatchbook.Path

namespace Path

theorem Normal.append_names {parts : List Part} {names : List Text} (h : Normal parts)
    (hnames : ∀ name ∈ names, (Part.name name).Proper) : Normal (parts ++ names.map .name) := by
  rw [← foldl_fold_names]
  refine h.foldl_fold fun name hm => ?_
  obtain ⟨other, hother, heq⟩ := List.mem_map.mp hm
  cases heq
  exact hnames name hother

end Path

namespace Config

theorem resolve_tidy (base p : Path) :
    (resolve base p).isAbsolute = true ∨ Normal (resolve base p).parts := by
  rw [resolve]
  split
  · next habsolute => exact .inl habsolute
  · rw [parts_normalize]
    exact .inr (normal_normalParts _)

theorem dest_of_load {v : Volume} {flags : Flags} {working : Path} {config : Config}
    (h : load v flags working = .ok config) :
    config.dest.isAbsolute = true ∨ Normal config.dest.parts := by
  obtain ⟨settings, -, hconfig⟩ := Except.bind_eq_ok.mp h
  cases hconfig
  exact resolve_tidy working (settings.apply flags).dest

end Config

namespace Renderer

/-- The index, or a page whose destination is the output root and then names. -/
inductive BelowRoot (config : Config) (page : Page) : Prop
  | index {v : Volume} (built : (index v config).outcome.1 = .ok page)
  | names {names : List Text} (strict : names ≠ [])
      (parts : page.dest.parts = config.dest.parts ++ names.map .name)

variable {config : Config} {page : Page}

theorem BelowRoot.parts (h : BelowRoot config page) : ∃ (directories : List Text) (name : Text),
    page.dest.parts = config.dest.parts ++ directories.map .name ++ [.name name] := by
  cases h with
  | index built =>
    obtain ⟨sections, rfl⟩ := index_eq built
    have hparts := parts_join_name config.dest (⟨by decide, by decide⟩ :
      (Part.name "index.html").Proper)
    exact ⟨[], "index.html".toList, by simpa using hparts⟩
  | @names names strict parts =>
    cases names using List.reverseRecOn with
    | nil => exact absurd rfl strict
    | append_singleton directories name =>
      exact ⟨directories, name, by rw [parts, List.map_append, List.append_assoc]; rfl⟩

theorem BelowRoot.directory (h : BelowRoot config page)
    (hdest : config.dest.isAbsolute = true ∨ Normal config.dest.parts) :
    ∃ directory, page.dest.parent? = some directory ∧
      (directory.isAbsolute = true ∨ Normal directory.parts) := by
  obtain ⟨directories, name, hparts⟩ := h.parts
  obtain ⟨directory, hdirectory, hfront⟩ := parts_parent? hparts nofun
  refine ⟨directory, hdirectory, ?_⟩
  rcases hdest with habsolute | hnormal
  · left
    rw [isAbsolute_of_below hfront (by simp), habsolute]
  · right
    rw [hfront]
    refine hnormal.append_names fun other hm => proper_of_name_mem (p := page.dest) ?_
    rw [hparts]
    simp [hm]

open Element (reference? Inert Kind reading_shown shown_eq_self_iff)

/-- From the directory of any page, the address of an asset leads to the asset, just if the directory
does not mislead. Its tag is emitted, and what is read of the address leads to the asset, just if
moreover the address is inert. -/
theorem assets_reach_iff {v : Volume} {flags : Flags} {working path : Path} {r : Renderer}
    (hconfig : Config.load v flags working = .ok r.config)
    (hassets : (Styleguide.resolveIncludes v working r.config.assets).outcome.1 = .ok r.assets)
    (hpage : BelowRoot r.config page) (hpath : .file path ∈ r.assets) :
    ∃ directory, page.dest.parent? = some directory ∧
      assetTag (assetAddress r.config page (.file path)) <:+: (r.surroundings page).assets ∧
      ((directory.join ⟨assetAddress r.config page (.file path)⟩).normalize = path ↔
        ¬ Misled directory path) ∧
      ((∃ href, reference? (assetTag (assetAddress r.config page (.file path))) = some href ∧
          (directory.join ⟨href⟩).normalize = path) ↔
        ¬ Misled directory path ∧ Inert (assetAddress r.config page (.file path))) := by
  obtain ⟨directory, hdirectory, htidy⟩ := hpage.directory (Config.dest_of_load hconfig)
  have hrun : Styleguide.resolveIncludes v working r.config.assets [] =
      (.ok r.assets, (Styleguide.resolveIncludes v working r.config.assets).outcome.2) := by
    rw [← hassets]
    rfl
  have hnormal := (Styleguide.found_of_resolveIncludes hrun path hpath).normal
  have hself : Normal path.parts := by
    rw [← hnormal, parts_normalize]
    exact normal_normalParts path
  have haddress : assetAddress r.config page (.file path) = wayTo path directory := by
    rw [assetAddress, directoryOf, hdirectory, Option.getD_some, wayTo]
  have hleads := wayTo_leads_iff hself htidy
  have hshown := read_wayTo_leads_iff reading_shown hself htidy
  rw [hnormal, ← haddress] at hleads hshown
  rw [shown_eq_self_iff] at hshown
  refine ⟨directory, hdirectory, assetTag_emitted r page hpath, hleads, ?_⟩
  obtain ⟨kind, hkind⟩ := Kind.assetTag_eq (assetAddress r.config page (.file path))
  rw [hkind]
  constructor
  · rintro ⟨href, hhref, hreach⟩
    rw [Element.eq_shown_of_reference? hhref] at hreach
    exact hshown.mp hreach
  · intro hboth
    exact ⟨_, Element.reference?_tag kind hboth.2.1, hshown.mpr hboth⟩

/-- A relative output root is folded, whatever double points it has. -/
theorem assets_reach_folded :
    let v := (Volume.mk [] []).plant ["p".toList, "dist".toList, "a.css".toList] (.file .empty)
    let flags := Flags.ofGiven [⟨.dest, "x/../o".toList⟩, ⟨.asset, "dist/*.css".toList⟩]
    let page : Page := ⟨[], [], .empty, "/p/o/a/b.html", [], [], false⟩
    ∃ (r : Renderer) (directory : Path), Config.load v flags "/p" = .ok r.config ∧
      (Styleguide.resolveIncludes v "/p" r.config.assets).outcome.1 = .ok r.assets ∧
      BelowRoot r.config page ∧ .file "/p/dist/a.css" ∈ r.assets ∧
      page.dest.parent? = some directory ∧
      assetTag (assetAddress r.config page (.file "/p/dist/a.css")) <:+:
        (r.surroundings page).assets ∧
      ∃ href, reference? (assetTag (assetAddress r.config page (.file "/p/dist/a.css"))) =
          some href ∧ (directory.join ⟨href⟩).normalize = "/p/dist/a.css" := by
  intro v flags page
  let config : Config := { src := "/p/assets", dest := "/p/o", assets := ["dist/*.css".toList] }
  let r : Renderer := ⟨config, ⟨[], [], 0⟩, [], [], [.file "/p/dist/a.css"], []⟩
  have hconfig : Config.load v flags "/p" = .ok r.config :=
    Except.toOption_eq_some.mp (by decide +kernel)
  have hassets : (Styleguide.resolveIncludes v "/p" r.config.assets).outcome.1 = .ok r.assets :=
    Except.toOption_eq_some.mp (by decide +kernel)
  have hpage : BelowRoot r.config page :=
    @BelowRoot.names _ _ ["a".toList, "b.html".toList] (List.cons_ne_nil _ _) (by decide)
  have hpath : .file "/p/dist/a.css" ∈ r.assets := List.mem_cons_self
  obtain ⟨directory, hdirectory, hemitted, -, hreaches⟩ :=
    assets_reach_iff hconfig hassets hpage hpath
  have hknown : page.dest.parent? = some "/p/o/a" := by decide
  obtain rfl := Option.some.inj (hknown.symm.trans hdirectory)
  have hinert : Inert (assetAddress r.config page (.file "/p/dist/a.css")) :=
    Element.inert_of_plain (by decide)
  exact ⟨r, _, hconfig, hassets, hpage, hpath, hdirectory, hemitted,
    hreaches.mpr ⟨not_misled_of_no_up (by decide) (by decide), hinert⟩⟩

/-- An absolute output root is not: the address climbs over its double point as over a name. -/
theorem assets_misled :
    let v := (Volume.mk [] []).plant ["p".toList, "dist".toList, "a.css".toList] (.file .empty)
    let flags := Flags.ofGiven [⟨.dest, "/p/x/../o".toList⟩, ⟨.asset, "dist/*.css".toList⟩]
    let page : Page := ⟨[], [], .empty, "/p/x/../o/a.html", [], [], false⟩
    ∃ (r : Renderer) (directory : Path), Config.load v flags "/p" = .ok r.config ∧
      (Styleguide.resolveIncludes v "/p" r.config.assets).outcome.1 = .ok r.assets ∧
      BelowRoot r.config page ∧ .file "/p/dist/a.css" ∈ r.assets ∧
      page.dest.parent? = some directory ∧
      (r.surroundings page).assets =
        "<link rel=\"stylesheet\" href=\"../../../dist/a.css\">".toList ∧
      reference? (r.surroundings page).assets = some "../../../dist/a.css".toList ∧
      (directory.join "../../../dist/a.css").normalize = "/dist/a.css" := by
  intro v flags page
  let config : Config :=
    { src := "/p/assets", dest := "/p/x/../o", assets := ["dist/*.css".toList] }
  let r : Renderer := ⟨config, ⟨[], [], 0⟩, [], [], [.file "/p/dist/a.css"], []⟩
  have hconfig : Config.load v flags "/p" = .ok r.config :=
    Except.toOption_eq_some.mp (by decide +kernel)
  have hassets : (Styleguide.resolveIncludes v "/p" r.config.assets).outcome.1 = .ok r.assets :=
    Except.toOption_eq_some.mp (by decide +kernel)
  have hpage : BelowRoot r.config page :=
    @BelowRoot.names _ _ ["a.html".toList] (List.cons_ne_nil _ _) (by decide)
  exact ⟨r, "/p/x/../o", hconfig, hassets, hpage, List.mem_cons_self, by decide, by decide,
    by decide, by decide⟩

end Renderer

end Swatchbook
