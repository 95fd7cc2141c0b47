import Swatchbook.Proofs.Address
import Swatchbook.Proofs.Reading
import Swatchbook.Proofs.Tag

/-!
# What links and scripts reach

From every page the way back to the output root and then the link of another
page lead to where that page is written. The tag of a script goes the same way,
but what counts there is what is read of its address. Main statement: it reaches
the place that the script is copied to just if nothing in the name of the script
is misread.
-/

namespace Swatchbook

open Swatchbook.Path

namespace Element

open Reference (decode attribute?)

theorem decode_append_of_plain {lead : Text} (h : ∀ c ∈ lead, c = '.' ∨ c = '/') (t : Text) :
    decode attribute? (lead ++ t) = lead ++ decode attribute? t := by
  induction lead with
  | nil => rfl
  | cons c lead ih =>
    obtain ⟨hc, h⟩ := List.forall_mem_cons.mp h
    have hnone : attribute? (c :: (lead ++ t)) = none := by
      rcases hc with rfl | rfl <;> rfl
    rw [List.cons_append, Reference.decode_cons_of_none hnone, ih h]
    rfl

theorem reading_shown : Reading shown where
  plain lead t h := by
    have hkeep : ∀ c ∈ lead, (c != '"') = true := by
      intro c hc
      rcases h c hc with rfl | rfl <;> rfl
    rw [shown, List.takeWhile_append_of_pos hkeep, decode_append_of_plain h]
    rfl
  length_le t := (Reference.length_decode_le Reference.proper_attribute?.bounded _).trans
    (List.takeWhile_prefix _).length_le

end Element

namespace Renderer

open Element (reference? shown Inert Kind reading_shown shown_eq_self_iff eq_shown_of_reference?)

section

variable {config : Config} {page : Page} {directories : List Text} {last : Part}
  (h : Page.Below config.dest page.dest page.href directories last)

include h

theorem mem_rootOf {c : Char} (hc : c ∈ rootOf config page) : c = '.' ∨ c = '/' := by
  rw [rootOf_eq h] at hc
  split at hc
  · exact .inl (List.mem_singleton.mp hc)
  · rw [slash_ofParts (proper_ups _), List.map_replicate] at hc
    exact mem_join_ups hc

/-- What is read of the address of a script leads to where it is copied, just if its name is read
as it is. -/
theorem read_scriptAddress_leads_iff {read : Text → Text} (hread : Reading read) (path : Path) :
    ((directoryOf config page).join ⟨read (scriptAddress config page (.file path))⟩).normalize =
        (scriptTarget config path).normalize ↔
      read (path.fileName?.getD []) = path.fileName?.getD [] := by
  have hlead : ∀ c ∈ rootOf config page ++ "/", c = '.' ∨ c = '/' := by
    intro c hc
    rcases List.mem_append.mp hc with hc | hc
    · exact mem_rootOf h hc
    · exact .inr (by simpa using hc)
  rw [scriptAddress, scriptTarget, hread.plain _ _ hlead]
  cases hname : path.fileName? with
  | none =>
    have hnil : read [] = [] := hread.eq_self (List.forall_mem_nil _)
    rw [Option.getD_none, hnil]
    exact iff_of_true (normalize_join_rootOf h rfl) rfl
  | some name =>
    have hproper : (Part.name name).Proper := by
      rw [fileName?] at hname
      split at hname
      · next other hlast =>
        cases hname
        exact proper_of_name_mem (List.mem_of_getLast? hlast)
      · cases hname
    rw [Option.getD_some]
    constructor
    · intro hleads
      have hparts : Path.parts ⟨name⟩ = [.name name] := parts_of_piece hproper
      rw [normalize_eq_iff, normalParts_join_rootOf h, normalParts_join, hparts,
        normalParts_append, List.foldl_cons, List.foldl_nil, fold] at hleads
      have hsingle : Text.join ['/'] ([Part.name name].map Part.text) = name := by
        simp [Text.join, Part.text]
      have hself := eq_join_of_leads (List.cons_ne_nil _ _)
        (by rw [hsingle]; exact hread.length_le name) (Nat.le_refl _) hleads
      rwa [hsingle] at hself
    · intro hself
      rw [hself]
      exact normalize_join_rootOf h (isAbsolute_of_piece hproper)

end

/-- From the directory of any page, the way back to the output root and then the link of any other
page lead to where that page is written. The tag of every script is emitted, and what is read of its
address leads to where the script is copied, just if the name of the script is inert. -/
theorem links_reach (r : Renderer) {p q : Page} (hp : Placed r.config p) (hq : Placed r.config q) :
    ∃ directory, p.dest.parent? = some directory ∧
      (directory.join ⟨(r.surroundings p).root ++ "/" ++ q.href⟩).normalize = q.dest.normalize ∧
      ∀ path : Path, .file path ∈ r.scripts →
        scriptTag (scriptAddress r.config p (.file path)) <:+: (r.surroundings p).scripts ∧
        ((∃ src, reference? (scriptTag (scriptAddress r.config p (.file path))) = some src ∧
            (directory.join ⟨src⟩).normalize = (scriptTarget r.config path).normalize) ↔
          Inert (path.fileName?.getD [])) := by
  obtain ⟨directories, last, hp⟩ := hp.below
  obtain ⟨directories', last', hq⟩ := hq.below
  obtain ⟨directory, hdirectory, -⟩ := exists_parent? hp
  have hdirectoryOf : directoryOf r.config p = directory := by
    rw [directoryOf, hdirectory, Option.getD_some]
  refine ⟨directory, hdirectory, ?_, fun path hpath => ⟨scriptTag_emitted r p hpath, ?_⟩⟩
  · have hhref : Path.parts ⟨q.href⟩ = directories'.map .name ++ [last'] := by
      rw [hq.href_eq, parts_slash (List.concat_ne_nil _ _) hq.proper]
    have hrelative : Path.isAbsolute ⟨q.href⟩ = false :=
      isAbsolute_of_proper (by rw [hhref]; exact hq.proper)
    rw [surroundings_root, ← hdirectoryOf, normalize_join_rootOf hp hrelative, normalize_eq_iff,
      normalParts_join, hhref, hq.dest_parts]
  · have hleads := read_scriptAddress_leads_iff hp reading_shown path
    rw [hdirectoryOf, shown_eq_self_iff] at hleads
    rw [Kind.scriptTag_eq]
    constructor
    · rintro ⟨src, hsrc, hreach⟩
      rw [eq_shown_of_reference? hsrc] at hreach
      exact hleads.mp hreach
    · intro hinert
      refine ⟨_, Element.reference?_tag .script fun hquote => ?_, hleads.mpr hinert⟩
      -- There is no quote in the way back.
      rcases List.mem_append.mp hquote with hquote | hquote
      · rcases List.mem_append.mp hquote with hquote | hquote
        · rcases mem_rootOf hp hquote with hc | hc <;> cases hc
        · simp at hquote
      · exact hinert.1 hquote

/-- The script of a page two directories below, with an ampersand in its name. -/
theorem links_reach_nested : ∃ (r : Renderer) (p q : Page) (directory : Path),
    r.config.dest = "./out/../www/" ∧ r.scripts = [.file "/js/x & y.js"] ∧
    (Page.build ⟨.css, "scss", "./out/../www/", false⟩ ⟨"scss/a/b.css", []⟩).outcome.1 = .ok p ∧
    (Page.build ⟨.css, "scss", "./out/../www/", false⟩ ⟨"./scss/x/../d.css", []⟩).outcome.1 =
      .ok q ∧
    p.dest = "./out/../www/a/b.html" ∧ q.href = "d.html".toList ∧
    p.dest.parent? = some directory ∧
    (directory.join ⟨(r.surroundings p).root ++ "/" ++ q.href⟩).normalize = q.dest.normalize ∧
    "<script src=\"../x & y.js\"></script>".toList <:+: (r.surroundings p).scripts ∧
    ∃ src, reference? "<script src=\"../x & y.js\"></script>" = some src ∧
      (directory.join ⟨src⟩).normalize = (scriptTarget r.config "/js/x & y.js").normalize := by
  let r : Renderer :=
    ⟨{ dest := "./out/../www/" }, ⟨[], [], 0⟩, [], [], [], [.file "/js/x & y.js"]⟩
  let layout : Layout := ⟨.css, "scss", "./out/../www/", false⟩
  obtain ⟨p, hp, hdest⟩ : ∃ p, (Page.build layout ⟨"scss/a/b.css", []⟩).outcome.1 = .ok p ∧
      p.dest = "./out/../www/a/b.html" := by
    have haddress : Page.address "scss" "./out/../www/" "scss/a/b.css" =
        .ok ("./out/../www/a/b.html", "a/b.html".toList) := by decide
    have hbuilt := Page.build_eq layout ⟨"scss/a/b.css", []⟩
    rw [haddress] at hbuilt
    exact ⟨_, hbuilt, rfl⟩
  obtain ⟨q, hq, hhref⟩ : ∃ q, (Page.build layout ⟨"./scss/x/../d.css", []⟩).outcome.1 = .ok q ∧
      q.href = "d.html".toList := by
    have haddress : Page.address "scss" "./out/../www/" "./scss/x/../d.css" =
        .ok ("./out/../www/d.html", "d.html".toList) := by decide
    have hbuilt := Page.build_eq layout ⟨"./scss/x/../d.css", []⟩
    rw [haddress] at hbuilt
    exact ⟨_, hbuilt, rfl⟩
  have hbelow : normalParts (Path.parts "scss/a/b.css") =
      normalParts (Path.parts "scss") ++ ["a".toList, "b.css".toList].map .name := by decide
  have hbelow' : normalParts (Path.parts "./scss/x/../d.css") =
      normalParts (Path.parts "scss") ++ ["d.css".toList].map .name := by decide
  obtain ⟨directory, hdirectory, hlink, hscripts⟩ := links_reach r
    (.source rfl (List.cons_ne_nil _ _) hbelow hp) (.source rfl (List.cons_ne_nil _ _) hbelow' hq)
  obtain ⟨hemitted, hreach⟩ := hscripts "/js/x & y.js" List.mem_cons_self
  have haddress : scriptAddress r.config p (.file "/js/x & y.js") = "../x & y.js".toList := by
    rw [scriptAddress, rootOf, directoryOf, hdest]
    decide
  have htag : scriptTag "../x & y.js" = "<script src=\"../x & y.js\"></script>".toList := by decide
  have hinert : Inert "x & y.js" := shown_eq_self_iff.mp (by decide +kernel)
  have hname : (Path.fileName? "/js/x & y.js").getD [] = "x & y.js".toList := by decide
  rw [haddress, htag] at hemitted hreach
  rw [hname] at hreach
  exact ⟨r, p, q, directory, rfl, rfl, hp, hq, hdest, hhref, hdirectory, hlink, hemitted,
    hreach.mpr hinert⟩

/-- A quote in the name of a script ends its address, and what is read leads to another place. -/
theorem links_broken :
    let layout : Layout := ⟨.css, "s", "o", false⟩
    let r : Renderer := ⟨{ src := "s", dest := "o" }, ⟨[], [], 0⟩, [], [], [], [.file "/p/q\"r.js"]⟩
    ∃ p : Page, (Page.build layout ⟨"s/a.css", []⟩).outcome.1 = .ok p ∧ Placed r.config p ∧
      p.dest.parent? = some "o" ∧
      (r.surroundings p).scripts = "<script src=\"./q\"r.js\"></script>".toList ∧
      reference? (r.surroundings p).scripts = some "./q".toList ∧
      Path.normalize (Path.join "o" "./q") = "o/q" ∧
      (scriptTarget r.config "/p/q\"r.js").normalize = "o/q\"r.js" := by
  intro layout r
  have haddress : Page.address "s" "o" "s/a.css" = .ok ("o/a.html", "a.html".toList) := by decide
  have hbuilt := Page.build_eq layout ⟨"s/a.css", []⟩
  rw [haddress] at hbuilt
  have hbelow : normalParts (Path.parts "s/a.css") =
      normalParts (Path.parts "s") ++ ["a.css".toList].map .name := by decide
  exact ⟨_, hbuilt, .source rfl (List.cons_ne_nil _ _) hbelow hbuilt, by decide, by decide,
    by decide, by decide, by decide⟩

end Renderer

end Swatchbook
