import Swatchbook.Proofs.Ending
import Swatchbook.Proofs.Extraction
import Swatchbook.Renderer

/-!
# Where pages stand

A page stands below the output root where its source stands below the source
root. So the way from the directory of a page up to the output root has as
many double points as there are directories between them, and whatever goes on
from there goes on from the output root.
-/

namespace Swatchbook

open Swatchbook.Path

namespace Page

-- ---------------------------------------------------------------------------
-- Where pages stand
-- ---------------------------------------------------------------------------

/-- A path below the output root: names of directories and then one proper part, which
is a name, or a double point if the source was named `..css` or alike. The link of a page
consists of the same parts as the way to it. -/
structure Below (output dest : Path) (href : Text) (directories : List Text) (last : Part) :
    Prop where
  proper : ∀ part ∈ directories.map Part.name ++ [last], part.Proper
  dest_parts : dest.parts = output.parts ++ (directories.map .name ++ [last])
  href_eq : href = (ofParts (directories.map .name ++ [last])).slash

/-- Where the page of a file goes whose path has these parts behind the source root. -/
def destOf (output : Path) (rest : List Part) : Path :=
  (output.join (ofParts rest)).withExtension "html"

theorem address_eq_ok_iff {source output path dest : Path} {href : Text} :
    address source output path = .ok (dest, href) ↔ ∃ rest way,
      normalParts path.parts = normalParts source.parts ++ rest ∧ dest = destOf output rest ∧
        dest.relativeTo? output = some way ∧ href = way.slash := by
  have hrebase {rest : List Part} (h : normalParts source.parts ++ rest = normalParts path.parts) :
      path.rebase? source output = some (output.join (ofParts rest)) := by
    rw [rebase?, below?, List.isPrefixOf?_eq_some_iff_append_eq.mpr h]
    rfl
  constructor
  · intro h
    cases hbelow : below? (normalParts source.parts) (normalParts path.parts) with
    | none =>
      rw [address, rebase?, hbelow] at h
      cases h
    | some rest =>
      have hrest := List.isPrefixOf?_eq_some_iff_append_eq.mp hbelow
      rw [address, hrebase hrest] at h
      cases hway : (destOf output rest).relativeTo? output with
      | none =>
        rw [destOf] at hway
        simp only [hway] at h
        cases h
      | some way =>
        refine ⟨rest, way, hrest.symm, ?_⟩
        rw [destOf] at hway
        simp only [hway] at h
        cases h
        exact ⟨rfl, hway, rfl⟩
  · rintro ⟨rest, way, hrest, rfl, hway, rfl⟩
    rw [address, hrebase hrest.symm]
    rw [destOf] at hway
    simp only [hway]
    rfl

theorem address_of_below {source output path : Path} {directories : List Text} {name : Text}
    (h : normalParts path.parts = normalParts source.parts ++ (directories ++ [name]).map .name) :
    ∃ dest href last, address source output path = .ok (dest, href) ∧
      last.text = renamed "html" name ∧ Below output dest href directories last := by
  have hproper : ∀ part ∈ (directories ++ [name]).map Part.name, part.Proper := by
    intro part hm
    obtain ⟨other, -, rfl⟩ := List.mem_map.mp hm
    refine (normal_normalParts path).proper_name ?_
    rw [h]
    exact List.mem_append_right _ hm
  have hname : (Part.name name).Proper := hproper _ (by simp)
  -- The path of the source, moved to the output root.
  let moved := output.join (ofParts ((directories ++ [name]).map .name))
  have hend : moved.pieces.getLast? = some name := by
    have hpiece : Path.pieces ⟨name⟩ = [name] := Text.splitBy_of_not_mem hname.slash
    rw [getLast?_pieces_join _ (isAbsolute_ofProper hproper), List.map_append, List.map_singleton,
      ofParts_concat, getLast?_pieces_join _ (isAbsolute_of_piece hname), Part.text, hpiece]
    rfl
  obtain ⟨front, hfront⟩ := List.getLast?_eq_some_iff.mp hend
  have habove : above front = output.parts ++ directories.map .name := by
    have hparts := parts_of_last hfront hname rfl
    rw [parts_join_ofParts hproper, List.map_append, ← List.append_assoc] at hparts
    exact (List.append_inj' hparts rfl).1.symm
  -- The new extension changes the last part alone.
  have hhtml : ("html" : Text) ≠ [] := by simp
  obtain ⟨last, hlast, htext⟩ := exists_renamed_part hname hhtml (by simp)
  let dest : Path := ⟨Text.join ['/'] (front ++ [last.text])⟩
  have hdest : moved.withExtension "html" = dest := by
    rw [withExtension_of_last hname hhtml hfront, ← htext]
  have hpieces : dest.pieces = front ++ [last.text] := by
    refine pieces_mk (List.concat_ne_nil _ _) fun piece hm => ?_
    rcases List.mem_append.mp hm with hm | hm
    · exact not_mem_of_mem_pieces (p := moved) (by rw [hfront]; exact List.mem_append_left _ hm)
    · rw [List.mem_singleton.mp hm]
      exact hlast.slash
  have hbelow : Below output dest (ofParts (directories.map .name ++ [last])).slash
      directories last := by
    refine ⟨fun part hm => ?_, ?_, rfl⟩
    · rcases List.mem_append.mp hm with hm | hm
      · exact hproper part (by rw [List.map_append]; exact List.mem_append_left _ hm)
      · rw [List.mem_singleton.mp hm]
        exact hlast
    · rw [parts_of_last hpieces hlast rfl, habove, List.append_assoc]
  have hway := relativeTo?_down hbelow.dest_parts (root_not_mem hbelow.proper)
  exact ⟨dest, _, last, address_eq_ok_iff.mpr ⟨_, _, h, hdest.symm, hway, rfl⟩, htext, hbelow⟩

end Page

namespace Renderer

-- ---------------------------------------------------------------------------
-- The way back to the output root
-- ---------------------------------------------------------------------------

section

variable {config : Config} {page : Page} {directories : List Text} {last : Part}
  (h : Page.Below config.dest page.dest page.href directories last)

include h

theorem exists_parent? : ∃ directory, page.dest.parent? = some directory ∧
    directory.parts = config.dest.parts ++ directories.map .name := by
  have hparts := h.dest_parts
  rw [← List.append_assoc] at hparts
  exact parts_parent? hparts (h.proper last (by simp)).ne_root

theorem parts_directoryOf :
    (directoryOf config page).parts = config.dest.parts ++ directories.map .name := by
  obtain ⟨directory, hdirectory, hparts⟩ := exists_parent? h
  rw [directoryOf, hdirectory, Option.getD_some, hparts]

/-- The way back is as many double points as there are directories, or a point. -/
theorem rootOf_eq : rootOf config page = if directories = [] then ['.']
    else (ofParts (List.replicate directories.length .up)).slash := by
  have hway := relativeTo?_up (parts_directoryOf h) (by simp)
  rw [List.length_map] at hway
  rw [rootOf, hway]
  cases directories with
  | nil => rfl
  | cons name directories =>
    have hslash := slash_ofParts (proper_ups (name :: directories).length)
    simp only [Option.map_some, hslash, reduceCtorEq, if_false, List.isEmpty_iff]
    rw [if_neg]
    simp [List.replicate_succ, Part.text, Text.join]

theorem head?_rootOf : (rootOf config page).head? = some '.' := by
  rw [rootOf_eq h]
  cases directories with
  | nil => rfl
  | cons name directories =>
    rw [if_neg (List.cons_ne_nil _ _), slash_ofParts (proper_ups _)]
    cases directories <;> rfl

theorem foldl_fold_rootOf (done : List Part) :
    (Path.parts ⟨rootOf config page⟩).foldl fold (done ++ directories.map .name) = done := by
  rw [rootOf_eq h]
  cases directories with
  | nil => simp [parts, isAbsolute, Text.splitBy, fold, partOf?]
  | cons name directories =>
    rw [if_neg (List.cons_ne_nil _ _), parts_slash (by simp) (proper_ups _), foldl_fold_climb]

/-- What is behind the way back is taken in from the output root on. -/
theorem normalParts_join_rootOf (t : Text) :
    normalParts ((directoryOf config page).join ⟨rootOf config page ++ "/" ++ t⟩).parts =
      ((pieces ⟨t⟩).filterMap partOf?).foldl fold (normalParts config.dest.parts) := by
  have hpieces : pieces ⟨rootOf config page ++ "/" ++ t⟩ =
      pieces ⟨rootOf config page⟩ ++ pieces ⟨t⟩ := by
    rw [List.append_assoc]
    exact Text.splitBy_append_cons _ _
  have hback := foldl_fold_rootOf h (normalParts config.dest.parts)
  have hhead := head?_rootOf h
  rw [foldl_fold_relative (by rw [isAbsolute, hhead]; rfl)] at hback
  have hrelative : Path.isAbsolute ⟨rootOf config page ++ "/" ++ t⟩ = false := by
    obtain ⟨rest, hrest⟩ := List.head?_eq_some_iff.mp hhead
    rw [isAbsolute, hrest]
    rfl
  rw [normalParts_join, normalParts_append, parts_directoryOf h, normalParts_append,
    foldl_fold_names, foldl_fold_relative hrelative, hpieces, List.filterMap_append,
    List.foldl_append, hback]

theorem normalize_join_rootOf {t : Text} (ht : Path.isAbsolute ⟨t⟩ = false) :
    ((directoryOf config page).join ⟨rootOf config page ++ "/" ++ t⟩).normalize =
      (config.dest.join ⟨t⟩).normalize := by
  rw [normalize_eq_iff, normalParts_join_rootOf h, normalParts_join, normalParts_append,
    foldl_fold_relative ht]

end

-- ---------------------------------------------------------------------------
-- Pages of a run
-- ---------------------------------------------------------------------------

/-- The pages of a run: the index, and the page of any file below a source root. -/
inductive Placed (config : Config) (page : Page) : Prop
  | index {v : Volume} (built : (index v config).outcome.1 = .ok page)
  | source {layout : Layout} {file : SourceFile} {names : List Text}
      (output : layout.output = config.dest) (strict : names ≠ [])
      (below : normalParts file.path.parts = normalParts layout.source.parts ++ names.map .name)
      (built : (Page.build layout file).outcome.1 = .ok page)

theorem index_eq {v : Volume} {config : Config} {page : Page}
    (h : (index v config).outcome.1 = .ok page) : ∃ sections, page =
      { title := config.title, slug := "index", src := config.readme.getD .empty
        dest := config.dest.join "index.html", href := "index.html", sections
        excluded := false } := by
  have hstep : index v config [] = (.ok page, (index v config).outcome.2) := by
    rw [← h]
    rfl
  obtain ⟨sections, middle, -, hpage⟩ := Step.bind_eq_ok.mp hstep
  cases hpage
  exact ⟨sections, rfl⟩

theorem Placed.below {config : Config} {page : Page} (h : Placed config page) :
    ∃ directories last, Page.Below config.dest page.dest page.href directories last := by
  cases h with
  | index built =>
    obtain ⟨sections, rfl⟩ := index_eq built
    have hproper : (Part.name "index.html").Proper := ⟨by decide, by decide⟩
    have hdest := parts_join_part config.dest hproper
    have hhref : ("index.html" : Text) = (ofParts [.name "index.html"]).slash := by
      rw [slash_ofParts (by simpa using hproper)]
      simp [Text.join, Part.text]
    exact ⟨[], .name "index.html", by simpa using hproper, hdest, hhref⟩
  | @source layout file names output strict below built =>
    cases names using List.reverseRecOn with
    | nil => exact absurd rfl strict
    | append_singleton directories name =>
      obtain ⟨dest, href, last, haddress, -, hbelow⟩ := Page.address_of_below below
      rw [Page.build_eq, haddress] at built
      cases built
      rw [output] at hbelow
      exact ⟨directories, last, hbelow⟩

end Renderer

end Swatchbook
