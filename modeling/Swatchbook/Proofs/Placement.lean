import Swatchbook.Proofs.Address

/-!
# Addresses of pages

The page of a file goes to the directories of the file below the output root,
and there under the stem of the file with the extension `html`. Its link is
spelled from the same parts, so it tells the directories and the stem and
nothing else. There is one exception: a stem that is a single point, as that of
`..css`, takes no extension and leaves a double point, which is no name.
-/

namespace Swatchbook

open Swatchbook.Path

theorem Part.Proper.eq_of_text {part other : Part} (h : part.Proper) (hother : other.Proper)
    (htext : part.text = other.text) : part = other :=
  Option.some.inj (by rw [← h.reads, htext, hother.reads])

namespace Page

-- ---------------------------------------------------------------------------
-- The last part of an address
-- ---------------------------------------------------------------------------

def stemOf (name : Text) : Text := (splitName name).1

def lastPart (name : Text) : Part :=
  if stemOf name = ['.'] then .up else .name (stemOf name ++ '.' :: "html")

section

variable {name : Text} (hname : (Part.name name).Proper)

include hname

theorem stemOf_ne_nil : stemOf name ≠ [] := (splitName_proper hname).1

theorem proper_lastPart : (lastPart name).Proper := by
  rw [lastPart]
  split
  · exact proper_up
  · exact proper_stem hname (by simp) (by simp)

theorem text_lastPart : (lastPart name).text = renamed "html" name := by
  rw [lastPart, stemOf]
  rcases splitName_cases name with h | ⟨stem, extension, h, -, -⟩
  · have hpoint : name ≠ ['.'] := by
      rintro rfl
      cases hname.reads
    rw [renamed_of_none _ h, h, if_neg hpoint, Part.text]
  · rw [renamed_of_some _ h, h]
    split <;> rfl

end

theorem lastPart_inj {name other : Text} :
    lastPart name = lastPart other ↔ stemOf name = stemOf other := by
  unfold lastPart
  split <;> split <;> simp_all [eq_comm]

theorem lastPart_eq_up_iff {name : Text} : lastPart name = .up ↔ stemOf name = ['.'] := by
  rw [lastPart]
  split <;> simp_all

-- ---------------------------------------------------------------------------
-- Whole addresses
-- ---------------------------------------------------------------------------

/-- A path whose normal form is that of the source root, then directories, then a name. -/
def Within (source path : Path) (directories : List Text) (name : Text) : Prop :=
  normalParts path.parts = normalParts source.parts ++ (directories ++ [name]).map .name

theorem Within.proper {source path : Path} {directories : List Text} {name : Text}
    (h : Within source path directories name) : (Part.name name).Proper := by
  refine (normal_normalParts path).proper_name ?_
  rw [h]
  simp

section

variable {layout : Layout} {file : SourceFile} {page : Page} {directories : List Text}
  {name : Text}

theorem exists_build (h : Within layout.source file.path directories name) :
    ∃ page, (build layout file).outcome.1 = .ok page ∧
      Below layout.output page.dest page.href directories (lastPart name) := by
  obtain ⟨dest, href, last, haddress, htext, hbelow⟩ :=
    @address_of_below _ layout.output _ _ _ h
  have hlast : last.Proper := hbelow.proper last (by simp)
  obtain rfl : last = lastPart name :=
    hlast.eq_of_text (proper_lastPart h.proper) (htext.trans (text_lastPart h.proper).symm)
  exact ⟨_, by rw [build_eq, haddress]; rfl, hbelow⟩

variable {output dest : Path} {href : Text}

theorem parts_href {last : Part} (h : Below output dest href directories last) :
    Path.parts ⟨href⟩ = directories.map .name ++ [last] := by
  rw [h.href_eq, parts_slash (List.concat_ne_nil _ _) h.proper]

theorem join_href {last : Part} (h : Below output dest href directories last) :
    (output.join ⟨href⟩).parts = dest.parts := by
  have hproper : ∀ part ∈ Path.parts ⟨href⟩, part.Proper := by
    rw [parts_href h]
    exact h.proper
  by_cases hspelling : output.spelling = []
  · rw [join_of_empty hspelling, parts_href h, h.dest_parts, parts_of_empty hspelling]
    rfl
  · rw [parts_join (isAbsolute_of_proper hproper) hspelling, ← parts_eq_of_proper hproper,
      parts_href h, h.dest_parts]

/-- Links that are spelled alike lead through the same directories to the same part. -/
theorem href_inj {output' dest' : Path} {href' : Text} {directories' : List Text}
    {last last' : Part} (h : Below output dest href directories last)
    (h' : Below output' dest' href' directories' last') :
    href = href' ↔ directories = directories' ∧ last = last' := by
  constructor
  · rintro rfl
    have hparts := (parts_href h).symm.trans (parts_href h')
    obtain ⟨hdirectories, hlast⟩ := List.append_inj' hparts rfl
    exact ⟨List.map_injective_iff.mpr (fun _ _ => Part.name.inj) hdirectories,
      List.singleton_inj.mp hlast⟩
  · rintro ⟨rfl, rfl⟩
    rw [h.href_eq, h'.href_eq]

theorem extension?_dest (hname : (Part.name name).Proper)
    (h : Below output dest href directories (lastPart name)) :
    dest.extension? = if stemOf name = ['.'] then none else some "html".toList := by
  have hlast : dest.parts.getLast? = some (lastPart name) := by
    rw [h.dest_parts, ← List.append_assoc, List.getLast?_concat]
  rw [extension?, fileName?, hlast, lastPart]
  by_cases hpoint : stemOf name = ['.']
  · rw [if_pos hpoint, if_pos hpoint]
    rfl
  · have hsplit := splitName_stem (stemOf_ne_nil hname) (by simp : '.' ∉ "html".toList)
    rw [if_neg hpoint, if_neg hpoint, Option.bind_some, hsplit]

end

-- ---------------------------------------------------------------------------
-- Addressing
-- ---------------------------------------------------------------------------

/-- Every file below the source root has a page, whose destination is the output root, the
directories of the file and its stem with the extension `html`. The link has these parts
without the root, and leads from the root to the destination; it tells the directories and
the stem of the file. A double point takes the place of the name just if the stem is a
point, and just then the destination has no extension. -/
theorem build_addresses {layout : Layout} {file : SourceFile} {directories : List Text}
    {name : Text} (h : Within layout.source file.path directories name) :
    ∃ page, (build layout file).outcome.1 = .ok page ∧
      page.dest.parts = layout.output.parts ++ (directories.map .name ++ [lastPart name]) ∧
      page.href = Text.join ['/'] (directories ++ [(lastPart name).text]) ∧
      (layout.output.join ⟨page.href⟩).parts = page.dest.parts ∧
      (page.dest.extension? = some "html".toList ↔ stemOf name ≠ ['.']) ∧
      ((∀ part ∈ Path.parts ⟨page.href⟩, part ≠ .up ∧ part ≠ .here) ↔ stemOf name ≠ ['.']) ∧
      ∀ {layout' : Layout} {file' : SourceFile} {directories' : List Text} {name' : Text}
        {page' : Page}, Within layout'.source file'.path directories' name' →
        (build layout' file').outcome.1 = .ok page' →
        (page.href = page'.href ↔ directories = directories' ∧ stemOf name = stemOf name') := by
  obtain ⟨page, hpage, hbelow⟩ := exists_build h
  refine ⟨page, hpage, hbelow.dest_parts, ?_, join_href hbelow, ?_, ?_, ?_⟩
  · rw [hbelow.href_eq, slash_ofParts hbelow.proper, List.map_append, List.map_map]
    simp [Function.comp_def, Part.text]
  · rw [extension?_dest h.proper hbelow]
    split <;> simp_all
  · rw [parts_href hbelow, ne_eq, ← lastPart_eq_up_iff]
    constructor
    · intro hparts
      exact (hparts _ (List.mem_append_right _ (.head _))).1
    · intro hlast part hm
      refine ⟨?_, (hbelow.proper part hm).ne_here⟩
      rintro rfl
      rcases List.mem_append.mp hm with hm | hm
      · simp at hm
      · exact hlast (List.mem_singleton.mp hm).symm
  · intro layout' file' directories' name' page' h' hpage'
    obtain ⟨other, hother, hbelow'⟩ := exists_build h'
    obtain rfl : other = page' := Except.ok.inj (hother.symm.trans hpage')
    rw [href_inj hbelow hbelow', lastPart_inj]

/-- Of several extensions the last is taken off, and a leading point begins a stem. -/
theorem build_addresses_dotted :
    let layout : Layout := ⟨.css, "./s/", "o/../w", false⟩
    Within layout.source "s/a/../.b/c.dark.css" [".b".toList] "c.dark.css" ∧
    ∃ page, (build layout ⟨"s/a/../.b/c.dark.css", []⟩).outcome.1 = .ok page ∧
      page.href = ".b/c.dark.html".toList ∧ page.dest.extension? = some "html".toList := by
  intro layout
  have h : Within layout.source "s/a/../.b/c.dark.css" [".b".toList] "c.dark.css" := by
    unfold Within
    decide
  obtain ⟨page, hpage, -, hhref, -, hextension, -, -⟩ :=
    @build_addresses layout ⟨"s/a/../.b/c.dark.css", []⟩ _ _ h
  refine ⟨h, page, hpage, ?_, hextension.mpr (by decide)⟩
  rw [hhref]
  decide

/-- The page of `..css` has a double point for a name and no extension: it is addressed by
the directory above its own. -/
theorem build_loses_extension :
    let layout : Layout := ⟨.css, "s", "o", false⟩
    Within layout.source "s/..css" [] "..css" ∧
    ∃ page, (build layout ⟨"s/..css", []⟩).outcome.1 = .ok page ∧
      page.dest = "o/.." ∧ page.dest.extension? = none ∧
      page.href = "..".toList ∧ .up ∈ Path.parts ⟨page.href⟩ := by
  intro layout
  have haddress : address "s" "o" "s/..css" = .ok ("o/..", "..".toList) := by decide
  have hbuild := build_eq layout ⟨"s/..css", []⟩
  rw [haddress] at hbuild
  refine ⟨?_, _, hbuild, rfl, by decide, rfl, by decide⟩
  unfold Within
  decide

end Page

end Swatchbook
