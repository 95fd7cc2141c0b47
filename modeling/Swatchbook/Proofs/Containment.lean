import Swatchbook.Proofs.Placement

/-!
# Staying below the output root

The page of a file below the source root lies below the output root, and a file
that is elsewhere has no page. This fails for paths of four kinds: the source
root itself, a path that climbs out of a root which is nothing but double
points, an absolute path where the normal form of the root is empty, and a file
whose stem is a point. Main statement: it fails for no others.
-/

namespace Swatchbook

open Swatchbook.Path

namespace Path

/-- Where the two ways part, the base climbs and the target does not. -/
def TurnsUp (target base : List Part) : Prop :=
  ∃ common part rest more,
    target = common ++ part :: rest ∧ base = common ++ .up :: more ∧ part ≠ .up

theorem between_eq_none_iff {target base : List Part} (hhere : .here ∉ base) :
    between true target base = none ↔ TurnsUp target base := by
  constructor
  · obtain ⟨common, target, base, rfl, rfl, hparted⟩ := exists_common target base
    have hpoint : base.head? ≠ some .here := fun h =>
      hhere (List.mem_append_right _ (List.mem_of_mem_head? h))
    rw [between_common, between_of_parted hparted hpoint]
    intro hnone
    obtain ⟨htarget, hbase⟩ : target ≠ [] ∧ base.head? = some .up := by
      by_contra hgoes
      rw [if_neg hgoes] at hnone
      cases hnone
    obtain ⟨part, rest, rfl⟩ := List.exists_cons_of_ne_nil htarget
    obtain ⟨more, rfl⟩ := List.head?_eq_some_iff.mp hbase
    refine ⟨common, part, rest, more, rfl, rfl, ?_⟩
    rintro rfl
    exact hparted .up rfl rfl
  · rintro ⟨common, part, rest, more, rfl, rfl, hpart⟩
    have hparted : Parted (part :: rest) (.up :: more) := by
      rintro _ ⟨⟩ h
      exact hpart (Option.some.inj h).symm
    rw [between_common, between_of_parted hparted nofun, if_pos ⟨List.cons_ne_nil _ _, rfl⟩]

theorem here_not_mem_of_isAbsolute {p : Path} (h : p.isAbsolute = true) : .here ∉ p.parts := by
  obtain ⟨rest, hrest, hproper⟩ := parts_of_isAbsolute h
  rw [hrest]
  intro hm
  rcases List.mem_cons.mp hm with hm | hm
  · cases hm
  · exact (hproper _ hm).ne_here rfl

theorem exists_relativeTo?_iff {p base : Path} (hp : p.isAbsolute = true) :
    (∃ way, p.relativeTo? base = some way) ↔
      base.isAbsolute = true ∧ ¬ TurnsUp p.parts base.parts := by
  rw [relativeTo?, hp]
  cases hbase : base.isAbsolute with
  | false => simp
  | true =>
    rw [← between_eq_none_iff (here_not_mem_of_isAbsolute hbase), bne_self_eq_false]
    cases between true p.parts base.parts <;> simp

theorem Normal.rest_cases {front rest : List Part} (h : Normal (front ++ rest)) :
    rest = [] ∨ (∃ more, rest = .up :: more) ∨ (∃ more, rest = .root :: more) ∨
      ∃ (directories : List Text) (name : Text), rest = (directories ++ [name]).map .name := by
  cases rest with
  | nil => exact .inl rfl
  | cons part rest =>
    cases part with
    | root => exact .inr (.inr (.inl ⟨rest, rfl⟩))
    | up => exact .inr (.inl ⟨rest, rfl⟩)
    | here => exact absurd (List.mem_append_right _ List.mem_cons_self) h.here_not_mem
    | name name =>
      obtain ⟨names, rfl⟩ := h.names_behind
      have hne : name :: names ≠ [] := List.cons_ne_nil _ _
      refine .inr (.inr (.inr ⟨(name :: names).dropLast, (name :: names).getLast hne, ?_⟩))
      rw [List.dropLast_concat_getLast]
      rfl

end Path

namespace Page

/-- A page whose destination is the output root and then names, with a link that does not
climb. -/
structure Contained (output : Path) (page : Page) : Prop where
  dest : ∃ names : List Text, names ≠ [] ∧ page.dest.parts = output.parts ++ names.map .name
  href : .up ∉ Path.parts ⟨page.href⟩

/-- Paths whose page is not where it belongs, or that should have no page: the source root
itself, what climbs out of it where its normal form cannot take a double point back, what is
absolute where that normal form is empty, and files whose stem is a point. -/
inductive Strays (source output path : Path) : Prop
  | itself (rest : normalParts path.parts = normalParts source.parts)
  | climbing {more : List Part}
      (rest : normalParts path.parts = normalParts source.parts ++ .up :: more)
  | absolute {more : List Part}
      (rest : normalParts path.parts = normalParts source.parts ++ .root :: more)
      (rooted : output.isAbsolute = true)
      (straight : ¬ TurnsUp (path.normalize.withExtension "html").parts output.parts)
  | point {directories : List Text} {name : Text}
      (within : Within source path directories name) (stem : stemOf name = ['.'])

-- ---------------------------------------------------------------------------
-- Which files have pages
-- ---------------------------------------------------------------------------

theorem exists_way_of_proper (output : Path) {rest : List Part}
    (h : ∀ part ∈ rest, part.Proper) :
    ∃ way, (destOf output rest).relativeTo? output = some way := by
  have hhtml : ("html" : Text) ≠ [] := by simp
  have hslash : '/' ∉ ("html" : Text) := by simp
  let moved := output.join (ofParts rest)
  have hmoved : moved.parts = output.parts ++ rest := parts_join_ofParts h output
  rcases withExtension_cases hhtml hslash moved with
    hsame | ⟨init, name, last, hinit, hlast, hparts⟩
  · exact ⟨_, relativeTo?_down (by rw [destOf, hsame, hmoved]) (root_not_mem h)⟩
  · rw [hmoved] at hinit
    cases rest using List.reverseRecOn with
    | append_singleton front part =>
      rw [← List.append_assoc] at hinit
      obtain ⟨rfl, -⟩ := List.append_inj' hinit rfl
      have hdest : (destOf output (front ++ [part])).parts = output.parts ++ (front ++ [last]) := by
        rw [destOf, hparts, List.append_assoc]
      refine ⟨_, relativeTo?_down hdest (root_not_mem fun other hm => ?_)⟩
      rcases List.mem_append.mp hm with hm | hm
      · exact h other (List.mem_append_left _ hm)
      · rw [List.mem_singleton.mp hm]
        exact hlast
    | nil =>
      -- The output root itself, with another extension: a neighbour of it.
      rw [List.append_nil] at hmoved hinit
      have habsolute : (destOf output []).isAbsolute = output.isAbsolute := by
        rw [destOf, isAbsolute_withExtension hhtml hslash, isAbsolute_eq, hmoved, isAbsolute_eq]
      rw [relativeTo?, habsolute, bne_self_eq_false, destOf, hparts, hinit, between_common]
      by_cases hsame : last = .name name <;> simp [between, hsame]

section

variable {layout : Layout} {file : SourceFile}

theorem built_iff : (∃ page, (build layout file).outcome.1 = .ok page) ↔
    ∃ rest way, normalParts file.path.parts = normalParts layout.source.parts ++ rest ∧
      (destOf layout.output rest).relativeTo? layout.output = some way := by
  rw [build_eq]
  constructor
  · rintro ⟨page, hpage⟩
    cases haddress : address layout.source layout.output file.path with
    | error fault =>
      rw [haddress] at hpage
      cases hpage
    | ok placed =>
      obtain ⟨rest, way, hrest, hdest, hway, -⟩ := address_eq_ok_iff.mp haddress
      exact ⟨rest, way, hrest, hdest ▸ hway⟩
  · rintro ⟨rest, way, hrest, hway⟩
    rw [address_eq_ok_iff.mpr ⟨rest, way, hrest, rfl, hway, rfl⟩]
    exact ⟨_, rfl⟩

theorem destOf_of_root {source path : Path} {more : List Part} (output : Path)
    (h : normalParts path.parts = normalParts source.parts ++ .root :: more) :
    destOf output (.root :: more) = path.normalize.withExtension "html" ∧
      (destOf output (.root :: more)).isAbsolute = true := by
  have hsource : normalParts source.parts = [] := by
    cases hlead : normalParts source.parts with
    | nil => rfl
    | cons part lead =>
      have hnormal := normal_normalParts path
      rw [h, hlead] at hnormal
      have hproper := @Normal.proper_behind [] _ _ hnormal
      exact absurd rfl (hproper .root (List.mem_append_right _ List.mem_cons_self)).ne_root
  rw [hsource, List.nil_append] at h
  have hself : ofParts (.root :: more) = path.normalize := by rw [Path.normalize, h]
  have habsolute : path.normalize.isAbsolute = true := by
    rw [isAbsolute_eq, parts_normalize, h]
    rfl
  rw [destOf, hself, join_of_isAbsolute habsolute]
  exact ⟨rfl, (isAbsolute_withExtension (by simp) (by simp) _).trans habsolute⟩

theorem within_or_strays {page : Page} (h : (build layout file).outcome.1 = .ok page) :
    (∃ directories name, Within layout.source file.path directories name) ∨
      Strays layout.source layout.output file.path := by
  obtain ⟨rest, way, hrest, hway⟩ := built_iff.mp ⟨page, h⟩
  have hnormal := normal_normalParts file.path
  rw [hrest] at hnormal
  rcases hnormal.rest_cases with rfl | ⟨more, rfl⟩ | ⟨more, rfl⟩ | ⟨directories, name, rfl⟩
  · exact .inr (.itself (by rw [hrest, List.append_nil]))
  · exact .inr (.climbing hrest)
  · obtain ⟨hdest, habsolute⟩ := destOf_of_root layout.output hrest
    obtain ⟨hrooted, hstraight⟩ := (exists_relativeTo?_iff habsolute).mp ⟨way, hway⟩
    exact .inr (.absolute hrest hrooted (hdest ▸ hstraight))
  · exact .inl ⟨directories, name, hrest⟩

theorem built_of_strays (h : Strays layout.source layout.output file.path) :
    ∃ page, (build layout file).outcome.1 = .ok page := by
  cases h with
  | itself hrest =>
    obtain ⟨way, hway⟩ := exists_way_of_proper layout.output (List.forall_mem_nil _)
    exact built_iff.mpr ⟨[], way, by rw [hrest, List.append_nil], hway⟩
  | @climbing more hrest =>
    have hnormal := normal_normalParts file.path
    rw [hrest] at hnormal
    have hproper : ∀ part ∈ .up :: more, part.Proper :=
      List.forall_mem_cons.mpr ⟨proper_up, hnormal.proper_behind⟩
    obtain ⟨way, hway⟩ := exists_way_of_proper layout.output hproper
    exact built_iff.mpr ⟨_, way, hrest, hway⟩
  | absolute hrest rooted straight =>
    obtain ⟨hdest, habsolute⟩ := destOf_of_root layout.output hrest
    obtain ⟨way, hway⟩ := (exists_relativeTo?_iff habsolute).mpr ⟨rooted, hdest ▸ straight⟩
    exact built_iff.mpr ⟨_, way, hrest, hway⟩
  | point within stem =>
    obtain ⟨page, hpage, -⟩ := exists_build within
    exact ⟨page, hpage⟩

theorem not_within {source path : Path} {rest : List Part}
    (h : normalParts path.parts = normalParts source.parts ++ rest)
    (hhead : ∀ name, rest.head? ≠ some (.name name)) (directories : List Text) (name : Text) :
    ¬ Within source path directories name := by
  intro hwithin
  rw [Within, h] at hwithin
  obtain rfl := List.append_cancel_left hwithin
  cases directories with
  | nil => exact hhead name rfl
  | cons first directories => exact hhead first rfl

end

-- ---------------------------------------------------------------------------
-- Containment
-- ---------------------------------------------------------------------------

theorem contained_iff {output : Path} {page : Page} {directories : List Text} {name : Text}
    (h : Below output page.dest page.href directories (lastPart name)) :
    Contained output page ↔ stemOf name ≠ ['.'] := by
  rw [ne_eq, ← lastPart_eq_up_iff]
  constructor
  · intro hcontained hlast
    apply hcontained.href
    rw [parts_href h, hlast]
    exact List.mem_append_right _ List.mem_cons_self
  · intro hlast
    have hname : ∃ text, lastPart name = .name text := by
      rw [lastPart] at hlast ⊢
      split at hlast
      · exact absurd rfl hlast
      · next hpoint => exact ⟨_, if_neg hpoint⟩
    obtain ⟨text, htext⟩ := hname
    refine ⟨⟨directories ++ [text], List.concat_ne_nil _ _, ?_⟩, ?_⟩
    · rw [h.dest_parts, htext, List.map_append, List.map_singleton]
    · rw [parts_href h, htext]
      simp

/-- The page of every file that has one is contained in the output root, and a file that is
not below the source root has none: this holds just for the paths that do not stray. -/
theorem build_contained_iff (layout : Layout) (file : SourceFile) :
    ((∀ page, (build layout file).outcome.1 = .ok page → Contained layout.output page) ∧
      ((∀ directories name, ¬ Within layout.source file.path directories name) →
        ∃ fault, (build layout file).outcome.1 = .error fault)) ↔
    ¬ Strays layout.source layout.output file.path := by
  constructor
  · rintro ⟨hcontained, hfails⟩ hstrays
    obtain ⟨page, hpage⟩ := built_of_strays hstrays
    have hwithin : ∃ directories name, Within layout.source file.path directories name := by
      by_contra hnone
      simp only [not_exists] at hnone
      obtain ⟨fault, hfault⟩ := hfails hnone
      rw [hpage] at hfault
      cases hfault
    obtain ⟨directories, name, hwithin⟩ := hwithin
    cases hstrays with
    | itself hrest =>
      rw [← List.append_nil (normalParts layout.source.parts)] at hrest
      exact not_within hrest nofun _ _ hwithin
    | climbing hrest => exact not_within hrest nofun _ _ hwithin
    | absolute hrest => exact not_within hrest nofun _ _ hwithin
    | point hpoint hstem =>
      obtain ⟨other, hother, hbelow⟩ := exists_build hpoint
      exact (contained_iff hbelow).mp (hcontained other hother) hstem
  · intro hstraight
    refine ⟨fun page hpage => ?_, fun hnone => ?_⟩
    · obtain ⟨directories, name, hwithin⟩ := (within_or_strays hpage).resolve_right hstraight
      obtain ⟨other, hother, hbelow⟩ := exists_build hwithin
      obtain rfl : other = page := Except.ok.inj (hother.symm.trans hpage)
      exact (contained_iff hbelow).mpr fun hstem => hstraight (.point hwithin hstem)
    · cases hpage : (build layout file).outcome.1 with
      | error fault => exact ⟨fault, rfl⟩
      | ok page =>
        obtain ⟨directories, name, hwithin⟩ := (within_or_strays hpage).resolve_right hstraight
        exact absurd hwithin (hnone directories name)

/-- A file above the working directory, the source root itself and an absolute path have pages
beside the output root, though they are not below the source root. -/
theorem build_strays :
    (∃ page, (build ⟨.css, ".", "o", false⟩ ⟨"../x.css", []⟩).outcome.1 = .ok page ∧
      page.dest = "o/../x.html" ∧ page.href = "../x.html".toList ∧ .up ∈ Path.parts ⟨page.href⟩ ∧
      ∀ directories name, ¬ Within "." "../x.css" directories name) ∧
    (∃ page, (build ⟨.css, "s", "o", false⟩ ⟨"s", []⟩).outcome.1 = .ok page ∧
      page.dest = "o.html" ∧ page.href = "../o.html".toList ∧ .up ∈ Path.parts ⟨page.href⟩ ∧
      ∀ directories name, ¬ Within "s" "s" directories name) ∧
    (∃ page, (build ⟨.css, ".", "/o", false⟩ ⟨"/x.css", []⟩).outcome.1 = .ok page ∧
      page.dest = "/x.html" ∧ page.href = "../x.html".toList ∧ .up ∈ Path.parts ⟨page.href⟩ ∧
      ∀ directories name, ¬ Within "." "/x.css" directories name) := by
  have hstrays {layout : Layout} {file : SourceFile} {dest : Path} {href : Text}
      (rest : List Part)
      (haddress : address layout.source layout.output file.path = .ok (dest, href))
      (hup : .up ∈ Path.parts ⟨href⟩)
      (hrest : normalParts file.path.parts = normalParts layout.source.parts ++ rest)
      (hhead : ∀ name, rest.head? ≠ some (.name name)) :
      ∃ page, (build layout file).outcome.1 = .ok page ∧ page.dest = dest ∧ page.href = href ∧
        .up ∈ Path.parts ⟨page.href⟩ ∧
        ∀ directories name, ¬ Within layout.source file.path directories name := by
    rw [build_eq, haddress]
    exact ⟨_, rfl, rfl, rfl, hup, not_within hrest hhead⟩
  refine ⟨hstrays [.up, .name "x.css".toList] ?_ ?_ ?_ nofun, hstrays [] ?_ ?_ ?_ nofun,
    hstrays [.root, .name "x.css".toList] ?_ ?_ ?_ nofun⟩ <;> decide

end Page

end Swatchbook
