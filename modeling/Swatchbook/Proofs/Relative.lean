import Swatchbook.Proofs.Expansion
import Swatchbook.Proofs.Trail

/-!
# Patterns below a directory

A pattern below a directory is read as one text with the path of the directory.
Where no name of the directory has a wildcard in it, the pattern finds the
files below the directory whose names it matches. Everything else about the
names of the directory is taken literally.
-/

namespace Swatchbook

namespace Glob

open Swatchbook.Path (partOf?)

-- ---------------------------------------------------------------------------
-- Matching names
-- ---------------------------------------------------------------------------

/-- Names that components match. Each component accepts one name, and two stars stand for any
names in front of the next. A point, and the nothing between two slashes, stand for no name, but
a name has to follow. -/
inductive Matching : List Component → List Text → Prop
  | nil : Matching [] []
  | name {c : Component} {rest : List Component} {name : Text} {names : List Text}
      (accepts : c.accepts name = true) (more : Matching rest names) :
      Matching (c :: rest) (name :: names)
  | point {c : Component} {rest : List Component} {name : Text} {names : List Text}
      (point : c.literal? = some [] ∨ c.literal? = some ['.'])
      (more : Matching rest (name :: names)) : Matching (c :: rest) (name :: names)
  | deep {c : Component} {rest : List Component} {name : Text} {above names : List Text}
      (accepts : c.accepts name = true) (more : Matching rest names) :
      Matching (.folders :: c :: rest) (above ++ name :: names)
  | again {rest : List Component} {names : List Text} (more : Matching (.folders :: rest) names) :
      Matching (.folders :: .folders :: rest) names

def Matches (glob : Glob) (names : List Text) : Prop :=
  glob.folderOnly = false ∧ Matching glob.components names

/-- A component that does not lead up: it is no double point, and if it has wildcards then they
do not stand for points. -/
def Component.Level (c : Component) : Prop :=
  c.literal? ≠ some ['.', '.'] ∧ (c.literal? = none → c.dots = [])

/-- What such a component leads over is no part, or a name that it accepts. -/
theorem Component.Level.takes_cases {c : Component} (h : c.Level) {piece : Text}
    (takes : c.Takes piece) :
    partOf? piece = none ∧ (c.literal? = some [] ∨ c.literal? = some ['.']) ∨
      partOf? piece = some (.name piece) ∧ c.accepts piece = true := by
  rcases takes with hc | ⟨hc, ⟨haccepts, hproper⟩ | hdots⟩
  · cases hpart : partOf? piece with
    | none =>
      refine .inl ⟨rfl, ?_⟩
      rcases Path.partOf?_eq_none_iff.mp hpart with rfl | rfl
      · exact .inl hc
      · exact .inr hc
    | some part =>
      rcases Path.partOf?_eq_some_iff.mp hpart with ⟨rfl, -⟩ | ⟨-, -, -, rfl⟩
      · exact absurd hc h.1
      · exact .inr ⟨rfl, (Component.accepts_iff_of_literal hc).mpr rfl⟩
  · exact .inr ⟨hproper.reads, haccepts⟩
  · rw [h.2 hc] at hdots
    cases hdots

section

variable {components : List Component} {pieces names : List Text}

theorem filterMap_partOf?_names (h : ∀ name ∈ names, (Part.name name).Proper) :
    names.filterMap partOf? = names.map .name := by
  rw [← List.filterMap_eq_map]
  exact List.filterMap_congr fun name hm => (h name hm).reads

/-- A trail that does not lead up and ends in a name leads over names that are matched. What the
last component does not accept is no name. -/
theorem matching_of_trail (h : Trail components pieces)
    (hlevel : ∀ c ∈ components.dropLast, c.Level)
    (hlast : ∀ piece, pieces.getLast? = some piece → partOf? piece = some (.name piece)) :
    ∃ names, pieces.filterMap partOf? = names.map .name ∧ Matching components names := by
  induction h with
  | nil => exact ⟨[], rfl, .nil⟩
  | @piece c rest piece pieces takes more ih =>
    cases rest with
    | nil =>
      cases more
      have hname := hlast piece rfl
      exact ⟨[piece], by rw [List.filterMap_cons_some hname]; rfl, .name (takes.accepts hname) .nil⟩
    | cons d rest =>
      rw [List.dropLast_cons_cons, List.forall_mem_cons] at hlevel
      obtain ⟨piece', pieces, rfl⟩ := List.exists_cons_of_ne_nil (more.ne_nil (List.cons_ne_nil d rest))
      rw [List.getLast?_cons_cons] at hlast
      obtain ⟨names, hnames, hmatching⟩ := ih hlevel.2 hlast
      rcases hlevel.1.takes_cases takes with ⟨hnone, hpoint⟩ | ⟨hname, haccepts⟩
      · refine ⟨names, by rw [List.filterMap_cons_none hnone, hnames], ?_⟩
        -- The last piece is a name, so a name follows.
        cases names with
        | cons name names => exact .point hpoint hmatching
        | nil =>
          obtain ⟨last, hgetLast⟩ : ∃ last, (piece' :: pieces).getLast? = some last :=
            ⟨_, List.getLast?_eq_some_getLast (List.cons_ne_nil piece' pieces)⟩
          have hnone := List.filterMap_eq_nil_iff.mp hnames last (List.mem_of_getLast? hgetLast)
          cases hnone.symm.trans (hlast last hgetLast)
      · exact ⟨piece :: names, by rw [List.filterMap_cons_some hname, hnames, List.map_cons],
          .name haccepts hmatching⟩
  | @deep c rest name above pieces proper accepts more ih =>
    have hrest : ∀ c ∈ rest.dropLast, c.Level := by
      cases rest with
      | nil => exact List.forall_mem_nil _
      | cons d rest =>
        rw [List.dropLast_cons_cons, List.dropLast_cons_cons, List.forall_mem_cons,
          List.forall_mem_cons] at hlevel
        exact hlevel.2.2
    obtain ⟨names, hnames, hmatching⟩ := ih hrest fun other hother =>
      hlast other (by simp [List.getLast?_append, List.getLast?_cons, hother])
    refine ⟨above ++ name :: names, ?_, .deep accepts hmatching⟩
    rw [List.append_cons, List.filterMap_append, filterMap_partOf?_names proper, hnames,
      ← List.map_append, List.append_assoc, List.singleton_append]
  | again more ih =>
    rw [List.dropLast_cons_cons, List.forall_mem_cons] at hlevel
    obtain ⟨names, hnames, hmatching⟩ := ih hlevel.2 hlast
    exact ⟨names, hnames, .again hmatching⟩

theorem steps_of_way {v : Volume} {here : Location} {front back : List Text}
    (h : v.Way here (front ++ back)) (hproper : ∀ name ∈ front, (Part.name name).Proper) :
    front.foldlM v.step here = .ok (here ++ front) ∧ v.Way (here ++ front) back := by
  induction front generalizing here with
  | nil => exact ⟨by rw [List.append_nil]; rfl, by rwa [List.append_nil]⟩
  | cons name front ih =>
    rw [List.forall_mem_cons] at hproper
    obtain ⟨hfolder, hrest⟩ := h
    obtain ⟨hsteps, hway⟩ := ih hrest hproper.2
    obtain ⟨item, hitem⟩ := hrest.exists_item
    have hstep := Volume.step_name hfolder hproper.1 hitem
    rw [← List.append_cons] at hsteps hway
    exact ⟨by rw [List.foldlM_cons, hstep]; exact hsteps, hway⟩

theorem trail_of_matching {v : Volume} {here : Location} (h : Matching components names)
    (hway : v.Way here names) (hproper : ∀ name ∈ names, (Part.name name).Proper) :
    ∃ pieces, Trail components pieces ∧ pieces.filterMap partOf? = names.map .name ∧
      pieces.foldlM v.step here = .ok (here ++ names) := by
  induction h generalizing here with
  | nil => exact ⟨[], .nil, rfl, by rw [List.append_nil]; rfl⟩
  | @name c rest name names accepts more ih =>
    rw [List.forall_mem_cons] at hproper
    have hfront : v.Way here ([name] ++ names) := hway
    obtain ⟨hstep, hrest⟩ := steps_of_way hfront (by simpa using hproper.1)
    obtain ⟨pieces, htrail, hpieces, hsteps⟩ := ih hrest hproper.2
    have hreads : partOf? name = some (.name name) := hproper.1.reads
    refine ⟨name :: pieces, .piece (takes_of_accepts accepts hproper.1) htrail,
      by rw [List.filterMap_cons_some hreads, hpieces, List.map_cons], ?_⟩
    rw [List.append_cons, ← hsteps, ← List.singleton_append, List.foldlM_append, hstep]
    rfl
  | @point c rest name names point more ih =>
    obtain ⟨pieces, htrail, hpieces, hsteps⟩ := ih hway hproper
    obtain ⟨piece, hc, hnone⟩ : ∃ piece, c.literal? = some piece ∧ partOf? piece = none := by
      rcases point with hc | hc
      · exact ⟨_, hc, rfl⟩
      · exact ⟨_, hc, rfl⟩
    have hstep := Volume.step_point hway.1 hnone
    refine ⟨piece :: pieces, .piece (.inl hc) htrail,
      by rw [List.filterMap_cons_none hnone, hpieces], ?_⟩
    rw [List.foldlM_cons, hstep]
    exact hsteps
  | @deep c rest name above names accepts more ih =>
    rw [List.append_cons, List.forall_mem_append] at hproper
    rw [List.append_cons] at hway
    obtain ⟨hstep, hrest⟩ := steps_of_way hway hproper.1
    obtain ⟨pieces, htrail, hpieces, hsteps⟩ := ih hrest hproper.2
    refine ⟨above ++ name :: pieces, .deep hproper.1 accepts htrail, ?_, ?_⟩
    · rw [List.append_cons, List.append_cons above name names, List.filterMap_append,
        filterMap_partOf?_names hproper.1, hpieces, ← List.map_append]
    · rw [List.append_cons, List.append_cons above name names, ← List.append_assoc, ← hsteps,
        List.foldlM_append, hstep]
      rfl
  | again more ih =>
    obtain ⟨pieces, htrail, hpieces, hsteps⟩ := ih hway hproper
    exact ⟨pieces, .again htrail, hpieces, hsteps⟩

end

-- ---------------------------------------------------------------------------
-- Finding what matches
-- ---------------------------------------------------------------------------

section

variable {v : Volume} {path p : Path} {pieces names : List Text} {glob : Glob}

theorem parts_spelled (habs : path.isAbsolute = true) (hslash : ∀ piece ∈ pieces, '/' ∉ piece) :
    (spelled path pieces).parts = path.parts ++ pieces.filterMap partOf? := by
  induction pieces generalizing path with
  | nil => exact (List.append_nil _).symm
  | cons piece pieces ih =>
    rw [List.forall_mem_cons] at hslash
    have hpieces : Path.pieces ⟨piece⟩ = [piece] := Text.splitBy_of_not_mem hslash.1
    have hrelative := Path.isAbsolute_of_slash hslash.1
    rw [spelled, List.foldl_cons, ← spelled, ih (isAbsolute_join habs _) hslash.2,
      Path.parts_join hrelative (spelling_ne_nil habs), hpieces, List.append_assoc,
      ← List.filterMap_append, List.singleton_append]

theorem last_of_isFile (habs : path.isAbsolute = true) (hslash : ∀ piece ∈ pieces, '/' ∉ piece)
    (h : v.isFile (spelled path pieces) = true) :
    ∀ piece, pieces.getLast? = some piece → partOf? piece = some (.name piece) := by
  intro piece hlast
  obtain ⟨front, rfl⟩ := List.getLast?_eq_some_iff.mp hlast
  have hfolder : v.isFolder (spelled path front) = true := by
    rw [spelled_append] at h
    exact isFolder_of_spelled (isAbsolute_spelled habs front)
      (fun other hm => hslash other (List.mem_append_right _ hm)) (by simp)
      (Volume.holds_iff.mpr (.inl h))
  rw [spelled_append] at h
  have hnot (hthere : v.isFolder ((spelled path front).join ⟨piece⟩) = true) : False := by
    cases (Volume.isFolder_of_isFile h).symm.trans hthere
  cases hpart : partOf? piece with
  | none => exact (hnot (isFolder_join_point (isAbsolute_spelled habs front) hfolder hpart)).elim
  | some part =>
    rcases Path.partOf?_eq_some_iff.mp hpart with ⟨hup, -⟩ | ⟨-, -, -, rfl⟩
    · exact (hnot (isFolder_join_dots (isAbsolute_spelled habs front) hfolder (.inl hup))).elim
    · rfl

theorem normalParts_names (names : List Text) :
    Path.normalParts (.root :: names.map .name) = .root :: names.map .name :=
  Path.foldl_fold_names [.root] names

/-- From the root a pattern that does not lead up finds the files whose names it matches. -/
theorem exists_found_iff (hv : v.WellFormed) (hscope : glob.scope = "/")
    (hne : glob.components ≠ [])
    (hslash : ∀ c ∈ glob.components, ∀ t, c.literal? = some t → '/' ∉ t)
    (hlevel : ∀ c ∈ glob.components.dropLast, c.Level) (hnormal : p.normalize = p)
    (hfile : v.isFile p = true) : (∃ found ∈ glob.find v, found.normalize = p) ↔
      ∃ names, p.parts = .root :: names.map .name ∧ glob.Matches names := by
  obtain ⟨hlocate, bytes, hat⟩ := Volume.isFile_iff.mp hfile
  constructor
  · rintro ⟨found, hfound, rfl⟩
    obtain ⟨hfile, hboth, pieces, htrail, rfl⟩ :=
      (mem_find_iff hv hscope hne hslash (Volume.isFolder_of_isFile_normalize hfile)).mp hfound
    have hpieces := htrail.slash hslash
    obtain ⟨names, hnames, hmatching⟩ :=
      matching_of_trail htrail hlevel (last_of_isFile rfl hpieces hfile)
    refine ⟨names, ?_, hboth, hmatching⟩
    rw [Path.parts_normalize, parts_spelled rfl hpieces, hnames]
    exact normalParts_names names
  · rintro ⟨names, hparts, hboth, hmatching⟩
    have hlead : p.parts = [.root] ++ names.map .name := hparts
    have hway : v.Way [] names :=
      Volume.way_of_read (Volume.read_eq_ok.mpr ⟨hlocate, hat⟩) hlead
    have hproper : ∀ name ∈ names, (Part.name name).Proper := fun name hm =>
      Path.proper_of_name_mem (p := p) (by simp [hparts, hm])
    obtain ⟨pieces, htrail, hnames, hsteps⟩ := trail_of_matching hmatching hway hproper
    have hpieces := htrail.slash hslash
    have hplace : v.place p = names := by
      rw [Volume.place, hparts, List.foldl_cons, Volume.foldl_descend_names]
      rfl
    have hfound : v.locate (spelled "/" pieces) = .ok names := by
      rw [locate_spelled rfl hpieces]
      exact hsteps
    have hthere : v.isFile (spelled "/" pieces) = true := by
      refine Volume.isFile_iff.mpr ⟨Volume.locate_eq_ok hfound ▸ hfound, bytes, ?_⟩
      rw [← Volume.locate_eq_ok hfound, ← hplace, hat]
    refine ⟨spelled "/" pieces, (mem_find_iff hv hscope hne hslash
      (Volume.isFolder_of_isFile hthere)).mpr ⟨hthere, hboth, pieces, htrail, rfl⟩, ?_⟩
    rw [← hnormal, Path.normalize_eq_iff, parts_spelled rfl hpieces, hnames, hparts]
    rfl

end

-- ---------------------------------------------------------------------------
-- Reading patterns below a directory
-- ---------------------------------------------------------------------------

section

variable {base : Path} {names : List Text} {pattern front t : Text} {glob joined : Glob}

theorem exists_front (hproper : ∀ name ∈ names, (Part.name name).Proper) :
    ∃ front, Text.splitBy (· == '/') front = [] :: names ∧ ∀ p : Path, p.isAbsolute = false →
      ((Path.ofParts (.root :: names.map .name)).join p).spelling = front ++ '/' :: p.spelling := by
  induction names using List.reverseRecOn with
  | nil =>
    refine ⟨[], rfl, fun p hp => ?_⟩
    have hroot : Path.ofParts (.root :: [].map .name) = "/" := rfl
    rw [hroot, Path.join, hp]
    rfl
  | append_singleton names name ih =>
    obtain ⟨front, hfront, hjoin⟩ := ih fun other hm => hproper other (List.mem_append_left _ hm)
    have hname : (Part.name name).Proper := hproper name (by simp)
    have hslash : '/' ∉ name := hname.slash
    have hne : name ≠ [] := hname.ne_nil
    have hspelling : (Path.ofParts (.root :: (names ++ [name]).map .name)).spelling =
        front ++ '/' :: name := by
      rw [List.map_append, List.map_singleton, ← List.cons_append, Path.ofParts_concat]
      exact hjoin _ (Path.isAbsolute_of_piece hname)
    refine ⟨front ++ '/' :: name, ?_, fun p hp => ?_⟩
    · rw [Text.splitBy_append_cons, hfront, Text.splitBy_of_not_mem hslash, List.cons_append]
    · obtain ⟨other, hother, hsame⟩ := Path.spelling_join hp (a := Path.ofParts
        (.root :: (names ++ [name]).map .name)) (by rw [hspelling]; simp)
      rw [hother]
      rw [hspelling] at hsame
      rcases hsame with rfl | hsame
      · rfl
      · -- The name does not end in a slash.
        obtain ⟨init, last, rfl⟩ := (List.eq_nil_or_concat' name).resolve_left hne
        have hlast := congrArg List.getLast? hsame
        rw [← List.cons_append, ← List.append_assoc, List.getLast?_concat,
          List.getLast?_concat] at hlast
        cases hlast
        simp at hslash

theorem splitBy_of_absolute (h : t.head? = some '/') :
    Text.splitBy (· == '/') t = [] :: Text.splitBy (· == '/') (t.drop 1) := by
  obtain ⟨rest, rfl⟩ := List.head?_eq_some_iff.mp h
  rfl

theorem piecesOf_drop (hhead : t.head? = some '/')
    (hpieces : Text.splitBy (· == '/') t = [] :: (names ++ Text.splitBy (· == '/') pattern)) :
    piecesOf (t.drop 1) = names ++ piecesOf pattern := by
  have hsplit := (List.cons.inj ((splitBy_of_absolute hhead).symm.trans hpieces)).2
  have hne := Text.splitBy_ne_nil (· == '/') pattern
  obtain ⟨front, last, hfront⟩ := (List.eq_nil_or_concat' _).resolve_left hne
  rw [piecesOf, piecesOf, hsplit, hfront, ← List.append_assoc]
  simp only [List.getLast?_concat, List.dropLast_concat]
  split
  · rfl
  · rw [List.append_assoc]

theorem read_eq_ok : Glob.read t = .ok glob ↔ ∃ components,
    (piecesOf (if t.head? == some '/' then t.drop 1 else t)).mapM readComponent = .ok components ∧
      glob = ⟨if t.head? == some '/' then "/" else ".",
        if (if t.head? == some '/' then t.drop 1 else t).isEmpty then [.name []] else components,
        t.getLast? == some '/'⟩ := by
  rw [Glob.read, Except.bind_eq_ok]
  exact exists_congr fun components => and_congr Iff.rfl
    ⟨fun h => (Except.ok.inj h).symm, fun h => congrArg Except.ok h.symm⟩

theorem mapM_append_eq_ok {first second : List Text} {components : List Component} :
    (first ++ second).mapM readComponent = .ok components ↔ ∃ lead rest,
      first.mapM readComponent = .ok lead ∧ second.mapM readComponent = .ok rest ∧
        components = lead ++ rest := by
  rw [List.mapM_append]
  simp only [Except.bind_eq_ok]
  constructor
  · rintro ⟨lead, hlead, rest, hrest, heq⟩
    exact ⟨lead, rest, hlead, hrest, (Except.ok.inj heq).symm⟩
  · rintro ⟨lead, rest, hlead, hrest, rfl⟩
    exact ⟨lead, hlead, rest, hrest, rfl⟩

section

variable (hproper : ∀ name ∈ names, (Part.name name).Proper)
  (hrelative : Path.isAbsolute ⟨pattern⟩ = false)

include hproper hrelative

theorem read_join : Glob.read ((Path.ofParts (.root :: names.map .name)).join ⟨pattern⟩).spelling =
      .ok joined ↔ ∃ lead rest, names.mapM readComponent = .ok lead ∧
        (piecesOf pattern).mapM readComponent = .ok rest ∧
          joined = ⟨"/", if names.isEmpty && pattern.isEmpty then [.name []] else lead ++ rest,
            pattern.isEmpty || pattern.getLast? == some '/'⟩ := by
  obtain ⟨front, hfront, hjoin⟩ := exists_front hproper
  have hpieces : Text.splitBy (· == '/') (front ++ '/' :: pattern) =
      [] :: (names ++ Text.splitBy (· == '/') pattern) := by
    rw [Text.splitBy_append_cons, hfront, List.cons_append]
  have hhead : (front ++ '/' :: pattern).head? = some '/' := by
    cases front with
    | nil => rfl
    | cons c front =>
      rw [Text.splitBy] at hfront
      split at hfront
      · next hc => rw [beq_iff_eq.mp hc]; rfl
      · split at hfront <;> cases hfront
  have hempty : ((front ++ '/' :: pattern).drop 1).isEmpty = (names.isEmpty && pattern.isEmpty) := by
    have hjoined := Text.join_splitBy '/' front
    rw [hfront] at hjoined
    cases names with
    | nil =>
      subst hjoined
      rfl
    | cons name names =>
      subst hjoined
      simp [Text.join, List.intercalate]
  have hlast : ((front ++ '/' :: pattern).getLast? == some '/') =
      (pattern.isEmpty || pattern.getLast? == some '/') := by
    cases pattern with
    | nil => simp
    | cons c pattern => rw [List.getLast?_append, List.getLast?_cons_cons]; simp
  rw [hjoin ⟨pattern⟩ hrelative, read_eq_ok]
  simp only [hhead, beq_self_eq_true, if_true, piecesOf_drop hhead hpieces, mapM_append_eq_ok,
    hempty, hlast]
  constructor
  · rintro ⟨_, ⟨lead, rest, hlead, hrest, rfl⟩, rfl⟩
    exact ⟨lead, rest, hlead, hrest, rfl⟩
  · rintro ⟨lead, rest, hlead, hrest, rfl⟩
    exact ⟨_, ⟨lead, rest, hlead, hrest, rfl⟩, rfl⟩

end

def behind (lead : List Component) (glob : Glob) : Glob :=
  ⟨"/", lead ++ glob.components, glob.folderOnly⟩

section

variable (hproper : ∀ name ∈ names, (Part.name name).Proper)

include hproper

theorem read_behind (hrelative : Path.isAbsolute ⟨pattern⟩ = false) (hne : pattern ≠ [])
    (hread : Glob.read pattern = .ok glob) :
    Glob.read ((Path.ofParts (.root :: names.map .name)).join ⟨pattern⟩).spelling = .ok joined ↔
      ∃ lead, names.mapM readComponent = .ok lead ∧ joined = glob.behind lead := by
  obtain ⟨rest, hrest, rfl⟩ := read_eq_ok.mp hread
  have hhead : (pattern.head? == some '/') = false := hrelative
  have hempty : pattern.isEmpty = false := by simpa using hne
  simp only [hhead, Bool.false_eq_true, if_false] at hrest
  rw [read_join hproper hrelative]
  simp only [hrest, hhead, hempty, behind, Bool.and_false, Bool.false_or, Bool.false_eq_true,
    if_false, Except.ok.injEq, exists_eq_left', exists_and_left]

theorem folderOnly_of_read_nothing
    (h : Glob.read ((Path.ofParts (.root :: names.map .name)).join ⟨[]⟩).spelling = .ok joined) :
    joined.scope = "/" ∧ joined.folderOnly = true := by
  obtain ⟨lead, rest, -, -, rfl⟩ := (read_join hproper rfl).mp h
  exact ⟨rfl, rfl⟩

end

theorem piecesOf_ne_nil (h : pattern ≠ []) : piecesOf pattern ≠ [] := by
  intro hnil
  have hjoin := Text.join_splitBy '/' pattern
  obtain ⟨front, last, hfront⟩ :=
    (List.eq_nil_or_concat' _).resolve_left (Text.splitBy_ne_nil (· == '/') pattern)
  rw [piecesOf, hfront, List.getLast?_concat, List.dropLast_concat] at hnil
  split at hnil
  · next hlast =>
    rw [hfront, hnil, Option.some.inj (beq_iff_eq.mp hlast)] at hjoin
    exact h hjoin.symm
  · exact List.concat_ne_nil _ _ hnil

section

variable (hrelative : Path.isAbsolute ⟨pattern⟩ = false) (hne : pattern ≠ [])
  (hread : Glob.read pattern = .ok glob)

include hrelative hne hread

theorem components_of_read : (piecesOf pattern).mapM readComponent = .ok glob.components := by
  obtain ⟨components, hcomponents, rfl⟩ := read_eq_ok.mp hread
  have hhead : (pattern.head? == some '/') = false := hrelative
  have hempty : pattern.isEmpty = false := by simpa using hne
  simp only [hhead, hempty, Bool.false_eq_true, if_false] at hcomponents ⊢
  exact hcomponents

theorem components_ne_nil : glob.components ≠ [] := by
  intro hnil
  have hcomponents := components_of_read hrelative hne hread
  rw [hnil, Except.mapM_eq_ok] at hcomponents
  exact piecesOf_ne_nil hne (List.forall₂_nil_right_iff.mp hcomponents)

end

theorem mem_pieces_of_mem_piecesOf {piece : Text} (h : piece ∈ piecesOf pattern) :
    piece ∈ Path.pieces ⟨pattern⟩ := by
  rw [piecesOf] at h
  split at h
  · exact List.mem_of_mem_dropLast h
  · exact h

end

section

variable {texts names all : List Text} {components lead rest : List Component}

theorem exists_read (h : texts.mapM readComponent = .ok components) :
    ∀ c ∈ components, ∃ t ∈ texts, readComponent t = .ok c := by
  rw [Except.mapM_eq_ok] at h
  induction h with
  | nil => exact List.forall_mem_nil _
  | @cons t c texts components hread _ ih =>
    refine List.forall_mem_cons.mpr ⟨⟨t, List.mem_cons_self, hread⟩, fun d hd => ?_⟩
    obtain ⟨s, hs, hread⟩ := ih d hd
    exact ⟨s, List.mem_cons_of_mem t hs, hread⟩

theorem slash_of_read (h : texts.mapM readComponent = .ok components)
    (hslash : ∀ t ∈ texts, '/' ∉ t) :
    ∀ c ∈ components, ∀ t, c.literal? = some t → '/' ∉ t := by
  intro c hc t ht
  obtain ⟨s, hs, hread⟩ := exists_read h c hc
  rw [Component.literal_of_read hread ht]
  exact hslash s hs

theorem level_of_read (h : texts.mapM readComponent = .ok components)
    (hup : ['.', '.'] ∉ texts) (hdots : ∀ c ∈ components.dropLast, c.literal? = none → c.dots = []) :
    ∀ c ∈ components.dropLast, c.Level := by
  intro c hc
  refine ⟨fun hliteral => ?_, hdots c hc⟩
  obtain ⟨s, hs, hread⟩ := exists_read h c (List.mem_of_mem_dropLast hc)
  rw [← Component.literal_of_read hread hliteral] at hs
  exact hup hs

theorem matching_append_iff (h : List.Forall₂ (fun name c => c.literal? = some name) names lead)
    (hproper : ∀ name ∈ names, (Part.name name).Proper) :
    Matching (lead ++ rest) all ↔ ∃ more, all = names ++ more ∧ Matching rest more := by
  induction h generalizing all with
  | nil => simp
  | @cons name c names lead hc _ ih =>
    rw [List.forall_mem_cons] at hproper
    have hreads : partOf? name = some (.name name) := hproper.1.reads
    constructor
    · intro h
      rw [List.cons_append] at h
      generalize hcomponents : lead ++ rest = components at h
      cases h with
      | name accepts more =>
        subst hcomponents
        obtain ⟨behind, rfl, hbehind⟩ := (ih hproper.2).mp more
        rw [(Component.accepts_iff_of_literal hc).mp accepts]
        exact ⟨behind, rfl, hbehind⟩
      | point point more =>
        rw [hc, Option.some.injEq, Option.some.injEq, ← Path.partOf?_eq_none_iff, hreads] at point
        cases point
      | deep => cases hc
      | again => cases hc
    · rintro ⟨more, rfl, hmore⟩
      exact .name ((Component.accepts_iff_of_literal hc).mpr rfl)
        ((ih hproper.2).mpr ⟨more, rfl, hmore⟩)

theorem matching_nothing (h : Matching [.name []] names) : [] ∈ names := by
  cases h with
  | name accepts more =>
    rw [(Component.accepts_iff_of_literal rfl).mp accepts]
    exact List.mem_cons_self
  | point point more => cases more

end

end Glob

-- ---------------------------------------------------------------------------
-- Patterns below plain directories
-- ---------------------------------------------------------------------------

namespace Styleguide

/-- Patterns below a directory are relative to it, whatever the volume: one that can be read and
does not lead up finds the files below the directory whose names it matches, and no others. -/
def Relative (base : Path) : Prop :=
  ∀ v : Volume, v.WellFormed → v.isFolder base = true → ∀ (pattern : Text) (glob : Glob),
    Path.isAbsolute ⟨pattern⟩ = false → Glob.read pattern = .ok glob →
    ['.', '.'] ∉ Path.pieces ⟨pattern⟩ →
    (∀ c ∈ glob.components.dropLast, c.literal? = none → c.dots = []) →
    ∃ files, expand v base [pattern] = .ok files ∧ ∀ p, p ∈ files ↔
      p.normalize = p ∧ v.isFile p = true ∧
        ∃ names, p.parts = base.parts ++ names.map .name ∧ glob.Matches names

section

variable {v : Volume} {base p : Path} {pattern : Text} {joined : Glob}

theorem exists_names_of_absolute (habs : base.isAbsolute = true) (hnormal : base.normalize = base) :
    ∃ names : List Text, base.parts = .root :: names.map .name ∧
      base = Path.ofParts (.root :: names.map .name) ∧
      ∀ name ∈ names, (Part.name name).Proper := by
  have hparts := Path.parts_normalize base
  rw [hnormal] at hparts
  obtain ⟨rest, hrest, -⟩ := Path.parts_of_isAbsolute habs
  have hnormalParts := Path.normal_normalParts base
  rw [← hparts, hrest] at hnormalParts
  obtain ⟨names, rfl⟩ := hnormalParts.names_of_root
  refine ⟨names, hrest, ?_, fun name hm => ?_⟩
  · rw [← hrest]
    nth_rewrite 1 [← hnormal]
    rw [Path.normalize, ← hparts]
  · exact Path.proper_of_name_mem (p := base) (by simp [hrest, hm])

theorem expand_singleton (hread : Glob.read (base.join ⟨pattern⟩).spelling = .ok joined) :
    ∃ files, expand v base [pattern] = .ok files ∧ ∀ p, p ∈ files ↔
      v.isFile p = true ∧ ∃ found ∈ joined.find v, found.normalize = p := by
  obtain ⟨new, hnew⟩ : ∃ new, v.outlook.expandOne base pattern = .ok new :=
    ⟨_, Outlook.expandOne_eq_ok.mpr ⟨joined, joined.find v, hread, rfl, rfl⟩⟩
  have hexpand : v.outlook.expand base [pattern] = .ok (addNew [] new) := by
    rw [Outlook.expand_eq, List.foldlM_cons, Outlook.expandNext, hnew]
    rfl
  refine ⟨_, hexpand, fun p => ?_⟩
  have hone : p ∈ addNew [] new ↔ p ∈ new := by
    rw [mem_addNew_iff (List.forall_mem_nil _) (Outlook.normalized_of_expandOne hnew)]
    simp
  rw [hone, Outlook.mem_of_expandOne hnew]
  refine and_congr Iff.rfl (exists_congr fun found => and_congr ?_ Iff.rfl)
  simp [Outlook.Finds, hread, Volume.outlook]

theorem not_found_of_folderOnly (hv : v.WellFormed) (hscope : joined.scope = "/")
    (hfolders : joined.folderOnly = true) (hfile : v.isFile p = true) :
    ¬ ∃ found ∈ joined.find v, found.normalize = p := by
  rintro ⟨found, hfound, rfl⟩
  have habs : joined.scope.isAbsolute = true := by rw [hscope]; rfl
  rcases (Glob.sound hv _).below habs found hfound with hfolder | ⟨-, hboth, -⟩
  · rw [Volume.isFolder_of_isFile_normalize hfile] at hfolder
    cases hfolder
  · rw [hfolders] at hboth
    cases hboth

section

variable {names : List Text} {lead : List Glob.Component} {glob : Glob}
  (hproper : ∀ name ∈ names, (Part.name name).Proper)

include hproper

theorem level_of_literal
    (hliteral : List.Forall₂ (fun name c => c.literal? = some name) names lead) :
    ∀ c ∈ lead, c.Level ∧ ∀ t, c.literal? = some t → '/' ∉ t := by
  induction hliteral with
  | nil => exact List.forall_mem_nil _
  | @cons name c names lead hc _ ih =>
    rw [List.forall_mem_cons] at hproper
    have hreads := hproper.1.reads
    refine List.forall_mem_cons.mpr ⟨⟨⟨fun hup => ?_, fun hnone => ?_⟩, fun t ht => ?_⟩, ih hproper.2⟩
    · cases hc.symm.trans hup
      cases hreads
    · cases hc.symm.trans hnone
    · cases hc.symm.trans ht
      exact hproper.1.slash

theorem expand_nothing (hv : v.WellFormed) (hlead : names.mapM Glob.readComponent = .ok lead)
    (hread : Glob.read [] = .ok glob) :
    ∃ files, expand v (Path.ofParts (.root :: names.map .name)) [[]] = .ok files ∧ ∀ p, p ∈ files ↔
      p.normalize = p ∧ v.isFile p = true ∧ ∃ more : List Text,
        p.parts = .root :: names.map .name ++ more.map .name ∧ glob.Matches more := by
  have hnothing : Path.isAbsolute ⟨[]⟩ = false := rfl
  have hjoined := (Glob.read_join hproper hnothing).mpr ⟨_, [], hlead, rfl, rfl⟩
  obtain ⟨hscope, hfolders⟩ := Glob.folderOnly_of_read_nothing hproper hjoined
  obtain ⟨files, hfiles, hmem⟩ := expand_singleton (v := v) hjoined
  refine ⟨files, hfiles, fun p => (hmem p).trans ⟨?_, ?_⟩⟩
  · rintro ⟨hfile, hfound⟩
    exact absurd hfound (not_found_of_folderOnly hv hscope hfolders hfile)
  · rintro ⟨-, -, more, hmore, -, hmatching⟩
    cases hread
    have hmem := Glob.matching_nothing hmatching
    have hpart : .name [] ∈ p.parts := by simp [hmore, hmem]
    exact absurd rfl (Path.proper_of_name_mem hpart).ne_nil

theorem mem_behind_iff (hv : v.WellFormed)
    (hliteral : List.Forall₂ (fun name c => c.literal? = some name) names lead)
    (hne : glob.components ≠ [])
    (hslash : ∀ c ∈ glob.components, ∀ t, c.literal? = some t → '/' ∉ t)
    (hlevel : ∀ c ∈ glob.components.dropLast, c.Level) :
    (v.isFile p = true ∧ ∃ found ∈ (glob.behind lead).find v, found.normalize = p) ↔
      p.normalize = p ∧ v.isFile p = true ∧ ∃ more : List Text,
        p.parts = .root :: names.map .name ++ more.map .name ∧ glob.Matches more := by
  have hlead := level_of_literal hproper hliteral
  have hdropLast : (lead ++ glob.components).dropLast = lead ++ glob.components.dropLast :=
    List.dropLast_append_of_ne_nil hne
  have hiff (hnormal : p.normalize = p) (hfile : v.isFile p = true) :=
    @Glob.exists_found_iff v p (glob.behind lead) hv rfl
      (List.append_ne_nil_of_right_ne_nil lead hne)
      (List.forall_mem_append.mpr ⟨fun c hc => (hlead c hc).2, hslash⟩)
      (hdropLast ▸ List.forall_mem_append.mpr ⟨fun c hc => (hlead c hc).1, hlevel⟩) hnormal hfile
  constructor
  · rintro ⟨hfile, hfound⟩
    have hnormal : p.normalize = p := by
      obtain ⟨found, -, rfl⟩ := hfound
      exact Path.normalize_normalize found
    obtain ⟨all, hparts, hboth, hmatching⟩ := (hiff hnormal hfile).mp hfound
    obtain ⟨more, rfl, hmore⟩ := (Glob.matching_append_iff hliteral hproper).mp hmatching
    exact ⟨hnormal, hfile, more, by rw [hparts, List.map_append]; rfl, hboth, hmore⟩
  · rintro ⟨hnormal, hfile, more, hparts, hboth, hmore⟩
    refine ⟨hfile, (hiff hnormal hfile).mpr ⟨names ++ more, ?_, hboth, ?_⟩⟩
    · rw [hparts, List.map_append]
      rfl
    · exact (Glob.matching_append_iff hliteral hproper).mpr ⟨more, rfl, hmore⟩

end

/-- Below a directory without wildcards in its names patterns are relative. -/
theorem relative_of_plain (habs : base.isAbsolute = true) (hnormal : base.normalize = base)
    (hplain : ∀ name, .name name ∈ base.parts → ∀ c ∈ name, Glob.isWild c = false) :
    Relative base := by
  obtain ⟨names, hparts, hbase, hproper⟩ := exists_names_of_absolute habs hnormal
  intro v hv hfolder pattern glob hrelative hread hup hdots
  have hlead : names.mapM Glob.readComponent =
      .ok (names.map fun name => .name (name.map .char)) := by
    rw [Except.mapM_eq_ok, List.forall₂_map_right_iff, List.forall₂_same]
    exact fun name hm => Glob.Component.read_of_plain (hplain name (by simp [hparts, hm]))
  have hliteral : List.Forall₂ (fun name c => Glob.Component.literal? c = some name) names
      (names.map fun name => .name (name.map .char)) := by
    rw [List.forall₂_map_right_iff, List.forall₂_same]
    exact fun name _ => Glob.literalOf?_map_char name
  rw [hparts]
  by_cases hne : pattern = []
  · subst hne
    rw [hbase]
    exact expand_nothing hproper hv hlead hread
  · have hjoined := (Glob.read_behind hproper hrelative hne hread).mpr ⟨_, hlead, rfl⟩
    rw [← hbase] at hjoined
    obtain ⟨files, hfiles, hmem⟩ := expand_singleton (v := v) hjoined
    have hcomponents := Glob.components_of_read hrelative hne hread
    refine ⟨files, hfiles, fun p => (hmem p).trans (mem_behind_iff hproper hv hliteral ?_ ?_ ?_)⟩
    · exact Glob.components_ne_nil hrelative hne hread
    · exact Glob.slash_of_read hcomponents fun t ht =>
        Path.not_mem_of_mem_pieces (Glob.mem_pieces_of_mem_piecesOf ht)
    · exact Glob.level_of_read hcomponents
        (fun hm => hup (Glob.mem_pieces_of_mem_piecesOf hm)) hdots

end

end Styleguide

end Swatchbook
