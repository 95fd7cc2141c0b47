import Swatchbook.Proofs.Component
import Swatchbook.Proofs.Lookup

/-!
# What a search by components finds

A search goes down from a path, piece by piece. The pieces it goes over are a
trail of the components: one piece for each of them, and any names for two
stars. A file is found from the root just if a trail of the components leads to
it, because fuel for twice as many steps as there are items and components is
always enough.
-/

namespace Swatchbook.Glob

open Swatchbook.Path (partOf?)

-- ---------------------------------------------------------------------------
-- Trails
-- ---------------------------------------------------------------------------

/-- The pieces that a component other than two stars leads over. With wildcards these are the
names it accepts, and the points if it begins with one. -/
def Component.Takes (c : Component) (piece : Text) : Prop :=
  c.literal? = some piece ∨
    c.literal? = none ∧ (c.accepts piece = true ∧ (Part.name piece).Proper ∨ piece ∈ c.dots)

/-- The pieces that components lead over. Two stars lead over any names, and then to one that
the next component accepts. -/
inductive Trail : List Component → List Text → Prop
  | nil : Trail [] []
  | piece {c : Component} {rest : List Component} {piece : Text} {pieces : List Text}
      (takes : c.Takes piece) (more : Trail rest pieces) : Trail (c :: rest) (piece :: pieces)
  | deep {c : Component} {rest : List Component} {name : Text} {above pieces : List Text}
      (proper : ∀ other ∈ above ++ [name], (Part.name other).Proper)
      (accepts : c.accepts name = true) (more : Trail rest pieces) :
      Trail (.folders :: c :: rest) (above ++ name :: pieces)
  | again {rest : List Component} {pieces : List Text} (more : Trail (.folders :: rest) pieces) :
      Trail (.folders :: .folders :: rest) pieces

section

variable {c : Component} {rest : List Component} {piece name : Text} {pieces : List Text}

theorem not_takes_folders : ¬ Component.folders.Takes piece := by
  rintro (h | ⟨-, ⟨h, -⟩ | h⟩) <;> cases h

theorem Component.Takes.accepts (h : c.Takes piece) (hname : partOf? piece = some (.name piece)) :
    c.accepts piece = true := by
  rcases h with hc | ⟨-, ⟨haccepts, -⟩ | hdots⟩
  · exact (Component.accepts_iff_of_literal hc).mpr rfl
  · exact haccepts
  · rcases Component.mem_dots hdots with rfl | rfl <;> cases hname

theorem ne_folders_of_accepts (h : c.accepts name = true) : c ≠ .folders := by
  rintro rfl
  cases h

theorem Trail.ne_nil {components : List Component} (h : Trail components pieces)
    (hne : components ≠ []) : pieces ≠ [] := by
  induction h with
  | nil => exact absurd rfl hne
  | piece => exact List.cons_ne_nil _ _
  | deep => simp
  | again _ ih => exact ih (List.cons_ne_nil _ _)

theorem Trail.deeper (h : Trail (.folders :: rest) pieces) (hname : (Part.name name).Proper) :
    Trail (.folders :: rest) (name :: pieces) := by
  generalize hcomponents : Component.folders :: rest = components at h
  induction h generalizing rest with
  | nil => cases hcomponents
  | piece takes =>
    cases hcomponents
    exact absurd takes not_takes_folders
  | @deep c' rest' name' above pieces' proper accepts more =>
    cases hcomponents
    have hproper : ∀ other ∈ name :: above ++ [name'], (Part.name other).Proper :=
      List.forall_mem_cons.mpr ⟨hname, proper⟩
    exact .deep hproper accepts more
  | again more ih =>
    cases hcomponents
    exact .again (ih rfl)

theorem Trail.slash {components : List Component} (h : Trail components pieces)
    (hslash : ∀ c ∈ components, ∀ t, c.literal? = some t → '/' ∉ t) :
    ∀ piece ∈ pieces, '/' ∉ piece := by
  induction h with
  | nil => exact List.forall_mem_nil _
  | piece takes more ih =>
    rw [List.forall_mem_cons] at hslash
    refine List.forall_mem_cons.mpr ⟨?_, ih hslash.2⟩
    rcases takes with hc | ⟨-, ⟨-, hproper⟩ | hdots⟩
    · exact hslash.1 _ hc
    · exact hproper.slash
    · rcases Component.mem_dots hdots with rfl | rfl <;> decide
  | @deep c rest name above pieces proper accepts more ih =>
    rw [List.forall_mem_cons, List.forall_mem_cons] at hslash
    rw [List.append_cons]
    exact List.forall_mem_append.mpr ⟨fun other hm => (proper other hm).slash, ih hslash.2.2⟩
  | again more ih => exact ih (List.forall_mem_of_forall_mem_cons hslash)

theorem Trail.of_dropWhile (h : Trail (.folders :: rest.dropWhile (· == .folders)) pieces) :
    Trail (.folders :: rest) pieces := by
  induction rest with
  | nil => exact h
  | cons c rest ih =>
    by_cases hc : c = .folders
    · subst hc
      exact .again (ih h)
    · rwa [List.dropWhile_cons_of_neg (by simpa using hc)] at h

end

def spelled (path : Path) (pieces : List Text) : Path :=
  pieces.foldl (fun path piece => path.join ⟨piece⟩) path

-- ---------------------------------------------------------------------------
-- Steps of a search
-- ---------------------------------------------------------------------------

section

variable {v : Volume} {path next p : Path} {piece name : Text} {pieces : List Text}

theorem spelling_ne_nil (h : path.isAbsolute = true) : path.spelling ≠ [] := by
  intro hnil
  rw [Path.isAbsolute, hnil] at h
  cases h

theorem isAbsolute_join (h : path.isAbsolute = true) (p : Path) :
    (path.join p).isAbsolute = true := by
  cases hp : p.isAbsolute with
  | true => rwa [Path.join_of_isAbsolute hp]
  | false =>
    rw [Path.isAbsolute_eq, Path.parts_join hp (spelling_ne_nil h)]
    obtain ⟨rest, hrest, -⟩ := Path.parts_of_isAbsolute h
    rw [hrest]
    rfl

theorem child_eq (h : path.isAbsolute = true) (name : Text) : child path name = path.join ⟨name⟩ := by
  rw [child, if_neg]
  rw [Path.same_iff]
  intro hparts
  rw [Path.isAbsolute_eq, hparts] at h
  cases h

theorem fileName?_join (h : (Part.name name).Proper) (path : Path) :
    (path.join ⟨name⟩).fileName? = some name := by
  rw [Path.fileName?, Path.parts_join_name path h, List.getLast?_concat]

theorem locate_spelled (h : path.isAbsolute = true) (hslash : ∀ piece ∈ pieces, '/' ∉ piece) :
    v.locate (spelled path pieces) =
      v.locate path >>= fun place => pieces.foldlM v.step place := by
  induction pieces generalizing path with
  | nil => exact (bind_pure _).symm
  | cons piece pieces ih =>
    rw [List.forall_mem_cons] at hslash
    rw [spelled, List.foldl_cons, ← spelled, ih (isAbsolute_join h _) hslash.2,
      Volume.locate_join (spelling_ne_nil h) hslash.1, bind_assoc]
    rfl

theorem isFolder_join_point (habs : path.isAbsolute = true) (h : v.isFolder path = true)
    (hpiece : partOf? piece = none) : v.isFolder (path.join ⟨piece⟩) = true := by
  obtain ⟨hlocate, hfolder⟩ := Volume.isFolder_iff.mp h
  have hslash : '/' ∉ piece := by
    rcases Path.partOf?_eq_none_iff.mp hpiece with rfl | rfl <;> decide
  refine Volume.isFolder_of_locate ?_ hfolder
  rw [Volume.locate_join (spelling_ne_nil habs) hslash, hlocate]
  exact Volume.step_point hfolder hpiece

theorem isFolder_join_dots (habs : path.isAbsolute = true) (h : v.isFolder path = true)
    (hpiece : piece = ['.', '.'] ∨ piece = ['.']) : v.isFolder (path.join ⟨piece⟩) = true := by
  rcases hpiece with rfl | rfl
  · obtain ⟨hlocate, hfolder⟩ := Volume.isFolder_iff.mp h
    have hup : v.locate (path.join ⟨['.', '.']⟩) = .ok (v.place path).dropLast := by
      rw [Volume.locate_join (spelling_ne_nil habs) (by decide), hlocate]
      exact Volume.step_eq_ok.mpr ⟨hfolder, rfl, by rintro ⟨_, ⟨⟩⟩⟩
    exact Volume.isFolder_of_locate hup (Volume.folder_above habs hlocate)
  · exact isFolder_join_point habs h rfl

theorem proper_of_mem_names (hv : v.WellFormed) (h : name ∈ v.names path) :
    (Part.name name).Proper := by
  rw [Volume.names] at h
  split at h
  · exact hv.proper_of_mem_namesAt h
  · cases h

theorem holds_join_name (hv : v.WellFormed) (habs : path.isAbsolute = true)
    (h : v.isFolder path = true) (hname : name ∈ v.names path) :
    v.holds (path.join ⟨name⟩) = true := by
  obtain ⟨hlocate, hfolder⟩ := Volume.isFolder_iff.mp h
  have hproper := proper_of_mem_names hv hname
  rw [Volume.names, hlocate] at hname
  obtain ⟨item, hitem⟩ := Volume.exists_at?_of_mem_namesAt hname
  refine Volume.holds_iff_locate.mpr ⟨v.place path ++ [name], item, ?_, hitem⟩
  have hslash : '/' ∉ name := hproper.slash
  rw [Volume.locate_join (spelling_ne_nil habs) hslash, hlocate]
  exact Volume.step_name hfolder hproper hitem

theorem isAbsolute_spelled (h : path.isAbsolute = true) (pieces : List Text) :
    (spelled path pieces).isAbsolute = true := by
  induction pieces generalizing path with
  | nil => exact h
  | cons piece pieces ih => exact ih (isAbsolute_join h _)

end

-- ---------------------------------------------------------------------------
-- What is found is at the end of a trail
-- ---------------------------------------------------------------------------

/-- What is found where all components but some have been used up. -/
def further (fuel : Nat) (v : Volume) (folderOnly : Bool) (rest : List Component) (next : Path) :
    List Path :=
  if rest.isEmpty then if folderOnly && !v.isFolder next then [] else [next]
  else below fuel v folderOnly rest next

/-- What is found at a path whose name the first component is for. -/
def named (fuel : Nat) (v : Volume) (folderOnly : Bool) (path : Path) :
    List Component → List Path
  | [] => []
  | c :: rest =>
    match path.fileName? with
    | none => []
    | some name => if !c.accepts name then [] else further fuel v folderOnly rest path

section

variable {v : Volume} {fuel : Nat} {folderOnly : Bool} {c : Component} {rest components : List Component}
  {path next p : Path} {piece name : Text}

theorem below_of_literal (hc : c.literal? = some name) :
    below (fuel + 1) v folderOnly (c :: rest) path =
      if (if name == ['.'] || name == ['.', '.'] then v.isFolder path
        else v.holds (child path name)) then further fuel v folderOnly rest (child path name)
      else [] := by
  rw [below, hc]
  rfl

theorem below_of_wildcard (hc : c.literal? = none) :
    below (fuel + 1) v folderOnly (c :: rest) path =
      if v.isFolder path then
        (c.dots.flatMap fun dots => further fuel v folderOnly rest (path.join ⟨dots⟩)) ++
          (v.names path).flatMap fun name =>
            visit fuel v folderOnly (c :: rest) (child path name)
      else [] := by
  rw [below, hc]
  rfl

theorem visit_of_ne (hc : c ≠ .folders) : visit (fuel + 1) v folderOnly (c :: rest) path =
    named fuel v folderOnly path (c :: rest) := by
  cases c with
  | folders => exact absurd rfl hc
  | name tokens =>
    rw [visit]
    · rfl
    · exact nofun

theorem visit_folders : visit (fuel + 1) v folderOnly (.folders :: rest) path =
    let rest := rest.dropWhile (· == .folders)
    let deeper := if v.isFolder path then below fuel v folderOnly (.folders :: rest) path else []
    if rest.isEmpty then if v.isFolder path then path :: deeper else []
    else named fuel v folderOnly path rest ++ deeper := by
  rw [visit]
  rfl

/-- What a search from a path may find: folders, and files at the end of a trail. -/
def Reaches (v : Volume) (folderOnly : Bool) (components : List Component) (path p : Path) : Prop :=
  v.isFolder p = true ∨ v.isFile p = true ∧ folderOnly = false ∧
    ∃ pieces, Trail components pieces ∧ p = spelled path pieces

theorem Reaches.step (h : Reaches v folderOnly rest (path.join ⟨piece⟩) p)
    (hmore : ∀ {pieces}, Trail rest pieces → Trail components (piece :: pieces)) :
    Reaches v folderOnly components path p := by
  rcases h with h | ⟨hfile, hboth, pieces, htrail, rfl⟩
  · exact .inl h
  · exact .inr ⟨hfile, hboth, piece :: pieces, hmore htrail, rfl⟩

theorem reaches_of_further
    (ih : ∀ p ∈ below fuel v folderOnly rest next, Reaches v folderOnly rest next p)
    (hnext : v.holds next = true) (h : p ∈ further fuel v folderOnly rest next) :
    Reaches v folderOnly rest next p := by
  cases rest with
  | cons c rest => exact ih p h
  | nil =>
    rcases Volume.holds_iff.mp hnext with hfile | hfolder
    · rw [further, Volume.isFolder_of_isFile hfile] at h
      cases folderOnly with
      | true => cases h
      | false =>
        obtain rfl := List.mem_singleton.mp h
        exact .inr ⟨hfile, rfl, [], .nil, rfl⟩
    · rw [further, hfolder] at h
      simp only [List.isEmpty_nil, if_true, Bool.not_true, Bool.and_false, Bool.false_eq_true,
        if_false] at h
      obtain rfl := List.mem_singleton.mp h
      exact .inl hfolder

theorem takes_of_accepts (h : c.accepts name = true) (hproper : (Part.name name).Proper) :
    c.Takes name := by
  cases hc : c.literal? with
  | some t =>
    rw [(Component.accepts_iff_of_literal hc).mp h]
    exact .inl hc
  | none => exact .inr ⟨hc, .inl ⟨h, hproper⟩⟩

/-- What a search below a path may find with some fuel, and what it may find at the names there. -/
structure Sound (v : Volume) (folderOnly : Bool) (fuel : Nat) : Prop where
  below {components : List Component} {path : Path} (habs : path.isAbsolute = true) :
    ∀ p ∈ below fuel v folderOnly components path, Reaches v folderOnly components path p
  visit {components : List Component} {path : Path} {name : Text} (habs : path.isAbsolute = true)
    (hfolder : v.isFolder path = true) (hname : name ∈ v.names path) :
    ∀ p ∈ visit fuel v folderOnly components (path.join ⟨name⟩),
      Reaches v folderOnly components path p

variable (hv : v.WellFormed)

theorem Sound.below_literal (h : Sound v folderOnly fuel) (habs : path.isAbsolute = true)
    (hc : c.literal? = some name) (hp : p ∈ Glob.below (fuel + 1) v folderOnly (c :: rest) path) :
    Reaches v folderOnly (c :: rest) path p := by
  rw [below_of_literal hc, child_eq habs] at hp
  by_cases hthere : (if name == ['.'] || name == ['.', '.'] then v.isFolder path
      else v.holds (path.join ⟨name⟩)) = true
  · rw [if_pos hthere] at hp
    have hholds : v.holds (path.join ⟨name⟩) = true := by
      split at hthere
      · next hdots =>
        refine Volume.holds_iff.mpr (.inr (isFolder_join_dots habs hthere ?_))
        simpa [or_comm] using hdots
      · exact hthere
    have hfurther := reaches_of_further (h.below (isAbsolute_join habs _)) hholds hp
    exact hfurther.step fun more => .piece (.inl hc) more
  · rw [if_neg hthere] at hp
    cases hp

theorem Sound.below_wildcard (h : Sound v folderOnly fuel) (habs : path.isAbsolute = true)
    (hc : c.literal? = none) (hp : p ∈ Glob.below (fuel + 1) v folderOnly (c :: rest) path) :
    Reaches v folderOnly (c :: rest) path p := by
  rw [below_of_wildcard hc] at hp
  split at hp
  · next hfolder =>
    rcases List.mem_append.mp hp with hp | hp
    · obtain ⟨dots, hdots, hp⟩ := List.mem_flatMap.mp hp
      have hpoints := isFolder_join_dots habs hfolder (Component.mem_dots hdots)
      have hfurther := reaches_of_further (h.below (isAbsolute_join habs _))
        (Volume.holds_iff.mpr (.inr hpoints)) hp
      exact hfurther.step fun more => .piece (.inr ⟨hc, .inr hdots⟩) more
    · obtain ⟨name, hname, hp⟩ := List.mem_flatMap.mp hp
      rw [child_eq habs] at hp
      exact h.visit habs hfolder hname p hp
  · cases hp

section

variable (h : Sound v folderOnly fuel) (habs : path.isAbsolute = true)
  (hfolder : v.isFolder path = true) (hname : name ∈ v.names path)

include hv h habs hfolder hname

theorem Sound.named (hp : p ∈ named fuel v folderOnly (path.join ⟨name⟩) components) :
    ∃ c rest, components = c :: rest ∧ c.accepts name = true ∧
      Reaches v folderOnly rest (path.join ⟨name⟩) p := by
  cases components with
  | nil => cases hp
  | cons c rest =>
    rw [Glob.named, fileName?_join (proper_of_mem_names hv hname)] at hp
    dsimp only at hp
    split at hp
    · cases hp
    · next haccepts =>
      exact ⟨c, rest, rfl, by simpa using haccepts, reaches_of_further
        (h.below (isAbsolute_join habs _)) (holds_join_name hv habs hfolder hname) hp⟩

theorem Sound.visit_folders
    (hp : p ∈ Glob.visit (fuel + 1) v folderOnly (.folders :: rest) (path.join ⟨name⟩)) :
    Reaches v folderOnly (.folders :: rest) path p := by
  have hproper := proper_of_mem_names hv hname
  have hdeeper (hp : p ∈ if v.isFolder (path.join ⟨name⟩) then
      Glob.below fuel v folderOnly (.folders :: rest.dropWhile (· == .folders)) (path.join ⟨name⟩)
      else []) : Reaches v folderOnly (.folders :: rest) path p := by
    split at hp
    · have hbelow := h.below (isAbsolute_join habs _) p hp
      exact hbelow.step fun more => more.of_dropWhile.deeper hproper
    · cases hp
  rw [Glob.visit_folders] at hp
  dsimp only at hp
  split at hp
  · split at hp
    · next hthere =>
      rcases List.mem_cons.mp hp with rfl | hp
      · exact .inl hthere
      · exact hdeeper (by rwa [if_pos hthere])
    · cases hp
  · rcases List.mem_append.mp hp with hp | hp
    · obtain ⟨c, more, hrest, haccepts, hreaches⟩ := h.named hv habs hfolder hname hp
      refine hreaches.step fun {pieces} htrail => Trail.of_dropWhile ?_
      rw [hrest]
      have hname : ∀ other ∈ [] ++ [name], (Part.name other).Proper := by simpa using hproper
      exact .deep hname haccepts htrail
    · exact hdeeper hp

end

include hv

theorem sound (fuel : Nat) : Sound v folderOnly fuel := by
  induction fuel with
  | zero => exact ⟨fun _ p hp => by simp [below] at hp, fun _ _ _ p hp => by simp [visit] at hp⟩
  | succ fuel ih =>
    refine ⟨fun {components path} habs p hp => ?_,
      fun {components path name} habs hfolder hname p hp => ?_⟩
    · cases components with
      | nil => simp [below] at hp
      | cons c rest =>
        cases hc : c.literal? with
        | some name => exact ih.below_literal habs hc hp
        | none => exact ih.below_wildcard habs hc hp
    · cases components with
      | nil => simp [visit] at hp
      | cons c rest =>
        by_cases hc : c = .folders
        · subst hc
          exact ih.visit_folders hv habs hfolder hname hp
        · rw [visit_of_ne hc] at hp
          obtain ⟨_, _, hcons, haccepts, hreaches⟩ := ih.named hv habs hfolder hname hp
          cases hcons
          have hproper := proper_of_mem_names hv hname
          exact hreaches.step fun more => .piece (takes_of_accepts haccepts hproper) more

end

-- ---------------------------------------------------------------------------
-- What is at the end of a trail is found
-- ---------------------------------------------------------------------------

section

variable {v : Volume} {path p : Path} {piece name : Text} {pieces names : List Text}

theorem spelled_append (path : Path) (front back : List Text) :
    spelled path (front ++ back) = spelled (spelled path front) back := List.foldl_append

theorem parts_spelled_names (hproper : ∀ name ∈ names, (Part.name name).Proper) :
    (spelled path names).parts = path.parts ++ names.map .name := by
  induction names generalizing path with
  | nil => exact (List.append_nil _).symm
  | cons name names ih =>
    rw [List.forall_mem_cons] at hproper
    rw [spelled, List.foldl_cons, ← spelled, ih hproper.2, Path.parts_join_name path hproper.1,
      List.append_assoc]
    rfl

section

variable (habs : path.isAbsolute = true) (hslash : ∀ piece ∈ pieces, '/' ∉ piece)

include habs hslash

theorem isFolder_of_spelled (hne : pieces ≠ []) (h : v.holds (spelled path pieces) = true) :
    v.isFolder path = true := by
  obtain ⟨place, item, hlocate, -⟩ := Volume.holds_iff_locate.mp h
  rw [locate_spelled habs hslash] at hlocate
  obtain ⟨here, hhere, hsteps⟩ := Except.bind_eq_ok.mp hlocate
  obtain ⟨piece, rest, rfl⟩ := List.exists_cons_of_ne_nil hne
  rw [List.foldlM_cons] at hsteps
  obtain ⟨next, hstep, -⟩ := Except.bind_eq_ok.mp hsteps
  exact Volume.isFolder_of_locate hhere (Volume.step_eq_ok.mp hstep).1

theorem holds_of_spelled (h : v.holds (spelled path pieces) = true) : v.holds path = true := by
  by_cases hne : pieces = []
  · rwa [hne] at h
  · exact Volume.holds_iff.mpr (.inr (isFolder_of_spelled habs hslash hne h))

end

theorem length_le_of_spelled (habs : path.isAbsolute = true)
    (hproper : ∀ name ∈ names, (Part.name name).Proper)
    (h : v.holds (spelled path names) = true) : names.length ≤ v.items.length := by
  refine Volume.length_le_of_items (v.place path) fun k hk => ?_
  have hfront : ∀ name ∈ names.take (k + 1), (Part.name name).Proper := fun name hm =>
    hproper name (List.mem_of_mem_take hm)
  have hslash : ∀ name ∈ names.drop (k + 1), '/' ∉ name := fun name hm =>
    (hproper name (List.mem_of_mem_drop hm)).slash
  rw [← List.take_append_drop (k + 1) names, spelled_append] at h
  have hthere := holds_of_spelled (isAbsolute_spelled habs _) hslash h
  obtain ⟨place, item, hlocate, hitem⟩ := Volume.holds_iff_locate.mp hthere
  obtain rfl := Volume.locate_eq_ok hlocate
  rw [Volume.place, parts_spelled_names hfront, List.foldl_append,
    Volume.foldl_descend_names] at hitem
  exact ⟨item, hitem⟩

theorem mem_names (habs : path.isAbsolute = true) (hproper : (Part.name name).Proper)
    (h : v.holds (path.join ⟨name⟩) = true) : name ∈ v.names path := by
  have hslash : '/' ∉ name := hproper.slash
  obtain ⟨place, item, hlocate, hitem⟩ := Volume.holds_iff_locate.mp h
  rw [Volume.locate_join (spelling_ne_nil habs) hslash] at hlocate
  obtain ⟨here, hhere, hstep⟩ := Except.bind_eq_ok.mp hlocate
  obtain ⟨-, rfl, -⟩ := Volume.step_eq_ok.mp hstep
  rw [Volume.follow_name here hproper] at hitem
  rw [Volume.names, hhere]
  exact Volume.mem_namesAt hitem

end

section

variable {v : Volume} {c : Component} {rest components : List Component} {path next p : Path}
  {piece name : Text} {above pieces : List Text} {n : Nat}

theorem mem_further (next : Path) (htrail : Trail rest pieces)
    (ih : rest ≠ [] → ∀ fuel ≥ n, spelled next pieces ∈ below fuel v false rest next) :
    ∀ fuel ≥ n, spelled next pieces ∈ further fuel v false rest next := by
  intro fuel hfuel
  cases rest with
  | nil =>
    cases htrail
    exact List.mem_singleton_self next
  | cons c rest => exact ih (List.cons_ne_nil c rest) fuel hfuel

theorem named_of_accepts (fuel : Nat) (hproper : (Part.name name).Proper)
    (haccepts : c.accepts name = true) : named fuel v false (path.join ⟨name⟩) (c :: rest) =
      further fuel v false rest (path.join ⟨name⟩) := by
  rw [named, fileName?_join hproper]
  dsimp only
  rw [haccepts]
  rfl

section

variable (habs : path.isAbsolute = true)

include habs

theorem mem_below_of_takes (takes : c.Takes piece) (hslash : '/' ∉ piece)
    (hthere : v.holds (path.join ⟨piece⟩) = true)
    (hmore : ∀ fuel ≥ n, p ∈ further fuel v false rest (path.join ⟨piece⟩)) :
    ∀ fuel ≥ n + 2, p ∈ below fuel v false (c :: rest) path := by
  have hfolder : v.isFolder path = true :=
    isFolder_of_spelled habs (List.forall_mem_singleton.mpr hslash)
      (List.cons_ne_nil piece []) hthere
  intro fuel hfuel
  obtain ⟨fuel, rfl⟩ := Nat.exists_eq_add_of_le' hfuel
  rcases takes with hc | ⟨hc, ⟨haccepts, hproper⟩ | hdots⟩
  · rw [← Nat.add_assoc, below_of_literal hc, child_eq habs]
    have hlook : (if piece == ['.'] || piece == ['.', '.'] then v.isFolder path
        else v.holds (path.join ⟨piece⟩)) = true := by
      split <;> assumption
    rw [if_pos hlook]
    exact hmore _ (by omega)
  · rw [← Nat.add_assoc, below_of_wildcard hc, if_pos hfolder, List.mem_append]
    refine .inr (List.mem_flatMap.mpr ⟨piece, mem_names habs hproper hthere, ?_⟩)
    rw [child_eq habs, visit_of_ne (ne_folders_of_accepts haccepts),
      named_of_accepts _ hproper haccepts]
    exact hmore _ (by omega)
  · rw [← Nat.add_assoc, below_of_wildcard hc, if_pos hfolder, List.mem_append]
    exact .inl (List.mem_flatMap.mpr ⟨piece, hdots, hmore _ (by omega)⟩)

theorem mem_below_folders (hfolder : v.isFolder path = true) (hname : (Part.name name).Proper)
    (hthere : v.holds (path.join ⟨name⟩) = true) (hc : c ≠ .folders) {fuel : Nat}
    (h : p ∈ named fuel v false (path.join ⟨name⟩) (c :: rest) ∨
      v.isFolder (path.join ⟨name⟩) = true ∧
        p ∈ below fuel v false (.folders :: c :: rest) (path.join ⟨name⟩)) :
    p ∈ below (fuel + 2) v false (.folders :: c :: rest) path := by
  have hdrop : (c :: rest).dropWhile (· == .folders) = c :: rest :=
    List.dropWhile_cons_of_neg (by simpa using hc)
  rw [below_of_wildcard rfl, if_pos hfolder, List.mem_append]
  refine .inr (List.mem_flatMap.mpr ⟨name, mem_names habs hname hthere, ?_⟩)
  rw [child_eq habs, visit_folders, hdrop]
  simp only [List.isEmpty_cons, Bool.false_eq_true, if_false, List.mem_append]
  rcases h with h | ⟨hfolder, h⟩
  · exact .inl h
  · rw [if_pos hfolder]
    exact .inr h

theorem mem_below_of_above (hproper : ∀ other ∈ above ++ [name], (Part.name other).Proper)
    (haccepts : c.accepts name = true)
    (hthere : v.holds (spelled path (above ++ [name])) = true)
    (hmore : ∀ fuel ≥ n, p ∈ further fuel v false rest (spelled path (above ++ [name]))) :
    ∀ fuel ≥ n + 2 * (above.length + 1), p ∈ below fuel v false (.folders :: c :: rest) path := by
  have hc : c ≠ .folders := ne_folders_of_accepts haccepts
  have hslash : ∀ other ∈ above ++ [name], '/' ∉ other := fun other hm => (hproper other hm).slash
  induction above generalizing path with
  | nil =>
    have hfolder := isFolder_of_spelled habs hslash (by simp) hthere
    have hname : (Part.name name).Proper := hproper name (by simp)
    intro fuel hfuel
    obtain ⟨fuel, rfl⟩ := Nat.exists_eq_add_of_le' hfuel
    have hnamed : p ∈ named (fuel + n) v false (path.join ⟨name⟩) (c :: rest) := by
      rw [named_of_accepts _ hname haccepts]
      exact hmore _ (by omega)
    exact mem_below_folders habs hfolder hname hthere hc (.inl hnamed)
  | cons first above ih =>
    have hfolder := isFolder_of_spelled habs hslash (by simp) hthere
    rw [List.cons_append, List.forall_mem_cons] at hproper hslash
    have habs' := isAbsolute_join habs ⟨first⟩
    have hnext : v.holds (spelled (path.join ⟨first⟩) (above ++ [name])) = true := hthere
    intro fuel hfuel
    obtain ⟨fuel, rfl⟩ := Nat.exists_eq_add_of_le' hfuel
    have hfirst := holds_of_spelled habs' hslash.2 hnext
    have hdeeper := isFolder_of_spelled habs' hslash.2 (by simp) hnext
    have hmem := ih habs' hproper.2 hnext hmore hslash.2
      (fuel + (n + 2 * (above.length + 1))) (by omega)
    exact mem_below_folders habs hfolder hproper.1 hfirst hc (.inr ⟨hdeeper, hmem⟩)

end

theorem below_again (fuel : Nat) (v : Volume) (folderOnly : Bool) (rest : List Component)
    (path : Path) : below fuel v folderOnly (.folders :: .folders :: rest) path =
      below fuel v folderOnly (.folders :: rest) path := by
  cases fuel with
  | zero => simp [below]
  | succ fuel =>
    rw [below_of_wildcard rfl, below_of_wildcard rfl]
    cases fuel with
    | zero => simp [visit, Component.dots]
    | succ fuel =>
      simp only [visit_folders]
      rfl

/-- For each component there may be as many steps down as there are items. -/
theorem mem_below_of_trail (htrail : Trail components pieces) (hne : components ≠ [])
    (habs : path.isAbsolute = true) (hslash : ∀ piece ∈ pieces, '/' ∉ piece)
    (hthere : v.holds (spelled path pieces) = true) :
    ∀ fuel ≥ components.length * (2 * (v.items.length + 1)),
      spelled path pieces ∈ below fuel v false components path := by
  induction htrail generalizing path with
  | nil => exact absurd rfl hne
  | @piece c rest piece pieces takes more ih =>
    rw [List.forall_mem_cons] at hslash
    have habs' := isAbsolute_join habs ⟨piece⟩
    have hfurther := mem_further (path.join ⟨piece⟩) more
      fun hrest => ih hrest habs' hslash.2 hthere
    have hnext := holds_of_spelled habs' hslash.2 hthere
    intro fuel hfuel
    refine mem_below_of_takes habs takes hslash.1 hnext hfurther fuel ?_
    rw [List.length_cons, Nat.add_one_mul] at hfuel
    omega
  | @deep c rest name above pieces proper accepts more ih =>
    have hlist : above ++ name :: pieces = above ++ [name] ++ pieces := by simp
    rw [hlist, spelled_append] at hthere ⊢
    rw [hlist, List.forall_mem_append] at hslash
    have habs' := isAbsolute_spelled habs (above ++ [name])
    have hfurther := mem_further (spelled path (above ++ [name])) more
      fun hrest => ih hrest habs' hslash.2 hthere
    have hnext := holds_of_spelled habs' hslash.2 hthere
    have hlength := length_le_of_spelled habs proper hnext
    intro fuel hfuel
    refine mem_below_of_above habs proper accepts hnext hfurther fuel ?_
    rw [List.length_append, List.length_singleton] at hlength
    rw [List.length_cons, List.length_cons, Nat.add_one_mul, Nat.add_one_mul] at hfuel
    omega
  | again more ih =>
    intro fuel hfuel
    rw [below_again]
    refine ih (List.cons_ne_nil _ _) habs hslash hthere fuel (le_trans ?_ hfuel)
    exact Nat.mul_le_mul_right _ (by simp)

end

-- ---------------------------------------------------------------------------
-- From the root
-- ---------------------------------------------------------------------------

/-- From the root a file is found just if it is at the end of a trail. -/
theorem mem_find_iff {v : Volume} (hv : v.WellFormed) {glob : Glob} (hscope : glob.scope = "/")
    (hne : glob.components ≠ [])
    (hslash : ∀ c ∈ glob.components, ∀ t, c.literal? = some t → '/' ∉ t) {p : Path}
    (hp : v.isFolder p = false) : p ∈ glob.find v ↔
      v.isFile p = true ∧ glob.folderOnly = false ∧
        ∃ pieces, Trail glob.components pieces ∧ p = spelled "/" pieces := by
  have habs : glob.scope.isAbsolute = true := by rw [hscope]; rfl
  constructor
  · intro h
    have hreaches := (sound hv _).below habs p h
    rw [hscope] at hreaches
    exact hreaches.resolve_left (by simp [hp])
  · rintro ⟨hfile, hboth, pieces, htrail, rfl⟩
    rw [find, hboth, hscope]
    refine mem_below_of_trail htrail hne rfl (htrail.slash hslash)
      (Volume.holds_iff.mpr (.inl hfile)) _ ?_
    calc glob.components.length * (2 * (v.items.length + 1))
        ≤ (glob.components.length + 1) * (2 * (v.items.length + 2)) :=
          Nat.mul_le_mul (Nat.le_succ _) (Nat.mul_le_mul_left 2 (Nat.le_succ _))
      _ = 2 * (glob.components.length + 1) * (v.items.length + 2) := by
          rw [← Nat.mul_assoc, Nat.mul_comm (_ + 1) 2]

end Swatchbook.Glob
