import Swatchbook.Proofs.Ending
import Mathlib.Algebra.Ring.Int.Defs

/-!
# Where ways lead

The way from a directory to a path climbs over everything in which the
directory differs from the path, and then goes on. A double point in the
directory is climbed over like a name, though it leads up itself. Main
statement: the way leads to the path unless it counts such a double point, or
only the directory is absolute.
-/

namespace Swatchbook

def Part.rise : Part → Int
  | .name _ => 1
  | .up => -1
  | .root | .here => 0

namespace Path

-- ---------------------------------------------------------------------------
-- Heights
-- ---------------------------------------------------------------------------

/-- How many more names than double points there are. -/
def height (parts : List Part) : Int := (parts.map Part.rise).sum

theorem height_append (xs ys : List Part) : height (xs ++ ys) = height xs + height ys := by
  rw [height, List.map_append, List.sum_append, height, height]

theorem height_concat (parts : List Part) (part : Part) :
    height (parts ++ [part]) = height parts + part.rise := by
  rw [height_append, height, height]
  simp

theorem height_names (names : List Text) : height (names.map .name) = names.length := by
  induction names with
  | nil => rfl
  | cons name names ih =>
    rw [List.map_cons, height, List.map_cons, List.sum_cons, ← height, ih, List.length_cons,
      Part.rise]
    omega

theorem height_rooted (names : List Text) : height (.root :: names.map .name) = names.length := by
  rw [← List.singleton_append, height_append, height_names]
  exact Int.zero_add _

theorem fold_up_of_root {done : List Part} (h : done.getLast? = some .root) :
    fold done .up = done := by
  simp [fold, h]

theorem fold_up_cases (done : List Part) : (done.getLast? = some .root ∧ fold done .up = done) ∨
    fold done .up = done ++ [.up] ∨ ∃ front name, done = front ++ [.name name] ∧
      fold done .up = front := by
  cases done using List.reverseRecOn with
  | nil => exact .inr (.inl rfl)
  | append_singleton front last =>
    cases last with
    | root => exact .inl ⟨List.getLast?_concat, fold_up_of_root List.getLast?_concat⟩
    | name name => exact .inr (.inr ⟨front, name, rfl, fold_up_name front name⟩)
    | here | up => exact .inr (.inl (by simp [fold]))

theorem height_fold_up {done : List Part} (h : done.getLast? ≠ some .root) :
    height (fold done .up) = height done - 1 := by
  rcases fold_up_cases done with ⟨hroot, -⟩ | hup | ⟨front, name, rfl, hup⟩
  · exact absurd hroot h
  · rw [hup, height_concat, Part.rise]
    omega
  · rw [hup, height_concat, Part.rise]
    omega

theorem height_foldl_fold {parts : List Part} (h : .root ∉ parts) (done : List Part) :
    height (parts.foldl fold done) + parts.count .up ≤ height done + parts.length := by
  induction parts generalizing done with
  | nil => simp
  | cons part parts ih =>
    rw [List.mem_cons, not_or] at h
    have hrest := ih h.2 (fold done part)
    rw [List.foldl_cons, List.count_cons, List.length_cons]
    cases part with
    | root => exact absurd rfl h.1
    | here =>
      rw [fold] at hrest ⊢
      simp
      omega
    | name name =>
      rw [fold, height_concat, Part.rise] at hrest
      rw [fold]
      simp
      omega
    | up =>
      have hup : height (fold done .up) ≤ height done := by
        by_cases hlast : done.getLast? = some .root
        · exact Int.le_of_eq (congrArg height (fold_up_of_root hlast))
        · rw [height_fold_up hlast]
          omega
      simp
      omega

theorem foldl_fold_ups {done : List Part} (h : Normal done) (n : Nat) :
    (List.replicate n .up).foldl fold done = [.root] ∨
      height ((List.replicate n .up).foldl fold done) = height done - n := by
  induction n with
  | zero => exact .inr (by simp)
  | succ n ih =>
    have hnormal : Normal ((List.replicate n .up).foldl fold done) := h.foldl_fold (by simp)
    rw [List.replicate_succ', List.foldl_append, List.foldl_cons, List.foldl_nil]
    by_cases hroot : ((List.replicate n .up).foldl fold done).getLast? = some .root
    · left
      obtain ⟨front, hfront⟩ := List.getLast?_eq_some_iff.mp hroot
      rw [fold_up_of_root hroot, hfront]
      cases front with
      | nil => rfl
      | cons part front =>
        rw [hfront] at hnormal
        have hproper := @Normal.proper_behind [] _ _ hnormal
        exact absurd rfl (hproper .root (by simp)).ne_root
    · right
      rw [height_fold_up hroot]
      rcases ih with hdone | hdone
      · rw [hdone] at hroot
        exact absurd rfl hroot
      · omega

theorem foldl_fold_root (names : List Text) (parts : List Part) : ∃ names' : List Text,
    parts.foldl fold (.root :: names.map .name) = .root :: names'.map .name := by
  induction parts generalizing names with
  | nil => exact ⟨names, rfl⟩
  | cons part parts ih =>
    rw [List.foldl_cons]
    cases part with
    | root => exact ih []
    | here => exact ih names
    | name name =>
      have hfold : fold (.root :: names.map .name) (.name name) =
          .root :: (names ++ [name]).map .name := by simp [fold]
      rw [hfold]
      exact ih _
    | up =>
      cases names using List.reverseRecOn with
      | nil => exact ih []
      | append_singleton names name =>
        rw [List.map_append, List.map_singleton, ← List.cons_append, fold_up_name]
        exact ih names

/-- Going through some parts and climbing over as many leads back just if none of them is a
double point, or at the root. -/
theorem climb_back_iff {common base : List Part} (h : Normal common)
    (hbase : ∀ part ∈ base, part.Proper) :
    (List.replicate base.length .up).foldl fold (base.foldl fold common) = common ↔
      .up ∉ base ∨ common = [.root] := by
  have hnormal : Normal (base.foldl fold common) := h.foldl_fold fun _ => hbase _
  have hcount := height_foldl_fold (root_not_mem hbase) common
  constructor
  · intro hback
    by_contra hnot
    rw [not_or, not_not] at hnot
    obtain ⟨hup, hroot⟩ := hnot
    have hpos : 0 < base.count .up := List.count_pos_iff.mpr hup
    rcases foldl_fold_ups hnormal base.length with hend | hend
    · exact hroot (hback.symm.trans hend)
    · rw [hback] at hend
      omega
  · rintro (hup | rfl)
    · obtain ⟨names, rfl⟩ := exists_names hbase hup
      rw [foldl_fold_names, List.length_map, foldl_fold_climb]
    · rcases foldl_fold_ups hnormal base.length with hend | hend
      · exact hend
      · obtain ⟨names, hnames⟩ := foldl_fold_root [] (base ++ List.replicate base.length .up)
        rw [List.map_nil, List.foldl_append] at hnames
        rw [hnames, height_rooted] at hend
        have hempty : height [.root] = 0 := rfl
        have hnil : names = [] := List.eq_nil_of_length_eq_zero (by omega)
        rw [hnames, hnil]
        rfl

theorem ups_prefix_foldl {done parts : List Part} {k : Nat} (h : .root ∉ parts)
    (hdone : List.replicate k .up <+: done) : List.replicate k .up <+: parts.foldl fold done := by
  induction parts generalizing done with
  | nil => exact hdone
  | cons part parts ih =>
    rw [List.mem_cons, not_or] at h
    refine ih h.2 ?_
    cases part with
    | root => exact absurd rfl h.1
    | here => exact hdone
    | name name => exact hdone.trans (List.prefix_append _ _)
    | up =>
      rcases fold_up_cases done with ⟨-, hup⟩ | hup | ⟨front, name, rfl, hup⟩
      · rwa [hup]
      · rw [hup]
        exact hdone.trans (List.prefix_append _ _)
      · rw [hup]
        refine (List.prefix_concat_iff.mp hdone).resolve_left fun hall => ?_
        have hname : .name name ∈ List.replicate k Part.up := by
          rw [hall]
          exact List.mem_append_right _ List.mem_cons_self
        cases List.eq_of_mem_replicate hname

-- ---------------------------------------------------------------------------
-- Parting
-- ---------------------------------------------------------------------------

theorem Parted.unique {common common' target target' base base' : List Part}
    (h : Parted target base) (h' : Parted target' base')
    (htarget : common ++ target = common' ++ target') (hbase : common ++ base = common' ++ base') :
    common = common' ∧ target = target' ∧ base = base' := by
  induction common generalizing common' with
  | nil =>
    cases common' with
    | nil => exact ⟨rfl, htarget, hbase⟩
    | cons part common' =>
      obtain rfl : target = _ := htarget
      obtain rfl : base = _ := hbase
      exact absurd rfl (h part rfl)
  | cons part common ih =>
    cases common' with
    | nil =>
      obtain rfl : _ = target' := htarget
      obtain rfl : _ = base' := hbase
      exact absurd rfl (h' part rfl)
    | cons part' common' =>
      obtain ⟨rfl, hrest⟩ := List.cons.inj htarget
      obtain ⟨rfl, rfl, rfl⟩ := ih hrest (List.cons.inj hbase).2
      exact ⟨rfl, rfl, rfl⟩

/-- Directories from which the way to a path leads elsewhere: one that is absolute if the path
is not, and one with a double point behind the parts in which the two agree. If these are the
root alone then climbing too far ends there as well, and if the double point is right where an
absolute path goes on then there is no way and the path is written as it is. -/
inductive Misled (directory path : Path) : Prop
  | apart (hdirectory : directory.isAbsolute = true) (hpath : path.isAbsolute = false)
  | climbs {common target base : List Part} (hpath : path.parts = common ++ target)
      (hdirectory : directory.parts = common ++ base) (parted : Parted target base)
      (up : .up ∈ base) (deep : common ≠ [.root])
      (fresh : path.isAbsolute = true → target = [] ∨ base.head? ≠ some .up)

theorem not_misled_of_no_up {directory path : Path} (h : .up ∉ directory.parts)
    (hpath : path.isAbsolute = true) : ¬ Misled directory path := by
  rintro (⟨-, hrelative⟩ | ⟨-, hdirectory, -, hup, -, -⟩)
  · rw [hpath] at hrelative
    cases hrelative
  · rw [hdirectory] at h
    exact h (List.mem_append_right _ hup)

def wayTo (path directory : Path) : Text := ((path.relativeTo? directory).getD path).slash

-- ---------------------------------------------------------------------------
-- Links
-- ---------------------------------------------------------------------------

theorem parts_slash_of_proper {p : Path} (h : ∀ part ∈ p.parts, part.Proper) :
    Path.parts ⟨p.slash⟩ = p.parts := by
  by_cases hnil : p.parts = []
  · rw [slash, hnil]
    rfl
  · have hsame : p.slash = (ofParts p.parts).slash := by rw [slash_ofParts h, slash]
    rw [hsame, parts_slash hnil h]

theorem parts_slash_of_normal {p : Path} (h : Normal p.parts) : Path.parts ⟨p.slash⟩ = p.parts := by
  cases hp : p.isAbsolute with
  | false => exact parts_slash_of_proper (h.proper_of_relative hp)
  | true =>
    obtain ⟨rest, hrest, hproper⟩ := parts_of_isAbsolute hp
    by_cases hnil : rest = []
    · rw [slash, hrest, hnil]
      rfl
    · -- A slash for the root, and then one more in front of the names.
      have hslash : p.slash = '/' :: '/' :: (ofParts rest).slash := by
        obtain ⟨first, others, rfl⟩ := List.exists_cons_of_ne_nil hnil
        rw [slash_ofParts hproper, slash, hrest]
        simp [Part.text, Text.join, List.intercalate]
      have hread : (⟨'/' :: '/' :: (ofParts rest).slash⟩ : Path).parts =
          .root :: Path.parts ⟨(ofParts rest).slash⟩ := by
        rw [parts_eq_of_proper (p := ⟨(ofParts rest).slash⟩)]
        · rfl
        · rwa [parts_slash hnil hproper]
      rw [hslash, hread, parts_slash hnil hproper, hrest]

-- ---------------------------------------------------------------------------
-- Reaching a path
-- ---------------------------------------------------------------------------

section

variable {common target base : List Part}

/-- Climbing over what is behind the common parts and going on reaches the target just if the
climb leads back to them. -/
theorem reaches_iff (htarget : Normal (common ++ target)) (hbase : ∀ part ∈ base, part.Proper)
    (hnames : .up ∈ base → ∃ names : List Text, target = names.map .name) :
    normalParts (common ++ base ++ (List.replicate base.length .up ++ target)) =
      common ++ target ↔ .up ∉ base ∨ common = [.root] := by
  have hcommon := htarget.of_append
  rw [normalParts_append, normalParts_append, hcommon.normalParts_eq, List.foldl_append,
    ← climb_back_iff hcommon hbase]
  by_cases hup : .up ∈ base
  · obtain ⟨names, rfl⟩ := hnames hup
    rw [foldl_fold_names, List.append_left_inj]
  · have hback := (climb_back_iff hcommon hbase).mpr (.inl hup)
    have hself := htarget.normalParts_eq
    rw [normalParts_append, hcommon.normalParts_eq] at hself
    simp only [hback, hself]

theorem Normal.ups_of_up {front rest : List Part} (h : Normal (front ++ .up :: rest))
    (hroot : .root ∉ front) : ∀ part ∈ front, part = .up := by
  intro part hm
  cases part with
  | up => rfl
  | root => exact absurd hm hroot
  | here => exact absurd (List.mem_append_left _ hm) h.here_not_mem
  | name name =>
    obtain ⟨before, behind, rfl⟩ := List.append_of_mem hm
    rw [List.append_assoc, List.cons_append] at h
    obtain ⟨names, hnames⟩ := h.names_behind
    have hup : Part.up ∈ names.map Part.name := hnames ▸ by simp
    simp at hup

theorem Normal.head?_of_up {front parts : List Part} (h : Normal (front ++ parts))
    (hroot : .root ∉ front ++ parts) (hup : .up ∈ parts) : parts.head? = some .up := by
  obtain ⟨before, behind, rfl⟩ := List.append_of_mem hup
  cases before with
  | nil => rfl
  | cons part before =>
    rw [← List.append_assoc] at h hroot
    have hall := h.ups_of_up fun hm => hroot (List.mem_append_left _ hm)
    exact congrArg some (hall part (by simp))

theorem Normal.names_of_root {rest : List Part} (h : Normal (.root :: rest)) :
    ∃ names : List Text, rest = names.map .name := by
  obtain ⟨front, names, hparts, hfront, -⟩ := h
  rcases hfront with rfl | ⟨k, rfl⟩
  · exact ⟨names, (List.cons.inj hparts).2⟩
  · cases k with
    | zero => cases names <;> cases hparts
    | succ k => cases hparts

variable {directory path : Path}

theorem misled_iff (hpath : path.parts = common ++ target)
    (hdirectory : directory.parts = common ++ base) (h : Parted target base) :
    Misled directory path ↔ directory.isAbsolute = true ∧ path.isAbsolute = false ∨
      .up ∈ base ∧ common ≠ [.root] ∧
        (path.isAbsolute = true → target = [] ∨ base.head? ≠ some .up) := by
  constructor
  · rintro (⟨habsolute, hrelative⟩ | ⟨hpath', hdirectory', h', hup, hdeep, hfresh⟩)
    · exact .inl ⟨habsolute, hrelative⟩
    · obtain ⟨rfl, rfl, rfl⟩ :=
        h.unique h' (hpath.symm.trans hpath') (hdirectory.symm.trans hdirectory')
      exact .inr ⟨hup, hdeep, hfresh⟩
  · rintro (⟨habsolute, hrelative⟩ | ⟨hup, hdeep, hfresh⟩)
    · exact .apart habsolute hrelative
    · exact .climbs hpath hdirectory h hup hdeep hfresh

theorem leads_of_isAbsolute (hpath : Normal path.parts) (h : path.isAbsolute = true)
    (parts : List Part) : normalParts (parts ++ Path.parts ⟨path.slash⟩) = path.parts := by
  rw [parts_slash_of_normal hpath, normalParts_append, foldl_fold_of_isAbsolute h,
    hpath.normalParts_eq]

theorem not_leads_of_apart (h : directory.isAbsolute = true) (hpath : path.isAbsolute = false)
    (parts : List Part) : normalParts (directory.parts ++ parts) ≠ path.parts := by
  obtain ⟨rest, hrest, -⟩ := parts_of_isAbsolute h
  obtain ⟨names, hnames⟩ := foldl_fold_root [] (rest ++ parts)
  intro hleads
  rw [hrest] at hleads
  have hhead : path.parts = .root :: names.map .name := hleads.symm.trans hnames
  rw [isAbsolute_eq, hhead] at hpath
  cases hpath

theorem foldl_fold_ne_of_turn {part : Part} {rest more parts : List Part}
    (hdirectory : Normal (common ++ .up :: more)) (hroot : .root ∉ common) (hparts : .root ∉ parts)
    (hpart : part ≠ .up) : parts.foldl fold (common ++ .up :: more) ≠ common ++ part :: rest := by
  have hups : common = List.replicate common.length .up :=
    List.eq_replicate_length.mpr (hdirectory.ups_of_up hroot)
  have hstart : List.replicate (common.length + 1) .up <+: common ++ .up :: more := by
    rw [List.replicate_succ', ← hups]
    exact ⟨more, List.append_assoc _ _ _⟩
  have hkept := ups_prefix_foldl hparts hstart
  intro hleads
  rw [hleads, List.replicate_succ', ← hups, List.prefix_append_right_inj] at hkept
  exact hpart (List.cons_prefix_cons.mp hkept).1.symm

theorem head?_common (hpath : path.parts = common ++ target)
    (hdirectory : directory.parts = common ++ base) (h : Parted target base)
    (hp : path.isAbsolute = true) (hd : directory.isAbsolute = true) :
    common.head? = some .root := by
  rw [isAbsolute_eq, hpath, beq_iff_eq] at hp
  rw [isAbsolute_eq, hdirectory, beq_iff_eq] at hd
  cases common with
  | nil => exact absurd hd (h .root hp)
  | cons part behind => exact hp

theorem proper_behind_root (habs : path.isAbsolute = true) (hpath : path.parts = common ++ target)
    (hroot : common.head? = some .root) : ∀ part ∈ target, part.Proper := by
  obtain ⟨rest, hrest, hproper⟩ := parts_of_isAbsolute habs
  obtain ⟨behind, rfl⟩ := List.head?_eq_some_iff.mp hroot
  obtain rfl : rest = behind ++ target := (List.cons.inj (hrest.symm.trans hpath)).2
  exact fun part hm => hproper part (List.mem_append_right _ hm)

section

variable (hpath : path.parts = common ++ target) (hdirectory : directory.parts = common ++ base)
  (h : Parted target base) (hbase : ∀ part ∈ base, part.Proper)

include hpath hdirectory h hbase

theorem relativeTo?_of_parted (hsame : path.isAbsolute = directory.isAbsolute) :
    path.relativeTo? directory = if target ≠ [] ∧ base.head? = some .up then none
      else some (ofParts (List.replicate base.length .up ++ target)) := by
  have hhere : base.head? ≠ some .here := fun hhead =>
    (hbase .here (List.mem_of_mem_head? hhead)).ne_here rfl
  rw [relativeTo?, hsame, bne_self_eq_false, hpath, hdirectory, between_common,
    between_of_parted h hhere, apply_ite (Option.map ofParts)]
  rfl

theorem leads_iff_of_way (hsame : path.isAbsolute = directory.isAbsolute)
    (hturn : ¬ (target ≠ [] ∧ base.head? = some .up)) (hnormal : Normal path.parts)
    (htarget : ∀ part ∈ target, part.Proper)
    (hnames : .up ∈ base → ∃ names : List Text, target = names.map .name) :
    normalParts (directory.parts ++ Path.parts ⟨wayTo path directory⟩) = path.parts ↔
      .up ∉ base ∨ common = [.root] := by
  have hparts : ∀ part ∈ List.replicate base.length Part.up ++ target, part.Proper :=
    List.forall_mem_append.mpr ⟨proper_ups _, htarget⟩
  have hread := parts_ofProper hparts
  rw [wayTo, relativeTo?_of_parted hpath hdirectory h hbase hsame, if_neg hturn,
    Option.getD_some, parts_slash_of_proper (by rwa [hread]), hread]
  rw [hpath] at hnormal ⊢
  rw [hdirectory]
  exact reaches_iff hnormal hbase hnames

end

theorem leads_iff_of_isAbsolute (hpath : path.parts = common ++ target)
    (hdirectory : directory.parts = common ++ base) (h : Parted target base)
    (hnormal : Normal path.parts) (hp : path.isAbsolute = true)
    (hd : directory.isAbsolute = true) :
    normalParts (directory.parts ++ Path.parts ⟨wayTo path directory⟩) = path.parts ↔
      ¬ (.up ∈ base ∧ common ≠ [.root] ∧ (target = [] ∨ base.head? ≠ some .up)) := by
  have hroot := head?_common hpath hdirectory h hp hd
  have hbase := proper_behind_root hd hdirectory hroot
  by_cases hturn : target ≠ [] ∧ base.head? = some .up
  · have hway : wayTo path directory = path.slash := by
      rw [wayTo, relativeTo?_of_parted hpath hdirectory h hbase (hp.trans hd.symm), if_pos hturn,
        Option.getD_none]
    rw [hway]
    refine iff_of_true (leads_of_isAbsolute hnormal hp _) ?_
    rintro ⟨-, -, hnil | hhead⟩
    · exact hturn.1 hnil
    · exact hhead hturn.2
  · have hnames : ∃ names : List Text, target = names.map .name := by
      obtain ⟨behind, rfl⟩ := List.head?_eq_some_iff.mp hroot
      rw [hpath] at hnormal
      obtain ⟨names, hnames⟩ := Normal.names_of_root hnormal
      obtain ⟨_, names, -, -, htarget⟩ := List.map_eq_append_iff.mp hnames.symm
      exact ⟨names, htarget.symm⟩
    rw [leads_iff_of_way hpath hdirectory h hbase (hp.trans hd.symm) hturn hnormal
      (proper_behind_root hp hpath hroot) fun _ => hnames]
    tauto

theorem leads_iff_of_relative (hpath : path.parts = common ++ target)
    (hdirectory : directory.parts = common ++ base) (h : Parted target base)
    (hnormal : Normal path.parts) (hnormal' : Normal directory.parts)
    (hp : path.isAbsolute = false) (hd : directory.isAbsolute = false) :
    normalParts (directory.parts ++ Path.parts ⟨wayTo path directory⟩) = path.parts ↔
      ¬ (.up ∈ base ∧ common ≠ [.root]) := by
  have hproper := hnormal.proper_of_relative hp
  have hproper' := hnormal'.proper_of_relative hd
  have hroot := root_not_mem hproper
  have hslash := parts_slash_of_proper hproper
  rw [hpath] at hproper hroot
  rw [hdirectory] at hproper'
  have htarget : ∀ part ∈ target, part.Proper := fun _ hm => hproper _ (List.mem_append_right _ hm)
  have hbase : ∀ part ∈ base, part.Proper := fun _ hm => hproper' _ (List.mem_append_right _ hm)
  by_cases hturn : target ≠ [] ∧ base.head? = some .up
  · obtain ⟨htarget, hhead⟩ := hturn
    obtain ⟨part, rest, rfl⟩ := List.exists_cons_of_ne_nil htarget
    obtain ⟨more, rfl⟩ := List.head?_eq_some_iff.mp hhead
    have hpart : part ≠ .up := by
      rintro rfl
      exact h .up rfl rfl
    have hway : wayTo path directory = path.slash := by
      rw [wayTo, relativeTo?_of_parted hpath hdirectory h hbase (hp.trans hd.symm),
        if_pos ⟨htarget, hhead⟩, Option.getD_none]
    have hfront : .root ∉ common := fun hm => hroot (List.mem_append_left _ hm)
    rw [hdirectory] at hnormal'
    rw [hway, hslash, hdirectory, hpath, normalParts_append, hnormal'.normalParts_eq]
    refine iff_of_false (foldl_fold_ne_of_turn hnormal' hfront hroot hpart)
      (not_not.mpr ⟨.head _, ?_⟩)
    rintro rfl
    exact hfront List.mem_cons_self
  · have hnames : .up ∈ base → ∃ names : List Text, target = names.map .name := by
      intro hup
      rw [hdirectory] at hnormal'
      have hhead := hnormal'.head?_of_up (root_not_mem hproper') hup
      exact ⟨[], not_not.mp fun hne => hturn ⟨hne, hhead⟩⟩
    rw [leads_iff_of_way hpath hdirectory h hbase (hp.trans hd.symm) hturn hnormal htarget hnames]
    tauto

/-- The way from a directory leads to a normal path just if the directory does not mislead. -/
theorem wayTo_leads_iff (hpath : Normal path.parts)
    (hdirectory : directory.isAbsolute = true ∨ Normal directory.parts) :
    (directory.join ⟨wayTo path directory⟩).normalize = path.normalize ↔
      ¬ Misled directory path := by
  obtain ⟨common, target, base, htarget, hbase, hparted⟩ :=
    exists_common path.parts directory.parts
  rw [normalize_eq_iff, normalParts_join, hpath.normalParts_eq, misled_iff htarget hbase hparted]
  cases hp : path.isAbsolute with
  | true =>
    cases hd : directory.isAbsolute with
    | true => simpa using leads_iff_of_isAbsolute htarget hbase hparted hpath hp hd
    | false =>
      have hway : wayTo path directory = path.slash := by
        rw [wayTo, relativeTo?, hp, hd]
        rfl
      rw [hway]
      refine iff_of_true (leads_of_isAbsolute hpath hp _) ?_
      rintro (⟨hd, -⟩ | ⟨hup, -, hfresh⟩)
      · cases hd
      · have hnormal := hdirectory.resolve_left (by simp [hd])
        have hroot := root_not_mem (hnormal.proper_of_relative hd)
        rw [hbase] at hnormal hroot
        rcases hfresh rfl with rfl | hhead
        · rw [isAbsolute_eq, htarget, beq_iff_eq, List.append_nil] at hp
          exact hroot (List.mem_append_left _ (List.mem_of_mem_head? hp))
        · exact hhead (hnormal.head?_of_up hroot hup)
  | false =>
    cases hd : directory.isAbsolute with
    | true => simpa using not_leads_of_apart hd hp _
    | false =>
      have hnormal := hdirectory.resolve_left (by simp [hd])
      simpa using leads_iff_of_relative htarget hbase hparted hpath hnormal hp hd

end

end Path

end Swatchbook
