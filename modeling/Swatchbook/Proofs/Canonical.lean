import Swatchbook.Proofs.Way
import Mathlib.Order.Bounds.Defs

/-!
# Canonical paths

A path and its normal form lead to the same place from everywhere, so it does
not matter whether paths are normalized before they are joined. Between two
normal paths, the one it begins at having no double point, there is one way:
up to where they part, and down again.
-/

namespace Swatchbook.Path

-- ---------------------------------------------------------------------------
-- Joining
-- ---------------------------------------------------------------------------

/-- Taking in what has been folded is taking in its parts. -/
theorem foldl_fold_fold (done front : List Part) (part : Part) :
    (fold front part).foldl fold done = fold (front.foldl fold done) part := by
  cases part with
  | root => rfl
  | here => rfl
  | name name => rw [fold, List.foldl_append, List.foldl_cons, List.foldl_nil]
  | up =>
    rcases fold_up_cases front with ⟨hroot, hup⟩ | hup | ⟨rest, name, rfl, hup⟩
    · -- What ends in a root is that root, and nothing leads out of it.
      obtain ⟨rest, rfl⟩ := List.getLast?_eq_some_iff.mp hroot
      rw [hup, List.foldl_append]
      rfl
    · rw [hup, List.foldl_append, List.foldl_cons, List.foldl_nil]
    · have hname : fold (rest.foldl fold done) (.name name) =
          rest.foldl fold done ++ [.name name] := rfl
      rw [hup, List.foldl_append, List.foldl_cons, List.foldl_nil, hname, fold_up_name]

theorem foldl_fold_normalParts (done parts : List Part) :
    (normalParts parts).foldl fold done = parts.foldl fold done := by
  induction parts using List.reverseRecOn with
  | nil => rfl
  | append_singleton parts part ih =>
    rw [normalParts_append, List.foldl_cons, List.foldl_nil, foldl_fold_fold, ih,
      List.foldl_append, List.foldl_cons, List.foldl_nil]

theorem normalize_join (b p : Path) :
    (b.join p).normalize = (b.normalize.join p.normalize).normalize := by
  rw [normalize_eq_iff, normalParts_join, normalParts_join, parts_normalize, parts_normalize,
    normalParts_append, normalParts_append, (normal_normalParts b).normalParts_eq,
    foldl_fold_normalParts]

-- ---------------------------------------------------------------------------
-- Roots
-- ---------------------------------------------------------------------------

theorem root_not_mem_fold {done : List Part} {part : Part} (h : .root ∉ done)
    (hpart : part ≠ .root) : .root ∉ fold done part := by
  cases part with
  | root => exact absurd rfl hpart
  | here => exact h
  | name name => simpa [fold] using h
  | up =>
    rcases fold_up_cases done with ⟨-, hup⟩ | hup | ⟨front, name, rfl, hup⟩
    · rwa [hup]
    · simpa [hup] using h
    · rw [hup]
      exact fun hm => h (List.mem_append_left _ hm)

theorem root_not_mem_foldl_fold {done parts : List Part} (h : .root ∉ done)
    (hparts : .root ∉ parts) : .root ∉ parts.foldl fold done := by
  induction parts generalizing done with
  | nil => exact h
  | cons part parts ih =>
    rw [List.mem_cons, not_or] at hparts
    exact ih (root_not_mem_fold h (Ne.symm hparts.1)) hparts.2

theorem exists_parts_normalize (p : Path) : ∃ (climbs : Nat) (names : List Text),
    p.normalize.parts =
      (if p.isAbsolute then [.root] else List.replicate climbs .up) ++ names.map .name := by
  rw [parts_normalize]
  cases hp : p.isAbsolute with
  | true =>
    obtain ⟨rest, hrest, -⟩ := parts_of_isAbsolute hp
    obtain ⟨names, hnames⟩ := foldl_fold_root [] rest
    exact ⟨0, names, by rw [hrest]; exact hnames⟩
  | false =>
    have hroot : .root ∉ normalParts p.parts := by
      rw [normalParts, foldl_fold_relative hp]
      exact root_not_mem_foldl_fold List.not_mem_nil (root_not_mem fun _ => proper_of_mem_pieces)
    obtain ⟨front, names, hparts, hfront, -⟩ := normal_normalParts p
    rcases hfront with rfl | ⟨climbs, rfl⟩
    · exact absurd (hparts ▸ List.mem_cons_self) hroot
    · exact ⟨climbs, names, hparts⟩

theorem isAbsolute_normalize (p : Path) : p.normalize.isAbsolute = p.isAbsolute := by
  obtain ⟨climbs, names, hparts⟩ := exists_parts_normalize p
  rw [isAbsolute_eq, hparts]
  cases p.isAbsolute with
  | true => rfl
  | false =>
    rw [if_neg Bool.false_ne_true, beq_eq_false_iff_ne]
    intro hroot
    rcases List.mem_append.mp (List.mem_of_mem_head? hroot) with hm | hm
    · cases List.eq_of_mem_replicate hm
    · obtain ⟨_, -, hname⟩ := List.mem_map.mp hm
      cases hname

/-- The normal form of a path is canonical: it begins as the path does, has no points and no
double points but in front, is its own normal form, and stands for the path behind any other. -/
theorem normalize_canonical (b p : Path) :
    (∃ (climbs : Nat) (names : List Text), p.normalize.parts =
      (if p.isAbsolute then [.root] else List.replicate climbs .up) ++ names.map .name) ∧
      p.normalize.isAbsolute = p.isAbsolute ∧ p.normalize.normalize = p.normalize ∧
      (b.join p).normalize = (b.normalize.join p.normalize).normalize :=
  ⟨exists_parts_normalize p, isAbsolute_normalize p, normalize_normalize p, normalize_join b p⟩

-- ---------------------------------------------------------------------------
-- Ways
-- ---------------------------------------------------------------------------

section

variable {p b : Path}

theorem same_normalize_self_iff : p.normalize.same p = true ↔ Normal p.parts := by
  rw [same_iff, parts_normalize]
  constructor
  · intro h
    rw [← h]
    exact normal_normalParts p
  · exact Normal.normalParts_eq

theorem Parted.isGreatest {common target base : List Part} (h : Parted target base) :
    IsGreatest {n | ∃ front : List Part, front.length = n ∧ front <+: common ++ target ∧
      front <+: common ++ base} common.length := by
  refine ⟨⟨common, rfl, List.prefix_append _ _, List.prefix_append _ _⟩, ?_⟩
  rintro n ⟨front, rfl, htarget, hbase⟩
  rcases List.prefix_or_prefix_of_prefix htarget (List.prefix_append common target) with
    hfront | ⟨rest, rfl⟩
  · exact hfront.length_le
  · rw [List.prefix_append_right_inj] at htarget hbase
    cases rest with
    | nil => rw [List.append_nil]
    | cons part rest =>
      obtain ⟨_, rfl⟩ := htarget
      obtain ⟨_, rfl⟩ := hbase
      exact absurd rfl (h part rfl)

theorem ofParts_eq_empty_iff {parts : List Part} (h : ∀ part ∈ parts, part.Proper) :
    ofParts parts = .empty ↔ parts = [] := by
  constructor
  · intro hempty
    rw [← parts_ofProper h, hempty]
    rfl
  · rintro rfl
    rfl

theorem Parted.symm {target base : List Part} (h : Parted target base) : Parted base target :=
  fun part hbase htarget => h part htarget hbase

theorem Parted.eq_nil {base : List Part} (h : Parted base base) : base = [] := by
  cases base with
  | nil => rfl
  | cons part rest => exact absurd rfl (h part rfl)

theorem Parted.proper {common target base : List Part} (h : Parted target base)
    (hp : p.parts = common ++ target) (hb : b.parts = common ++ base)
    (hsame : p.isAbsolute = b.isAbsolute) (hnormal : Normal p.parts) :
    ∀ part ∈ target, part.Proper := by
  cases common with
  | cons first common =>
    rw [hp] at hnormal
    intro part hm
    exact @Normal.proper_behind [] (common ++ target) first hnormal part
      (List.mem_append_right _ hm)
  | nil =>
    cases habsolute : p.isAbsolute with
    | false =>
      intro part hm
      exact hnormal.proper_of_relative habsolute part (hp ▸ hm)
    | true =>
      rw [habsolute] at hsame
      rw [isAbsolute_eq, hp, beq_iff_eq] at habsolute
      rw [eq_comm, isAbsolute_eq, hb, beq_iff_eq] at hsame
      exact absurd hsame (h .root habsolute)

/-- The way from one normal path to another climbs as often as the first goes on behind the
longest beginning that they share, and then goes on as the second does. It leads there, and is
empty just if they are the same. -/
theorem relativeTo?_of_normal (hp : p.normalize.same p = true) (hb : b.normalize.same b = true)
    (hsame : p.isAbsolute = b.isAbsolute) (hup : .up ∉ b.parts) :
    ∃ (k : Nat) (r : Path),
      IsGreatest {n | ∃ front : List Part, front.length = n ∧ front <+: p.parts ∧
        front <+: b.parts} k ∧
      p.relativeTo? b = some r ∧
      r.parts = List.replicate (b.parts.length - k) .up ++ p.parts.drop k ∧
      (b.join r).normalize.same p = true ∧ (r = .empty ↔ p.same b = true) := by
  rw [same_normalize_self_iff] at hp hb
  obtain ⟨common, target, base, htarget, hbase, hparted⟩ := exists_common p.parts b.parts
  have htargets := hparted.proper htarget hbase hsame hp
  have hbases := hparted.symm.proper hbase htarget hsame.symm hb
  have hparts : ∀ part ∈ List.replicate base.length Part.up ++ target, part.Proper :=
    List.forall_mem_append.mpr ⟨proper_ups _, htargets⟩
  have hflat : .up ∉ base := by
    rw [hbase] at hup
    exact fun hm => hup (List.mem_append_right _ hm)
  have hhead : ¬ (target ≠ [] ∧ base.head? = some .up) :=
    fun h => hflat (List.mem_of_mem_head? h.2)
  refine ⟨common.length, ofParts (List.replicate base.length .up ++ target), ?_, ?_, ?_, ?_, ?_⟩
  · rw [htarget, hbase]
    exact hparted.isGreatest
  · rw [relativeTo?_of_parted htarget hbase hparted hbases hsame, if_neg hhead]
  · rw [parts_ofProper hparts, htarget, hbase, List.length_append, Nat.add_sub_cancel_left,
      List.drop_left]
  · rw [same_iff, parts_normalize, parts_join_ofParts hparts, hbase, htarget]
    rw [htarget] at hp
    exact (reaches_iff hp hbases (fun hm => absurd hm hflat)).mpr (.inl hflat)
  · rw [ofParts_eq_empty_iff hparts, same_iff, htarget, hbase, List.append_right_inj,
      List.append_eq_nil_iff, List.replicate_eq_nil_iff, List.length_eq_zero_iff]
    constructor
    · rintro ⟨rfl, rfl⟩
      rfl
    · rintro rfl
      exact ⟨hparted.eq_nil, hparted.eq_nil⟩

end

theorem relativeTo?_of_normal_forms :
    let p : Path := "/out/forms/x.html"
    let b : Path := "/out/base"
    IsGreatest {n | ∃ front : List Part, front.length = n ∧ front <+: p.parts ∧
        front <+: b.parts} 2 ∧
      p.relativeTo? b = some "../forms/x.html" ∧
      (b.join "../forms/x.html").normalize.same p = true ∧ p.same b = false := by
  intro p b
  obtain ⟨k, r, hlongest, hway, hparts, hleads, hempty⟩ :=
    relativeTo?_of_normal (p := p) (b := b) (by decide) (by decide) (by decide) (by decide)
  have hknown : p.relativeTo? b = some "../forms/x.html" := by decide
  obtain rfl := Option.some.inj (hknown.symm.trans hway)
  have htwo : 2 = k := by
    have hlength := congrArg List.length hparts
    have hclimb : Path.parts "../forms/x.html" =
        [.up, .name "forms".toList, .name "x.html".toList] := by decide
    have hp : p.parts.length = 4 := by decide
    have hb : b.parts.length = 3 := by decide
    rw [hclimb, List.length_append, List.length_replicate, List.length_drop, hp, hb] at hlength
    simp only [List.length_cons, List.length_nil] at hlength
    omega
  rw [htwo]
  refine ⟨hlongest, hknown, hleads, ?_⟩
  rw [← Bool.not_eq_true, ← hempty]
  decide

end Swatchbook.Path
