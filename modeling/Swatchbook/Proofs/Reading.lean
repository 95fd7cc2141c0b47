import Swatchbook.Proofs.Way

/-!
# Ways that are misread

Markup reads some texts as others. No text becomes longer by that, and points
and slashes stay what they are, so the climb at the beginning of a way is read
as it is written. Main statement: what is read of the way to a path leads to the
path just if the way does and nothing in it is misread.
-/

namespace Swatchbook.Path

-- ---------------------------------------------------------------------------
-- What is left of a text
-- ---------------------------------------------------------------------------

theorem exists_foldl_fold (done parts : List Part) : ∃ front kept,
    parts.foldl fold done = front ++ kept ∧ front <+: done ∧ kept.Sublist parts := by
  induction parts using List.reverseRecOn with
  | nil => exact ⟨done, [], (List.append_nil _).symm, List.prefix_rfl, .slnil⟩
  | append_singleton parts part ih =>
    obtain ⟨front, kept, hfold, hfront, hkept⟩ := ih
    have hmore : (kept ++ [part]).Sublist (parts ++ [part]) := hkept.append_right _
    have hless : kept.Sublist (parts ++ [part]) := hkept.trans (List.sublist_append_left _ _)
    rw [List.foldl_append, hfold, List.foldl_cons, List.foldl_nil]
    cases part with
    | root => exact ⟨[], [.root], rfl, List.nil_prefix, List.sublist_append_right _ _⟩
    | here => exact ⟨front, kept, rfl, hfront, hless⟩
    | name name => exact ⟨front, kept ++ [.name name], List.append_assoc _ _ _, hfront, hmore⟩
    | up =>
      rcases fold_up_cases (front ++ kept) with ⟨-, hup⟩ | hup | ⟨rest, name, hrest, hup⟩
      · exact ⟨front, kept, hup, hfront, hless⟩
      · exact ⟨front, kept ++ [.up], by rw [hup, List.append_assoc], hfront, hmore⟩
      · rw [hup]
        cases kept using List.reverseRecOn with
        | nil =>
          rw [List.append_nil] at hrest
          rw [hrest] at hfront
          exact ⟨rest, [], (List.append_nil _).symm, (List.prefix_append _ _).trans hfront,
            List.nil_sublist _⟩
        | append_singleton kept last =>
          rw [← List.append_assoc] at hrest
          obtain ⟨rfl, -⟩ := List.append_inj' hrest rfl
          exact ⟨front, kept, rfl, hfront, (List.sublist_append_left _ _).trans hless⟩

theorem map_text_sublist (pieces : List Text) :
    ((pieces.filterMap partOf?).map Part.text).Sublist pieces := by
  induction pieces with
  | nil => exact .slnil
  | cons piece pieces ih =>
    cases hpart : partOf? piece with
    | none =>
      rw [List.filterMap_cons_none hpart]
      exact ih.cons piece
    | some part =>
      rw [List.filterMap_cons_some hpart, List.map_cons, text_of_partOf? hpart]
      exact ih.cons_cons piece

/-- A text that leads to parts of which it is no longer spelled consists of these parts. -/
theorem eq_join_of_leads {done common target : List Part} {t : Text} (hne : target ≠ [])
    (hlength : t.length ≤ (Text.join ['/'] (target.map Part.text)).length)
    (hdone : done.length ≤ common.length)
    (h : ((pieces ⟨t⟩).filterMap partOf?).foldl fold done = common ++ target) :
    t = Text.join ['/'] (target.map Part.text) := by
  obtain ⟨front, kept, hfold, hfront, hkept⟩ := exists_foldl_fold done
    ((pieces ⟨t⟩).filterMap partOf?)
  have hboth := h.symm.trans hfold
  have hsum := congrArg List.length hboth
  rw [List.length_append, List.length_append] at hsum
  have hshort := hfront.length_le
  have htarget : target <:+ kept :=
    List.suffix_of_suffix_length_le ⟨common, hboth⟩ ⟨front, rfl⟩ (by omega)
  have htexts := (htarget.sublist.trans hkept).map Part.text
  exact Text.eq_join_of_sublist (by simpa using hne) (htexts.trans (map_text_sublist _)) hlength

-- ---------------------------------------------------------------------------
-- Readings
-- ---------------------------------------------------------------------------

/-- A way to read texts which makes none longer and leaves points and slashes in front alone. -/
structure Reading (read : Text → Text) : Prop where
  plain : ∀ lead t, (∀ c ∈ lead, c = '.' ∨ c = '/') → read (lead ++ t) = lead ++ read t
  length_le : ∀ t, (read t).length ≤ t.length

theorem Reading.eq_self {read : Text → Text} (hread : Reading read) {lead : Text}
    (h : ∀ c ∈ lead, c = '.' ∨ c = '/') : read lead = lead := by
  have hnil : read [] = [] := List.eq_nil_of_length_eq_zero (Nat.le_zero.mp (hread.length_le []))
  have hplain := hread.plain lead [] h
  rwa [hnil, List.append_nil] at hplain

/-- Double points and a slash behind each. -/
def climb (n : Nat) : Text := (List.replicate n ['.', '.']).flatMap (· ++ ['/'])

theorem mem_climb {n : Nat} {c : Char} (h : c ∈ climb n) : c = '.' ∨ c = '/' := by
  obtain ⟨piece, hpiece, hc⟩ := List.mem_flatMap.mp h
  rw [List.eq_of_mem_replicate hpiece] at hc
  simpa using hc

theorem mem_join_ups {n : Nat} {c : Char}
    (h : c ∈ Text.join ['/'] (List.replicate n ['.', '.'])) : c = '.' ∨ c = '/' := by
  cases n with
  | zero => cases h
  | succ n =>
    refine mem_climb (n := n + 1) ?_
    rw [climb, ← Text.join_concat_end (by simp)]
    exact List.mem_append_left _ h

theorem pieces_climb (n : Nat) (t : Text) :
    pieces ⟨climb n ++ t⟩ = List.replicate n ['.', '.'] ++ pieces ⟨t⟩ := by
  refine Text.splitBy_flatMap_append (fun piece hm => ?_) t
  rw [List.eq_of_mem_replicate hm]
  decide

theorem filterMap_climb (n : Nat) (t : Text) : (pieces ⟨climb n ++ t⟩).filterMap partOf? =
    List.replicate n .up ++ (pieces ⟨t⟩).filterMap partOf? := by
  rw [pieces_climb, List.filterMap_append,
    List.filterMap_replicate_of_some (show partOf? ['.', '.'] = some .up from rfl)]

section

variable {common target base : List Part} {t : Text}

theorem length_climb_le (hcommon : Normal common) (hbase : ∀ part ∈ base, part.Proper)
    (h : .up ∉ base ∨ common.head? = some .root) :
    ((List.replicate base.length .up).foldl fold (base.foldl fold common)).length ≤
      common.length := by
  rcases h with hup | hroot
  · rw [(climb_back_iff hcommon hbase).mpr (.inl hup)]
  · obtain ⟨rest, rfl⟩ := List.head?_eq_some_iff.mp hroot
    obtain ⟨names, rfl⟩ := hcommon.names_of_root
    have hcount := height_foldl_fold (root_not_mem hbase) (.root :: names.map .name)
    have hnormal := hcommon.foldl_fold fun _ => hbase _
    rcases foldl_fold_ups hnormal base.length with hend | hend
    · rw [hend]
      simp
    · obtain ⟨names', hnames⟩ := foldl_fold_root names (base ++ List.replicate base.length .up)
      rw [List.foldl_append] at hnames
      rw [hnames, height_rooted] at hend
      rw [height_rooted] at hcount
      rw [hnames, List.length_cons, List.length_cons, List.length_map, List.length_map]
      omega

/-- No text but the one that is written leads to a target by the same climb. -/
theorem eq_join_of_climb (hcommon : Normal common) (hbase : ∀ part ∈ base, part.Proper)
    (hclimb : .up ∉ base ∨ common.head? = some .root) (hne : target ≠ [])
    (hroot : ∀ rest, common ++ target = .root :: rest → common.head? = some .root)
    (hlength : t.length ≤ (Text.join ['/'] (target.map Part.text)).length)
    (h : normalParts (common ++ base ++ parts ⟨climb base.length ++ t⟩) = common ++ target) :
    t = Text.join ['/'] (target.map Part.text) := by
  rw [normalParts_append, normalParts_append, hcommon.normalParts_eq] at h
  cases habs : isAbsolute ⟨climb base.length ++ t⟩ with
  | true =>
    have hbare : climb base.length ++ t = t := by
      cases hlength : base.length with
      | zero => rfl
      | succ n =>
        rw [hlength] at habs
        cases habs
    rw [hbare] at h habs
    rw [foldl_fold_of_isAbsolute habs, parts_eq, habs, lead, if_pos rfl, normalParts_append] at h
    obtain ⟨names, hnames⟩ := foldl_fold_root [] ((pieces ⟨t⟩).filterMap partOf?)
    have hhead := hroot _ (h.symm.trans hnames)
    refine eq_join_of_leads hne hlength ?_ h
    obtain ⟨rest, rfl⟩ := List.head?_eq_some_iff.mp hhead
    exact Nat.succ_le_succ (Nat.zero_le _)
  | false =>
    rw [foldl_fold_relative habs, filterMap_climb, List.foldl_append] at h
    exact eq_join_of_leads hne hlength (length_climb_le hcommon hbase hclimb) h

variable {path directory : Path} {read : Text → Text}

theorem wayTo_of_parted (hpath : path.parts = common ++ target)
    (hdirectory : directory.parts = common ++ base) (h : Parted target base)
    (hbase : ∀ part ∈ base, part.Proper) (htarget : ∀ part ∈ target, part.Proper)
    (hsame : path.isAbsolute = directory.isAbsolute)
    (hturn : ¬ (target ≠ [] ∧ base.head? = some .up)) : wayTo path directory =
      Text.join ['/'] (List.replicate base.length ['.', '.'] ++ target.map Part.text) := by
  have hparts : ∀ part ∈ List.replicate base.length Part.up ++ target, part.Proper :=
    List.forall_mem_append.mpr ⟨proper_ups _, htarget⟩
  rw [wayTo, relativeTo?_of_parted hpath hdirectory h hbase hsame, if_neg hturn,
    Option.getD_some, slash_ofParts hparts, List.map_append, List.map_replicate]
  rfl

section

variable (hread : Reading read)

include hread

theorem read_slash_of_leads (hpath : path.isAbsolute = true) {parts : List Part}
    (h : normalParts (parts ++ Path.parts ⟨read path.slash⟩) = path.parts) :
    read path.slash = path.slash := by
  obtain ⟨rest, hrest, -⟩ := parts_of_isAbsolute hpath
  by_cases hne : rest = []
  · refine hread.eq_self fun c hc => ?_
    rw [slash, hrest, hne] at hc
    exact .inr (by simpa [Text.join, Part.text] using hc)
  · have hslash : path.slash = ['/', '/'] ++ Text.join ['/'] (rest.map Part.text) := by
      rw [slash, hrest]
      exact Text.join_append (by simpa using hne) [Part.root.text]
    have hplain := hread.plain ['/', '/'] (Text.join ['/'] (rest.map Part.text)) (by simp)
    rw [hslash, hplain] at h ⊢
    have hparts (t : Text) : Path.parts ⟨['/', '/'] ++ t⟩ =
        .root :: (pieces ⟨t⟩).filterMap partOf? := rfl
    rw [normalParts_append, hparts, List.foldl_cons, hrest, ← List.singleton_append] at h
    rw [eq_join_of_leads hne (hread.length_le _) (Nat.le_refl _) h]

theorem read_wayTo_of_climb (hpath : path.parts = common ++ target)
    (hdirectory : directory.parts = common ++ base) (h : Parted target base)
    (hnormal : Normal path.parts) (hbase : ∀ part ∈ base, part.Proper)
    (htarget : ∀ part ∈ target, part.Proper) (hsame : path.isAbsolute = directory.isAbsolute)
    (hturn : ¬ (target ≠ [] ∧ base.head? = some .up))
    (hclimb : target ≠ [] → .up ∉ base ∨ common.head? = some .root)
    (hroot : path.isAbsolute = true → common.head? = some .root)
    (hleads : normalParts (directory.parts ++ Path.parts ⟨read (wayTo path directory)⟩) =
      path.parts) : read (wayTo path directory) = wayTo path directory := by
  have hway := wayTo_of_parted hpath hdirectory h hbase htarget hsame hturn
  by_cases hne : target = []
  · -- There are only double points, which are read as they are.
    refine hread.eq_self fun c hc => ?_
    rw [hway, hne, List.map_nil, List.append_nil] at hc
    exact mem_join_ups hc
  · rw [Text.join_append (by simpa using hne), ← climb] at hway
    rw [hway, hread.plain _ _ fun c => mem_climb, hdirectory, hpath] at hleads
    rw [hpath] at hnormal
    rw [hway, hread.plain _ _ fun c => mem_climb]
    rw [eq_join_of_climb hnormal.of_append hbase (hclimb hne) hne (fun rest hrest => hroot ?_)
      (hread.length_le _) hleads]
    rw [isAbsolute_eq, hpath, hrest]
    rfl

theorem read_wayTo_of_isAbsolute (hpath : path.parts = common ++ target)
    (hdirectory : directory.parts = common ++ base) (h : Parted target base)
    (hnormal : Normal path.parts) (hp : path.isAbsolute = true)
    (hleads : normalParts (directory.parts ++ Path.parts ⟨read (wayTo path directory)⟩) =
      path.parts) : read (wayTo path directory) = wayTo path directory := by
  have hslash (hnone : path.relativeTo? directory = none) :
      read (wayTo path directory) = wayTo path directory := by
    rw [wayTo, hnone] at hleads ⊢
    exact read_slash_of_leads hread hp hleads
  cases hd : directory.isAbsolute with
  | false => exact hslash (by rw [relativeTo?, hp, hd]; rfl)
  | true =>
    have hroot := head?_common hpath hdirectory h hp hd
    have hbase := proper_behind_root hd hdirectory hroot
    by_cases hturn : target ≠ [] ∧ base.head? = some .up
    · refine hslash ?_
      rw [relativeTo?_of_parted hpath hdirectory h hbase (hp.trans hd.symm), if_pos hturn]
    · exact read_wayTo_of_climb hread hpath hdirectory h hnormal hbase
        (proper_behind_root hp hpath hroot) (hp.trans hd.symm) hturn (fun _ => .inr hroot)
        (fun _ => hroot) hleads

theorem read_wayTo_of_relative (hpath : path.parts = common ++ target)
    (hdirectory : directory.parts = common ++ base) (h : Parted target base)
    (hnormal : Normal path.parts) (hnormal' : Normal directory.parts)
    (hp : path.isAbsolute = false) (hd : directory.isAbsolute = false)
    (hleads : normalParts (directory.parts ++ Path.parts ⟨read (wayTo path directory)⟩) =
      path.parts) : read (wayTo path directory) = wayTo path directory := by
  have hproper := hnormal.proper_of_relative hp
  have hproper' := hnormal'.proper_of_relative hd
  have hroot := root_not_mem hproper'
  have hfolded := hnormal'.normalParts_eq
  rw [hpath] at hproper
  rw [hdirectory] at hproper' hnormal' hroot
  by_cases hturn : target ≠ [] ∧ base.head? = some .up
  · obtain ⟨hne, hhead⟩ := hturn
    obtain ⟨part, rest, rfl⟩ := List.exists_cons_of_ne_nil hne
    obtain ⟨more, rfl⟩ := List.head?_eq_some_iff.mp hhead
    have hpart : part ≠ .up := by
      rintro rfl
      exact h .up rfl rfl
    rw [normalParts_append, hfolded, hdirectory] at hleads
    cases habs : isAbsolute ⟨read (wayTo path directory)⟩ with
    | true =>
      rw [foldl_fold_of_isAbsolute habs] at hleads
      exact absurd (by rwa [List.append_nil]) (not_leads_of_apart habs hp [])
    | false =>
      rw [foldl_fold_relative habs, hpath] at hleads
      refine absurd hleads (foldl_fold_ne_of_turn hnormal' ?_ ?_ hpart)
      · exact fun hm => hroot (List.mem_append_left _ hm)
      · exact root_not_mem fun _ => proper_of_mem_pieces
  · refine read_wayTo_of_climb hread hpath hdirectory h hnormal
      (fun _ hm => hproper' _ (List.mem_append_right _ hm))
      (fun _ hm => hproper _ (List.mem_append_right _ hm)) (hp.trans hd.symm) hturn
      (fun hne => .inl fun hup => hturn ⟨hne, hnormal'.head?_of_up hroot hup⟩)
      (fun habs => ?_) hleads
    cases hp.symm.trans habs

end

/-- What is read of the way leads to the path just if the way does and is read as it is. -/
theorem read_wayTo_leads_iff (hread : Reading read) (hpath : Normal path.parts)
    (hdirectory : directory.isAbsolute = true ∨ Normal directory.parts) :
    (directory.join ⟨read (wayTo path directory)⟩).normalize = path.normalize ↔
      ¬ Misled directory path ∧ read (wayTo path directory) = wayTo path directory := by
  obtain ⟨common, target, base, htarget, hbase, hparted⟩ :=
    exists_common path.parts directory.parts
  have hself (h : (directory.join ⟨read (wayTo path directory)⟩).normalize = path.normalize) :
      read (wayTo path directory) = wayTo path directory := by
    rw [normalize_eq_iff, normalParts_join, hpath.normalParts_eq] at h
    cases hp : path.isAbsolute with
    | true => exact read_wayTo_of_isAbsolute hread htarget hbase hparted hpath hp h
    | false =>
      cases hd : directory.isAbsolute with
      | true => exact absurd h (not_leads_of_apart hd hp _)
      | false =>
        have hnormal := hdirectory.resolve_left (by simp [hd])
        exact read_wayTo_of_relative hread htarget hbase hparted hpath hnormal hp hd h
  rw [← wayTo_leads_iff hpath hdirectory]
  constructor
  · intro hleads
    have hsame := hself hleads
    exact ⟨hsame ▸ hleads, hsame⟩
  · rintro ⟨hleads, hsame⟩
    rwa [hsame]

end

end Swatchbook.Path
