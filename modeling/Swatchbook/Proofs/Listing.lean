import Swatchbook.Proofs.Forest

/-!
# Catalogs of directories

A directory is what a walk sees of it and the listing of what is in it. Where
a walk goes through a directory, each folder right before what is in it, and
everything names the path that its folder is recorded under, the catalog is an
image of the directory: the children of an entry are what its listing has, in
that order, and on the way down from the root all entries come in the order of
the walk.
-/

namespace Swatchbook

/-- What is in a directory: nothing, or an item with what is in the item, and then more. -/
inductive Listing
  | nil
  | item (seen : Sighting) (inside behind : Listing)

namespace Listing

/-- What a walk comes by, each item before what is in it. -/
def walk : Listing → List Sighting
  | nil => []
  | item s inside behind => s :: (inside.walk ++ behind.walk)

def items : Listing → List Sighting
  | nil => []
  | item s _ behind => s :: behind.items

def folders : Listing → List (Sighting × List Sighting)
  | nil => []
  | item s inside behind => (s, inside.items) :: (inside.folders ++ behind.folders)

/-- The listing of the folder that is recorded under a path: the items name this path as
that of their folder, and their names are names of files. -/
def In (folder : Path) : Listing → Prop
  | nil => True
  | item s inside behind =>
    folder.same s.parentPath = true ∧ (Part.name s.name).Proper ∧ inside.In s.path ∧
      behind.In folder

instance decidableIn (folder : Path) : (l : Listing) → Decidable (l.In folder)
  | nil => inferInstanceAs (Decidable True)
  | item s inside behind =>
    have := decidableIn s.path inside
    have := decidableIn folder behind
    inferInstanceAs (Decidable (folder.same s.parentPath = true ∧ (Part.name s.name).Proper ∧
      inside.In s.path ∧ behind.In folder))

/-- The numbers of the items, if those of all that a walk comes by begin with `n`. -/
def numbers (n : Nat) : Listing → List Nat
  | nil => []
  | item _ inside behind => n :: behind.numbers (n + 1 + inside.walk.length)

/-- The entries of all that a walk comes by, where the first has the number `n` and the items
have the parent `parent`. -/
def entries (n : Nat) (parent : Option Nat) : Listing → List Entry
  | nil => []
  | item s inside behind =>
    ⟨n, s.path, s.name, s.kind, parent, inside.numbers (n + 1), s.depth⟩ ::
      (inside.entries (n + 1) (some n) ++ behind.entries (n + 1 + inside.walk.length) parent)

theorem length_entries (l : Listing) (n : Nat) (parent : Option Nat) :
    (l.entries n parent).length = l.walk.length := by
  induction l generalizing n parent with
  | nil => rfl
  | item s inside behind ih ih' => simp [entries, walk, ih, ih']

-- ---------------------------------------------------------------------------
-- Paths of what is in a directory
-- ---------------------------------------------------------------------------

section

variable {l : Listing} {folder : Path} {s : Sighting}

theorem parts_path (hproper : (Part.name s.name).Proper) (h : folder.same s.parentPath = true) :
    s.path.parts = folder.parts ++ [.name s.name] := by
  rw [Path.same_iff.mp h]
  exact Path.parts_join_name s.parentPath hproper

theorem In.longer (h : l.In folder) (hs : s ∈ l.walk) :
    folder.parts.length < s.path.parts.length := by
  induction l generalizing folder with
  | nil => cases hs
  | item t inside behind ih ih' =>
    obtain ⟨hparent, hproper, hinside, hbehind⟩ := h
    have hpath := congrArg List.length (parts_path hproper hparent)
    rw [List.length_append, List.length_singleton] at hpath
    rcases List.mem_cons.mp hs with rfl | hs
    · omega
    · rcases List.mem_append.mp hs with hs | hs
      · have hlonger := ih hinside hs
        omega
      · exact ih' hbehind hs

theorem In.apart (h : l.In folder) (hs : s ∈ l.walk) : s.path.same folder = false := by
  rw [← Bool.not_eq_true, Path.same_iff]
  intro hparts
  exact Nat.lt_irrefl _ (hparts ▸ h.longer hs)

end

-- ---------------------------------------------------------------------------
-- The entries of a walk
-- ---------------------------------------------------------------------------

def adopt (children : List Nat) (e : Entry) : Entry :=
  { e with children := e.children ++ children }

theorem adopt_nil (e : Entry) : adopt [] e = e := by rw [adopt, List.append_nil]

theorem adopt_adopt (more children : List Nat) (e : Entry) :
    adopt more (adopt children e) = adopt (children ++ more) e := by
  rw [adopt, adopt, adopt, List.append_assoc]

theorem modify_middle (front back : List Entry) (e : Entry) (f : Entry → Entry) :
    (front ++ e :: back).modify front.length f = front ++ f e :: back := by
  induction front with
  | nil => rfl
  | cons x front ih =>
    rw [List.cons_append, List.length_cons, List.modify_succ_cons, ih]
    rfl

section

variable {l : Listing} {folder : Path} {front back : List Entry} {e : Entry} {k n : Nat}

theorem insert_middle {s : Sighting} (hk : front.length = k) (hn : k + 1 + back.length = n)
    (hid : Catalog.id? ⟨front ++ e :: back⟩ s.parentPath = some k) :
    Catalog.insert ⟨front ++ e :: back⟩ s = ⟨front ++ adopt [n] e :: (back ++
      [⟨n, s.path, s.name, s.kind, some k, [], s.depth⟩])⟩ := by
  have hlen : (front ++ e :: back).length = n := by
    rw [List.length_append, List.length_cons]
    omega
  rw [Catalog.id?] at hid
  rw [Catalog.insert, hid]
  dsimp only
  rw [hlen, ← hk, modify_middle, List.append_assoc]
  rfl

/-- A walk through a listing gives the folder its items as children, and puts the entries of
the listing behind all others. -/
theorem foldl_insert_walk (hin : l.In folder) (hk : front.length = k)
    (hn : k + 1 + back.length = n)
    (hid : Catalog.id? ⟨front ++ e :: back⟩ folder = some k) :
    l.walk.foldl Catalog.insert ⟨front ++ e :: back⟩ =
      ⟨front ++ adopt (l.numbers n) e :: (back ++ l.entries n (some k))⟩ := by
  induction l generalizing folder front back e k n with
  | nil =>
    rw [numbers, adopt_nil, entries, List.append_nil]
    rfl
  | item s inside behind ih ih' =>
    obtain ⟨hparent, hproper, hinside, hbehind⟩ := hin
    -- First comes the item itself. From now on its path leads to it.
    have hfirst := insert_middle hk hn (Catalog.id?_congr _ hparent ▸ hid)
    have hself : Catalog.id? (Catalog.insert ⟨front ++ e :: back⟩ s) s.path = some n := by
      rw [Catalog.id?_insert, if_pos (Path.same_iff.mpr rfl), List.length_append, List.length_cons]
      congr 1
      omega
    have hlen : (front ++ adopt [n] e :: back).length = n := by
      rw [List.length_append, List.length_cons]
      omega
    -- Then comes what is in it: here the item is the folder, and nothing is behind it yet.
    have hinner : inside.walk.foldl Catalog.insert (Catalog.insert ⟨front ++ e :: back⟩ s) =
        ⟨front ++ adopt [n] e :: (back ++ (item s inside nil).entries n (some k))⟩ := by
      rw [hfirst] at hself ⊢
      rw [← List.cons_append, ← List.append_assoc] at hself ⊢
      rw [ih hinside hlen (Nat.add_zero _) hself]
      simp [entries, adopt]
    -- None of this is recorded under the path of the folder.
    have hsame : Catalog.id? (inside.walk.foldl Catalog.insert
        (Catalog.insert ⟨front ++ e :: back⟩ s)) folder = some k := by
      rw [← List.foldl_cons, Catalog.id?_foldl, hid]
      have hitem : (item s inside nil).In folder := ⟨hparent, hproper, hinside, trivial⟩
      exact fun t ht => hitem.apart (by rwa [walk, walk, List.append_nil])
    have hcount : k + 1 + (back ++ (item s inside nil).entries n (some k)).length =
        n + 1 + inside.walk.length := by
      rw [List.length_append, length_entries, walk, walk, List.append_nil, List.length_cons]
      omega
    rw [walk, List.foldl_cons, List.foldl_append, hinner, ih' hbehind hk hcount (hinner ▸ hsame),
      adopt_adopt]
    simp [entries, numbers]

theorem entries_ofSightings {root : Sighting} (hin : l.In root.path) :
    (Catalog.ofSightings (root :: l.walk)).entries = (item root l nil).entries 0 none := by
  have hroot : Catalog.insert .empty root =
      ⟨[⟨0, root.path, root.name, root.kind, none, [], root.depth⟩]⟩ := rfl
  have hself : Catalog.id? (Catalog.insert .empty root) root.path = some 0 := by
    rw [Catalog.id?_insert, if_pos (Path.same_iff.mpr rfl)]
    rfl
  rw [hroot] at hself
  have hwalk := @foldl_insert_walk l root.path [] [] _ 0 1 hin rfl rfl hself
  rw [Catalog.ofSightings, List.foldl_cons, hroot]
  refine (congrArg Catalog.entries hwalk).trans ?_
  simp [entries, adopt]

end

-- ---------------------------------------------------------------------------
-- What is reached and what is listed
-- ---------------------------------------------------------------------------

/-- Entries that are in a catalog from a number on. -/
def StandsAt (c : Catalog) (n : Nat) (entries : List Entry) : Prop :=
  ∀ k e, entries[k]? = some e → c.entry? (n + k) = some e

section

variable {c : Catalog} {l : Listing} {n fuel : Nat} {e : Entry} {front back : List Entry}
  {parent : Option Nat}

theorem StandsAt.head (h : StandsAt c n (e :: back)) : c.entry? n = some e := h 0 e rfl

theorem StandsAt.tail (h : StandsAt c n (e :: back)) : StandsAt c (n + 1) back := by
  intro k x hx
  rw [Nat.add_right_comm]
  exact h (k + 1) x hx

theorem StandsAt.of_append_left (h : StandsAt c n (front ++ back)) : StandsAt c n front := by
  intro k x hx
  refine h k x ?_
  rwa [List.getElem?_append_left (List.getElem?_eq_some_iff.mp hx).1]

theorem StandsAt.of_append_right (h : StandsAt c n (front ++ back)) :
    StandsAt c (n + front.length) back := by
  intro k x hx
  rw [Nat.add_assoc]
  refine h (front.length + k) x ?_
  rwa [List.getElem?_append_right (Nat.le_add_right _ _), Nat.add_sub_cancel_left]

/-- Going down from the items leads to all entries of a listing, in the order of the walk. -/
theorem flatMap_reach_numbers (h : StandsAt c n (l.entries n parent))
    (hfuel : l.walk.length ≤ fuel) :
    (l.numbers n).flatMap (c.reach fuel) = l.entries n parent := by
  induction l generalizing n parent fuel with
  | nil => rfl
  | item s inside behind ih ih' =>
    rw [walk, List.length_cons, List.length_append] at hfuel
    obtain ⟨fuel, rfl⟩ : ∃ m, fuel = m + 1 := ⟨fuel - 1, by omega⟩
    have hinside : (inside.numbers (n + 1)).flatMap (c.reach fuel) =
        inside.entries (n + 1) (some n) := ih h.tail.of_append_left (by omega)
    have hbehind := h.tail.of_append_right
    rw [length_entries] at hbehind
    rw [numbers, List.flatMap_cons, ih' hbehind (by omega), Catalog.reach, h.head]
    dsimp only
    rw [hinside]
    rfl

section

variable {root : Sighting} (hin : l.In root.path)

include hin

theorem standsAt_ofSightings :
    StandsAt (Catalog.ofSightings (root :: l.walk)) 0 ((item root l nil).entries 0 none) := by
  intro k e he
  rwa [Nat.zero_add, Catalog.entry?, entries_ofSightings hin]

theorem reachable_ofSightings : Catalog.reachable (Catalog.ofSightings (root :: l.walk)) =
    (Catalog.ofSightings (root :: l.walk)).entries := by
  have hreach := flatMap_reach_numbers (standsAt_ofSightings hin)
    (Nat.le_succ (item root l nil).walk.length)
  rw [numbers, numbers, List.flatMap_singleton] at hreach
  rw [Catalog.reachable, Catalog.length_ofSightings, entries_ofSightings hin, ← hreach, walk, walk,
    List.append_nil]

end

end

end Listing

-- ---------------------------------------------------------------------------
-- Walks of a file system
-- ---------------------------------------------------------------------------

namespace Walk

variable {v : Volume} {root : Path} {found : List Sighting}

/-- What is below a folder is a listing of it. -/
theorem exists_listing (hv : v.WellFormed) (fuel depth : Nat) (place : Location) (path : Path)
    {folder : Path} (hsame : folder.same path = true) :
    ∃ l : Listing, l.walk = below v fuel depth place path ∧ l.In folder := by
  induction fuel generalizing depth place path folder with
  | zero => exact ⟨.nil, rfl, trivial⟩
  | succ fuel ih =>
    have hnames {names : List Text} (hproper : ∀ name ∈ names, (Part.name name).Proper) :
        ∃ l : Listing, l.walk = names.flatMap (belowName v fuel depth place path) ∧
          l.In folder := by
      induction names with
      | nil => exact ⟨.nil, rfl, trivial⟩
      | cons name names ih' =>
        rw [List.forall_mem_cons] at hproper
        obtain ⟨behind, hwalk, hbehind⟩ := ih' hproper.2
        rw [List.flatMap_cons, ← hwalk, belowName]
        split
        · exact ⟨behind, rfl, hbehind⟩
        · exact ⟨.item ⟨path, name, .file, depth⟩ .nil behind, rfl, hsame, hproper.1, trivial,
            hbehind⟩
        · have hself : (path.join ⟨name⟩).same (path.join ⟨name⟩) = true := Path.same_iff.mpr rfl
          obtain ⟨inside, hbelow, hinside⟩ :=
            ih (depth + 1) (place ++ [name]) (path.join ⟨name⟩) hself
          rw [← hbelow]
          exact ⟨.item ⟨path, name, .folder, depth⟩ inside behind, rfl, hsame, hproper.1, hinside,
            hbehind⟩
    exact hnames fun name hname => hv.proper_of_mem_namesAt hname

theorem exists_directory (hv : v.WellFormed) (h : sightings v root = .ok found)
    (htraced : Traced root) :
    ∃ (first : Sighting) (l : Listing), found = first :: l.walk ∧ l.In first.path := by
  obtain ⟨-, ⟨-, rfl⟩ | ⟨-, rfl⟩⟩ := sightings_eq_ok h
  · exact ⟨_, .nil, rfl, trivial⟩
  · obtain ⟨l, hwalk, hin⟩ := exists_listing hv (v.items.length + 1) 1 (v.place root) root
      (Path.same_iff.mpr (rootSighting_of_traced htraced))
    exact ⟨_, l, by rw [hwalk], hin⟩

end Walk

namespace Catalog

/-- A walk of a file system reaches all entries of its catalog just if the root is recorded
under its own path, or nothing is below the root. -/
theorem reachable_eq_entries_iff {v : Volume} {root : Path} {c : Catalog} (hv : v.WellFormed)
    (h : build v root = .ok c) :
    c.reachable = c.entries ↔ Walk.Traced root ∨ c.entries.length = 1 := by
  obtain ⟨found, hfound, rfl⟩ := Except.map_eq_ok.mp h
  obtain ⟨kind, rest, hrest, -⟩ := Walk.exists_rest hfound
  rw [length_ofSightings]
  constructor
  · intro hall
    by_contra! hnot
    rw [hrest, List.length_cons] at hnot
    have hsecond : 1 < found.length := by
      rw [hrest, List.length_cons]
      omega
    obtain ⟨e, he, -⟩ := exists_entry (List.getElem?_eq_getElem hsecond)
    have hmem : e ∈ (ofSightings found).reachable := hall ▸ List.mem_of_getElem? he
    rw [reachable, ← map_last_chainsFrom] at hmem
    obtain ⟨⟨above, last⟩, hchain, rfl⟩ := List.mem_map.mp hmem
    -- The second entry is not the root, so the chain to it goes on from the root.
    cases above with
    | nil =>
      have hsound := sound_ofSightings found
      cases chain_of_mem hchain with
      | here hroot => exact Nat.zero_ne_one ((hsound.id_eq hroot).symm.trans (hsound.id_eq he))
    | cons first between =>
      exact hnot.1 (Walk.parts_of_leaf hv hfound (chain_of_mem hchain)).1
  · rintro (htraced | hone)
    · obtain ⟨first, l, rfl, hin⟩ := Walk.exists_directory hv hfound htraced
      exact Listing.reachable_ofSightings hin
    · obtain rfl : rest = [] := by simpa [hrest] using hone
      rw [hrest]
      exact Listing.reachable_ofSightings (l := .nil) trivial

-- ---------------------------------------------------------------------------
-- Insertions
-- ---------------------------------------------------------------------------

end Catalog

end Swatchbook
