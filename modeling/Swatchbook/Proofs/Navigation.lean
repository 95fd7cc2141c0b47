import Swatchbook.Navigation
import Swatchbook.Proofs.Catalog

/-!
# What the navigation lists

The navigation of a catalog has a leaf for every file that has a page and is
reached through folders that are neither junk nor excluded, and for nothing
else. Leaves stand in the order of a walk along the children lists, each below
the directories of the folders that lead to it.
-/

namespace Swatchbook.Navigation

-- ---------------------------------------------------------------------------
-- Leaves and the directories above them
-- ---------------------------------------------------------------------------

namespace Node

mutual

def routes : Node → List (List Text × Page)
  | .directory name nodes => (routesAll nodes).map fun (names, page) => (name :: names, page)
  | .file page => [([], page)]

def routesAll : List Node → List (List Text × Page)
  | [] => []
  | node :: rest => node.routes ++ routesAll rest

end

mutual

def Full : Node → Prop
  | .directory _ nodes => nodes ≠ [] ∧ FullAll nodes
  | .file _ => True

def FullAll : List Node → Prop
  | [] => True
  | node :: rest => node.Full ∧ FullAll rest

end

mutual

theorem leaves_eq_routes (node : Node) : node.leaves = node.routes.map Prod.snd := by
  cases node with
  | directory name nodes =>
    rw [leaves, leavesAll_eq_routes nodes, routes, List.map_map]
    rfl
  | file page => rfl

theorem leavesAll_eq_routes (nodes : List Node) :
    leavesAll nodes = (routesAll nodes).map Prod.snd := by
  cases nodes with
  | nil => rfl
  | cons node rest =>
    rw [leavesAll, leaves_eq_routes node, leavesAll_eq_routes rest, routesAll, List.map_append]

end

theorem routesAll_eq_flatMap (nodes : List Node) : routesAll nodes = nodes.flatMap routes := by
  induction nodes with
  | nil => rfl
  | cons node rest ih => rw [routesAll, ih, List.flatMap_cons]

theorem fullAll_iff (nodes : List Node) : FullAll nodes ↔ ∀ node ∈ nodes, node.Full := by
  induction nodes with
  | nil => simp [FullAll]
  | cons node rest ih => rw [FullAll, ih, List.forall_mem_cons]

end Node

-- ---------------------------------------------------------------------------
-- Chains that are listed
-- ---------------------------------------------------------------------------

/-- The chain from the root over the entries between down to a leaf is listed:
folders lead to a file, none of them is junk, and but for the root none is
excluded. -/
structure Listed (excluded : List Path) (root : Entry) (between : List Entry) (leaf : Entry) :
    Prop where
  folders : ∀ e ∈ root :: between, e.kind = .folder
  file : leaf.kind = .file
  clean : ∀ e ∈ root :: between ++ [leaf], isJunk e.name = false
  kept : ∀ e ∈ between ++ [leaf], ∀ other ∈ excluded,
    other.normalize.same e.path.normalize = false

instance (excluded : List Path) (root : Entry) (between : List Entry) (leaf : Entry) :
    Decidable (Listed excluded root between leaf) :=
  decidable_of_iff
    ((∀ e ∈ root :: between, e.kind = .folder) ∧ leaf.kind = .file ∧
      (∀ e ∈ root :: between ++ [leaf], isJunk e.name = false) ∧
      ∀ e ∈ between ++ [leaf], ∀ other ∈ excluded,
        other.normalize.same e.path.normalize = false)
    ⟨fun ⟨folders, file, clean, kept⟩ => ⟨folders, file, clean, kept⟩,
      fun h => ⟨h.folders, h.file, h.clean, h.kept⟩⟩

/-- The leaf of a chain: its page, below the names of what is strictly between
the root and it. -/
def route? (pages : List Page) (excluded : List Path) :
    List Entry × Entry → Option (List Text × Page)
  | ([], _) => none
  | (root :: between, leaf) =>
    if Listed excluded root between leaf then
      (pageOf? pages leaf.path).map fun page => (between.map Entry.name, page)
    else none

/-- The same for a chain from any entry down, whose name counts too. Exclusion
is asked for at the step to an entry. -/
def way? (pages : List Page) (excluded : List Path) : List Entry → Entry → Option (List Text × Page)
  | [], leaf =>
    if isJunk leaf.name || leaf.kind != .file then none
    else (pageOf? pages leaf.path).map fun page => ([], page)
  | e :: above, leaf =>
    if isJunk e.name || e.kind != .folder || isExcluded excluded (above.head?.getD leaf).path then none
    else (way? pages excluded above leaf).map fun (names, page) => (e.name :: names, page)

variable {c : Catalog} {pages : List Page} {excluded : List Path}

theorem isExcluded_eq_false {path : Path} : isExcluded excluded path = false ↔
    ∀ other ∈ excluded, other.normalize.same path.normalize = false := by
  simp [isExcluded]

/-- What a step of a chain from `e` down has to be. -/
def Opens (excluded : List Path) (e next : Entry) : Prop :=
  isJunk e.name = false ∧ e.kind = .folder ∧ isExcluded excluded next.path = false

theorem listed_nil {root leaf : Entry} : Listed excluded root [] leaf ↔
    Opens excluded root leaf ∧ isJunk leaf.name = false ∧ leaf.kind = .file := by
  constructor
  · intro h
    exact ⟨⟨h.clean root (by simp), h.folders root (by simp),
      isExcluded_eq_false.mpr (h.kept leaf (by simp))⟩, h.clean leaf (by simp), h.file⟩
  · rintro ⟨⟨hroot, hfolder, hkept⟩, hleaf, hfile⟩
    exact ⟨by simpa using hfolder, hfile, by simp [hroot, hleaf],
      by simpa using isExcluded_eq_false.mp hkept⟩

theorem listed_cons {root next leaf : Entry} {between : List Entry} :
    Listed excluded root (next :: between) leaf ↔
      Opens excluded root next ∧ Listed excluded next between leaf := by
  constructor
  · intro h
    refine ⟨⟨h.clean root (by simp), h.folders root (by simp),
      isExcluded_eq_false.mpr (h.kept next (by simp))⟩, ?_⟩
    exact ⟨fun e he => h.folders e (List.mem_cons_of_mem _ he), h.file,
      fun e he => h.clean e (List.mem_cons_of_mem _ he),
      fun e he => h.kept e (List.mem_cons_of_mem _ he)⟩
  · rintro ⟨⟨hroot, hfolder, hkept⟩, h⟩
    exact ⟨List.forall_mem_cons.mpr ⟨hfolder, h.folders⟩, h.file,
      List.forall_mem_cons.mpr ⟨hroot, h.clean⟩,
      List.forall_mem_cons.mpr ⟨isExcluded_eq_false.mp hkept, h.kept⟩⟩

theorem way?_of_opens {e : Entry} (above : List Entry) (leaf : Entry)
    (h : Opens excluded e (above.head?.getD leaf)) : way? pages excluded (e :: above) leaf =
      (way? pages excluded above leaf).map fun (names, page) => (e.name :: names, page) := by
  simp [way?, h.1, h.2.1, h.2.2]

theorem way?_of_not_opens {e : Entry} (above : List Entry) (leaf : Entry)
    (h : ¬ Opens excluded e (above.head?.getD leaf)) :
    way? pages excluded (e :: above) leaf = none := by
  rw [way?, if_pos]
  by_contra hno
  exact h (by simpa [Opens, and_assoc] using hno)

theorem way?_nil (leaf : Entry) : way? pages excluded [] leaf =
    if isJunk leaf.name = false ∧ leaf.kind = .file then
      (pageOf? pages leaf.path).map fun page => ([], page)
    else none := by
  cases hj : isJunk leaf.name <;> cases hf : leaf.kind <;> simp [way?, hj, hf]

theorem way?_eq_route? (root : Entry) (between : List Entry) (leaf : Entry) :
    way? pages excluded (root :: between) leaf =
      (route? pages excluded (root :: between, leaf)).map fun (names, page) =>
        (root.name :: names, page) := by
  induction between generalizing root with
  | nil =>
    by_cases hopens : Opens excluded root leaf
    · rw [way?_of_opens [] leaf hopens, way?_nil, route?]
      simp only [listed_nil, hopens, true_and, List.map_nil]
    · rw [way?_of_not_opens [] leaf hopens, route?, if_neg fun h => hopens (listed_nil.mp h).1,
        Option.map_none]
  | cons next between ih =>
    by_cases hopens : Opens excluded root next
    · rw [way?_of_opens (next :: between) leaf hopens, ih, route?, route?]
      simp only [listed_cons, hopens, true_and, List.map_cons]
      split <;> simp [Option.map_map, Function.comp_def]
    · rw [way?_of_not_opens (next :: between) leaf hopens, route?,
        if_neg fun h => hopens (listed_cons.mp h).1, Option.map_none]

-- ---------------------------------------------------------------------------
-- The node of an entry has the ways from it down
-- ---------------------------------------------------------------------------

def isSkipped (c : Catalog) (excluded : List Path) (child : Nat) : Bool :=
  (c.entry? child).any fun x => isExcluded excluded x.path

def nodesOf (c : Catalog) (pages : List Page) (excluded : List Path) (fuel : Nat)
    (children : List Nat) : List Node :=
  (children.filter fun child => !isSkipped c excluded child).filterMap (node? c pages excluded fuel)

theorem node?_succ {fuel id : Nat} {e : Entry} (he : c.entry? id = some e) :
    node? c pages excluded (fuel + 1) id =
      if isJunk e.name then none
      else
        match e.kind with
        | .folder =>
          if (nodesOf c pages excluded fuel e.children).isEmpty then none
          else some (.directory e.name (nodesOf c pages excluded fuel e.children))
        | .file => (pageOf? pages e.path).map .file
        | .other => none := by
  rw [node?, he]
  rfl

def ways (c : Catalog) (pages : List Page) (excluded : List Path) (fuel id : Nat) :
    List (List Text × Page) :=
  (c.chainsFrom fuel id).filterMap fun (above, leaf) => way? pages excluded above leaf

def waysBelow (c : Catalog) (pages : List Page) (excluded : List Path) (fuel : Nat) (e : Entry)
    (child : Nat) : List (List Text × Page) :=
  (c.chainsFrom fuel child).filterMap fun (above, leaf) => way? pages excluded (e :: above) leaf

theorem ways_succ {fuel id : Nat} {e : Entry} (he : c.entry? id = some e) :
    ways c pages excluded (fuel + 1) id =
      (way? pages excluded [] e).toList ++
        e.children.flatMap (waysBelow c pages excluded fuel e) := by
  rw [ways, Catalog.chainsFrom, he]
  simp only [List.filterMap_cons, List.filterMap_map, Function.comp_def, List.filterMap_flatMap]
  cases way? pages excluded [] e <;> rfl

theorem head_of_mem {fuel id : Nat} {above : List Entry} {leaf : Entry}
    (h : (above, leaf) ∈ c.chainsFrom fuel id) : c.entry? id = some (above.head?.getD leaf) := by
  cases Catalog.chain_of_mem h with
  | here hi => exact hi
  | child hi _ _ => exact hi

theorem waysBelow_eq_nil {fuel child : Nat} {e : Entry}
    (h : ∀ x, c.entry? child = some x → ¬ Opens excluded e x) :
    waysBelow c pages excluded fuel e child = [] := by
  rw [waysBelow, List.filterMap_eq_nil_iff]
  rintro ⟨above, leaf⟩ hm
  exact way?_of_not_opens above leaf (h _ (head_of_mem hm))

theorem waysBelow_eq_map {fuel child : Nat} {e : Entry}
    (h : ∀ x, c.entry? child = some x → Opens excluded e x) :
    waysBelow c pages excluded fuel e child =
      (ways c pages excluded fuel child).map fun (names, page) => (e.name :: names, page) := by
  rw [waysBelow, ways, List.map_filterMap]
  refine List.filterMap_congr ?_
  rintro ⟨above, leaf⟩ hm
  exact way?_of_opens above leaf (h _ (head_of_mem hm))

theorem isSkipped_iff {child : Nat} : isSkipped c excluded child = true ↔
    ∃ x, c.entry? child = some x ∧ isExcluded excluded x.path = true := by
  simp [isSkipped, Option.any_eq_true]

theorem routes_nodesOf {fuel : Nat} {e : Entry} (hjunk : isJunk e.name = false)
    (hfolder : e.kind = .folder)
    (hnode : ∀ id, (node? c pages excluded fuel id).toList.flatMap Node.routes =
      ways c pages excluded fuel id) (children : List Nat) :
    ((nodesOf c pages excluded fuel children).flatMap Node.routes).map
        (fun (names, page) => (e.name :: names, page)) =
      children.flatMap (waysBelow c pages excluded fuel e) := by
  induction children with
  | nil => rfl
  | cons child rest ih =>
    rw [List.flatMap_cons, ← ih]
    cases hskip : isSkipped c excluded child with
    | true =>
      obtain ⟨x, hx, hexcluded⟩ := isSkipped_iff.mp hskip
      have hclosed : ∀ y, c.entry? child = some y → ¬ Opens excluded e y := by
        rintro y hy ⟨-, -, hkept⟩
        obtain rfl : x = y := Option.some.inj (hx.symm.trans hy)
        rw [hexcluded] at hkept
        contradiction
      rw [waysBelow_eq_nil hclosed, List.nil_append]
      simp [nodesOf, hskip]
    | false =>
      have hopens : ∀ y, c.entry? child = some y → Opens excluded e y := by
        intro y hy
        refine ⟨hjunk, hfolder, ?_⟩
        rw [← Bool.not_eq_true]
        intro hexcluded
        rw [isSkipped_iff.mpr ⟨y, hy, hexcluded⟩] at hskip
        contradiction
      have hnodes : nodesOf c pages excluded fuel (child :: rest) =
          (node? c pages excluded fuel child).toList ++ nodesOf c pages excluded fuel rest := by
        simp only [nodesOf, hskip, List.filter_cons, Bool.not_false, if_true, List.filterMap_cons]
        cases node? c pages excluded fuel child <;> rfl
      rw [waysBelow_eq_map hopens, ← hnode, hnodes, List.flatMap_append, List.map_append]

theorem flatMap_waysBelow_eq_nil {fuel : Nat} {e : Entry}
    (h : ∀ x, ¬ Opens excluded e x) (children : List Nat) :
    children.flatMap (waysBelow c pages excluded fuel e) = [] := by
  rw [List.flatMap_eq_nil_iff]
  exact fun child _ => waysBelow_eq_nil fun x _ => h x

theorem routes_node? (fuel id : Nat) :
    (node? c pages excluded fuel id).toList.flatMap Node.routes =
      ways c pages excluded fuel id := by
  induction fuel generalizing id with
  | zero => rfl
  | succ fuel ih =>
    cases he : c.entry? id with
    | none => simp [node?, ways, Catalog.chainsFrom, he]
    | some e =>
      rw [node?_succ he, ways_succ he, way?_nil]
      cases hjunk : isJunk e.name with
      | true =>
        rw [flatMap_waysBelow_eq_nil fun x hopens => by simp [hjunk, Opens] at hopens]
        rfl
      | false =>
        cases hkind : e.kind with
        | folder =>
          rw [← routes_nodesOf hjunk hkind ih]
          cases nodesOf c pages excluded fuel e.children with
          | nil => rfl
          | cons node rest => simp [Node.routes, Node.routesAll_eq_flatMap]
        | file =>
          rw [flatMap_waysBelow_eq_nil fun x hopens => by simp [hkind, Opens] at hopens]
          cases pageOf? pages e.path <;> rfl
        | other =>
          rw [flatMap_waysBelow_eq_nil fun x hopens => by simp [hkind, Opens] at hopens]
          rfl

/-- Directories are listed with what is left in them, or not at all. -/
theorem full_of_node? {fuel id : Nat} {node : Node}
    (h : node? c pages excluded fuel id = some node) : node.Full := by
  induction fuel generalizing id node with
  | zero => simp [node?] at h
  | succ fuel ih =>
    cases he : c.entry? id with
    | none => simp [node?, he] at h
    | some e =>
      rw [node?_succ he] at h
      split at h
      · simp at h
      · split at h
        · split at h
          · simp at h
          · next hne =>
            obtain rfl := Option.some.inj h
            rw [Node.Full, Node.fullAll_iff]
            refine ⟨by simpa using hne, fun child hm => ?_⟩
            obtain ⟨j, -, hj⟩ := List.mem_filterMap.mp hm
            exact ih hj
        · obtain ⟨page, -, rfl⟩ := Option.map_eq_some_iff.mp h
          trivial
        · cases h

-- ---------------------------------------------------------------------------
-- The navigation of a catalog
-- ---------------------------------------------------------------------------

theorem build_of_empty (h : c.entry? 0 = none) : build c pages excluded = [] := by
  simp [build, node?, h]

theorem build_of_not_folder {root : Entry} (hroot : c.entry? 0 = some root)
    (hkind : root.kind ≠ .folder) : build c pages excluded = [] := by
  rw [build, node?_succ hroot]
  cases isJunk root.name with
  | true => rfl
  | false =>
    cases hroot : root.kind with
    | folder => exact absurd hroot hkind
    | file => cases pageOf? pages root.path <;> rfl
    | other => rfl

/-- The names above a leaf leave out the root. -/
theorem routesAll_build_of_folder {root : Entry} (hroot : c.entry? 0 = some root)
    (hfolder : root.kind = .folder) : Node.routesAll (build c pages excluded) =
      (ways c pages excluded (c.entries.length + 1) 0).map fun (names, page) =>
        (names.tail, page) := by
  rw [← routes_node?, build, node?_succ hroot, hfolder]
  cases isJunk root.name with
  | true => rfl
  | false =>
    cases nodesOf c pages excluded c.entries.length root.children with
    | nil => rfl
    | cons node rest => simp [Node.routes, Function.comp_def]

theorem route?_eq_way? {root leaf : Entry} {above : List Entry} (hfolder : root.kind = .folder)
    (h : above.head?.getD leaf = root) : route? pages excluded (above, leaf) =
      (way? pages excluded above leaf).map fun (names, page) => (names.tail, page) := by
  cases above with
  | nil =>
    obtain rfl : leaf = root := h
    simp [route?, way?_nil, hfolder]
  | cons first between => simp [way?_eq_route?, Option.map_map, Function.comp_def]

theorem route?_of_not_folder {root leaf : Entry} {above : List Entry} (hkind : root.kind ≠ .folder)
    (h : above.head?.getD leaf = root) : route? pages excluded (above, leaf) = none := by
  cases above with
  | nil => rfl
  | cons first between =>
    obtain rfl : first = root := h
    rw [route?, if_neg]
    exact fun hlisted => hkind (hlisted.folders first List.mem_cons_self)

theorem routesAll_build :
    Node.routesAll (build c pages excluded) = c.chains.filterMap (route? pages excluded) := by
  cases hroot : c.entry? 0 with
  | none =>
    rw [build_of_empty hroot, Catalog.chains, Catalog.chainsFrom, hroot]
    rfl
  | some root =>
    have hhead {above : List Entry} {leaf : Entry} (hm : (above, leaf) ∈ c.chains) :
        above.head?.getD leaf = root :=
      Option.some.inj ((head_of_mem hm).symm.trans hroot)
    by_cases hfolder : root.kind = .folder
    · rw [routesAll_build_of_folder hroot hfolder, ways, List.map_filterMap]
      refine List.filterMap_congr ?_
      rintro ⟨above, leaf⟩ hm
      exact (route?_eq_way? hfolder (hhead hm)).symm
    · rw [build_of_not_folder hroot hfolder, Node.routesAll, eq_comm, List.filterMap_eq_nil_iff]
      rintro ⟨above, leaf⟩ hm
      exact route?_of_not_folder hfolder (hhead hm)

theorem full_build : Node.FullAll (build c pages excluded) := by
  unfold build
  split
  · next name nodes h => exact (full_of_node? h).2
  · trivial

/-- The leaves of the navigation are those of the listed chains, in the order
of a walk along the children lists: one for each entry that such a chain leads
to, below the names of what the chain passes. No directory is empty, and a root
that is no folder has no navigation. -/
theorem build_lists_chains (sightings : List Sighting) (pages : List Page) (excluded : List Path) :
    let c := Catalog.ofSightings sightings
    let nodes := build c pages excluded
    Node.routesAll nodes = c.chains.filterMap (route? pages excluded) ∧
      Node.leavesAll nodes = (c.chains.filterMap (route? pages excluded)).map Prod.snd ∧
      (∀ above leaf, (above, leaf) ∈ c.chains ↔ c.Chain 0 above leaf) ∧
      c.chains.map Prod.snd = c.reachable ∧ (c.chains.map fun chain => chain.2.id).Nodup ∧
      Node.FullAll nodes ∧
      ∀ root, c.entry? 0 = some root → root.kind ≠ .folder → nodes = [] := by
  intro c nodes
  have hsound : c.Sound := Catalog.sound_ofSightings sightings
  refine ⟨routesAll_build, ?_, fun _ _ => hsound.mem_chains, Catalog.map_last_chainsFrom _ _,
    hsound.nodup_chainsFrom _ _, full_build, fun _ => build_of_not_folder⟩
  rw [Node.leavesAll_eq_routes, routesAll_build]

/-- Of two folders one is left, since all that is in the other is excluded, and a pipe is not
listed, whatever page there is of its path. -/
theorem build_lists_chains_pruned :
    let page : Page := ⟨"X", "x", "s/d/x.css", "o/d/x.html", "d/x.html", [], false⟩
    let other : Page := ⟨"Y", "y", "s/e/y.css", "o/e/y.html", "e/y.html", [], false⟩
    let pipe : Page := ⟨"P", "p", "s/p.css", "o/p.html", "p.html", [], false⟩
    let sightings : List Sighting :=
      [⟨"", "s", .folder, 0⟩, ⟨"s", "d", .folder, 1⟩, ⟨"s/d", "x.css", .file, 2⟩,
        ⟨"s", "e", .folder, 1⟩, ⟨"s/e", "y.css", .file, 2⟩, ⟨"s", "p.css", .other, 1⟩]
    Node.routesAll (build (.ofSightings sightings) [page, other, pipe] ["s/./e/y.css"]) =
        [(["d".toList], page)] ∧
      build (.ofSightings [⟨"", "x.css", .file, 0⟩]) [page] [] = [] := by
  intro page other pipe sightings
  refine ⟨?_, ?_⟩
  · rw [(build_lists_chains sightings [page, other, pipe] ["s/./e/y.css"]).1]
    decide
  · obtain ⟨-, -, -, -, -, -, hroot⟩ := build_lists_chains [⟨"", "x.css", .file, 0⟩] [page] []
    exact hroot _ rfl nofun

end Swatchbook.Navigation
