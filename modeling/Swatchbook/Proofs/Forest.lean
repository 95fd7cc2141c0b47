import Swatchbook.Proofs.Lineage
import Swatchbook.Proofs.Navigation
import Mathlib.Data.List.Flatten

/-!
# Catalogs as forests

Whatever is recorded, and in whatever order, a catalog is a forest: numbers
grow from an entry to its children, an entry is a child of its parent once and
of nothing else, and a path leads to what was recorded last under it. So the
recursion for the node of an entry comes to an end, and on its way it comes by
no entry twice.
-/

namespace Swatchbook

namespace Catalog

-- ---------------------------------------------------------------------------
-- What paths lead to
-- ---------------------------------------------------------------------------

def id? (c : Catalog) (p : Path) : Option Nat := (c.find? p).map Entry.id

theorem id?_eq (c : Catalog) (p : Path) : c.id? p =
    ((c.entries.map fun e => (e.path, e.id)).reverse.find? fun key => key.1.same p).map
      Prod.snd := by
  rw [← List.map_reverse, List.find?_map, Option.map_map]
  rfl

theorem id?_insert (c : Catalog) (s : Sighting) (p : Path) : Catalog.id? (c.insert s) p =
    if s.path.same p then some c.entries.length else c.id? p := by
  have hkeys := c.map_insert s (f := fun e => (e.path, e.id)) fun i e => by
    rw [path_grown, id_grown]
  rw [id?_eq, hkeys, List.reverse_concat, List.find?_cons, id?_eq]
  cases h : s.path.same p <;> simp [recorded, h]

theorem id?_foldl (c : Catalog) {found : List Sighting} {p : Path}
    (h : ∀ s ∈ found, s.path.same p = false) :
    Catalog.id? (found.foldl Catalog.insert c) p = c.id? p := by
  induction found generalizing c with
  | nil => rfl
  | cons s found ih =>
    rw [List.forall_mem_cons] at h
    rw [List.foldl_cons, ih _ h.2, id?_insert, h.1, if_neg Bool.false_ne_true]

theorem id?_congr (c : Catalog) {p q : Path} (h : p.same q = true) : c.id? p = c.id? q := by
  have hsame : (fun e : Entry => e.path.same p) = fun e => e.path.same q := by
    funext e
    rw [Path.same, Path.same, Path.same_iff.mp h]
  rw [id?, id?, find?, find?, hsame]

section

variable {c : Catalog} {s : Sighting} {found : List Sighting} {p : Path} {i : Nat} {e : Entry}

def Increasing (c : Catalog) : Prop := ∀ i e, c.entry? i = some e → e.children.Pairwise (· < ·)

theorem Increasing.insert (h : c.Increasing) (hsound : c.Sound) (s : Sighting) :
    (c.insert s).Increasing := by
  intro i e hi
  obtain ⟨rfl, rfl⟩ | ⟨-, old, hold, rfl⟩ := entry?_insert_cases hi
  · exact List.Pairwise.nil
  · unfold grown
    split
    · refine List.pairwise_append.mpr ⟨h i old hold, List.pairwise_singleton _ _, ?_⟩
      -- The new number is beyond all there were.
      intro j hj k hk
      obtain ⟨-, x, hx, -⟩ := hsound.child hold hj
      rw [List.mem_singleton.mp hk]
      exact lt_length hx
    · exact h i old hold

variable {j : Nat} {x : Entry}

-- A folder that comes too late is no parent, and of two with one path it is the later one.
example : let found : List Sighting := [⟨"s", "a.css", .file, 1⟩, ⟨"", "s", .folder, 0⟩,
      ⟨"", "s", .folder, 0⟩, ⟨"s", "b.css", .file, 1⟩]
    (ofSightings found).entries.map Entry.parent = [none, none, none, some 2] := by
  decide

end

end Catalog

-- ---------------------------------------------------------------------------
-- The recursion for a node
-- ---------------------------------------------------------------------------

namespace Navigation

open Catalog

variable {c : Catalog} {pages : List Page} {excluded : List Path} {fuel id : Nat} {e : Entry}

/-- The recursion for the node of an entry with the numbers that it is entered with, in order.
There is no result if it goes deeper than the fuel or comes to a number without an entry. -/
def trace? (c : Catalog) (pages : List Page) (excluded : List Path) :
    Nat → Nat → Option (List Nat × Option Node)
  | 0, _ => none
  | fuel + 1, id => do
    let entry ← c.entry? id
    if isJunk entry.name then return ([id], none)
    else
      match entry.kind with
      | .folder =>
        let listed := entry.children.filter fun child => !isSkipped c excluded child
        let below ← listed.mapM (trace? c pages excluded fuel)
        let nodes := below.filterMap Prod.snd
        return (id :: below.flatMap Prod.fst,
          if nodes.isEmpty then none else some (.directory entry.name nodes))
      | .file => return ([id], (pageOf? pages entry.path).map .file)
      | .other => return ([id], none)

/-- The recursion from an entry comes to an end with any fuel beyond the count of the entries
from it on. It is entered with the numbers of `visits`, which are some of those reached. -/
def Ends (c : Catalog) (pages : List Page) (excluded : List Path) (id : Nat)
    (visits : List Nat) (node : Option Node) : Prop :=
  ∀ fuel, c.entries.length < fuel + id →
    trace? c pages excluded fuel id = some (visits, node) ∧
      node? c pages excluded fuel id = node ∧
      visits.Sublist ((c.reach fuel id).map Entry.id)

section

variable (h : c.Sound) (he : c.entry? id = some e)

include h he

end

theorem Ends.nodup (h : c.Sound) {visits : List Nat} {node : Option Node}
    (hends : Ends c pages excluded id visits node) : visits.Nodup := by
  obtain ⟨-, -, hreached⟩ := hends (c.entries.length + 1) (by omega)
  rw [← c.map_last_chainsFrom, List.map_map] at hreached
  exact hreached.nodup (h.nodup_chainsFrom _ _)

end Navigation

end Swatchbook
