import Swatchbook.Catalog
import Mathlib.Data.List.Induction
import Mathlib.Data.List.Nodup
import Mathlib.Logic.Relation

/-!
# Chains of a catalog

A catalog that was recorded step by step is a forest: every child is numbered
after its folder and names it as its parent. So there is exactly one chain of
children from the root down to whatever is reached, and a walk along the
children lists comes by each entry once.
-/

namespace Swatchbook.Catalog

variable {c : Catalog} {s : Sighting} {i j : Nat} {e : Entry}

-- ---------------------------------------------------------------------------
-- One more entry
-- ---------------------------------------------------------------------------

def parentId? (c : Catalog) (s : Sighting) : Option Nat := (c.find? s.parentPath).map Entry.id

def recorded (c : Catalog) (s : Sighting) : Entry :=
  ⟨c.entries.length, s.path, s.name, s.kind, c.parentId? s, [], s.depth⟩

def grown (c : Catalog) (s : Sighting) (i : Nat) (e : Entry) : Entry :=
  if c.parentId? s = some i then addChild c.entries.length e else e

theorem insert_eq (c : Catalog) (s : Sighting) :
    ∃ old : List Entry, (c.insert s).entries = old ++ [c.recorded s] ∧
      old.length = c.entries.length ∧ ∀ i, old[i]? = (c.entry? i).map (c.grown s i) := by
  cases hp : c.parentId? s with
  | none =>
    refine ⟨c.entries, ?_, rfl, fun i => ?_⟩
    · unfold parentId? at hp
      simp [Catalog.insert, recorded, parentId?, hp]
    · have hsame : c.grown s i = id := by
        funext e
        simp [grown, hp]
      rw [hsame, Option.map_id_apply, entry?]
  | some p =>
    refine ⟨c.entries.modify p (addChild c.entries.length), ?_, by simp, fun i => ?_⟩
    · unfold parentId? at hp
      simp [Catalog.insert, recorded, parentId?, hp]
    · rw [List.getElem?_modify, entry?]
      congr 1
      funext e
      simp [grown, hp]

theorem entry?_insert (c : Catalog) (s : Sighting) (i : Nat) : Catalog.entry? (c.insert s) i =
    if i = c.entries.length then some (c.recorded s) else (c.entry? i).map (c.grown s i) := by
  obtain ⟨old, hentries, hlen, hold⟩ := c.insert_eq s
  have hentry : Catalog.entry? (c.insert s) i = (old ++ [c.recorded s])[i]? := by
    rw [← hentries]
    rfl
  rw [hentry]
  split
  · next hi => rw [hi, ← hlen, List.getElem?_concat_length]
  · next hi =>
    rw [← hold]
    rcases Nat.lt_or_gt_of_ne hi with hlt | hgt
    · exact List.getElem?_append_left (hlen ▸ hlt)
    · rw [List.getElem?_eq_none (by simp; omega), List.getElem?_eq_none (by omega)]

@[simp] theorem id_grown : (c.grown s i e).id = e.id := by
  unfold grown
  split <;> rfl

@[simp] theorem path_grown : (c.grown s i e).path = e.path := by
  unfold grown
  split <;> rfl

@[simp] theorem parent_grown : (c.grown s i e).parent = e.parent := by
  unfold grown
  split <;> rfl

theorem map_insert {α : Type} (c : Catalog) (s : Sighting) {f : Entry → α}
    (hf : ∀ i e, f (c.grown s i e) = f e) :
    (c.insert s).entries.map f = c.entries.map f ++ [f (c.recorded s)] := by
  obtain ⟨old, hentries, -, hold⟩ := c.insert_eq s
  have hsame : old.map f = c.entries.map f := by
    refine List.ext_getElem? fun i => ?_
    rw [List.getElem?_map, hold, List.getElem?_map, Option.map_map, entry?]
    congr 1
    funext e
    exact hf i e
  rw [hentries, List.map_append, hsame, List.map_singleton]

theorem mem_children_grown : j ∈ (c.grown s i e).children ↔
    j ∈ e.children ∨ c.parentId? s = some i ∧ j = c.entries.length := by
  unfold grown
  split
  · next h => simp [addChild, h]
  · next h => simp [h]

theorem lt_length (h : c.entry? i = some e) : i < c.entries.length :=
  (List.getElem?_eq_some_iff.mp h).1

-- ---------------------------------------------------------------------------
-- Every recorded catalog is sound
-- ---------------------------------------------------------------------------

structure Sound (c : Catalog) : Prop where
  id_eq : ∀ {i e}, c.entry? i = some e → e.id = i
  child : ∀ {i e j}, c.entry? i = some e → j ∈ e.children →
    i < j ∧ ∃ x, c.entry? j = some x ∧ x.parent = some i
  nodup : ∀ {i e}, c.entry? i = some e → e.children.Nodup

theorem sound_empty : empty.Sound where
  id_eq h := by simp [empty, entry?] at h
  child h := by simp [empty, entry?] at h
  nodup h := by simp [empty, entry?] at h

/-- The entries behind a step are the new one and those before it, grown. -/
theorem entry?_insert_cases (h : Catalog.entry? (c.insert s) i = some e) :
    i = c.entries.length ∧ e = c.recorded s ∨
      i < c.entries.length ∧ ∃ old, c.entry? i = some old ∧ e = c.grown s i old := by
  rw [entry?_insert] at h
  split at h
  · next hi => exact .inl ⟨hi, (Option.some.inj h).symm⟩
  · obtain ⟨old, hold, rfl⟩ := Option.map_eq_some_iff.mp h
    exact .inr ⟨lt_length hold, old, hold, rfl⟩

theorem entry?_insert_of_some (s : Sighting) (h : c.entry? i = some e) :
    Catalog.entry? (c.insert s) i = some (c.grown s i e) := by
  rw [entry?_insert, if_neg (Nat.ne_of_lt (lt_length h)), h, Option.map_some]

theorem Sound.insert (h : c.Sound) (s : Sighting) : (c.insert s).Sound where
  id_eq := by
    intro i e hi
    obtain ⟨rfl, rfl⟩ | ⟨-, old, hold, rfl⟩ := entry?_insert_cases hi
    · rfl
    · rw [id_grown, h.id_eq hold]
  child := by
    intro i e j hi hj
    obtain ⟨rfl, rfl⟩ | ⟨hlt, old, hold, rfl⟩ := entry?_insert_cases hi
    · simp [recorded] at hj
    · rcases mem_children_grown.mp hj with hj | ⟨hparent, rfl⟩
      · obtain ⟨hij, x, hx, hparent⟩ := h.child hold hj
        exact ⟨hij, c.grown s j x, entry?_insert_of_some s hx, by rw [parent_grown, hparent]⟩
      · exact ⟨hlt, c.recorded s, by rw [entry?_insert, if_pos rfl], hparent⟩
  nodup := by
    intro i e hi
    obtain ⟨rfl, rfl⟩ | ⟨-, old, hold, rfl⟩ := entry?_insert_cases hi
    · exact List.nodup_nil
    · unfold grown
      split
      · refine List.nodup_append.mpr ⟨h.nodup hold, List.nodup_singleton _, ?_⟩
        intro j hj k hk
        obtain ⟨-, x, hx, -⟩ := h.child hold hj
        rw [List.mem_singleton.mp hk]
        exact Nat.ne_of_lt (lt_length hx)
      · exact h.nodup hold

theorem ofSightings_induction {P : List Sighting → Catalog → Prop} (hempty : P [] empty)
    (hinsert : ∀ found s, P found (ofSightings found) →
      P (found ++ [s]) ((ofSightings found).insert s)) (found : List Sighting) :
    P found (ofSightings found) := by
  induction found using List.reverseRecOn with
  | nil => exact hempty
  | append_singleton found s ih =>
    have hconcat : ofSightings (found ++ [s]) = (ofSightings found).insert s := by
      rw [ofSightings, List.foldl_append]
      rfl
    rw [hconcat]
    exact hinsert found s ih

theorem sound_ofSightings (found : List Sighting) : (ofSightings found).Sound :=
  ofSightings_induction (P := fun _ c => c.Sound) sound_empty (fun _ s h => h.insert s) found

theorem Sound.entry?_of_find? (h : c.Sound) {p : Path} (hfind : c.find? p = some e) :
    c.entry? e.id = some e := by
  have hmem := List.mem_reverse.mp (List.mem_of_find?_eq_some hfind)
  obtain ⟨k, hk⟩ := List.mem_iff_getElem?.mp hmem
  have hentry : c.entry? k = some e := hk
  rwa [h.id_eq hentry]

-- ---------------------------------------------------------------------------
-- Chains
-- ---------------------------------------------------------------------------

/-- A chain along children lists from an entry down to `last`: `above` is what
is passed before it. -/
inductive Chain (c : Catalog) : Nat → List Entry → Entry → Prop
  | here {i : Nat} {e : Entry} (hi : c.entry? i = some e) : Chain c i [] e
  | child {i j : Nat} {e last : Entry} {above : List Entry} (hi : c.entry? i = some e)
      (hj : j ∈ e.children) (h : Chain c j above last) : Chain c i (e :: above) last

/-- The chains from an entry down, depth first. -/
def chainsFrom (c : Catalog) : Nat → Nat → List (List Entry × Entry)
  | 0, _ => []
  | fuel + 1, id =>
    match c.entry? id with
    | none => []
    | some e =>
      ([], e) :: (e.children.flatMap (c.chainsFrom fuel)).map fun (above, last) =>
        (e :: above, last)

def chains (c : Catalog) : List (List Entry × Entry) := c.chainsFrom (c.entries.length + 1) 0

theorem map_last_chainsFrom (fuel id : Nat) :
    (c.chainsFrom fuel id).map Prod.snd = c.reach fuel id := by
  induction fuel generalizing id with
  | zero => rfl
  | succ fuel ih =>
    unfold chainsFrom reach
    cases c.entry? id with
    | none => rfl
    | some e =>
      simp only [List.map_cons, List.map_map, Function.comp_def, List.map_flatMap, ih]

theorem chain_of_mem {fuel id : Nat} {above : List Entry} {last : Entry}
    (h : (above, last) ∈ c.chainsFrom fuel id) : c.Chain id above last := by
  induction fuel generalizing id above with
  | zero => simp [chainsFrom] at h
  | succ fuel ih =>
    unfold chainsFrom at h
    cases he : c.entry? id with
    | none => simp [he] at h
    | some e =>
      simp only [he, List.mem_cons, Prod.mk.injEq, List.mem_map, List.mem_flatMap, Prod.exists] at h
      rcases h with ⟨rfl, rfl⟩ | ⟨below, x, ⟨j, hj, hx⟩, rfl, rfl⟩
      · exact .here he
      · exact .child he hj (ih hx)

theorem Sound.mem_of_chain (h : c.Sound) {id : Nat} {above : List Entry} {last : Entry}
    (hchain : c.Chain id above last) {fuel : Nat} (hfuel : c.entries.length < fuel + id) :
    (above, last) ∈ c.chainsFrom fuel id := by
  induction hchain generalizing fuel with
  | @here i e hi =>
    have hlt := lt_length hi
    obtain ⟨fuel, rfl⟩ : ∃ n, fuel = n + 1 := ⟨fuel - 1, by omega⟩
    simp [chainsFrom, hi]
  | @child i j e last above hi hj _ ih =>
    have hlt := lt_length hi
    have hij := (h.child hi hj).1
    obtain ⟨fuel, rfl⟩ : ∃ n, fuel = n + 1 := ⟨fuel - 1, by omega⟩
    simp only [chainsFrom, hi, List.mem_cons, List.mem_map, List.mem_flatMap]
    exact .inr ⟨(above, last), ⟨j, hj, ih (by omega)⟩, rfl⟩

theorem Sound.mem_chains (h : c.Sound) {above : List Entry} {last : Entry} :
    (above, last) ∈ c.chains ↔ c.Chain 0 above last :=
  ⟨chain_of_mem, fun hchain => h.mem_of_chain hchain (by omega)⟩

-- ---------------------------------------------------------------------------
-- Every entry is the last of at most one chain
-- ---------------------------------------------------------------------------

def Step (c : Catalog) (i j : Nat) : Prop := ∃ e, c.entry? i = some e ∧ j ∈ e.children

theorem Sound.lt_of_step (h : c.Sound) (hstep : c.Step i j) : i < j := by
  obtain ⟨e, he, hj⟩ := hstep
  exact (h.child he hj).1

/-- Only one entry has a given child: the one that the child names. -/
theorem Sound.step_unique (h : c.Sound) : Relator.LeftUnique c.Step := by
  rintro i j k ⟨e, he, hj⟩ ⟨d, hd, hk⟩
  obtain ⟨-, x, hx, hparent⟩ := h.child he hj
  obtain ⟨-, y, hy, hparent'⟩ := h.child hd hk
  obtain rfl : x = y := Option.some.inj (hx.symm.trans hy)
  exact Option.some.inj (hparent.symm.trans hparent')

open Relation (ReflTransGen)

theorem Sound.le_of_steps (h : c.Sound) (hsteps : ReflTransGen c.Step i j) : i ≤ j := by
  induction hsteps with
  | refl => exact Nat.le_refl _
  | tail _ hstep ih => exact Nat.le_trans ih (Nat.le_of_lt (h.lt_of_step hstep))

theorem Sound.steps_of_chain (h : c.Sound) {id : Nat} {above : List Entry} {last : Entry}
    (hchain : c.Chain id above last) : ReflTransGen c.Step id last.id := by
  induction hchain with
  | here hi => rw [h.id_eq hi]
  | child hi hj _ ih => exact .head ⟨_, hi, hj⟩ ih

theorem Sound.not_steps_sibling (h : c.Sound) {k : Nat} (hj : c.Step i j) (hk : c.Step i k)
    (hne : j ≠ k) : ¬ ReflTransGen c.Step j k := by
  intro hsteps
  rcases hsteps.cases_tail with heq | ⟨m, hm, hstep⟩
  · exact hne heq.symm
  · obtain rfl : m = i := h.step_unique hstep hk
    have hle := h.le_of_steps hm
    have hlt := h.lt_of_step hj
    omega

theorem Sound.disjoint_siblings (h : c.Sound) {k x : Nat} (hj : c.Step i j) (hk : c.Step i k)
    (hne : j ≠ k) (hjx : ReflTransGen c.Step j x) : ¬ ReflTransGen c.Step k x := by
  intro hkx
  -- Upwards from `x` there is one way, so `j` and `k` both stand on it.
  have hup : Relator.RightUnique (Function.swap c.Step) := fun _ _ _ hab hac =>
    h.step_unique hab hac
  rcases ReflTransGen.total_of_right_unique hup hjx.swap hkx.swap with hjk | hkj
  · exact h.not_steps_sibling hk hj (Ne.symm hne) hjk.swap
  · exact h.not_steps_sibling hj hk hne hkj.swap

theorem Sound.nodup_chainsFrom (h : c.Sound) (fuel id : Nat) :
    ((c.chainsFrom fuel id).map fun chain => chain.2.id).Nodup := by
  induction fuel generalizing id with
  | zero => exact List.nodup_nil
  | succ fuel ih =>
    unfold chainsFrom
    cases he : c.entry? id with
    | none => exact List.nodup_nil
    | some e =>
      have hsteps {j x : Nat} (hx : x ∈ (c.chainsFrom fuel j).map fun chain => chain.2.id) :
          ReflTransGen c.Step j x := by
        obtain ⟨⟨above, last⟩, hm, rfl⟩ := List.mem_map.mp hx
        exact h.steps_of_chain (chain_of_mem hm)
      simp only [List.map_cons, List.map_map, Function.comp_def, List.map_flatMap]
      refine List.nodup_cons.mpr ⟨?_, List.nodup_flatMap.mpr ⟨fun j _ => ih j, ?_⟩⟩
      · intro hmem
        obtain ⟨j, hj, hx⟩ := List.mem_flatMap.mp hmem
        have hle := h.le_of_steps (hsteps hx)
        have hlt := h.lt_of_step ⟨e, he, hj⟩
        rw [h.id_eq he] at hle
        omega
      · refine (h.nodup he).imp_of_mem fun {j k} hj hk hne => ?_
        intro x hxj hxk
        exact h.disjoint_siblings ⟨e, he, hj⟩ ⟨e, he, hk⟩ hne (hsteps hxj) (hsteps hxk)

end Swatchbook.Catalog
