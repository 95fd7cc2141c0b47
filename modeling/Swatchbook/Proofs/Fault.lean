import Swatchbook.Proofs.Program
import Swatchbook.Proofs.Text

/-!
# What a fault tells

A fault is known by its causes. Chaining puts the causes of one fault below
those of another, so a dry run tells how many sources have no comments and then
each of them, in their order. A fault is shown line by line, also where a
message or a value has lines of its own: four columns for each cause above.
-/

namespace Swatchbook

-- ---------------------------------------------------------------------------
-- Chains
-- ---------------------------------------------------------------------------

namespace Fault

theorem chain_assoc (a b c : Fault) : (a.chain b).chain c = a.chain (b.chain c) := by
  induction c with
  | root cause => rfl
  | upon cause below ih => rw [chain, chain, chain, ih]

theorem causes_ofCause (cause : Cause) : (ofCause cause).causes = [cause] := rfl

theorem causes_foldl_chain {α : Type} (cause : α → Cause) (xs : List α) (above : Fault) :
    (xs.foldl (fun fault x => (ofCause (cause x)).chain fault) above).causes =
      above.causes ++ xs.map cause := by
  induction xs generalizing above with
  | nil => simp
  | cons x xs ih =>
    rw [List.foldl_cons, ih, causes_chain, causes_ofCause, List.append_assoc, List.map_cons,
      List.singleton_append]

end Fault

namespace Program

def missing (count : Nat) : Cause :=
  .own (Text.ofNat count ++ " file(s) missing annotation comments") []

def missingIn (path : Path) : Cause := .own ("comment missing: " ++ path.spelling) []

theorem exists_of_checkDryRun {guide : Styleguide} (h : guide.excluded ≠ []) :
    ∃ fault, checkDryRun guide = .error fault ∧
      fault.causes = missing guide.excluded.length :: guide.excluded.map missingIn := by
  have hsome : ¬ guide.excluded.isEmpty = true := fun hempty => h (List.isEmpty_iff.mp hempty)
  refine ⟨_, by rw [checkDryRun, if_neg hsome], ?_⟩
  exact Fault.causes_foldl_chain missingIn guide.excluded (.ofCause (missing _))

/-- The causes of a chain are those above and then those below, however it was put together. A
dry run succeeds just if no source is left out, and otherwise tells how many are and then each
of them, in order. -/
theorem causes_of_chains (a b c : Fault) (guide : Styleguide) :
    (a.chain b).causes = b.causes ++ a.causes ∧
    (a.chain b).chain c = a.chain (b.chain c) ∧
    (checkDryRun guide = .ok () ↔ guide.excluded = []) ∧
    (guide.excluded ≠ [] → ∃ fault, checkDryRun guide = .error fault ∧
      fault.causes = missing guide.excluded.length :: guide.excluded.map missingIn) :=
  ⟨Fault.causes_chain a b, Fault.chain_assoc a b c, checkDryRun_eq_ok, exists_of_checkDryRun⟩

theorem causes_of_chains_two :
    let guide : Styleguide := ⟨[], ["s/b.css", "s/a.css"], []⟩
    guide.excluded ≠ [] ∧ ∃ fault, checkDryRun guide = .error fault ∧ fault.causes =
      [.own "2 file(s) missing annotation comments".toList [],
        .own "comment missing: s/b.css".toList [], .own "comment missing: s/a.css".toList []] := by
  intro guide
  have hne : guide.excluded ≠ [] := by decide
  obtain ⟨-, -, -, hreport⟩ := causes_of_chains (.foreign []) (.foreign []) (.foreign []) guide
  obtain ⟨fault, hfault, hcauses⟩ := hreport hne
  exact ⟨hne, fault, hfault, hcauses.trans (by decide)⟩

end Program

-- ---------------------------------------------------------------------------
-- Lines
-- ---------------------------------------------------------------------------

/-- A detail as it is shown: `key: value`, or the value alone. -/
def Detail.text (detail : Detail) : Text :=
  match detail.key with
  | some key => key ++ ": " ++ detail.value
  | none => detail.value

def Cause.lines (cause : Cause) : List Text :=
  Text.lines cause.message ++ cause.details.flatMap fun detail => Text.lines detail.text

def Cause.FlatKeys (cause : Cause) : Prop :=
  ∀ detail ∈ cause.details, ∀ key, detail.key = some key → '\n' ∉ key

namespace Fault

def indented (indent line : Text) : Text := indent ++ line ++ ['\n']

theorem reindent_append (indent a b : Text) :
    reindent indent (a ++ b) = reindent indent a ++ reindent indent b := List.flatMap_append

theorem reindent_of_not_mem {indent t : Text} (h : '\n' ∉ t) : reindent indent t = t := by
  have hkeep : ∀ c ∈ t, (if c == '\n' then '\n' :: indent else [c]) = [c] := by
    intro c hc
    rw [if_neg]
    intro hfeed
    exact h (beq_iff_eq.mp hfeed ▸ hc)
  rw [reindent, List.flatMap_congr hkeep, List.flatMap_singleton']

theorem reindent_feed {indent t first : Text} {rest : List Text}
    (h : Text.lines t = first :: rest) :
    reindent indent t ++ ['\n'] = first ++ '\n' :: rest.flatMap (indented indent) := by
  induction t generalizing first rest with
  | nil =>
    cases h
    rfl
  | cons c t ih =>
    obtain ⟨next, others, hlines⟩ := List.exists_cons_of_ne_nil (Text.splitBy_ne_nil (· == '\n') t)
    have ih := ih hlines
    rw [Text.lines, Text.splitBy, hlines] at h
    rw [reindent, List.flatMap_cons, List.append_assoc, ← reindent, ih]
    split at h
    · next hfeed =>
      cases h
      rw [if_pos hfeed, List.flatMap_cons, indented]
      simp
    · next hkeep =>
      cases h
      rw [if_neg hkeep]
      rfl

theorem indented_reindent (indent t : Text) :
    indented indent (reindent indent t) = (Text.lines t).flatMap (indented indent) := by
  obtain ⟨first, rest, hlines⟩ := List.exists_cons_of_ne_nil (Text.splitBy_ne_nil (· == '\n') t)
  have hlines : Text.lines t = first :: rest := hlines
  rw [indented, List.append_assoc, reindent_feed hlines, hlines, List.flatMap_cons, indented]
  simp

theorem showDetail_eq {indent : Text} {detail : Detail}
    (h : ∀ key, detail.key = some key → '\n' ∉ key) :
    showDetail indent detail = (Text.lines detail.text).flatMap (indented indent) := by
  rw [← indented_reindent, indented, showDetail, Detail.text]
  cases hkey : detail.key with
  | none => rfl
  | some key =>
    have hcolon : '\n' ∉ key ++ ": ".toList := by
      have hkey := h key hkey
      simpa using hkey
    have hvalue : reindent indent (key ++ ": " ++ detail.value) =
        key ++ ": " ++ reindent indent detail.value := by
      rw [reindent_append, reindent_of_not_mem hcolon]
    dsimp only
    rw [hvalue]
    simp only [List.append_assoc]
    rfl

theorem showCause_eq {depth : Nat} {cause : Cause} (h : cause.FlatKeys) :
    showCause depth cause = cause.lines.flatMap (indented (Text.spaces (4 * depth))) := by
  have hdetails := List.flatMap_congr fun detail hm =>
    @showDetail_eq (Text.spaces (4 * depth)) detail (h detail hm)
  rw [showCause, Cause.lines, List.flatMap_append, List.flatMap_assoc, ← hdetails,
    ← indented_reindent]
  rfl

theorem showFrom_eq {depth : Nat} {causes : List Cause} (h : ∀ cause ∈ causes, cause.FlatKeys) :
    showFrom depth causes = (causes.zipIdx depth).flatMap fun (cause, d) =>
      cause.lines.flatMap (indented (Text.spaces (4 * d))) := by
  induction causes generalizing depth with
  | nil => rfl
  | cons cause causes ih =>
    rw [List.forall_mem_cons] at h
    rw [showFrom, showCause_eq h.1, ih h.2, List.zipIdx_cons, List.flatMap_cons]

theorem feed_not_mem_lines {cause : Cause} {line : Text} (h : line ∈ cause.lines) : '\n' ∉ line := by
  rcases List.mem_append.mp h with h | h
  · exact Text.not_mem_of_mem_splitBy h
  · obtain ⟨detail, -, h⟩ := List.mem_flatMap.mp h
    exact Text.not_mem_of_mem_splitBy h

theorem count_indented {depth : Nat} {line : Text} (h : '\n' ∉ line) :
    (indented (Text.spaces depth) line).count '\n' = 1 := by
  have hspaces : '\n' ∉ Text.spaces depth := by simp [Text.spaces]
  rw [indented, List.count_append, List.count_append, List.count_eq_zero_of_not_mem hspaces,
    List.count_eq_zero_of_not_mem h]
  rfl

theorem count_flatMap_indented {depth : Nat} {lines : List Text} (h : ∀ line ∈ lines, '\n' ∉ line) :
    (lines.flatMap (indented (Text.spaces depth))).count '\n' = lines.length := by
  induction lines with
  | nil => rfl
  | cons line lines ih =>
    rw [List.forall_mem_cons] at h
    rw [List.flatMap_cons, List.count_append, count_indented h.1, ih h.2, List.length_cons,
      Nat.add_comm]

theorem count_showFrom {depth : Nat} {causes : List Cause}
    (h : ∀ cause ∈ causes, cause.FlatKeys) :
    (showFrom depth causes).count '\n' = (causes.flatMap Cause.lines).length := by
  induction causes generalizing depth with
  | nil => rfl
  | cons cause causes ih =>
    rw [List.forall_mem_cons] at h
    have hlines := @count_flatMap_indented (4 * depth) cause.lines fun line => feed_not_mem_lines
    rw [showFrom, List.count_append, showCause_eq h.1, hlines, ih h.2, List.flatMap_cons,
      List.length_append]

/-- A fault is shown as its lines, cause by cause, each behind four columns for every cause
above and ended by a line feed; there are no other line feeds. -/
theorem display_lines {fault : Fault} (h : ∀ cause ∈ fault.causes, cause.FlatKeys) :
    fault.display = (fault.causes.zipIdx.flatMap fun (cause, depth) =>
      cause.lines.flatMap fun line => Text.spaces (4 * depth) ++ line ++ ['\n']) ∧
    fault.display.count '\n' = (fault.causes.flatMap Cause.lines).length :=
  ⟨showFrom_eq h, count_showFrom h⟩

/-- A message of two lines, a value that ends in a line feed, and a cause below. -/
theorem display_lines_broken :
    let fault := (Fault.foreign "no\nfile".toList).chain
      (.of "failed\nto read".toList [("path".toList, "a\n".toList)])
    (∀ cause ∈ fault.causes, cause.FlatKeys) ∧
      fault.display = "failed\nto read\npath: a\n\n    no\n    file\n".toList ∧
      fault.display.count '\n' = 6 := by
  intro fault
  have hkeys : ∀ cause ∈ fault.causes, cause.FlatKeys := by
    unfold Cause.FlatKeys
    decide
  obtain ⟨hdisplay, hcount⟩ := display_lines hkeys
  exact ⟨hkeys, hdisplay.trans (by decide), hcount.trans (by decide)⟩

end Fault

end Swatchbook
