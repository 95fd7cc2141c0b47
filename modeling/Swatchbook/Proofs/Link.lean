import Swatchbook.Proofs.Reference
import Swatchbook.Template.Function

/-!
# Links of templates

A template puts the root in front of a path and gets markup, in which the
marks that could end an attribute are written as references. Main statement:
the markup has no such mark, and what its references stand for is the root and
the path.
-/

namespace Swatchbook.Template

open Reference (decode)

def marks : List (Text × Char) :=
  [("&amp;", '&'), ("&quot;", '"'), ("&#x27;", '\x27'), ("&lt;", '<'), ("&gt;", '>')]

def mark? : Reference.Reader := fun t =>
  (marks.find? fun (name, _) => name.isPrefixOf t).map fun (name, c) => ([c], name.length)

/-- Nothing in the text ends an attribute or opens a tag, and ampersands begin references. -/
def Escaped (t : Text) : Prop :=
  (∀ c ∈ t, c ∉ ['<', '>', '"', '\x27']) ∧
    ∀ before after, t = before ++ '&' :: after → ∃ mark ∈ marks, mark.1 <+: '&' :: after

-- ---------------------------------------------------------------------------
-- One character
-- ---------------------------------------------------------------------------

variable {c : Char} {name t : Text}

theorem mem_marks_of_escapeMark (h : escapeMark c = some name) : (name, c) ∈ marks := by
  unfold escapeMark at h
  split at h
  all_goals
    cases h
    try decide

theorem escapeMark_eq_none (h : escapeMark c = none) :
    c ≠ '&' ∧ c ∉ ['<', '>', '"', '\x27'] := by
  unfold escapeMark at h
  split at h
  all_goals cases h
  simp_all

theorem mark?_append (h : (name, c) ∈ marks) (t : Text) :
    mark? (name ++ t) = some ([c], name.length) := by
  simp only [marks, List.mem_cons, Prod.mk.injEq, List.not_mem_nil, or_false] at h
  rcases h with ⟨rfl, rfl⟩ | ⟨rfl, rfl⟩ | ⟨rfl, rfl⟩ | ⟨rfl, rfl⟩ | ⟨rfl, rfl⟩ <;> rfl

theorem mark?_cons (h : c ≠ '&') (t : Text) : mark? (c :: t) = none := by
  simp [mark?, marks, List.isPrefixOf, Ne.symm h]

theorem shape_of_mem_marks : ∀ mark ∈ marks, mark.1.head? = some '&' ∧ '&' ∉ mark.1.tail ∧
    mark.1.all (· ∉ ['<', '>', '"', '\x27']) = true := by
  decide

-- ---------------------------------------------------------------------------
-- Texts
-- ---------------------------------------------------------------------------

theorem escapeAttribute_cons (c : Char) (t : Text) :
    escapeAttribute (c :: t) = (escapeMark c).getD [c] ++ escapeAttribute t :=
  List.flatMap_cons

theorem decode_escapeAttribute (t : Text) : decode mark? (escapeAttribute t) = t := by
  induction t with
  | nil => rfl
  | cons c t ih =>
    rw [escapeAttribute_cons]
    cases hc : escapeMark c with
    | none =>
      rw [Option.getD_none, List.singleton_append,
        Reference.decode_cons_of_none (mark?_cons (escapeMark_eq_none hc).1 _), ih]
    | some name =>
      have hmark := mem_marks_of_escapeMark hc
      have hne : name ≠ [] := by
        rintro rfl
        simpa using (shape_of_mem_marks _ hmark).1
      rw [Option.getD_some, Reference.decode_reference (mark?_append hmark _) hne, ih,
        List.singleton_append]

theorem Escaped.append {s t : Text} (hs : Escaped s) (ht : Escaped t) : Escaped (s ++ t) := by
  refine ⟨fun c hc => (List.mem_append.mp hc).elim (hs.1 c) (ht.1 c), ?_⟩
  intro before after hsplit
  rcases List.append_eq_append_iff.mp hsplit with ⟨front, rfl, hback⟩ | ⟨front, rfl, hback⟩
  · exact ht.2 front after hback
  · cases front with
    | nil => exact ht.2 [] after (by simpa using hback.symm)
    | cons d front =>
      obtain ⟨rfl, rfl⟩ := List.cons.inj hback
      obtain ⟨mark, hmark, hlead⟩ := hs.2 before front rfl
      exact ⟨mark, hmark, hlead.trans (List.prefix_append _ t)⟩

theorem escaped_singleton (h : c ≠ '&') (hc : c ∉ ['<', '>', '"', '\x27']) : Escaped [c] := by
  refine ⟨by simpa using hc, fun before after hsplit => ?_⟩
  have hmem : '&' ∈ [c] := by simp [hsplit]
  exact absurd (List.mem_singleton.mp hmem).symm h

theorem escaped_mark (h : (name, c) ∈ marks) : Escaped name := by
  obtain ⟨hhead, htail, hplain⟩ := shape_of_mem_marks _ h
  refine ⟨by simpa using hplain, fun before after hsplit => ?_⟩
  cases before with
  | nil => exact ⟨(name, c), h, by simp [hsplit]⟩
  | cons d before =>
    refine absurd ?_ htail
    simp [hsplit]

theorem escaped_escapeAttribute (t : Text) : Escaped (escapeAttribute t) := by
  induction t with
  | nil => exact ⟨by simp [escapeAttribute], by simp [escapeAttribute]⟩
  | cons c t ih =>
    rw [escapeAttribute_cons]
    refine Escaped.append ?_ ih
    cases hc : escapeMark c with
    | none => exact escaped_singleton (escapeMark_eq_none hc).1 (escapeMark_eq_none hc).2
    | some name => exact escaped_mark (mem_marks_of_escapeMark hc)

-- ---------------------------------------------------------------------------
-- Calls
-- ---------------------------------------------------------------------------

theorem callFunction_url {scope : Scope} {safe : Bool} {root : Text}
    (h : scope.find? "root" = some (.text safe root)) (known : Bool) (path : Text) :
    callFunction scope .url ⟨[.text known path], []⟩ = .ok (.markup (link root path)) := by
  simp only [callFunction, h]
  rfl

/-- With a text for its root, a link is markup in which nothing ends an attribute and that stands
for the root, a slash and the path, so that no two of these have one link. -/
theorem url_decodes {scope : Scope} {safe : Bool} {root : Text}
    (h : scope.find? "root" = some (.text safe root)) (known : Bool) (path : Text) :
    ∃ t, callFunction scope .url ⟨[.text known path], []⟩ = .ok (.markup t) ∧ Escaped t ∧
      decode mark? t = root ++ '/' :: path ∧
      ∀ (other : Scope) (safe known : Bool) (root' path' : Text),
        other.find? "root" = some (.text safe root') →
        callFunction other .url ⟨[.text known path'], []⟩ = .ok (.markup t) →
        root' ++ '/' :: path' = root ++ '/' :: path := by
  refine ⟨link root path, callFunction_url h known path, escaped_escapeAttribute _,
    decode_escapeAttribute _, ?_⟩
  intro other safe' known' root' path' hother hsame
  rw [callFunction_url hother] at hsame
  have hlink : link root' path' = link root path := by simpa [Value.markup] using hsame
  rw [← decode_escapeAttribute (root ++ '/' :: path), ← link, ← hlink, link,
    decode_escapeAttribute]

/-- What looks like a reference already is escaped once more. -/
theorem url_decodes_reference :
    let scope : Scope := { frames := [{ names := [("root", .plain "..")] }] }
    scope.find? "root" = some (.text false "..") ∧
      callFunction scope .url ⟨[.text false "a&lt;b"], []⟩ =
        .ok (.markup "../a&amp;lt;b".toList) ∧
      Escaped "../a&amp;lt;b" ∧ decode mark? "../a&amp;lt;b" = "../a&lt;b".toList := by
  intro scope
  have hroot : scope.find? "root" = some (.text false "..") := rfl
  obtain ⟨t, hcall, hescaped, hdecode, -⟩ := url_decodes hroot false "a&lt;b"
  have hknown : callFunction scope .url ⟨[.text false "a&lt;b"], []⟩ =
      .ok (.markup "../a&amp;lt;b".toList) := rfl
  have ht : t = "../a&amp;lt;b".toList := by
    rw [hknown] at hcall
    simpa [Value.markup] using hcall.symm
  subst ht
  exact ⟨hroot, hcall, hescaped, hdecode⟩

end Swatchbook.Template
