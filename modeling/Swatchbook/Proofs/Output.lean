import Swatchbook.Renderer
import Swatchbook.Proofs.Address
import Swatchbook.Proofs.Discovery
import Swatchbook.Proofs.Volume
import Mathlib.Data.Option.Basic

/-!
# What a run leaves behind

A run writes the index, the pages and copies of the scripts, one after the
other, and nothing keeps two of them from being written to one place. All of
them are there in the end, and the scripts are still what they were, just if
no two that share a place disagree about what is to be there.
-/

namespace Swatchbook

-- ---------------------------------------------------------------------------
-- Steps of a session
-- ---------------------------------------------------------------------------

namespace Work

variable {α : Type} {before after : Session}

theorem exists_eq_ok {step : Work Unit} (h : (step before).1.isOk = true) :
    ∃ after, step before = (.ok (), after) := by
  cases hstep : step before with
  | mk result session =>
    rw [hstep] at h
    cases result with
    | error e => cases h
    | ok done => exact ⟨session, rfl⟩

theorem forM_invariant {step : α → Work Unit} {xs : List α} {P : List α → Session → Prop}
    (hstep : ∀ {done x before after}, x ∈ xs → step x before = (.ok (), after) →
      P done before → P (done ++ [x]) after)
    {done : List α} (h : xs.forM step before = (.ok (), after)) (hbefore : P done before) :
    P (done ++ xs) after := by
  induction xs generalizing before done with
  | nil =>
    cases h
    rwa [List.append_nil]
  | cons x xs ih =>
    rw [Step.forM_cons] at h
    obtain ⟨_, middle, hx, hxs⟩ := Step.bind_eq_ok.mp h
    have hmiddle := hstep List.mem_cons_self hx hbefore
    have hrest := ih (fun hm => hstep (List.mem_cons_of_mem _ hm)) hxs hmiddle
    rwa [List.append_assoc] at hrest

end Work

-- ---------------------------------------------------------------------------
-- What should be there
-- ---------------------------------------------------------------------------

def Include.path? : Include → Option Path
  | .url _ => none
  | .file path => some path

/-- Something that has to be there after a run: the document of a page, the copy of a
script, and the script itself. -/
inductive Stake
  | page (page : Page)
  | copy (script : Path)
  | script (script : Path)

namespace Renderer

variable (r : Renderer) (guide : Styleguide) (v : Volume)

def whereabouts : Stake → Path
  | .page page => page.dest
  | .copy script => scriptTarget r.config script
  | .script script => script

def contents? : Stake → Option ByteArray
  | .page page => (r.render guide page).toOption.map Text.toBytes
  | .copy script => (v.read script).toOption
  | .script script => (v.read script).toOption

def localScripts : List Path := r.scripts.filterMap Include.path?

def stakes (index : Page) : List Stake :=
  .page index :: guide.pages.map .page ++ r.localScripts.map .copy ++ r.localScripts.map .script

/-- Whatever has to be at one place has to be the same. -/
def Agree (stakes : List Stake) : Prop :=
  ∀ stake ∈ stakes, ∀ other ∈ stakes,
    v.place (r.whereabouts stake) = v.place (r.whereabouts other) →
      r.contents? guide v stake = r.contents? guide v other

/-- What a run has done so far is there, unless some of all the stakes do not agree. -/
structure Standing (all done : List Stake) (now : Volume) : Prop where
  mem : ∀ stake ∈ done, stake ∈ all
  base : now.base = v.base
  reads : Agree r guide v all → ∀ stake ∈ done, ∀ bytes,
    r.contents? guide v stake = some bytes → now.read (r.whereabouts stake) = .ok bytes

variable {r guide v} {all done : List Stake} {now next : Volume}

theorem Standing.write (h : Standing r guide v all done now) {stake : Stake} {bytes : ByteArray}
    (hmem : stake ∈ all) (hwrite : Volume.write (r.whereabouts stake) bytes now = (.ok (), next))
    (hbytes : Agree r guide v all → r.contents? guide v stake = some bytes) :
    Standing r guide v all (done ++ [stake]) next := by
  obtain ⟨hbase, hread, hother⟩ := Volume.write_eq_ok hwrite
  refine ⟨?_, hbase.trans h.base, fun hagree other hm other' hcontents => ?_⟩
  · exact List.forall_mem_append.mpr ⟨h.mem, List.forall_mem_singleton.mpr hmem⟩
  · rcases List.mem_append.mp hm with hm | hm
    · refine hother (h.reads hagree other hm other' hcontents) fun hsame => ?_
      rw [Volume.place_of_base h.base, Volume.place_of_base h.base] at hsame
      have halike := hagree other (h.mem other hm) stake hmem hsame
      rw [hcontents, hbytes hagree] at halike
      exact Option.some.inj halike
    · obtain rfl := List.mem_singleton.mp hm
      rw [hbytes hagree] at hcontents
      cases hcontents
      exact hread

-- ---------------------------------------------------------------------------
-- The steps of a run
-- ---------------------------------------------------------------------------

section

variable {before after : Session}

theorem via_askReadme (config : Config) (v : Volume) :
    Errand.via Volume.serve (askReadme config) v = (.ok (readme? v config), v) := by
  rw [askReadme, readme?]
  cases config.readme with
  | none => rfl
  | some path =>
    rw [Errand.via_bind, Step.bind_of_ok (Errand.via_request _ v), Option.bind_some]
    change Errand.via Volume.serve (if v.isFile path then _ else _) v = _
    cases v.isFile path <;> rfl

theorem outcome_index (v : Volume) (config : Config) : (index v config).outcome.1 =
    (indexSections config (readme? v config)).outcome.1.map (indexPage config) := by
  rw [index, Report.outcome_bind fun _ => Report.steady_pure _]
  cases (indexSections config (readme? v config)).outcome.1 <;> rfl

theorem via_writeIndex {page : Page} {v : Volume}
    (h : (index v r.config).outcome.1 = .ok page) :
    Errand.via Volume.serve (r.writeIndex guide) v = Errand.via Volume.serve (do
      let html ← Errand.ofExcept (r.render guide page)
      Errand.write page.dest (Text.toBytes html)) v := by
  rw [outcome_index, Except.map_eq_ok] at h
  obtain ⟨sections, hsections, rfl⟩ := h
  rw [writeIndex, Errand.via_bind, Step.bind_of_ok (via_askReadme _ _), Errand.via_bind]
  exact Step.bind_of_ok ((Errand.via_report _ v).trans (by rw [hsections]))

theorem via_writeIndex_of_error {fault : Fault} {v : Volume}
    (h : (index v r.config).outcome.1 = .error fault) :
    Errand.via Volume.serve (r.writeIndex guide) v = (.error fault, v) := by
  have hsections : (indexSections r.config (readme? v r.config)).outcome.1 = .error fault := by
    rw [outcome_index] at h
    cases hsections : (indexSections r.config (readme? v r.config)).outcome.1 with
    | ok sections =>
      rw [hsections] at h
      cases h
    | error e =>
      rw [hsections] at h
      cases h
      rfl
  rw [writeIndex, Errand.via_bind, Step.bind_of_ok (via_askReadme _ _), Errand.via_bind]
  exact Step.bind_of_error ((Errand.via_report _ v).trans (by rw [hsections]))

theorem writeIndex_eq_ok (h : Work.doing (r.writeIndex guide) before = (.ok (), after)) :
    ∃ page html, (index before.volume r.config).outcome.1 = .ok page ∧
      r.render guide page = .ok html ∧
      Volume.write page.dest (Text.toBytes html) before.volume = (.ok (), after.volume) := by
  have hvia := Work.doing_eq_ok h
  cases hindex : (index before.volume r.config).outcome.1 with
  | error fault =>
    rw [via_writeIndex_of_error hindex] at hvia
    cases hvia
  | ok page =>
    rw [via_writeIndex hindex, Errand.via_bind] at hvia
    obtain ⟨html, middle, hrender, hwrite⟩ := Step.bind_eq_ok.mp hvia
    obtain ⟨-, rfl⟩ := Prod.mk.inj hrender
    exact ⟨page, html, rfl, congrArg Prod.fst hrender, hwrite⟩

theorem writePage_eq_ok {page : Page}
    (h : Work.doing (r.writePage guide page) before = (.ok (), after)) :
    ∃ html, r.render guide page = .ok html ∧
      Volume.write page.dest (Text.toBytes html) before.volume = (.ok (), after.volume) := by
  have hvia := Work.doing_eq_ok h
  rw [writePage, Errand.via_bind] at hvia
  obtain ⟨html, first, hrender, hrest⟩ := Step.bind_eq_ok.mp hvia
  obtain ⟨-, rfl⟩ := Prod.mk.inj hrender
  rw [Errand.via_bind] at hrest
  obtain ⟨_, second, hwrite, hnote⟩ := Step.bind_eq_ok.mp hrest
  obtain ⟨-, rfl⟩ := Prod.mk.inj hnote
  exact ⟨html, congrArg Prod.fst hrender, Errand.via_under_eq_ok hwrite⟩

theorem copyScript_eq_ok {path : Path}
    (h : Work.doing (r.copyScript (.file path)) before = (.ok (), after)) :
    ∃ bytes, before.volume.read path = .ok bytes ∧
      Volume.write (scriptTarget r.config path) bytes before.volume = (.ok (), after.volume) := by
  have hcopy := Errand.via_under_eq_ok (Work.doing_eq_ok h)
  rw [Errand.copy, Errand.via_bind, Step.bind_of_ok (Errand.via_request _ _),
    Volume.serve_read] at hcopy
  cases hread : before.volume.read path with
  | error trouble =>
    rw [hread] at hcopy
    cases hcopy
  | ok bytes =>
    rw [hread] at hcopy
    exact ⟨bytes, rfl, hcopy⟩

/-- Stage after stage, and of the pages one after the other. -/
theorem write_eq : r.write guide = (do
    Work.doing (r.writeIndex guide)
    guide.pages.forM fun page => Work.doing (r.writePage guide page)
    r.scripts.forM fun script => Work.doing (r.copyScript script)) := by
  simp [write, stages, List.forM_cons, List.forM_map]

end

-- ---------------------------------------------------------------------------
-- Scripts are files
-- ---------------------------------------------------------------------------

theorem exists_read_of_isFile {path : Path} (h : v.isFile path = true) :
    ∃ bytes, v.read path = .ok bytes := by
  rw [Volume.isFile] at h
  split at h
  · next bytes hlook =>
    refine ⟨bytes, ?_⟩
    rw [Volume.read, hlook]
    rfl
  · cases h

theorem load_eq_ok {config : Config} {directory : Path}
    (h : (load v config directory).outcome.1 = .ok r) :
    r.config = config ∧ ∃ before after,
      Styleguide.resolveIncludes v directory config.scripts before = (.ok r.scripts, after) := by
  have hrun : load v config directory [] = (.ok r, (load v config directory).outcome.2) := by
    rw [← h]
    rfl
  generalize (load v config directory).outcome.2 = after at hrun
  unfold load at hrun
  obtain ⟨template, _, -, htheme⟩ := Step.bind_eq_ok.mp hrun
  obtain ⟨theme, _, -, hhighlight⟩ := Step.bind_eq_ok.mp htheme
  obtain ⟨highlight, _, -, hnoted⟩ := Step.bind_eq_ok.mp hhighlight
  -- Whether assets are missed or not, the same steps follow.
  have hincludes : ∃ middle, (do
      let assets ← Styleguide.resolveIncludes v directory config.assets
      let scripts ← Styleguide.resolveIncludes v directory config.scripts
      return ⟨config, template, styleBlock theme, styleBlock highlight, assets, scripts⟩ :
        Report Renderer) middle = (.ok r, after) := by
    split at hnoted
    · obtain ⟨_, middle, -, hrest⟩ := Step.bind_eq_ok.mp hnoted
      exact ⟨middle, hrest⟩
    · exact ⟨_, hnoted⟩
  obtain ⟨_, hassets⟩ := hincludes
  obtain ⟨assets, _, -, hscripts⟩ := Step.bind_eq_ok.mp hassets
  obtain ⟨scripts, _, hscripts, hreturn⟩ := Step.bind_eq_ok.mp hscripts
  cases hreturn
  exact ⟨rfl, _, _, hscripts⟩

theorem isFile_of_load {config : Config} {directory : Path}
    (h : (load v config directory).outcome.1 = .ok r) :
    ∀ path ∈ r.localScripts, v.isFile path = true := by
  obtain ⟨-, _, _, hscripts⟩ := load_eq_ok h
  intro path hm
  obtain ⟨script, hscript, hpath⟩ := List.mem_filterMap.mp hm
  cases script with
  | url address => cases hpath
  | file other =>
    cases hpath
    exact (Styleguide.found_of_resolveIncludes hscripts path hscript).isFile

-- ---------------------------------------------------------------------------
-- The whole run
-- ---------------------------------------------------------------------------

theorem contents?_script {script : Path} {bytes : ByteArray} :
    r.contents? guide v (.script script) = some bytes ↔ v.read script = .ok bytes := by
  rw [contents?, Except.toOption_eq_some]

theorem contents?_page {page : Page} {html : Text} (h : r.render guide page = .ok html) :
    r.contents? guide v (.page page) = some (Text.toBytes html) := by
  rw [contents?, h]
  rfl

theorem standing_scripts (index : Page) :
    Standing r guide v (r.stakes guide index) (r.localScripts.map .script) v := by
  refine ⟨fun stake hm => List.mem_append_right _ hm, rfl, fun _ stake hm bytes hcontents => ?_⟩
  obtain ⟨script, -, rfl⟩ := List.mem_map.mp hm
  exact contents?_script.mp hcontents

section

variable {before after : Session} (h : Standing r guide v all done before.volume)

include h

theorem Standing.writePages {pages : List Page} (hall : ∀ page ∈ pages, .page page ∈ all)
    (hrun : pages.forM (fun page => Work.doing (r.writePage guide page)) before = (.ok (), after)) :
    Standing r guide v all (done ++ pages.map .page) after.volume ∧
      ∀ page ∈ pages, ∃ html, r.render guide page = .ok html := by
  let P (seen : List Page) (session : Session) : Prop :=
    Standing r guide v all (done ++ seen.map .page) session.volume ∧
      ∀ page ∈ seen, ∃ html, r.render guide page = .ok html
  have hstart : P [] before := ⟨by simpa using h, fun _ hm => absurd hm List.not_mem_nil⟩
  refine Work.forM_invariant (P := P) ?_ hrun hstart
  rintro seen page first second hm hpage ⟨hstanding, hseen⟩
  obtain ⟨html, hrender, hwrite⟩ := writePage_eq_ok hpage
  have hnext := hstanding.write (hall page hm) hwrite fun _ => contents?_page hrender
  rw [List.append_assoc, ← List.map_singleton, ← List.map_append] at hnext
  exact ⟨hnext, List.forall_mem_append.mpr ⟨hseen, List.forall_mem_singleton.mpr ⟨html, hrender⟩⟩⟩

theorem Standing.copyScripts {scripts : List Include}
    (hall : ∀ path, .file path ∈ scripts → .copy path ∈ all ∧ .script path ∈ done ∧
      ∃ bytes, v.read path = .ok bytes)
    (hrun : scripts.forM (fun script => Work.doing (r.copyScript script)) before = (.ok (), after)) :
    Standing r guide v all (done ++ (scripts.filterMap Include.path?).map .copy) after.volume := by
  let P (seen : List Include) (session : Session) : Prop :=
    Standing r guide v all (done ++ (seen.filterMap Include.path?).map .copy) session.volume
  have hstart : P [] before := by simpa [P] using h
  refine Work.forM_invariant (P := P) ?_ hrun hstart
  intro seen script first second hm hscript hstanding
  change Standing r guide v all _ second.volume
  rw [List.filterMap_append, List.map_append, ← List.append_assoc]
  cases script with
  | url address =>
    cases hscript
    have hnone : ([.url address] : List Include).filterMap Include.path? = [] := rfl
    rw [hnone, List.map_nil, List.append_nil]
    exact hstanding
  | file path =>
    obtain ⟨bytes, hread, hwrite⟩ := copyScript_eq_ok hscript
    obtain ⟨hcopy, hsource, own, hown⟩ := hall path hm
    refine hstanding.write hcopy hwrite fun hagree => ?_
    -- The script is still what it was, so its copy gets its own bytes.
    have hcontents : r.contents? guide v (.script path) = some own := contents?_script.mpr hown
    have hnow := hstanding.reads hagree _ (List.mem_append_left _ hsource) own hcontents
    obtain rfl : own = bytes := Except.ok.inj (hnow.symm.trans hread)
    exact hcontents

end

theorem exists_contents? {page : Page} {html : Text} (hindex : r.render guide page = .ok html)
    (hpages : ∀ page ∈ guide.pages, ∃ html, r.render guide page = .ok html)
    (hscripts : ∀ path ∈ r.localScripts, ∃ bytes, v.read path = .ok bytes) :
    ∀ stake ∈ r.stakes guide page, ∃ bytes, r.contents? guide v stake = some bytes := by
  have hscript {path : Path} (hm : path ∈ r.localScripts) :
      ∃ bytes, r.contents? guide v (.script path) = some bytes := by
    obtain ⟨bytes, hbytes⟩ := hscripts path hm
    exact ⟨bytes, contents?_script.mpr hbytes⟩
  simp only [stakes, List.forall_mem_append, List.forall_mem_cons, List.forall_mem_map]
  refine ⟨⟨⟨⟨_, contents?_page hindex⟩, fun other hm => ?_⟩, fun path hm => hscript hm⟩,
    fun path hm => hscript hm⟩
  obtain ⟨html, hrender⟩ := hpages other hm
  exact ⟨_, contents?_page hrender⟩

theorem standing_of_write {notes : List Note} {after : Session}
    (hscripts : ∀ path ∈ r.localScripts, ∃ bytes, v.read path = .ok bytes)
    (h : r.write guide ⟨v, notes⟩ = (.ok (), after)) :
    ∃ page, (index v r.config).outcome.1 = .ok page ∧
      (∀ stake ∈ r.stakes guide page, ∃ bytes, r.contents? guide v stake = some bytes) ∧
      Standing r guide v (r.stakes guide page) (r.stakes guide page) after.volume := by
  rw [write_eq] at h
  obtain ⟨_, first, hindexed, hrest⟩ := Step.bind_eq_ok.mp h
  obtain ⟨_, second, hpaged, hcopied⟩ := Step.bind_eq_ok.mp hrest
  obtain ⟨page, html, hindex, hrender, hwritten⟩ := writeIndex_eq_ok hindexed
  have hfirst : Standing r guide v (r.stakes guide page)
      (r.localScripts.map .script ++ [.page page]) first.volume :=
    (standing_scripts page).write (by simp [stakes]) hwritten fun _ => contents?_page hrender
  obtain ⟨hsecond, hpages⟩ := hfirst.writePages
    (fun other hm => by simp [stakes, hm]) hpaged
  have hafter := hsecond.copyScripts ?_ hcopied
  · refine ⟨page, hindex, exists_contents? hrender hpages hscripts, fun _ hm => hm, hafter.base,
      fun hagree stake hm => hafter.reads hagree stake ?_⟩
    simp only [stakes, localScripts, List.mem_append, List.mem_cons] at hm ⊢
    tauto
  · intro path hm
    have hlocal : path ∈ r.localScripts := List.mem_filterMap.mpr ⟨_, hm, rfl⟩
    exact ⟨by simp [stakes, hlocal], by simp [hlocal], hscripts path hlocal⟩

/-- A run that succeeds has a document for every page, and in the end there is what should
be there just if no two that share a place disagree about it. -/
theorem write_faithful_iff {config : Config} {directory : Path} {notes : List Note}
    {after : Session} (hload : (load v config directory).outcome.1 = .ok r)
    (hwrite : r.write guide ⟨v, notes⟩ = (.ok (), after)) :
    ∃ page, (index v config).outcome.1 = .ok page ∧ page.dest = config.dest.join "index.html" ∧
      (∀ stake ∈ r.stakes guide page, ∃ bytes, r.contents? guide v stake = some bytes) ∧
      ((∀ stake ∈ r.stakes guide page, ∀ bytes, r.contents? guide v stake = some bytes →
          after.volume.read (r.whereabouts stake) = .ok bytes) ↔
        ∀ stake ∈ r.stakes guide page, ∀ other ∈ r.stakes guide page,
          v.place (r.whereabouts stake) = v.place (r.whereabouts other) →
            r.contents? guide v stake = r.contents? guide v other) := by
  have hscripts : ∀ path ∈ r.localScripts, ∃ bytes, v.read path = .ok bytes :=
    fun path hm => exists_read_of_isFile (isFile_of_load hload path hm)
  obtain ⟨page, hindex, hcontents, hstanding⟩ := standing_of_write hscripts hwrite
  rw [(load_eq_ok hload).1] at hindex
  obtain ⟨_, hpage⟩ := index_eq hindex
  have hdest : page.dest = config.dest.join "index.html" := by rw [hpage]
  refine ⟨page, hindex, hdest, hcontents, fun hreads => ?_, fun hagree => hstanding.reads hagree⟩
  intro stake hm other hm' hsame
  obtain ⟨bytes, hbytes⟩ := hcontents stake hm
  obtain ⟨bytes', hbytes'⟩ := hcontents other hm'
  obtain ⟨-, hat⟩ := Volume.read_eq_ok.mp (hreads stake hm bytes hbytes)
  obtain ⟨-, hat'⟩ := Volume.read_eq_ok.mp (hreads other hm' bytes' hbytes')
  rw [Volume.place_of_base hstanding.base] at hat hat'
  rw [hsame, hat'] at hat
  cases hat
  rw [hbytes, hbytes']

/-- Different pages and a script of its own find their places. -/
theorem write_faithful_script :
    let v := (((Volume.mk [] []).plant ["s".toList, "a.css".toList] (.file .empty)).plant
      ["t".toList] (.file (Text.toBytes "\x7b\x7b page.title \x7d\x7d".toList))).plant
        ["x.js".toList] (.file (Text.toBytes "x".toList))
    let config : Config := { src := "s", dest := "o", template := some "t", scripts := ["x.js"] }
    ∃ r guide after page, (load v config "/").outcome.1 = .ok r ∧
      (Styleguide.build v config ["s/a.css"]).outcome.1 = .ok guide ∧
      r.write guide ⟨v, []⟩ = (.ok (), after) ∧ (index v config).outcome.1 = .ok page ∧
      (r.stakes guide page).length = 4 ∧
      ∀ stake ∈ r.stakes guide page, ∀ bytes, r.contents? guide v stake = some bytes →
        after.volume.read (r.whereabouts stake) = .ok bytes := by
  intro v config
  have hrun : (do
      let r ← (load v config "/").outcome.1.toOption
      let guide ← (Styleguide.build v config ["s/a.css"]).outcome.1.toOption
      let page ← (index v config).outcome.1.toOption
      guard ((r.write guide ⟨v, []⟩).1.isOk ∧ (r.stakes guide page).length = 4 ∧
        ∀ stake ∈ r.stakes guide page, ∀ other ∈ r.stakes guide page,
          v.place (r.whereabouts stake) = v.place (r.whereabouts other) →
            r.contents? guide v stake = r.contents? guide v other)) = some () := by
    decide +kernel
  obtain ⟨r, hload, hrun⟩ := Option.bind_eq_some_iff.mp hrun
  obtain ⟨guide, hbuild, hrun⟩ := Option.bind_eq_some_iff.mp hrun
  obtain ⟨page, hindex, hrun⟩ := Option.bind_eq_some_iff.mp hrun
  have hload := Except.toOption_eq_some.mp hload
  have hindex := Except.toOption_eq_some.mp hindex
  obtain ⟨hok, hlength, hagree⟩ := (Option.guard_eq_some' _).mp hrun
  obtain ⟨after, hwrite⟩ := Work.exists_eq_ok hok
  refine ⟨r, guide, after, page, hload, Except.toOption_eq_some.mp hbuild, hwrite, hindex, hlength,
    ?_⟩
  obtain ⟨other, hother, -, -, hfaithful⟩ := write_faithful_iff hload hwrite
  obtain rfl : page = other := Except.ok.inj (hindex.symm.trans hother)
  exact hfaithful.mpr hagree

/-- A page of the name of the index takes its place: nothing is left of the index. -/
theorem write_loses_index :
    let v := ((Volume.mk [] []).plant ["s".toList, "index.css".toList] (.file .empty)).plant
      ["t".toList] (.file (Text.toBytes "\x7b\x7b page.title \x7d\x7d".toList))
    let config : Config := { src := "s", dest := "o", template := some "t" }
    ∃ files r guide after page html,
      (Styleguide.discover v config).outcome.1 = .ok files ∧
      (Styleguide.build v config files).outcome.1 = .ok guide ∧
      (load v config "/").outcome.1 = .ok r ∧ r.write guide ⟨v, []⟩ = (.ok (), after) ∧
      (index v config).outcome.1 = .ok page ∧ r.render guide page = .ok html ∧
      after.volume.read "o/index.html" ≠ .ok (Text.toBytes html) := by
  intro v config
  have hrun : (do
      let files ← (Styleguide.discover v config).outcome.1.toOption
      let guide ← (Styleguide.build v config files).outcome.1.toOption
      let r ← (load v config "/").outcome.1.toOption
      let page ← (index v config).outcome.1.toOption
      let html ← (r.render guide page).toOption
      guard ((r.write guide ⟨v, []⟩).1.isOk ∧
        ((r.write guide ⟨v, []⟩).2.volume.read "o/index.html").toOption ≠
          some (Text.toBytes html))) = some () := by
    decide +kernel
  obtain ⟨files, hfiles, hrun⟩ := Option.bind_eq_some_iff.mp hrun
  obtain ⟨guide, hbuild, hrun⟩ := Option.bind_eq_some_iff.mp hrun
  obtain ⟨r, hload, hrun⟩ := Option.bind_eq_some_iff.mp hrun
  obtain ⟨page, hindex, hrun⟩ := Option.bind_eq_some_iff.mp hrun
  obtain ⟨html, hrender, hrun⟩ := Option.bind_eq_some_iff.mp hrun
  obtain ⟨hok, hlost⟩ := (Option.guard_eq_some' _).mp hrun
  obtain ⟨after, hwrite⟩ := Work.exists_eq_ok hok
  rw [hwrite, Ne, Except.toOption_eq_some] at hlost
  exact ⟨files, r, guide, after, page, html, Except.toOption_eq_some.mp hfiles,
    Except.toOption_eq_some.mp hbuild, Except.toOption_eq_some.mp hload, hwrite,
    Except.toOption_eq_some.mp hindex, Except.toOption_eq_some.mp hrender, hlost⟩

end Renderer

end Swatchbook
