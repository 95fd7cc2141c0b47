import Swatchbook.Program
import Swatchbook.Proofs.Output
import Swatchbook.Proofs.Styleguide

/-!
# Runs that do not write

Everything that a run does before it writes the index only reads. So a dry run
and a run that fails before there is a document of the index leave all files as
they were. A dry run leaves out what has no comments, which is how it finds
such sources in the end: it succeeds just if there is none.
-/

namespace Swatchbook

-- ---------------------------------------------------------------------------
-- Reading
-- ---------------------------------------------------------------------------

namespace Report

theorem steady_throw {α : Type} (fault : Fault) : Steady (throw fault : Report α) := fun _ => rfl

end Report

theorem Work.reading_eq {α : Type} (step : Volume → Report α) {v : Volume}
    {result : Except Fault α} (hsteady : (step v).Steady) (h : (step v).outcome.1 = result)
    (notes : List Note) : ∃ later, reading step ⟨v, notes⟩ = (result, ⟨v, later⟩) := by
  refine ⟨(step v notes).2, ?_⟩
  rw [← h, ← hsteady notes]
  rfl

namespace Styleguide

theorem steady_discover (v : Volume) (config : Config) : (discover v config).Steady :=
  (Report.steady_ofExcept _).bind fun _ =>
    (Report.steady_note _ _ _).bind fun _ => Report.steady_pure _

theorem steady_build (v : Volume) (config : Config) (files : List Path) :
    (build v config files).Steady := by
  unfold build
  split
  · exact Report.steady_throw _
  · exact (Report.steady_ofExcept _).bind fun layout =>
      (Report.steady_mapM (steady_buildPage v layout) files).bind fun _ =>
        (Report.steady_ofExcept _).bind fun _ =>
          (Report.steady_note _ _ _).bind fun _ => Report.steady_pure _

theorem steady_resolveInclude (v : Volume) (base : Path) (entry : Text) :
    (resolveInclude v base entry).Steady := by
  unfold resolveInclude
  split
  · exact Report.steady_pure _
  · refine (Report.steady_ofExcept _).bind fun files => ?_
    split
    · exact (Report.steady_note _ _ _).bind fun _ => Report.steady_pure _
    · exact Report.steady_pure _

theorem steady_resolveIncludes (v : Volume) (base : Path) (entries : List Text) :
    (resolveIncludes v base entries).Steady :=
  (Report.steady_mapM (steady_resolveInclude v base) entries).bind fun _ => Report.steady_pure _

end Styleguide

namespace Renderer

theorem steady_loadTemplate (v : Volume) (config : Config) : (loadTemplate v config).Steady := by
  unfold loadTemplate
  split
  · exact (Report.steady_ofExcept _).bind fun _ => Report.steady_ofExcept _
  · exact (Report.steady_note _ _ _).bind fun _ => Report.steady_ofExcept _

theorem steady_loadTheme (v : Volume) (config : Config) : (loadTheme v config).Steady := by
  unfold loadTheme
  split
  · exact Report.steady_ofExcept _
  · exact (Report.steady_note _ _ _).bind fun _ => Report.steady_pure _

theorem steady_loadHighlight (config : Config) : (loadHighlight config).Steady := by
  unfold loadHighlight
  split
  · exact Report.steady_pure _
  · refine (Report.steady_note _ _ _).bind fun _ => ?_
    split
    · exact Report.steady_pure _
    · exact Report.steady_throw _

theorem steady_load (v : Volume) (config : Config) (directory : Path) :
    (load v config directory).Steady := by
  have hincludes (make : List Include → List Include → Renderer) : (do
      let assets ← Styleguide.resolveIncludes v directory config.assets
      let scripts ← Styleguide.resolveIncludes v directory config.scripts
      return make assets scripts : Report Renderer).Steady :=
    (Styleguide.steady_resolveIncludes _ _ _).bind fun _ =>
      (Styleguide.steady_resolveIncludes _ _ _).bind fun _ => Report.steady_pure _
  refine (steady_loadTemplate v config).bind fun _ => (steady_loadTheme v config).bind fun _ =>
    (steady_loadHighlight config).bind fun _ => ?_
  split
  · exact (Report.steady_note _ _ _).bind fun _ => hincludes _
  · exact hincludes _

end Renderer

namespace Program

-- ---------------------------------------------------------------------------
-- What happens before anything is written
-- ---------------------------------------------------------------------------

/-- The settings are loaded, the sources found and the pages built. -/
structure Prepared (flags : Flags) (directory : Path) (v : Volume) (config : Config)
    (files : List Path) (guide : Styleguide) : Prop where
  load : Config.load v flags directory = .ok config
  discover : (Styleguide.discover v config).outcome.1 = .ok files
  build : (Styleguide.build v config files).outcome.1 = .ok guide

/-- What keeps a run from writing: it is dry, or it fails before there is a document of the
index. -/
inductive Stops (flags : Flags) (directory : Path) (v : Volume) : Prop
  | load {fault : Fault} (failed : Config.load v flags directory = .error fault)
  | discover {config : Config} {fault : Fault} (load : Config.load v flags directory = .ok config)
      (failed : (Styleguide.discover v config).outcome.1 = .error fault)
  | build {config : Config} {files : List Path} {fault : Fault}
      (load : Config.load v flags directory = .ok config)
      (discover : (Styleguide.discover v config).outcome.1 = .ok files)
      (failed : (Styleguide.build v config files).outcome.1 = .error fault)
  | dry {config : Config} (load : Config.load v flags directory = .ok config)
      (dry : config.dryRun = true)
  | renderer {config : Config} {files : List Path} {guide : Styleguide} {fault : Fault}
      (prepared : Prepared flags directory v config files guide)
      (failed : (Renderer.load v config directory).outcome.1 = .error fault)
  | index {config : Config} {files : List Path} {guide : Styleguide} {r : Renderer} {fault : Fault}
      (prepared : Prepared flags directory v config files guide)
      (renderer : (Renderer.load v config directory).outcome.1 = .ok r)
      (failed : (Renderer.index v config).outcome.1 = .error fault)
  | render {config : Config} {files : List Path} {guide : Styleguide} {r : Renderer} {page : Page}
      {fault : Fault} (prepared : Prepared flags directory v config files guide)
      (renderer : (Renderer.load v config directory).outcome.1 = .ok r)
      (index : (Renderer.index v config).outcome.1 = .ok page)
      (failed : r.render guide page = .error fault)

section

variable {flags : Flags} {directory : Path} {v : Volume} {config : Config} {files : List Path}
  {guide : Styleguide}

theorem steady_prepare (flags : Flags) (directory : Path) (v : Volume) :
    (prepare flags directory v).Steady :=
  (Report.steady_ofExcept _).bind fun _ => (Styleguide.steady_discover _ _).bind fun _ =>
    (Styleguide.steady_build _ _ _).bind fun _ => Report.steady_pure _

theorem outcome_prepare : (prepare flags directory v).outcome.1 = do
    let config ← Config.load v flags directory
    let files ← (Styleguide.discover v config).outcome.1
    let guide ← (Styleguide.build v config files).outcome.1
    return (config, guide) := by
  have hbuild (config : Config) (files : List Path) : (do
      return (config, ← Styleguide.build v config files) : Report _).Steady :=
    (Styleguide.steady_build _ _ _).bind fun _ => Report.steady_pure _
  have hdiscover (config : Config) : (do
      let files ← Styleguide.discover v config
      return (config, ← Styleguide.build v config files) : Report _).Steady :=
    (Styleguide.steady_discover _ _).bind fun _ => hbuild _ _
  rw [prepare, Report.outcome_bind hdiscover]
  congr 1
  funext config
  rw [Report.outcome_bind (hbuild config)]
  congr 1
  funext files
  rw [Report.outcome_bind fun _ => Report.steady_pure _]
  rfl

theorem prepare_eq_ok : (prepare flags directory v).outcome.1 = .ok (config, guide) ↔
    ∃ files, Prepared flags directory v config files guide := by
  rw [outcome_prepare]
  simp only [Except.bind_eq_ok]
  constructor
  · rintro ⟨config', hload, files, hfiles, guide', hguide, hreturn⟩
    cases hreturn
    exact ⟨files, hload, hfiles, hguide⟩
  · rintro ⟨files, hload, hfiles, hguide⟩
    exact ⟨config, hload, files, hfiles, guide, hguide, rfl⟩

theorem run_of_failed {fault : Fault} (h : (prepare flags directory v).outcome.1 = .error fault)
    (notes : List Note) : ∃ later, run flags directory ⟨v, notes⟩ = (.error fault, ⟨v, later⟩) := by
  obtain ⟨later, hread⟩ := Work.reading_eq _ (steady_prepare flags directory v) h notes
  exact ⟨later, Step.bind_of_error hread⟩

/-- What is left of a run that is not dry when the pages are built. -/
def finish (config : Config) (directory : Path) (guide : Styleguide) : Work Unit := do
  let renderer ← Work.reading fun v => Renderer.load v config directory
  renderer.write guide
  Work.note .info .program ("styleguide written to " ++ config.dest.spelling)

theorem run_of_prepared (h : Prepared flags directory v config files guide) (notes : List Note) :
    ∃ later, run flags directory ⟨v, notes⟩ =
      if config.dryRun then (checkDryRun guide, ⟨v, later⟩)
      else finish config directory guide ⟨v, later⟩ := by
  obtain ⟨later, hread⟩ := Work.reading_eq _ (steady_prepare flags directory v)
    (prepare_eq_ok.mpr ⟨files, h⟩) notes
  refine ⟨later, (Step.bind_of_ok hread).trans ?_⟩
  cases hdry : config.dryRun <;> simp only [hdry] <;> rfl

section

variable {r : Renderer} {fault : Fault}

theorem finish_of_error (h : (Renderer.load v config directory).outcome.1 = .error fault)
    (notes : List Note) :
    ∃ later, finish config directory guide ⟨v, notes⟩ = (.error fault, ⟨v, later⟩) := by
  obtain ⟨later, hread⟩ := Work.reading_eq (Renderer.load · config directory)
    (Renderer.steady_load v config directory) h notes
  exact ⟨later, Step.bind_of_error hread⟩

theorem finish_of_writeIndex (h : (Renderer.load v config directory).outcome.1 = .ok r)
    (hindex : Errand.via Volume.serve (r.writeIndex guide) v = (.error fault, v))
    (notes : List Note) :
    ∃ later, finish config directory guide ⟨v, notes⟩ = (.error fault, ⟨v, later⟩) := by
  obtain ⟨middle, hread⟩ := Work.reading_eq (Renderer.load · config directory)
    (Renderer.steady_load v config directory) h notes
  obtain ⟨later, hwrite⟩ := Work.doing_of_error hindex middle
  refine ⟨later, (Step.bind_of_ok hread).trans (Step.bind_of_error ?_)⟩
  rw [Renderer.write_eq]
  exact Step.bind_of_error hwrite

theorem via_writeIndex_of_unrendered {page : Page}
    (h : (Renderer.index v r.config).outcome.1 = .ok page)
    (hrender : r.render guide page = .error fault) :
    Errand.via Volume.serve (r.writeIndex guide) v = (.error fault, v) := by
  rw [Renderer.via_writeIndex h, hrender]
  rfl

end

-- ---------------------------------------------------------------------------
-- Nothing is changed
-- ---------------------------------------------------------------------------

/-- A run changes nothing if it is dry or fails in what is left of it behind the pages. -/
theorem volume_of_run
    (h : ∀ {config : Config} {files : List Path} {guide : Styleguide},
      Prepared flags directory v config files guide → config.dryRun = false → ∀ notes,
      ∃ fault later, finish config directory guide ⟨v, notes⟩ = (.error fault, ⟨v, later⟩))
    (notes : List Note) : (run flags directory ⟨v, notes⟩).2.volume = v := by
  cases hprepare : (prepare flags directory v).outcome.1 with
  | error fault =>
    obtain ⟨later, hrun⟩ := run_of_failed hprepare notes
    rw [hrun]
  | ok prepared =>
    obtain ⟨config, guide⟩ := prepared
    obtain ⟨files, hprepared⟩ := prepare_eq_ok.mp hprepare
    obtain ⟨middle, hrun⟩ := run_of_prepared hprepared notes
    rw [hrun]
    split
    · rfl
    · next hdry =>
      obtain ⟨fault, later, hfinish⟩ := h hprepared (by simpa using hdry) middle
      rw [hfinish]

section

variable {config' : Config} {files' : List Path} {guide' : Styleguide}

theorem Prepared.unique (h : Prepared flags directory v config files guide)
    (h' : Prepared flags directory v config' files' guide') :
    config = config' ∧ files = files' ∧ guide = guide' := by
  obtain rfl : config = config' := Except.ok.inj (h.load.symm.trans h'.load)
  obtain rfl : files = files' := Except.ok.inj (h.discover.symm.trans h'.discover)
  exact ⟨rfl, rfl, Except.ok.inj (h.build.symm.trans h'.build)⟩

end

theorem volume_of_stops (h : Stops flags directory v) (notes : List Note) :
    (run flags directory ⟨v, notes⟩).2.volume = v := by
  refine volume_of_run ?_ notes
  intro config files guide hprepared hwet
  cases h with
  | load failed =>
    rw [hprepared.load] at failed
    cases failed
  | discover load failed =>
    obtain rfl := Except.ok.inj (hprepared.load.symm.trans load)
    rw [hprepared.discover] at failed
    cases failed
  | build load discover failed =>
    obtain rfl := Except.ok.inj (hprepared.load.symm.trans load)
    obtain rfl := Except.ok.inj (hprepared.discover.symm.trans discover)
    rw [hprepared.build] at failed
    cases failed
  | dry load dry =>
    obtain rfl := Except.ok.inj (hprepared.load.symm.trans load)
    rw [hwet] at dry
    cases dry
  | renderer prepared failed =>
    obtain ⟨rfl, rfl, rfl⟩ := hprepared.unique prepared
    exact fun notes => ⟨_, finish_of_error failed notes⟩
  | index prepared renderer failed =>
    obtain ⟨rfl, rfl, rfl⟩ := hprepared.unique prepared
    rw [← (Renderer.load_eq_ok renderer).1] at failed
    exact fun notes =>
      ⟨_, finish_of_writeIndex renderer (Renderer.via_writeIndex_of_error failed) notes⟩
  | render prepared renderer index failed =>
    obtain ⟨rfl, rfl, rfl⟩ := hprepared.unique prepared
    rw [← (Renderer.load_eq_ok renderer).1] at index
    exact fun notes =>
      ⟨_, finish_of_writeIndex renderer (via_writeIndex_of_unrendered index failed) notes⟩

-- ---------------------------------------------------------------------------
-- Dry runs
-- ---------------------------------------------------------------------------

/-- A source with at least one comment, as the settings tell comments. -/
def Annotated (v : Volume) (config : Config) (path : Path) : Prop :=
  ∃ delimiters file, config.delimiters = .ok delimiters ∧ SourceFile.read v path = .ok file ∧
    delimiters.blocks file.text ≠ []

theorem checkDryRun_eq_ok : checkDryRun guide = .ok () ↔ guide.excluded = [] := by
  rw [checkDryRun]
  cases guide.excluded <;> simp

theorem delimiters_of_layout {layout : Layout} (h : config.layout = .ok layout) :
    config.delimiters = .ok layout.delimiters := by
  obtain ⟨delimiters, hdelimiters, hlayout⟩ := Except.bind_eq_ok.mp h
  cases hlayout
  exact hdelimiters

theorem annotated_iff {layout : Layout} {path : Path} {file : SourceFile}
    (hlayout : config.layout = .ok layout) (hread : SourceFile.read v path = .ok file) :
    Annotated v config path ↔ layout.delimiters.blocks file.text ≠ [] := by
  have hdelimiters := delimiters_of_layout hlayout
  constructor
  · rintro ⟨delimiters, other, hother, hfile, hblocks⟩
    obtain rfl := Except.ok.inj (hdelimiters.symm.trans hother)
    obtain rfl := Except.ok.inj (hread.symm.trans hfile)
    exact hblocks
  · exact fun hblocks => ⟨_, _, hdelimiters, hread, hblocks⟩

theorem excluded_eq_false_iff {layout : Layout} {path : Path} {file : SourceFile} {page : Page}
    (hdry : config.dryRun = true) (hlayout : config.layout = .ok layout)
    (hread : SourceFile.read v path = .ok file) (hbuild : Styleguide.Builds layout file page) :
    page.excluded = false ↔ Annotated v config path := by
  rw [hbuild.excluded hlayout, annotated_iff hlayout hread, Styleguide.leavesOut, hdry,
    Bool.or_true, Bool.true_and, List.isEmpty_eq_false_iff]

theorem excluded_eq_nil_iff (hdry : config.dryRun = true)
    (h : (Styleguide.build v config files).outcome.1 = .ok guide) :
    guide.excluded = [] ↔ ∀ path ∈ files, Annotated v config path := by
  obtain ⟨layout, built, -, hlayout, hbuilt, -, -, hexcluded, -⟩ := Styleguide.build_eq_ok h
  obtain ⟨sources, hreads, hbuilds⟩ := Styleguide.exists_sources hbuilt
  rw [hexcluded, List.map_eq_nil_iff, List.filter_eq_nil_iff]
  simp only [Bool.not_eq_true]
  clear hexcluded hbuilt h
  induction hbuilds generalizing files with
  | nil =>
    cases hreads
    simp
  | cons hbuild _ ih =>
    cases hreads with
    | cons hread hreads =>
      rw [List.forall_mem_cons, List.forall_mem_cons, ih hreads,
        excluded_eq_false_iff hdry hlayout hread hbuild]

theorem run_dry_eq_ok (hdry : ∀ config, Config.load v flags directory = .ok config →
      config.dryRun = true) (notes : List Note) :
    (run flags directory ⟨v, notes⟩).1 = .ok () ↔ ∃ config files guide,
      Prepared flags directory v config files guide ∧
        ∀ path ∈ files, Annotated v config path := by
  cases hprepare : (prepare flags directory v).outcome.1 with
  | error fault =>
    obtain ⟨later, hrun⟩ := run_of_failed hprepare notes
    simp only [hrun, reduceCtorEq, false_iff]
    rintro ⟨config, files, guide, hprepared, -⟩
    rw [prepare_eq_ok.mpr ⟨files, hprepared⟩] at hprepare
    cases hprepare
  | ok prepared =>
    obtain ⟨config, guide⟩ := prepared
    obtain ⟨files, hprepared⟩ := prepare_eq_ok.mp hprepare
    have hconfig := hdry config hprepared.load
    obtain ⟨later, hrun⟩ := run_of_prepared hprepared notes
    rw [hrun, if_pos hconfig, checkDryRun_eq_ok, excluded_eq_nil_iff hconfig hprepared.build]
    constructor
    · exact fun h => ⟨config, files, guide, hprepared, h⟩
    · rintro ⟨config', files', guide', hprepared', h⟩
      obtain ⟨rfl, rfl, rfl⟩ := hprepared.unique hprepared'
      exact h

end

/-- A run that is dry, or that fails before there is a document of the index, changes
nothing. A dry run succeeds just if the settings are loaded, the sources are found, their
pages are built, and each of the sources has a comment. -/
theorem run_before_writing (flags : Flags) (directory : Path) (v : Volume) (notes : List Note) :
    (Stops flags directory v → (run flags directory ⟨v, notes⟩).2.volume = v) ∧
    ((∀ config, Config.load v flags directory = .ok config → config.dryRun = true) →
      ((run flags directory ⟨v, notes⟩).1 = .ok () ↔ ∃ config files guide,
        Config.load v flags directory = .ok config ∧
        (Styleguide.discover v config).outcome.1 = .ok files ∧
        (Styleguide.build v config files).outcome.1 = .ok guide ∧
        ∀ path ∈ files, Annotated v config path)) := by
  refine ⟨fun h => volume_of_stops h notes, fun hdry => ?_⟩
  rw [run_dry_eq_ok hdry]
  constructor
  · rintro ⟨config, files, guide, ⟨hload, hfiles, hguide⟩, h⟩
    exact ⟨config, files, guide, hload, hfiles, hguide, h⟩
  · rintro ⟨config, files, guide, hload, hfiles, hguide, h⟩
    exact ⟨config, files, guide, ⟨hload, hfiles, hguide⟩, h⟩

/-- A dry run over a source without comments fails, and leaves all files as they were. -/
theorem run_before_writing_bare :
    let flags := Flags.ofGiven [⟨.dryRun, []⟩]
    let v := (Volume.mk [] []).plant ["assets".toList, "a.css".toList]
      (.file (Text.toBytes "a"))
    Stops flags "/" v ∧ (run flags "/" ⟨v, []⟩).2.volume = v ∧
      (run flags "/" ⟨v, []⟩).1 ≠ .ok () := by
  intro flags v
  have hprepare : (do
      let config ← (Config.load v flags "/").toOption
      let files ← (Styleguide.discover v config).outcome.1.toOption
      let delimiters ← config.delimiters.toOption
      let file ← (SourceFile.read v "/assets/a.css").toOption
      guard (config.dryRun = true ∧ files = ["/assets/a.css"] ∧
        delimiters.blocks file.text = [])) = some () := by
    decide +kernel
  obtain ⟨config, hload, hprepare⟩ := Option.bind_eq_some_iff.mp hprepare
  obtain ⟨files, hfiles, hprepare⟩ := Option.bind_eq_some_iff.mp hprepare
  obtain ⟨delimiters, hdelimiters, hprepare⟩ := Option.bind_eq_some_iff.mp hprepare
  obtain ⟨file, hfile, hprepare⟩ := Option.bind_eq_some_iff.mp hprepare
  obtain ⟨hdry, rfl, hblocks⟩ := (Option.guard_eq_some' _).mp hprepare
  simp only [Except.toOption_eq_some] at hload hfiles hdelimiters hfile
  have hstops : Stops flags "/" v := .dry hload hdry
  obtain ⟨hvolume, hok⟩ := run_before_writing flags "/" v []
  refine ⟨hstops, hvolume hstops, fun h => ?_⟩
  have hdry' (other : Config) (hother : Config.load v flags "/" = .ok other) :
      other.dryRun = true := by
    obtain rfl := Except.ok.inj (hload.symm.trans hother)
    exact hdry
  obtain ⟨other, files, -, hother, hsources, -, hall⟩ := (hok hdry').mp h
  obtain rfl := Except.ok.inj (hload.symm.trans hother)
  obtain rfl := Except.ok.inj (hfiles.symm.trans hsources)
  obtain ⟨read, text, hread, htext, hsome⟩ := hall _ List.mem_cons_self
  obtain rfl := Except.ok.inj (hdelimiters.symm.trans hread)
  obtain rfl := Except.ok.inj (hfile.symm.trans htext)
  exact hsome hblocks

end Program

end Swatchbook
