import Swatchbook.Flags
import Swatchbook.Renderer

/-!
# The program

One run: flags and configuration file, discovery, building, and writing unless
the run is dry. A dry run fails if any source has no comments.
-/

namespace Swatchbook

namespace Config

def fileName : Path := "sassdown.toml"

def read (v : Volume) (path : Path) : Except Fault Config :=
  match v.readText path with
  | .error trouble => .error (trouble.fault.chain
      (.of "failed to read configuration file" [("path", path.spelling)]))
  | .ok text =>
    Except.under (parse text) (.of "invalid configuration file" [("path", path.spelling)])

/-- Flags override settings. Assets and scripts are added to those of the file, and
switches can only be turned on. -/
def apply (config : Config) (flags : Flags) : Config :=
  { config with
    src := (flags.src.map Path.mk).getD config.src
    dest := (flags.dest.map Path.mk).getD config.dest
    files := if flags.files.isEmpty then config.files else flags.files
    commentStart := flags.commentStart.getD config.commentStart
    commentEnd := flags.commentEnd.getD config.commentEnd
    excludeMissing := config.excludeMissing || flags.excludeMissing
    dryRun := config.dryRun || flags.dryRun
    title := flags.title.getD config.title
    readme := (flags.readme.map Path.mk).or config.readme
    template := (flags.template.map Path.mk).or config.template
    theme := (flags.theme.map Path.mk).or config.theme
    highlight := flags.highlight.getD config.highlight
    assets := config.assets ++ flags.assets
    scripts := config.scripts ++ flags.scripts }

/-- The configuration file that is named, or else the one of the directory if there
is one, or else the defaults. -/
def ofFile (v : Volume) (named : Option Text) (directory : Path) : Except Fault Config :=
  match named with
  | some path => read v (directory.join ⟨path⟩)
  | none =>
    if v.isFile (directory.join fileName) then read v (directory.join fileName) else .ok {}

def load (v : Volume) (flags : Flags) (directory : Path) : Except Fault Config := do
  let config ← ofFile v flags.config directory
  return (config.apply flags).absolutize directory

end Config

namespace Program

/-- What a dry run reports: how many sources have no comments, and then each of them. -/
def checkDryRun (guide : Styleguide) : Except Fault Unit :=
  if guide.excluded.isEmpty then .ok ()
  else .error (guide.excluded.foldl
    (fun fault path => (Fault.of ("comment missing: " ++ path.spelling) []).chain fault)
    (.of (Text.ofNat guide.excluded.length ++ " file(s) missing annotation comments") []))

def prepare (flags : Flags) (directory : Path) (v : Volume) : Report (Config × Styleguide) := do
  let config ← Report.ofExcept (Config.load v flags directory)
  let files ← Styleguide.discover v config
  return (config, ← Styleguide.build v config files)

def run (flags : Flags) (directory : Path) : Work Unit := do
  let (config, guide) ← Work.reading (prepare flags directory)
  if config.dryRun then Work.reading fun _ => Report.ofExcept (checkDryRun guide)
  else
    let renderer ← Work.reading fun v => Renderer.load v config directory
    renderer.write guide
    Work.note .info .program ("styleguide written to " ++ config.dest.spelling)

/-- The longest beginning of a pattern without wildcards. -/
def literalStem (pattern : Path) : Path :=
  .ofParts (pattern.parts.takeWhile fun part => !part.text.any fun c => c == '*' || c == '?' || c == '[')

/-- The paths at and below which a run can find something. -/
def reachedBy (config : Config) (directory : Path) : List Path :=
  let includes := (config.assets ++ config.scripts).filter fun entry => !isUrl entry
  let patterns := config.files.map (fun pattern => config.src.join ⟨pattern⟩) ++
    includes.map fun entry => directory.join ⟨entry⟩
  [config.src, config.dest] ++ [config.readme, config.template, config.theme].filterMap id ++
    patterns.map literalStem

def settingsFile (flags : Flags) (directory : Path) : Path :=
  directory.join ((flags.config.map Path.mk).getD Config.fileName)

/-- What the program leaves: an exit status, its two outputs, and the volume. -/
structure Outcome where
  status : Nat
  out : Text
  err : Text
  volume : Volume

/-- Notes below warnings are told only if asked for. -/
def isTold (flags : Flags) (note : Note) : Bool := flags.verbose || note.level == .warn

def tell (flags : Flags) (notes : List Note) : Text :=
  (notes.filter (isTold flags)).flatMap fun note => note.line ++ "\n"

/-- The program with its arguments. A bad argument has status two, a fault one. -/
def execute (arguments : List Text) (directory : Path) (v : Volume) : Outcome :=
  match Flags.read arguments with
  | .error .help => ⟨0, Flags.help, [], v⟩
  | .error fault => ⟨2, [], fault.message ++ "\n", v⟩
  | .ok flags =>
    let (result, session) := run flags directory ⟨v, []⟩
    let told := tell flags session.notes
    match result with
    | .ok () => ⟨0, [], told, session.volume⟩
    | .error fault => ⟨1, [], told ++ "error: " ++ fault.display, session.volume⟩

end Program

end Swatchbook
