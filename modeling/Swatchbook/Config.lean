import Swatchbook.Comment.Delimiters
import Swatchbook.Language
import Swatchbook.Path
import Swatchbook.Toml

/-!
# Configuration

The settings of a run. A setting that a configuration file does not mention
keeps its default; a key that names no setting, or a value of the wrong kind,
is a fault.
-/

namespace Swatchbook

structure Config where
  /-- The directory that the patterns of `files` are relative to. -/
  src : Path := "assets"
  dest : Path := "styleguide"
  files : List Text := ["**/*.scss", "**/*.sass", "**/*.css"]
  commentStart : Text := Delimiters.defaultStart
  commentEnd : Text := Delimiters.defaultStop
  /-- Whether sources without comments are left out. -/
  excludeMissing : Bool := false
  /-- Whether to build without writing. -/
  dryRun : Bool := false
  title : Text := "Styleguide"
  readme : Option Path := none
  template : Option Path := none
  theme : Option Path := none
  /-- The name of the theme of highlighted code. -/
  highlight : Text := Highlight.defaultTheme
  /-- Stylesheets of every page: patterns and remote names. -/
  assets : List Text := []
  /-- Scripts of every page: patterns and remote names. -/
  scripts : List Text := []
  deriving DecidableEq

inductive Setting
  | src | dest | files | commentStart | commentEnd | excludeMissing | dryRun | title | readme
  | template | theme | highlight | assets | scripts
  deriving DecidableEq

namespace Setting

def all : List Setting :=
  [.src, .dest, .files, .commentStart, .commentEnd, .excludeMissing, .dryRun, .title, .readme,
    .template, .theme, .highlight, .assets, .scripts]

def key : Setting → Text
  | .src => "src"
  | .dest => "dest"
  | .files => "files"
  | .commentStart => "comment-start"
  | .commentEnd => "comment-end"
  | .excludeMissing => "exclude-missing"
  | .dryRun => "dry-run"
  | .title => "title"
  | .readme => "readme"
  | .template => "template"
  | .theme => "theme"
  | .highlight => "highlight"
  | .assets => "assets"
  | .scripts => "scripts"

def named? (key : Text) : Option Setting := all.find? fun setting => setting.key == key

end Setting

inductive ConfigFault
  | malformed (fault : Toml.ReadFault)
  | unknown (key : Text)
  | wrongKind (setting : Setting)
  deriving DecidableEq

def ConfigFault.message : ConfigFault → Text
  | .malformed fault => fault.message
  | .unknown key => "unknown field `" ++ key ++ "`"
  | .wrongKind setting => "invalid type for `" ++ setting.key ++ "`"

namespace Config

def set? (config : Config) : Setting → Toml.Value → Option Config
  | .src, .text t => some { config with src := ⟨t⟩ }
  | .dest, .text t => some { config with dest := ⟨t⟩ }
  | .files, .list items => some { config with files := items }
  | .commentStart, .text t => some { config with commentStart := t }
  | .commentEnd, .text t => some { config with commentEnd := t }
  | .excludeMissing, .flag b => some { config with excludeMissing := b }
  | .dryRun, .flag b => some { config with dryRun := b }
  | .title, .text t => some { config with title := t }
  | .readme, .text t => some { config with readme := some ⟨t⟩ }
  | .template, .text t => some { config with template := some ⟨t⟩ }
  | .theme, .text t => some { config with theme := some ⟨t⟩ }
  | .highlight, .text t => some { config with highlight := t }
  | .assets, .list items => some { config with assets := items }
  | .scripts, .list items => some { config with scripts := items }
  | _, _ => none

def take (config : Config) (entry : Toml.Entry) : Except ConfigFault Config :=
  match Setting.named? entry.key with
  | none => .error (.unknown entry.key)
  | some setting =>
    match config.set? setting entry.value with
    | none => .error (.wrongKind setting)
    | some config => .ok config

def ofEntries (entries : List Toml.Entry) : Except ConfigFault Config :=
  entries.foldlM take {}

def parse (t : Text) : Except Fault Config :=
  match (Toml.read t).mapError .malformed >>= ofEntries with
  | .ok config => .ok config
  | .error fault => .error (.foreign fault.message)

/-- Whether sources without comments are left out. A dry run leaves them out so
that it can report them. -/
def excludesMissing (config : Config) : Bool := config.excludeMissing || config.dryRun

def delimiters (config : Config) : Except Fault Delimiters :=
  Delimiters.read config.commentStart config.commentEnd

def resolve (base p : Path) : Path := if p.isAbsolute then p else (base.join p).normalize

def absolutize (config : Config) (base : Path) : Config :=
  { config with
    src := resolve base config.src
    dest := resolve base config.dest
    readme := config.readme.map (resolve base)
    template := config.template.map (resolve base)
    theme := config.theme.map (resolve base) }

end Config

end Swatchbook
