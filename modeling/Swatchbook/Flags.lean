import Swatchbook.Text.Property

/-!
# Command-line flags

Arguments are read from left to right. A flag that takes a value takes the
next argument, whatever it is. The first unreadable argument decides; a flag
that was given too often is found only after all arguments were read.
-/

namespace Swatchbook

inductive Flag
  | config | src | dest | files | title | readme | template | theme | highlight
  | asset | script | commentStart | commentEnd | excludeMissing | dryRun | verbose
  deriving DecidableEq

namespace Flag

/-- The order of the help text, and of the search for flags given twice. -/
def all : List Flag :=
  [.config, .src, .dest, .files, .title, .readme, .template, .theme, .highlight,
    .asset, .script, .commentStart, .commentEnd, .excludeMissing, .dryRun, .verbose]

def long : Flag → Text
  | .config => "--config"
  | .src => "--src"
  | .dest => "--dest"
  | .files => "--files"
  | .title => "--title"
  | .readme => "--readme"
  | .template => "--template"
  | .theme => "--theme"
  | .highlight => "--highlight"
  | .asset => "--asset"
  | .script => "--script"
  | .commentStart => "--comment-start"
  | .commentEnd => "--comment-end"
  | .excludeMissing => "--exclude-missing"
  | .dryRun => "--dry-run"
  | .verbose => "--verbose"

def short? : Flag → Option Text
  | .config => some "-c"
  | .src => some "-s"
  | .dest => some "-d"
  | .files => some "-f"
  | .dryRun => some "-n"
  | .verbose => some "-v"
  | _ => none

/-- What a flag's value is, if it takes one. -/
def value? : Flag → Option Text
  | .config | .readme | .template | .theme => some "path"
  | .src | .dest => some "dir"
  | .files => some "glob"
  | .title => some "title"
  | .highlight => some "name"
  | .asset => some "asset"
  | .script => some "script"
  | .commentStart | .commentEnd => some "regex"
  | .excludeMissing | .dryRun | .verbose => none

def isRepeated : Flag → Bool
  | .files | .asset | .script => true
  | _ => false

def help : Flag → Text
  | .config => "Configuration file. Defaults to `sassdown.toml` if it exists."
  | .src => "Directory containing the stylesheets."
  | .dest => "Directory to write the styleguide to."
  | .files => "Glob, relative to the source directory, selecting stylesheets."
  | .title => "Title of the styleguide."
  | .readme => "Markdown file rendered as the index page."
  | .template => "Page template."
  | .theme => "Stylesheet for the styleguide itself."
  | .highlight => "Syntax highlighting theme."
  | .asset => "Stylesheet to include in every page: a glob or a URL."
  | .script => "Script to include in every page: a glob or a URL."
  | .commentStart => "Regex matching the start of an annotation comment."
  | .commentEnd => "Regex matching the end of an annotation comment."
  | .excludeMissing => "Leave stylesheets without annotation comments out."
  | .dryRun => "Build without writing anything; fail if any stylesheet lacks comments."
  | .verbose => "Log progress for every file."

def named? (argument : Text) : Option Flag :=
  all.find? fun flag => flag.long == argument || flag.short? == some argument

end Flag

inductive FlagFault
  | help
  | unexpectedFlag (argument : Text)
  | unexpectedArgument (argument : Text)
  | missingValue (argument : Text)
  | repeated (flag : Flag)
  deriving DecidableEq

def FlagFault.message : FlagFault → Text
  | .help => []
  | .unexpectedFlag argument => "unexpected flag: `" ++ argument ++ "`"
  | .unexpectedArgument argument => "unexpected argument: " ++ Text.Quoted.quote argument
  | .missingValue argument => "expected a value for `" ++ argument ++ "`"
  | .repeated flag => "flag specified more than once: `" ++ flag.long ++ "`"

structure Given where
  flag : Flag
  value : Text

namespace Flags

/-- After a lone `--` nothing is a flag any more. -/
def readRest : List Text → Except FlagFault (List Given)
  | [] => .ok []
  | argument :: _ => .error (.unexpectedArgument argument)

def readGiven : List Text → Except FlagFault (List Given)
  | [] => .ok []
  | argument :: rest =>
    if argument == ['-', '-'] then readRest rest
    else if argument.head? != some '-' then .error (.unexpectedArgument argument)
    else if argument == "-h" || argument == "--help" then .error .help
    else
      match Flag.named? argument with
      | none => .error (.unexpectedFlag argument)
      | some flag =>
        if flag.value?.isNone then (readGiven rest).map (⟨flag, []⟩ :: ·)
        else
          match rest with
          | [] => .error (.missingValue argument)
          | value :: rest => (readGiven rest).map (⟨flag, value⟩ :: ·)

def valuesOf (given : List Given) (flag : Flag) : List Text :=
  (given.filter fun g => g.flag == flag).map Given.value

end Flags

structure Flags where
  config : Option Text
  src : Option Text
  dest : Option Text
  files : List Text
  title : Option Text
  readme : Option Text
  template : Option Text
  theme : Option Text
  highlight : Option Text
  assets : List Text
  scripts : List Text
  commentStart : Option Text
  commentEnd : Option Text
  excludeMissing : Bool
  dryRun : Bool
  verbose : Bool

namespace Flags

def ofGiven (given : List Given) : Flags where
  config := (valuesOf given .config).head?
  src := (valuesOf given .src).head?
  dest := (valuesOf given .dest).head?
  files := valuesOf given .files
  title := (valuesOf given .title).head?
  readme := (valuesOf given .readme).head?
  template := (valuesOf given .template).head?
  theme := (valuesOf given .theme).head?
  highlight := (valuesOf given .highlight).head?
  assets := valuesOf given .asset
  scripts := valuesOf given .script
  commentStart := (valuesOf given .commentStart).head?
  commentEnd := (valuesOf given .commentEnd).head?
  excludeMissing := !(valuesOf given .excludeMissing).isEmpty
  dryRun := !(valuesOf given .dryRun).isEmpty
  verbose := !(valuesOf given .verbose).isEmpty

def read (arguments : List Text) : Except FlagFault Flags := do
  let given ← readGiven arguments
  match Flag.all.find? fun flag => !flag.isRepeated && 1 < (valuesOf given flag).length with
  | some flag => throw (.repeated flag)
  | none => return ofGiven given

def helpEntry (names help : Text) : Text := "    " ++ names ++ "\n      " ++ help ++ "\n\n"

def helpOf (flag : Flag) : Text :=
  let short := match flag.short? with
    | some short => short ++ ", "
    | none => []
  let value := match flag.value? with
    | some value => " <" ++ value ++ ">"
    | none => []
  helpEntry (short ++ flag.long ++ value) flag.help

def help : Text :=
  "sassdown\n  Builds a styleguide from the annotation comments in stylesheets.\n\nOPTIONS:\n" ++
    Flag.all.flatMap helpOf ++ helpEntry "-h, --help" "Prints help information."

end Flags

end Swatchbook
