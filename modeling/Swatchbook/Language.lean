import Swatchbook.Pattern.Reader

/-!
# Languages of snippets

The languages that code can be shown in, and how one is chosen: by the
extension of a file, by the label of a fence, or by what the code holds. Where
several languages share an extension or a name the last of them is taken.
-/

namespace Swatchbook

structure Language where
  name : String
  scope : String
  extensions : List String

namespace Language

def all : List Language := [
  ⟨"Plain Text", "text plain", ["txt"]⟩,
  ⟨"ASP", "source asp", ["asa"]⟩,
  ⟨"HTML (ASP)", "text html asp", ["asp"]⟩,
  ⟨"ActionScript", "source actionscript 2", ["as"]⟩,
  ⟨"AppleScript", "source applescript", ["applescript", "script editor"]⟩,
  ⟨"Batch File", "source dosbatch", ["bat", "cmd"]⟩,
  ⟨"NAnt Build File", "source nant-build", ["build"]⟩,
  ⟨"C#", "source cs", ["cs", "csx"]⟩,
  ⟨"C++", "source c++", ["cpp", "cc", "cp", "cxx", "c++", "C", "h", "hh", "hpp", "hxx", "h++",
    "inl", "ipp"]⟩,
  ⟨"C", "source c", ["c", "h"]⟩,
  ⟨"CSS", "source css", ["css", "css.erb", "css.liquid"]⟩,
  ⟨"Clojure", "source clojure", ["clj"]⟩,
  ⟨"D", "source d", ["d", "di"]⟩,
  ⟨"Diff", "source diff", ["diff", "patch"]⟩,
  ⟨"Erlang", "source erlang", ["erl", "hrl", "Emakefile", "emakefile"]⟩,
  ⟨"HTML (Erlang)", "text html erlang yaws", ["yaws"]⟩,
  ⟨"Go", "source go", ["go"]⟩,
  ⟨"Graphviz (DOT)", "source dot", ["dot", "DOT", "gv"]⟩,
  ⟨"Groovy", "source groovy", ["groovy", "gvy", "gradle"]⟩,
  ⟨"HTML", "text html basic", ["html", "htm", "shtml", "xhtml", "inc", "tmpl", "tpl"]⟩,
  ⟨"Haskell", "source haskell", ["hs"]⟩,
  ⟨"Literate Haskell", "text tex latex haskell", ["lhs"]⟩,
  ⟨"Java Server Page (JSP)", "text html jsp", ["jsp"]⟩,
  ⟨"Java", "source java", ["java", "bsh"]⟩,
  ⟨"JavaDoc", "text html javadoc", []⟩,
  ⟨"Java Properties", "source java-props", ["properties"]⟩,
  ⟨"JSON", "source json", ["json", "sublime-settings", "sublime-menu", "sublime-keymap",
    "sublime-mousemap", "sublime-theme", "sublime-build", "sublime-project",
    "sublime-completions", "sublime-commands", "sublime-macro", "sublime-color-scheme"]⟩,
  ⟨"JavaScript", "source js", ["js", "htc"]⟩,
  ⟨"Regular Expressions (Javascript)", "source regexp js", []⟩,
  ⟨"BibTeX", "text bibtex", ["bib"]⟩,
  ⟨"LaTeX Log", "text log latex", []⟩,
  ⟨"LaTeX", "text tex latex", ["tex", "ltx"]⟩,
  ⟨"TeX", "text tex", ["sty", "cls"]⟩,
  ⟨"Lisp", "source lisp", ["lisp", "cl", "clisp", "l", "mud", "el", "scm", "ss", "lsp", "fasl"]⟩,
  ⟨"Lua", "source lua", ["lua"]⟩,
  ⟨"Make Output", "source build_output", []⟩,
  ⟨"Makefile", "source makefile", ["make", "GNUmakefile", "makefile", "Makefile",
    "OCamlMakefile", "mak", "mk"]⟩,
  ⟨"Markdown", "text html markdown", ["md", "mdown", "markdown", "markdn"]⟩,
  ⟨"MultiMarkdown", "text html markdown multimarkdown", []⟩,
  ⟨"MATLAB", "source matlab", ["matlab"]⟩,
  ⟨"OCaml", "source ocaml", ["ml", "mli"]⟩,
  ⟨"OCamllex", "source ocamllex", ["mll"]⟩,
  ⟨"OCamlyacc", "source ocamlyacc", ["mly"]⟩,
  ⟨"camlp4", "source camlp4 ocaml", []⟩,
  ⟨"Objective-C++", "source objc++", ["mm", "M", "h"]⟩,
  ⟨"Objective-C", "source objc", ["m", "h"]⟩,
  ⟨"PHP Source", "source php", []⟩,
  ⟨"PHP", "embedding php", ["php", "php3", "php4", "php5", "php7", "phps", "phpt", "phtml"]⟩,
  ⟨"Pascal", "source pascal", ["pas", "p", "dpr"]⟩,
  ⟨"Perl", "source perl", ["pl", "pm", "pod", "t", "PL"]⟩,
  ⟨"Python", "source python", ["py", "py3", "pyw", "pyi", "pyx", "pyx.in", "pxd", "pxd.in",
    "pxi", "pxi.in", "rpy", "cpy", "SConstruct", "Sconstruct", "sconstruct", "SConscript", "gyp",
    "gypi", "Snakefile", "wscript"]⟩,
  ⟨"Regular Expressions (Python)", "source regexp python", []⟩,
  ⟨"R Console", "source r-console", []⟩,
  ⟨"R", "source r", ["R", "r", "s", "S", "Rprofile"]⟩,
  ⟨"Rd (R Documentation)", "text tex latex rd", ["rd"]⟩,
  ⟨"HTML (Rails)", "text html ruby", ["rails", "rhtml", "erb", "html.erb"]⟩,
  ⟨"JavaScript (Rails)", "source js rails", ["js.erb"]⟩,
  ⟨"Ruby Haml", "text haml", ["haml", "sass"]⟩,
  ⟨"Ruby on Rails", "source ruby rails", ["rxml", "builder"]⟩,
  ⟨"SQL (Rails)", "source sql ruby", ["erbsql", "sql.erb"]⟩,
  ⟨"Regular Expression", "source regexp", ["re"]⟩,
  ⟨"reStructuredText", "text restructuredtext", ["rst", "rest"]⟩,
  ⟨"Ruby", "source ruby", ["rb", "Appfile", "Appraisals", "Berksfile", "Brewfile", "capfile",
    "cgi", "Cheffile", "config.ru", "Deliverfile", "Fastfile", "fcgi", "Gemfile", "gemspec",
    "Guardfile", "irbrc", "jbuilder", "podspec", "prawn", "rabl", "rake", "Rakefile", "Rantfile",
    "rbx", "rjs", "ruby.rail", "Scanfile", "simplecov", "Snapfile", "thor", "Thorfile",
    "Vagrantfile"]⟩,
  ⟨"Cargo Build Results", "source build_results", []⟩,
  ⟨"Rust", "source rust", ["rs"]⟩,
  ⟨"SQL", "source sql", ["sql", "ddl", "dml"]⟩,
  ⟨"Scala", "source scala", ["scala", "sbt"]⟩,
  ⟨"Bourne Again Shell (bash)", "source shell bash", ["sh", "bash", "zsh", "fish",
    ".bash_aliases", ".bash_completions", ".bash_functions", ".bash_login", ".bash_logout",
    ".bash_profile", ".bash_variables", ".bashrc", ".profile", ".textmate_init"]⟩,
  ⟨"Shell-Unix-Generic", "source shell", []⟩,
  ⟨"commands-builtin-shell-bash", "commands builtin shell bash", []⟩,
  ⟨"HTML (Tcl)", "text html tcl", ["adp"]⟩,
  ⟨"Tcl", "source tcl", ["tcl"]⟩,
  ⟨"Textile", "text html textile", ["textile"]⟩,
  ⟨"XML", "text xml", ["xml", "xsd", "xslt", "tld", "dtml", "rss", "opml", "svg"]⟩,
  ⟨"YAML", "source yaml", ["yaml", "yml", "sublime-syntax"]⟩]

def plain : Language := ⟨"Plain Text", "text plain", ["txt"]⟩

def last? (p : Language → Bool) : Option Language := all.reverse.find? p

def byExtension? (extension : Text) : Option Language :=
  last? fun language => language.extensions.any fun e => Text.Case.eqAscii e extension

def byName? (name : Text) : Option Language :=
  last? fun language => Text.Case.eqAscii language.name name

/-- A label is an extension or else a name. -/
def byLabel? (label : Text) : Option Language := (byExtension? label).or (byName? label)

/-- What gives a language away: a pattern found anywhere in the code, or the
envelope of a message, whose element and attribute share a name. -/
inductive Signature
  | found (pattern : String)
  | envelope

/-- In the order in which they are tried. -/
def signatures : List (String × Signature) := [
  ("YAML", .found "^%YAML( ?1.\\d+)?"),
  ("XML", .found "^<\\?xml\\s"),
  ("XML", .envelope),
  ("Textile", .found "textile"),
  ("Bourne Again Shell (bash)", .found "^#!.*\\b(bash|zsh|sh|tcsh)\\b"),
  ("Bourne Again Shell (bash)", .found "^#\\s*-\\*-[^*]*mode:\\s*shell-script[^*]*-\\*-"),
  ("Ruby", .found "^#!\\s*/.*\\bj?ruby\\b"),
  ("Python", .found "^#!\\s*/.*\\bpython(\\d(\\.\\d)?)?\\b"),
  ("Perl", .found "^#!.*\\bperl\\b"),
  ("PHP", .found "^(#!.*[^-]php[0-9]?|<\\?php)\\b"),
  ("MultiMarkdown", .found "(?i)^format:\\s*complete\\s*$"),
  ("Makefile", .found "^#!\\s*/usr/bin/make\\b"),
  ("LaTeX Log", .found "This is (pdf|pdfe)?TeXk?, Version "),
  ("JavaScript", .found "^#!\\s*/.*\\b(node|js)\\b"),
  ("HTML", .found "(?i)<(!DOCTYPE\\s*)?html"),
  ("Go", .found "-[*]-( Mode:)? Go -[*]-"),
  ("Diff", .found "^(=== modified file|====\\s*//.+\\s-\\s.+\\s+====|Index: |--- [^%]|\\*\\*\\*.*\\d\x7b4\x7d\\s*$|\\d+(,\\d+)*(a|d|c)\\d+(,\\d+)*$|diff --git )"),
  ("D", .found "^#!.*\\bg?dmd\\b."),
  ("C", .found "-[*]-( Mode:)? C -[*]-"),
  ("C++", .found "-\\*- C\\+\\+ -\\*-"),
  ("AppleScript", .found "^#!.*(osascript)")]

/-- The letters of words in signatures: numbers of every kind are among them, joiners are not. -/
def letters : Class :=
  .union (.category "L") (.union (.category "M") (.union (.category "N") (.category "Pc")))

/-- Patterns are read so that their edges are those of lines. -/
def holdsPattern (pattern : Text) (code : Text) : Bool :=
  match Pattern.readWith { Pattern.Modes.initial with letters, multiLine := true } pattern with
  | .ok p => p.isIn code
  | .error _ => false

def opensEnvelope (line : Text) : Bool :=
  match Text.trimStart line with
  | '<' :: t =>
    let isName := fun c => letters.has c || c == '-'
    let name := t.takeWhile isName
    let rest := t.dropWhile isName
    let hyphens : Text := name.flatMap fun c => if c == '-' then ['\\', c] else [c]
    name != [] && holdsPattern ("\\A:Envelope\\s+xmlns:" ++ hyphens ++
      "\\s*=\\s*\"http://schemas.xmlsoap.org/soap/envelope/\"\\s*>") rest
  | _ => false

def holdsEnvelope : Bool → Text → Bool
  | _, [] => false
  | lineStart, c :: t => (lineStart && opensEnvelope (c :: t)) || holdsEnvelope (c == '\n') t

def Signature.isIn (code : Text) : Signature → Bool
  | .found pattern => holdsPattern pattern code
  | .envelope => holdsEnvelope true code

/-- The language that the code itself gives away; a byte order mark at its
beginning does not count. -/
def byContent? (code : Text) : Option Language :=
  let code := Text.dropLead ['\ufeff'] code
  (signatures.find? fun (_, signature) => signature.isIn code).bind fun (name, _) => byName? name

end Language

/-- What is known about a snippet before it is looked at. -/
inductive Snippet
  /-- Example markup. -/
  | markup
  /-- Stylesheet source, by its file extension. Unknown dialects are taken for CSS. -/
  | stylesheet (extension : Text)
  /-- A code block with or without a label. -/
  | block (label : Option Text)

def Snippet.language (snippet : Snippet) (code : Text) : Language :=
  let found := match snippet with
    | .markup => Language.byLabel? "html"
    | .stylesheet extension => (Language.byExtension? extension).or (Language.byLabel? "css")
    | .block (some label) =>
      match Language.byLabel? label with
      | some language => some language
      | none => Language.byContent? code
    | .block none => Language.byContent? code
  found.getD .plain

namespace Highlight

def escapeChar : Char → Text
  | '<' => "&lt;"
  | '>' => "&gt;"
  | '&' => "&amp;"
  | '\x27' => "&#39;"
  | '"' => "&quot;"
  | c => [c]

def escape (code : Text) : Text := code.flatMap escapeChar

/-- A block of code marked with the scope of its language. Empty code has no scope. -/
def render (snippet : Snippet) (code : Text) : Text :=
  let scope : Text := if code.isEmpty then [] else (snippet.language code).scope.toList
  "<pre class=\"highlight\" data-scope=\"" ++ scope ++ "\"><code>" ++ escape code ++
    "</code></pre>"

/-- In the order in which they are offered. -/
def themes : List Text :=
  ["InspiredGitHub", "Solarized (dark)", "Solarized (light)", "base16-eighties.dark",
    "base16-mocha.dark", "base16-ocean.dark", "base16-ocean.light"]

def defaultTheme : Text := "InspiredGitHub"

def stylesheet? (name : Text) : Option Text :=
  if themes.contains name then some ("/*highlight theme " ++ name ++ "*/") else none

end Highlight

end Swatchbook
