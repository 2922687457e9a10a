import FileVerdict.Language.Index
import FileVerdict.Path

/-!
The built-in languages. Every lookup asks the index of the entries and answers with the first of
them that fits, so an extension that two languages share belongs to the earlier one. Extensions and
file names are matched exactly, names and lexers without regard to case.
-/

namespace FileVerdict.Language

def entries : List Entry := [
  ⟨"Text", "text", [], [".txt"], []⟩,
  ⟨"Shell", "bash", ["sh", "ksh", "zsh", "dash", "ash", "shell"],
    [".sh", ".bash", ".zsh", ".ksh"], [".bashrc", ".bash_profile", ".zshrc", ".profile"]⟩,
  ⟨"Ruby", "ruby", ["rb", "duby", "jruby"],
    [".rb", ".rake", ".gemspec", ".rbx", ".ru"],
    ["Rakefile", "Gemfile", "Guardfile", "Capfile", "Vagrantfile"]⟩,
  ⟨"Python", "python", ["py", "python2", "python3"],
    [".py", ".pyw", ".pyi"], ["SConstruct", "SConscript", "wscript"]⟩,
  ⟨"JavaScript", "javascript", ["js"], [".js", ".mjs", ".cjs"], ["Jakefile"]⟩,
  ⟨"TypeScript", "typescript", ["ts"], [".ts", ".tsx"], []⟩,
  ⟨"CoffeeScript", "coffee-script", ["coffee"], [".coffee"], ["Cakefile"]⟩,
  ⟨"Java", "java", [], [".java"], []⟩,
  ⟨"Groovy", "groovy", [], [".groovy", ".gradle"], []⟩,
  ⟨"Scala", "scala", [], [".scala", ".sbt"], []⟩,
  ⟨"Clojure", "clojure", ["clj"], [".clj", ".cljs", ".cljc"], []⟩,
  ⟨"Perl", "perl", ["pl"], [".pl", ".pm", ".t"], []⟩,
  ⟨"PHP", "php", ["php3", "php4", "php5"], [".php", ".phtml"], []⟩,
  ⟨"Lua", "lua", [], [".lua"], []⟩,
  ⟨"Tcl", "tcl", ["tclsh", "wish"], [".tcl"], []⟩,
  ⟨"Awk", "awk", ["gawk", "mawk", "nawk"], [".awk"], []⟩,
  ⟨"Erlang", "erlang", ["erl", "escript"], [".erl", ".hrl"], ["rebar.config"]⟩,
  ⟨"Elixir", "elixir", ["ex", "exs"], [".ex", ".exs"], []⟩,
  ⟨"Haskell", "haskell", ["hs", "runhaskell"], [".hs", ".lhs"], []⟩,
  ⟨"R", "r", ["rscript", "splus"], [".r", ".R"], []⟩,
  ⟨"C", "c", [], [".c", ".h"], []⟩,
  ⟨"C++", "cpp", ["c++"], [".cpp", ".cc", ".cxx", ".hpp", ".hh", ".hxx"], []⟩,
  ⟨"Objective-C", "objective-c", ["objc", "obj-c"], [".m"], []⟩,
  ⟨"Go", "go", ["golang"], [".go"], []⟩,
  ⟨"Rust", "rust", ["rs"], [".rs"], []⟩,
  ⟨"Swift", "swift", [], [".swift"], []⟩,
  ⟨"SQL", "sql", [], [".sql"], []⟩,
  ⟨"Gettext Catalog", "pot", ["po"], [".po", ".pot"], []⟩,
  ⟨"Makefile", "make", ["makefile", "mf", "bsdmake"],
    [".mak", ".mk"], ["Makefile", "GNUmakefile", "makefile"]⟩,
  ⟨"Dockerfile", "docker", ["dockerfile"], [".dockerfile"], ["Dockerfile"]⟩,
  ⟨"HTML", "html", [], [".html", ".htm", ".xhtml"], []⟩,
  ⟨"CSS", "css", [], [".css"], []⟩,
  ⟨"XML", "xml", [], [".xml", ".xib", ".plist", ".xsd"], []⟩,
  ⟨"JSON", "json", [], [".json"], []⟩,
  ⟨"YAML", "yaml", ["yml"], [".yml", ".yaml"], []⟩,
  ⟨"INI", "ini", ["cfg"], [".ini", ".cfg"], [".gitconfig", ".editorconfig"]⟩,
  ⟨"Markdown", "markdown", ["md"], [".md", ".markdown", ".mkd"], []⟩,
  ⟨"Diff", "diff", ["udiff", "patch"], [".diff", ".patch"], []⟩,
  ⟨"Batchfile", "bat", ["batch"], [".bat", ".cmd"], []⟩]

-- Irreducible, as a proof should go by what the index answers instead of making it anew.
@[irreducible]
def index : Index entries := Index.build entries

def languageAt (place : Fin entries.length) : Language := entries[place].language

def ofExtension? (extension : String) : Option Language :=
  if extension.isEmpty then none else index.byExtension[extension]?.map languageAt

def ofLexer? (lexer : String) : Option Language := index.byLexer[lowerKey lexer]?.map languageAt

def ofName? (name : String) : Option Language := index.byName[lowerKey name]?.map languageAt

/-- A file name of its own comes before the extension. -/
def ofPath (path : String) : Language :=
  ((index.byFilename[Path.basename path]?.map languageAt).or
    (ofExtension? (Path.extension path))).getD text

def catalogue : Lookup := ⟨ofExtension?, ofLexer?, ofName?, ofPath⟩

end FileVerdict.Language
