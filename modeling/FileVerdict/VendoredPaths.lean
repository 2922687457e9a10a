import FileVerdict.Regex.Pattern

/-!
Paths of third-party code. Patterns are looked for anywhere in the name of a file. Each pattern is
checked on its own, so that a fault names it; then all are joined into one, each in a group to
itself, and that is what the names are searched with.
-/

namespace FileVerdict

structure PatternFault where
  pattern : String
  refusal : Regex.Refusal
  deriving Repr, DecidableEq

/-- Nothing is searched for where there are no patterns. -/
structure VendoredPaths where
  patterns : List String
  search : Option (Regex.Expr Regex.Step)
  deriving Repr, DecidableEq

namespace VendoredPaths
open Regex (Engine)

variable [Engine]

def compiled (pattern : List Char) : Except PatternFault (Regex.Expr Regex.Step) :=
  (Regex.compile pattern).mapError fun refusal => ⟨String.ofList pattern, refusal⟩

def grouped (pattern : String) : List Char := ['(', '?', ':'] ++ pattern.toList ++ [')']

def joined (patterns : List String) : List Char := ['|'].intercalate (patterns.map grouped)

def ofPatterns (patterns : List String) : Except PatternFault VendoredPaths := do
  patterns.forM fun pattern => (compiled pattern.toList).map fun _ => ()
  if patterns.isEmpty then return ⟨patterns, none⟩
  return ⟨patterns, some (← compiled (joined patterns))⟩

def matchesPath (vendored : VendoredPaths) (path : String) : Bool :=
  vendored.search.any fun expr => expr.matchesIn path.toList

def defaultPatterns : List String := [
  "cache/", "^[Dd]ependencies/", "^deps/", "^tools/", "(^|/)vendor/", "(^|/)node_modules/",
  "(^|/)bower_components/", "(^|/)[Pp]ods/", "(^|/)[Cc]arthage/Build/",
  "(^|/)Godeps/_workspace/", "(^|/)third[-_]?party/", "(^|/)extern(al)?/", "(^|/)debian/",
  "(^|/)\\.git/", "(^|/)configure$", "(^|/)configure\\.ac$", "\\.min\\.(js|css)$",
  "-vsdoc\\.js$", "(^|/)jquery([^.]*)(\\.min)?\\.js$",
  "(^|/)jquery\\-\\d\\.\\d+(\\.\\d+)?(\\.min)?\\.js$", "(^|/)prototype(.*)\\.js$",
  "(^|/)effects\\.js$", "(^|/)controls\\.js$", "(^|/)dragdrop\\.js$",
  "(^|/)mootools([^.]*)\\d+\\.\\d+\\.\\d+([^.]*)\\.js$", "(^|/)dojo\\.js$",
  "(^|/)MochiKit\\.js$", "(^|/)yahoo-([^.]*)\\.js$", "(^|/)yui([^.]*)\\.js$",
  "(^|/)underscore\\.js$", "(^|/)backbone\\.js$", "(^|/)ember(-\\d\\.\\d\\.\\d)?(\\.min)?\\.js$",
  "(^|/)raphael([^.]*)(\\.min)?\\.js$", "(^|/)modernizr\\.js$",
  "(^|/)modernizr\\.custom\\.\\d+\\.js$", "(^|/)less([^.]*)(\\.min)?\\.js$",
  "(^|/)d3(\\.v\\d+)?([^.]*)(\\.min)?\\.js$", "(^|/)[Bb]ootstrap(\\.min)?\\.(js|css)$",
  "(^|/)shBrush([^.]*)\\.js$", "(^|/)shCore\\.js$", "(^|/)shLegacy\\.js$",
  "(^|/)tiny_mce([^.]*)\\.js$", "(^|/)tiny_mce/(langs|plugins|themes|utils)", "(^|/)ace-builds/",
  "(^|/)fontello(.*?)\\.css$"]

def builtin : VendoredPaths :=
  match ofPatterns defaultPatterns with
  | .ok vendored => vendored
  | .error _ => ⟨[], none⟩

end VendoredPaths

end FileVerdict
