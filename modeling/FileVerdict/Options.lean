import FileVerdict.Files.Basic
import FileVerdict.Rules

/-!
The options that rules are made from. What is not set is built in. The patterns of vendored paths
may be given as a list or as a file, but not as both; an empty list is a list, and vendors nothing.
What can go wrong is that a file cannot be read, that a pattern is not valid, and that there are two
sources of patterns at once.
-/

namespace FileVerdict
open FileVerdict.Text

inductive Failure where
  | unreadable (path : String) (fault : ReadFault)
  | invalidPattern (fault : PatternFault)
  | conflict
  deriving Repr, DecidableEq

namespace Failure

def cause? : Failure → Option String
  | unreadable _ fault => some fault.message
  | invalidPattern fault => some (fault.refusal.render fault.pattern.toList)
  | conflict => none

def message (failure : Failure) : String :=
  let cause := failure.cause?.getD ""
  match failure with
  | unreadable path _ => "I/O error accessing path '" ++ path ++ "': " ++ cause
  | invalidPattern fault => "Invalid vendored path pattern '" ++ fault.pattern ++ "': " ++ cause
  | conflict => "Cannot use vendored_patterns and vendored_patterns_file simultaneously"

/-- The message followed by what lies behind it, which it may itself have told already. -/
def account (failure : Failure) : String :=
  match failure.cause? with
  | none => failure.message
  | some cause => failure.message ++ ": " ++ cause

end Failure

/-- The patterns in the text of a file: its lines without the blanks around them, except those
that are empty then or begin with `#`. -/
def patternLines (text : String) : List String :=
  (((lines text.toList).map trim).filter fun line =>
    !line.isEmpty && line.head? != some '#').map String.ofList

def readPatterns (files : Files) (path : String) : Except Failure (List String) :=
  let read : Except ReadFault (List String) := do
    match decode? (← files.read path) with
    | none => throw .notUtf8
    | some text => return patternLines (String.ofList text)
  read.mapError (Failure.unreadable path)

structure Options where
  patterns : Option (List String)
  patternFile : Option String
  languages : Option Language.Lookup
  media : Option Media.Lookup

namespace Options

def unset : Options := ⟨none, none, none, none⟩

def withPatterns (options : Options) (patterns : List String) : Options :=
  { options with patterns := some patterns }

def withPatternFile (options : Options) (path : String) : Options :=
  { options with patternFile := some path }

def withLanguages (options : Options) (languages : Language.Lookup) : Options :=
  { options with languages := some languages }

def withMedia (options : Options) (media : Media.Lookup) : Options :=
  { options with media := some media }

variable [Regex.Engine]

def vendored (options : Options) (files : Files) : Except Failure VendoredPaths :=
  let compiled (patterns : List String) : Except Failure VendoredPaths :=
    (VendoredPaths.ofPatterns patterns).mapError Failure.invalidPattern
  match options.patterns, options.patternFile with
  | some _, some _ => .error .conflict
  | some patterns, none => compiled patterns
  | none, some path => do compiled (← readPatterns files path)
  | none, none => .ok VendoredPaths.builtin

def rules (options : Options) (files : Files) : Except Failure Rules := do
  return { languages := options.languages.getD Language.catalogue
           media := options.media.getD Media.byExtension
           vendored := ← options.vendored files }

end Options

end FileVerdict
