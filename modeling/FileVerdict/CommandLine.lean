import FileVerdict.Report

/-!
The command line. Options may stand among the paths, short flags may be grouped, and everything
behind `--` is a path. An argument takes effect when the next one has been understood, so of two
faults the one that stops the reading comes first.
-/

namespace FileVerdict

structure CommandLine where
  paths : List String
  json : Bool
  noContent : Bool
  patternFile : Option String
  deriving Repr, DecidableEq

/-- Why there is no command line to carry out. The last two are no faults. -/
inductive Usage where
  | missingPath
  | unknownArgument
  | invalidValue
  | repeated
  | unexpectedValue
  | version
  | help
  deriving Repr, DecidableEq

def Usage.exitCode : Usage → Nat
  | version | help => 0
  | _ => 2

namespace CommandLine

/-- What has been read but has not taken effect: the option for a pattern file, maybe without its
value, or paths, the last one first. -/
inductive Pending where
  | nothing
  | option (value : Option String)
  | paths (paths : List String)
  deriving Repr, DecidableEq

structure Draft where
  line : CommandLine
  pending : Pending
  onlyPaths : Bool
  deriving Repr, DecidableEq

abbrev Parsed := Except Usage Draft

namespace Draft

def empty : Draft := ⟨⟨[], false, false, none⟩, .nothing, false⟩

/-- Neither a path nor the name of a file may be empty. -/
def settle (draft : Draft) : Parsed :=
  match draft.pending with
  | .nothing => .ok draft
  | .option none => .error .invalidValue
  | .option (some value) =>
    if draft.line.patternFile.isSome then .error .repeated
    else if value.isEmpty then .error .invalidValue
    else .ok { draft with
      line := { draft.line with patternFile := some value }, pending := .nothing }
  | .paths paths =>
    if paths.any String.isEmpty then .error .invalidValue
    else .ok { draft with
      line := { draft.line with paths := draft.line.paths ++ paths.reverse }, pending := .nothing }

def setJson (draft : Draft) : Parsed := do
  let draft ← draft.settle
  if draft.line.json then throw .repeated
  return { draft with line := { draft.line with json := true } }

def setNoContent (draft : Draft) : Parsed := do
  let draft ← draft.settle
  if draft.line.noContent then throw .repeated
  return { draft with line := { draft.line with noContent := true } }

def setPatternFile (draft : Draft) (attached : Option String) : Parsed := do
  let draft ← draft.settle
  let draft := { draft with pending := .option attached }
  if attached.isSome then draft.settle else return draft

def stop (draft : Draft) (usage : Usage) : Parsed := do
  let _ ← draft.settle
  throw usage

def addPath (draft : Draft) (path : String) : Parsed :=
  match draft.pending with
  | .paths paths => .ok { draft with pending := .paths (path :: paths) }
  | _ => do return { ← draft.settle with pending := .paths [path] }

def long (draft : Draft) (name : String) (value : Option String) : Parsed :=
  match name, value with
  | "vendor-patterns", value => draft.setPatternFile value
  | "json", none => draft.setJson
  | "no-content", none => draft.setNoContent
  | "help", none => draft.stop .help
  | "version", none => draft.stop .version
  | "json", some _ | "no-content", some _ | "help", some _ | "version", some _ =>
    .error .unexpectedValue
  | _, _ => .error .unknownArgument

def short (draft : Draft) : List Char → Parsed
  | [] => .ok draft
  | 'j' :: flags => do (← draft.setJson).short flags
  | 'N' :: flags => do (← draft.setNoContent).short flags
  | 'h' :: _ => draft.stop .help
  | 'V' :: _ => draft.stop .version
  | ['p'] => draft.setPatternFile none
  | 'p' :: '=' :: value => draft.setPatternFile (some (String.ofList value))
  | 'p' :: value => draft.setPatternFile (some (String.ofList value))
  | _ => .error .unknownArgument

def longParts (body : List Char) : String × Option String :=
  let name := body.takeWhile fun char => char != '='
  match body.dropWhile fun char => char != '=' with
  | [] => (String.ofList name, none)
  | _ :: value => (String.ofList name, some (String.ofList value))

def push (draft : Draft) (argument : String) : Parsed :=
  if draft.onlyPaths then draft.addPath argument
  else match argument.toList with
    | ['-', '-'] => .ok { draft with onlyPaths := true }
    | '-' :: '-' :: body => let (name, value) := longParts body; draft.long name value
    | '-' :: char :: flags => draft.short (char :: flags)
    | _ =>
      if draft.pending = .option none then .ok { draft with pending := .option (some argument) }
      else draft.addPath argument

end Draft

def parse (arguments : List String) : Except Usage CommandLine := do
  let draft ← (← arguments.foldlM Draft.push Draft.empty).settle
  if draft.line.paths.isEmpty then throw .missingPath
  return draft.line

def format (line : CommandLine) : Report.Format := if line.json then .json else .text

end CommandLine

end FileVerdict
