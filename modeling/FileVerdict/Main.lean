import FileVerdict.Files.Tree
import FileVerdict.Program

/-!
The program on the command line. All files that the arguments name are read first; what is done
with them is `execute`.
-/

namespace FileVerdict

def usageText : String :=
  "Usage: blobkind [OPTIONS] <PATH>...\n"

def helpText : String :=
  "Classifies files: text or binary, language, vendored or generated, and whether they belong " ++
  "in a search index.\n\n" ++ usageText ++
  "\nArguments:\n" ++
  "  <PATH>...  Files to classify\n" ++
  "\nOptions:\n" ++
  "  -j, --json                    Print one JSON object per file\n" ++
  "  -p, --vendor-patterns <FILE>  Take the patterns of vendored paths from FILE\n" ++
  "  -N, --no-content              Classify from the name and size only\n" ++
  "  -h, --help                    Print help\n" ++
  "  -V, --version                 Print version\n"

def Usage.complaint : Usage → String
  | missingPath => "a path is required"
  | unknownArgument => "unexpected argument"
  | invalidValue => "a value is missing or empty"
  | repeated => "an argument is used more than once"
  | unexpectedValue => "unexpected value for a flag"
  | version => versionText
  | help => helpText

/-- The number of an operating-system fault, which may be given negated as a 32-bit word. -/
def faultNumber (code : UInt32) : Nat :=
  if code.toNat < 0x80000000 then code.toNat else 0x100000000 - code.toNat

def readFault : IO.Error → ReadFault
  | .noFileOrDirectory .. => .notFound
  | .inappropriateType _ code _ =>
    if faultNumber code = 21 then .isDirectory else .notDirectory
  | .permissionDenied _ code _ => .other "Permission denied" (faultNumber code)
  | _ => .other "Input/output error" 5

def askEach {α : Type} (action : String → IO α) (paths : List String) :
    IO (String → Except ReadFault α) := do
  let found ← paths.mapM fun path => do
    try
      return (path, Except.ok (← action path))
    catch fault =>
      return (path, Except.error (readFault fault))
  return fun path => (found.lookup path).getD (.error .notFound)

def readContent (path : String) : IO (List UInt8) := return (← IO.FS.readBinFile path).toList

def readMetadata (path : String) : IO Metadata := do
  let known ← ((← IO.currentDir) / path).metadata
  return ⟨known.type == .dir, known.byteSize.toNat⟩

def filesFor (line : CommandLine) : IO Files := do
  let (loaded, measured) := if line.noContent then ([], line.paths) else (line.paths, [])
  return {
    read := ← askEach readContent (line.patternFile.toList ++ loaded)
    metadata := ← askEach readMetadata measured }

end FileVerdict

open FileVerdict

def main (args : List String) : IO UInt32 := do
  let files ← match CommandLine.parse args with
    | .ok line => filesFor line
    | .error _ => pure Tree.empty.files
  match execute files args with
  | .usage usage =>
    match usage with
    | .version | .help => IO.print usage.complaint
    | _ => IO.eprint ("error: " ++ usage.complaint ++ "\n\n" ++ usageText)
    return UInt32.ofNat usage.exitCode
  | .finished exitCode output errors =>
    IO.print output
    IO.eprint errors
    return UInt32.ofNat exitCode
