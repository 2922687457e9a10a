import FileVerdict.CommandLine
import FileVerdict.Options

/-!
The program: files are read, judged and reported, in the order in which they are named. All of
them are read before the first report is written.
-/

namespace FileVerdict

def Subject.read (files : Files) (path : String) (loadContent : Bool) : Except Failure Subject :=
  let name := Path.toName path
  let subject : Except ReadFault Subject :=
    if loadContent then (files.read path).map (Subject.loaded name)
    else (files.size path).map (Subject.unloaded name)
  subject.mapError (Failure.unreadable path)

def Rules.reports (rules : Rules) (files : Files) (paths : List String) (loadContent : Bool) :
    Except Failure (List Report) :=
  paths.mapM fun path => return rules.report (← Subject.read files path loadContent)

/-- What has been written when a failure is met stays written. -/
def Rules.run (rules : Rules) (files : Files) (line : CommandLine) :
    ExceptT Failure Report.Writer Unit := do
  let reports ← rules.reports files line.paths (!line.noContent)
  Report.write line.format reports

def Options.ofCommandLine (line : CommandLine) : Options :=
  match line.patternFile with
  | none => .unset
  | some path => Options.unset.withPatternFile path

inductive Outcome where
  | usage (usage : Usage)
  | finished (exitCode : Nat) (output errors : String)
  deriving Repr, DecidableEq

def execute [Regex.Engine] (files : Files) (arguments : List String) : Outcome :=
  match CommandLine.parse arguments with
  | .error usage => .usage usage
  | .ok line =>
    match (Options.ofCommandLine line).rules files with
    | .error failure => .finished 1 "" ("Error: " ++ failure.message ++ "\n")
    | .ok rules =>
      match (rules.run files line).run.run "" with
      | (.error failure, written) => .finished 1 written ("Error: " ++ failure.account ++ "\n")
      | (.ok (), written) => .finished 0 written ""

def versionText : String := "blobkind 0.1.0\n"

end FileVerdict
