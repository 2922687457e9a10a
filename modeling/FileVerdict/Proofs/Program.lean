import FileVerdict.Files.Tree
import FileVerdict.Program
import FileVerdict.Proofs.Report.TextLines
import FileVerdict.Proofs.Result

/-!
What is written for a list of paths. All of them can be read, and each has its report written, once
for every time it is named; or one of them cannot, and nothing is written. What being readable takes
depends on whether content is asked for.
-/

namespace FileVerdict

def Readable (files : Files) (loadContent : Bool) (path : String) : Prop :=
  match loadContent with
  | true => ∃ data, files.read path = .ok data
  | false => ∃ length, files.metadata path = .ok ⟨false, length⟩

theorem Files.size_eq_ok (files : Files) (path : String) (length : Nat) :
    files.size path = .ok length ↔ files.metadata path = .ok ⟨false, length⟩ := by
  rw [Files.size]
  cases files.metadata path with
  | error fault => simp
  | ok known =>
    obtain ⟨isDirectory, found⟩ := known
    cases isDirectory with
    | true => simp
    | false => simp

namespace Subject
variable (files : Files) (path : String)

theorem read_loaded (subject : Subject) :
    Subject.read files path true = .ok subject ↔
      ∃ data, files.read path = .ok data ∧ .loaded (Path.toName path) data = subject := by
  simp only [Subject.read, if_true, Result.mapError_eq_ok, Result.map_eq_ok]

theorem read_unloaded (subject : Subject) :
    Subject.read files path false = .ok subject ↔
      ∃ length, files.metadata path = .ok ⟨false, length⟩ ∧
        .unloaded (Path.toName path) length = subject := by
  simp only [Subject.read, Bool.false_eq_true, if_false, Result.mapError_eq_ok, Result.map_eq_ok,
    Files.size_eq_ok]

theorem exists_read_iff (loadContent : Bool) :
    (∃ subject, Subject.read files path loadContent = .ok subject) ↔
      Readable files loadContent path := by
  cases loadContent with
  | true =>
    simp only [read_loaded, Readable]
    constructor
    · intro given
      rcases given with ⟨-, data, read, -⟩
      exact ⟨data, read⟩
    · intro given
      rcases given with ⟨data, read⟩
      exact ⟨_, data, read, rfl⟩
  | false =>
    simp only [read_unloaded, Readable]
    constructor
    · intro given
      rcases given with ⟨-, length, known, -⟩
      exact ⟨length, known⟩
    · intro given
      rcases given with ⟨length, known⟩
      exact ⟨_, length, known, rfl⟩

instance (loadContent : Bool) : Decidable (Readable files loadContent path) :=
  decidable_of_iff ((Subject.read files path loadContent).isOk = true)
    (Result.isOk_iff.trans (exists_read_iff files path loadContent))

/-- Where reading fails, the failure names the path. -/
theorem read_eq_error (loadContent : Bool) (failure : Failure)
    (failed : Subject.read files path loadContent = .error failure) :
    ∃ fault, failure = .unreadable path fault := by
  obtain ⟨fault, -, same⟩ := Result.mapError_eq_error.mp failed
  exact ⟨fault, same.symm⟩

end Subject

namespace Rules

theorem reports_eq_ok (rules : Rules) (files : Files) (paths : List String) (loadContent : Bool)
    (reports : List Report) :
    rules.reports files paths loadContent = .ok reports ↔
      List.Forall₂ (fun path report => ∃ subject,
        Subject.read files path loadContent = .ok subject ∧ rules.report subject = report)
        paths reports := by
  have each : ∀ path report,
      (do return rules.report (← Subject.read files path loadContent) : Except Failure Report) =
          .ok report ↔
        ∃ subject, Subject.read files path loadContent = .ok subject ∧
          rules.report subject = report := by
    intro path report
    simp only [Result.bind_eq_ok, Result.pure_eq_ok, Except.ok.injEq]
  rw [Rules.reports, Result.mapM_eq_ok]
  simp only [each]

/-- A failure is the failure to read one of the files. -/
theorem reports_eq_error (rules : Rules) (files : Files) (paths : List String) (loadContent : Bool)
    (failure : Failure) (failed : rules.reports files paths loadContent = .error failure) :
    ∃ path ∈ paths, Subject.read files path loadContent = .error failure := by
  obtain ⟨path, member, same⟩ := Result.mapM_eq_error failed
  refine ⟨path, member, ?_⟩
  cases read : Subject.read files path loadContent with
  | error found =>
    rw [read] at same
    cases same
    rfl
  | ok subject =>
    rw [read] at same
    cases same

variable (rules : Rules) (files : Files) (line : CommandLine)

/-- The run succeeds and adds `output` to whatever has been written before. -/
def Writes (output : String) : Prop :=
  ∀ written, (rules.run files line).run.run written = (.ok (), written ++ output)

/-- The run fails and leaves whatever has been written before as it is. -/
def FailsUnwritten (failure : Failure) : Prop :=
  ∀ written, (rules.run files line).run.run written = (.error failure, written)

theorem writes_of_reports (reports : List Report)
    (made : rules.reports files line.paths (!line.noContent) = .ok reports) :
    rules.Writes files line
      (String.join (reports.map fun report => report.line line.format ++ "\n")) := by
  intro written
  have added := Report.run_write line.format reports written
  rw [run, made]
  change (Except.ok ((Report.write line.format reports).run written).1,
    ((Report.write line.format reports).run written).2) = _
  rw [added]

theorem failsUnwritten_of_reports (failure : Failure)
    (failed : rules.reports files line.paths (!line.noContent) = .error failure) :
    rules.FailsUnwritten files line failure := by
  intro written
  rw [run, failed]
  rfl

theorem writes_single (path : String) (subject : Subject)
    (read : Subject.read files path (!line.noContent) = .ok subject) :
    rules.Writes files { line with paths := [path] }
      ((rules.report subject).line line.format ++ "\n") := by
  have reported : rules.reports files [path] (!line.noContent) = .ok [rules.report subject] :=
    (reports_eq_ok _ _ _ _ _).mpr (.cons ⟨subject, read, rfl⟩ .nil)
  have written := rules.writes_of_reports files { line with paths := [path] } _ reported
  rwa [List.map_singleton, String.join_cons, String.join_nil, String.append_empty] at written

/-- What a path contributes is the line of the report on its file, as it is written for the path
alone. -/
def Contributes (path output : String) : Prop :=
  ∃ subject, Subject.read files path (!line.noContent) = .ok subject ∧
    output = (rules.report subject).line line.format ++ "\n" ∧
    rules.Writes files { line with paths := [path] } output

theorem writes_of_readable
    (readable : ∀ path ∈ line.paths, Readable files (!line.noContent) path) :
    ∃ outputs, List.Forall₂ (rules.Contributes files line) line.paths outputs ∧
      rules.Writes files line (String.join outputs) := by
  cases made : rules.reports files line.paths (!line.noContent) with
  | error failure =>
    obtain ⟨path, member, failed⟩ := reports_eq_error _ _ _ _ _ made
    obtain ⟨subject, read⟩ := (Subject.exists_read_iff files path _).mpr (readable path member)
    rw [read] at failed
    cases failed
  | ok reports =>
    refine ⟨reports.map fun report : Report => report.line line.format ++ "\n", ?_,
      rules.writes_of_reports files line reports made⟩
    rw [List.forall₂_map_right_iff]
    refine List.Forall₂.imp ?_ ((reports_eq_ok _ _ _ _ _).mp made)
    rintro path report ⟨subject, read, rfl⟩
    exact ⟨subject, read, rfl, rules.writes_single files line path subject read⟩

theorem failsUnwritten_of_unreadable
    (unreadable : ∃ path ∈ line.paths, ¬Readable files (!line.noContent) path) :
    ∃ path ∈ line.paths, ¬Readable files (!line.noContent) path ∧
      ∃ fault, rules.FailsUnwritten files line (.unreadable path fault) := by
  cases made : rules.reports files line.paths (!line.noContent) with
  | error failure =>
    obtain ⟨path, member, failed⟩ := reports_eq_error _ _ _ _ _ made
    obtain ⟨fault, rfl⟩ := Subject.read_eq_error files path _ failure failed
    refine ⟨path, member, ?_, fault, rules.failsUnwritten_of_reports files line _ made⟩
    intro readable
    obtain ⟨subject, read⟩ := (Subject.exists_read_iff files path _).mpr readable
    rw [read] at failed
    cases failed
  | ok reports =>
    obtain ⟨path, member, missing⟩ := unreadable
    obtain ⟨report, -, subject, read, -⟩ :=
      Result.exists_of_forall₂ ((reports_eq_ok _ _ _ _ _).mp made) path member
    exact absurd ((Subject.exists_read_iff files path _).mp ⟨subject, read⟩) missing

/-- All or nothing, whatever the rules, the files and the flags, and whatever has been written
before. If every path can be read, the reports are added in the order in which the paths are named,
each as it is written for its path alone. If one cannot, a path that cannot be read is named and
nothing is added. -/
theorem output_all_or_nothing [Regex.Engine] :
    ((∀ path ∈ line.paths, Readable files (!line.noContent) path) →
      ∃ outputs, List.Forall₂ (rules.Contributes files line) line.paths outputs ∧
        rules.Writes files line (String.join outputs)) ∧
    ((∃ path ∈ line.paths, ¬Readable files (!line.noContent) path) →
      ∃ path ∈ line.paths, ¬Readable files (!line.noContent) path ∧
        ∃ fault, rules.FailsUnwritten files line (.unreadable path fault)) ∧
    ∀ arguments, CommandLine.parse arguments = .ok line →
      (Options.ofCommandLine line).rules files = .ok rules →
      ((∀ path ∈ line.paths, Readable files (!line.noContent) path) →
        ∃ outputs, List.Forall₂ (rules.Contributes files line) line.paths outputs ∧
          execute files arguments = .finished 0 (String.join outputs) "") ∧
      ((∃ path ∈ line.paths, ¬Readable files (!line.noContent) path) →
        ∃ errors, execute files arguments = .finished 1 "" errors) := by
  refine ⟨rules.writes_of_readable files line, rules.failsUnwritten_of_unreadable files line, ?_⟩
  intro arguments parsed made
  constructor
  · intro readable
    obtain ⟨outputs, told, written⟩ := rules.writes_of_readable files line readable
    refine ⟨outputs, told, ?_⟩
    simp only [execute, parsed, made, written "", String.empty_append]
  · intro unreadable
    obtain ⟨path, -, -, fault, failed⟩ := rules.failsUnwritten_of_unreadable files line unreadable
    refine ⟨"Error: " ++ (Failure.unreadable path fault).account ++ "\n", ?_⟩
    simp only [execute, parsed, made, failed ""]

def twoFiles : Tree :=
  (Tree.empty.write "src/a.c" (.file [105, 10])).write "key" (.file [120])

/-- The same with one of them locked: its size can be asked for, its content cannot. -/
def lockedFiles : Files where
  read path :=
    if path = "key" then .error (.other "Permission denied" 13) else twoFiles.files.read path
  metadata := twoFiles.files.metadata

theorem output_of_two_files :
    (∃ outputs,
      List.Forall₂ (builtin.Contributes lockedFiles ⟨["key", "src/a.c", "key"], true, true, none⟩)
        ["key", "src/a.c", "key"] outputs ∧
      builtin.Writes lockedFiles ⟨["key", "src/a.c", "key"], true, true, none⟩
        (String.join outputs)) ∧
    (∃ path ∈ ["src/a.c", "key"], ¬Readable lockedFiles true path ∧
      ∃ fault, builtin.FailsUnwritten lockedFiles ⟨["src/a.c", "key"], false, false, none⟩
        (.unreadable path fault)) ∧
    ∃ errors, execute twoFiles.files ["key", "src", "-N"] = .finished 1 "" errors := by
  have made : (Options.ofCommandLine ⟨["key", "src"], false, true, none⟩).rules twoFiles.files =
      .ok builtin := rfl
  refine ⟨?_, ?_, ?_⟩
  · exact (output_all_or_nothing builtin lockedFiles
      ⟨["key", "src/a.c", "key"], true, true, none⟩).1 (by decide)
  · exact (output_all_or_nothing builtin lockedFiles
      ⟨["src/a.c", "key"], false, false, none⟩).2.1 (by decide)
  · exact ((output_all_or_nothing builtin twoFiles.files
      ⟨["key", "src"], false, true, none⟩).2.2 ["key", "src", "-N"] (by decide) made).2 (by decide)

end Rules

end FileVerdict
