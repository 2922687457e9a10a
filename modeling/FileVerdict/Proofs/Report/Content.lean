import FileVerdict.Proofs.Program
import FileVerdict.Proofs.Report.Consistency
import Mathlib.Data.List.TakeWhile

/-!
What a report takes from the content of a file. Whether the file is forbidden, the interpreter, the
line counts and, where the interpreter settles it, the language come from there; all else comes from
the name and the size. So a file that is not loaded is judged the same but for these. Of the content
itself, the line counts apart, the first eight bytes and the first line are all that is looked at.
-/

namespace FileVerdict
open FileVerdict.Text

/-- A file of which only the first `count` bytes have been loaded. The size is that of all of it. -/
def Subject.beginning (name : String) (data : List UInt8) (count : Nat) : Subject :=
  ⟨name, some (data.take count), data.length⟩

/-- What can be read is known to be a file of just that size. -/
def Files.Measured (files : Files) : Prop :=
  ∀ path data, files.read path = .ok data → files.metadata path = .ok ⟨false, data.length⟩

theorem Tree.files_measured (tree : Tree) : tree.files.Measured := by
  intro path data found
  simp only [files, read, Result.bind_eq_ok] at found
  obtain ⟨node, looked, same⟩ := found
  cases node with
  | directory => cases same
  | file content =>
    cases same
    change tree.metadata path = _
    rw [metadata, looked]
    rfl

namespace Rules
variable (rules : Rules)

/-! The language and the first line -/

def languageOfName (name : String) : Language :=
  if Traits.isTextType (rules.media.mimeType name) then
    (rules.languages.byExtension (Path.extension name)).getD (rules.languages.byPath name)
  else Language.text

theorem interpreterLanguage_eq (subject : Subject) :
    rules.interpreterLanguage subject =
      (rules.interpreter subject).bind fun script => Hashbang.languageOf script rules.languages :=
  rfl

theorem interpreter_of_not_isText (subject : Subject) (other : rules.isText subject = false) :
    rules.interpreter subject = none :=
  Hashbang.ofSubject_of_not_isText subject (rules.traits subject) other

theorem interpreter_unloaded (name : String) (size : Nat) :
    rules.interpreter (.unloaded name size) = none := by
  rw [interpreter, Hashbang.ofSubject]
  exact ite_self _

/-- The content has a say in the language through the interpreter alone, and only where the
extension is not registered. -/
theorem language_eq (subject : Subject) :
    rules.language subject =
      if rules.languages.byExtension (Path.extension subject.name) = none then
        (rules.interpreterLanguage subject).getD (rules.languageOfName subject.name)
      else rules.languageOfName subject.name := by
  cases text : rules.isText subject with
  | false =>
    have named : rules.languageOfName subject.name = Language.text :=
      if_neg (Bool.eq_false_iff.mp text)
    have other : rules.language subject = Language.text :=
      Verdict.language_of_not_isText subject (rules.traits subject) rules.languages text
    rw [other, named, interpreterLanguage_eq, interpreter_of_not_isText rules subject text]
    exact (ite_self _).symm
  | true =>
    have named : rules.languageOfName subject.name =
        (rules.languages.byExtension (Path.extension subject.name)).getD
          (rules.languages.byPath subject.name) := if_pos text
    rw [rules.language_of_isText subject text, named]
    cases rules.languages.byExtension (Path.extension subject.name) with
    | some language => rfl
    | none => rfl

theorem language_unloaded (name : String) (size : Nat) :
    rules.language (.unloaded name size) = rules.languageOfName name := by
  rw [language_eq, interpreterLanguage_eq, interpreter_unloaded]
  exact ite_self _

/-- Where the name does not settle the language, the file is text, is not large and has an extension
that is not registered, and the language is that of the interpreter. -/
theorem language_of_interpreter_or_name (subject : Subject) :
    rules.language subject = rules.languageOfName subject.name ∨
      rules.isText subject = true ∧ rules.isLarge subject = false ∧
        rules.languages.byExtension (Path.extension subject.name) = none ∧
        rules.interpreterLanguage subject = some (rules.language subject) := by
  rw [language_eq]
  split
  · next unregistered =>
    cases known : rules.interpreterLanguage subject with
    | none => exact .inl rfl
    | some language =>
      obtain ⟨script, read, -⟩ := Option.bind_eq_some_iff.mp known
      obtain ⟨text, small, -⟩ := Hashbang.of_ofSubject_eq_some _ _ _ read
      exact .inr ⟨text, small, unregistered, rfl⟩
  · exact .inl rfl

/-! A file that is not loaded -/

def withoutContent (report : Report) : Report :=
  { report with
    isForbidden := false
    language := (rules.languageOfName report.name).name
    lexer := (rules.languageOfName report.name).lexer
    interpreter := none
    lineCount := 0
    sourceLineCount := 0 }

theorem report_unloaded (name : String) (data : List UInt8) :
    rules.report (.unloaded name data.length) =
      rules.withoutContent (rules.report (.loaded name data)) := by
  rw [report_is_verdicts, report_is_verdicts, verdicts, lexer, language_unloaded,
    interpreter_unloaded]
  rfl

theorem reports_without_content (files : Files) (measured : files.Measured) (paths : List String)
    (reports : List Report) (loaded : rules.reports files paths true = .ok reports) :
    rules.reports files paths false = .ok (reports.map rules.withoutContent) := by
  rw [reports_eq_ok] at loaded ⊢
  rw [List.forall₂_map_right_iff]
  refine loaded.imp ?_
  rintro path report ⟨subject, read, rfl⟩
  obtain ⟨data, found, rfl⟩ := (Subject.read_loaded files path subject).mp read
  exact ⟨_, (Subject.read_unloaded files path _).mpr ⟨_, measured path data found, rfl⟩,
    rules.report_unloaded _ data⟩

/-- Content is read in one place and shows in few. Without it a file is reported as with it, but for
the fields that `withoutContent` replaces; the language is another one only where the file is text,
is not large, has no registered extension and names an interpreter of a known language, which is
then its own. All files of a command line are reported so if their content is not to be read, as
long as their sizes are those of their content. -/
theorem report_differs_by_content (name : String) (data : List UInt8) :
    rules.report (.unloaded name data.length) =
        rules.withoutContent (rules.report (.loaded name data)) ∧
      ((rules.report (.loaded name data)).language ≠
            (rules.report (.unloaded name data.length)).language ∨
          (rules.report (.loaded name data)).lexer ≠
            (rules.report (.unloaded name data.length)).lexer →
        rules.isText (.loaded name data) = true ∧ rules.isLarge (.loaded name data) = false ∧
          rules.languages.byExtension (Path.extension name) = none ∧
          rules.interpreterLanguage (.loaded name data) =
            some (rules.language (.loaded name data))) ∧
      ∀ files : Files, files.Measured → ∀ paths reports,
        rules.reports files paths true = .ok reports →
        rules.reports files paths false = .ok (reports.map rules.withoutContent) := by
  refine ⟨rules.report_unloaded name data, ?_, rules.reports_without_content⟩
  intro differs
  obtain same | decided := rules.language_of_interpreter_or_name (.loaded name data)
  · rw [report_is_verdicts, report_unloaded] at differs
    -- Both fields of the loaded file are read off its language, which is that of the name.
    have fields : (rules.verdicts (.loaded name data)).language =
          (rules.languageOfName name).name ∧
        (rules.verdicts (.loaded name data)).lexer = (rules.languageOfName name).lexer :=
      ⟨congrArg Language.name same, congrArg Language.lexer same⟩
    obtain other | other := differs
    · exact absurd fields.1 other
    · exact absurd fields.2 other
  · exact decided

def nodeScript : List UInt8 :=
  [0x23, 0x21, 0x2F, 0x62, 0x69, 0x6E, 0x2F, 0x65, 0x6E, 0x76, 0x20, 0x6E, 0x6F, 0x64, 0x65, 0x0A,
    0x72, 0x75, 0x6E, 0x28, 0x29, 0x0A]

def scriptTree : Tree := Tree.empty.write "bin/run" (.file nodeScript)

theorem report_differs_on_nodeScript :
    (builtin.report (.loaded "bin/run" nodeScript)).language = "JavaScript" ∧
      (builtin.report (.unloaded "bin/run" nodeScript.length)).language = "Text" ∧
      builtin.interpreterLanguage (.loaded "bin/run" nodeScript) =
        some (builtin.language (.loaded "bin/run" nodeScript)) ∧
      builtin.reports scriptTree.files ["bin/run"] false =
        .ok [builtin.withoutContent (builtin.report (.loaded "bin/run" nodeScript))] := by
  have script : (builtin.report (.loaded "bin/run" nodeScript)).language = "JavaScript" := by
    decide +kernel
  have plain : (builtin.report (.unloaded "bin/run" nodeScript.length)).language = "Text" := by
    decide +kernel
  have read : Subject.read scriptTree.files "bin/run" true =
      .ok (.loaded "bin/run" nodeScript) := by decide
  have loaded : builtin.reports scriptTree.files ["bin/run"] true =
      .ok [builtin.report (.loaded "bin/run" nodeScript)] :=
    (reports_eq_ok _ _ _ _ _).mpr (.cons ⟨_, read, rfl⟩ .nil)
  obtain ⟨-, differs, run⟩ := report_differs_by_content builtin "bin/run" nodeScript
  refine ⟨script, plain, (differs (.inl ?_)).2.2.2, run _ scriptTree.files_measured _ _ loaded⟩
  rw [script, plain]
  decide

end Rules

/-! A file of which the beginning is loaded -/

theorem Text.takeWhile_append_of_stop {α : Type} (goes : α → Bool) (first rest : List α) (stop : α)
    (member : stop ∈ first) (stops : goes stop = false) :
    (first ++ rest).takeWhile goes = first.takeWhile goes := by
  rw [List.takeWhile_append, if_neg]
  intro whole
  have all := (List.takeWhile_prefix goes).eq_of_length whole
  have passed := List.takeWhile_eq_self_iff.mp all stop member
  rw [stops] at passed
  cases passed

/-- A newline ends the first line, whatever stands behind it. -/
theorem Hashbang.firstLine_take (data : List UInt8) (count : Nat)
    (ended : 0x0A ∈ data.take count) : firstLine (data.take count) = firstLine data := by
  have whole := takeWhile_append_of_stop (fun byte : UInt8 => byte != 0x0A) (data.take count)
    (data.drop count) 0x0A ended rfl
  rw [List.take_append_drop] at whole
  rw [firstLine, firstLine, whole]

theorem Traits.isFlash_take (data : List UInt8) (count : Nat) (long : 8 ≤ count) :
    isFlash (some (data.take count)) = isFlash (some data) := by
  have short : ∀ mark ∈ flashMarks, mark.length ≤ count := by
    have bound : ∀ mark ∈ flashMarks, mark.length ≤ 8 := by decide
    exact fun mark member => (bound mark member).trans long
  have marks : (flashMarks.any fun mark => mark.isPrefixOf (data.take count)) =
      flashMarks.any fun mark => mark.isPrefixOf data := by
    rw [Bool.eq_iff_iff, List.any_eq_true, List.any_eq_true]
    simp only [List.isPrefixOf_iff_prefix, List.prefix_take_iff]
    constructor
    · rintro ⟨mark, member, begins, -⟩
      exact ⟨mark, member, begins⟩
    · rintro ⟨mark, member, begins⟩
      exact ⟨mark, member, begins, short mark member⟩
  rw [isFlash, isFlash, List.take_take, Nat.min_eq_left long, marks]

namespace Rules
variable (rules : Rules)

theorem interpreter_of_firstLine (name : String) (size : Nat) (first second : List UInt8)
    (same : Hashbang.firstLine first = Hashbang.firstLine second) :
    rules.interpreter ⟨name, some first, size⟩ = rules.interpreter ⟨name, some second, size⟩ := by
  rw [interpreter, interpreter, Hashbang.ofSubject, Hashbang.ofSubject, Option.bind_some,
    Option.bind_some, same]
  rfl

/-- Two files with one name and one interpreter have one language. -/
theorem language_congr (first second : Subject) (named : first.name = second.name)
    (same : rules.interpreter first = rules.interpreter second) :
    rules.language first = rules.language second := by
  rw [language_eq, language_eq, interpreterLanguage_eq, interpreterLanguage_eq, named, same]

theorem report_beginning_of_same_line (name : String) (data : List UInt8) (count : Nat)
    (forbidden : Traits.isFlash (some (data.take count)) = Traits.isFlash (some data))
    (line : Hashbang.firstLine (data.take count) = Hashbang.firstLine data) :
    rules.report (.beginning name data count) =
      { rules.report (.loaded name data) with
        lineCount := (Subject.beginning name data count).lineCount
        sourceLineCount := (Subject.beginning name data count).sourceLineCount } := by
  have interpreter : rules.interpreter (.beginning name data count) =
      rules.interpreter (.loaded name data) :=
    rules.interpreter_of_firstLine name data.length (data.take count) data line
  have language : rules.language (.beginning name data count) =
      rules.language (.loaded name data) :=
    rules.language_congr _ _ rfl interpreter
  have flash : rules.isForbidden (.beginning name data count) =
      rules.isForbidden (.loaded name data) := forbidden
  rw [report_is_verdicts, report_is_verdicts, verdicts, lexer, flash, language, interpreter]
  rfl

/-- All of a file, or eight bytes or more of it that hold the end of the first line, are enough for
every field of a report but the line counts, even if the last character loaded is cut in two. -/
theorem report_of_first_line (name : String) (data : List UInt8) (count : Nat)
    (enough : data.length ≤ count ∨ 8 ≤ count ∧ 0x0A ∈ data.take count) :
    rules.report (.beginning name data count) =
      { rules.report (.loaded name data) with
        lineCount := (Subject.beginning name data count).lineCount
        sourceLineCount := (Subject.beginning name data count).sourceLineCount } := by
  apply report_beginning_of_same_line
  · obtain all | ⟨long, -⟩ := enough
    · rw [List.take_of_length_le all]
    · exact Traits.isFlash_take data count long
  · obtain all | ⟨-, ended⟩ := enough
    · rw [List.take_of_length_le all]
    · exact Hashbang.firstLine_take data count ended

def accentedScript : List UInt8 :=
  [0x23, 0x21, 0x2F, 0x62, 0x69, 0x6E, 0x2F, 0x73, 0x68, 0x0A, 0xC3, 0xA9]

theorem report_of_cut_letter :
    (8 ≤ 11 ∧ 0x0A ∈ accentedScript.take 11) ∧
      builtin.report (.beginning "run" accentedScript 11) =
        { builtin.report (.loaded "run" accentedScript) with
          lineCount := 2
          sourceLineCount := 2 } := by
  have enough : 8 ≤ 11 ∧ 0x0A ∈ accentedScript.take 11 := by decide
  have counted : (Subject.beginning "run" accentedScript 11).lineCount = 2 := by decide
  have filled : (Subject.beginning "run" accentedScript 11).sourceLineCount = 2 := by decide
  have report := report_of_first_line builtin "run" accentedScript 11 (.inr enough)
  rw [counted, filled] at report
  exact ⟨enough, report⟩

/-- Seven bytes are not enough, though the first line ends before. -/
example :
    builtin.isForbidden (.beginning "movie" [0x43, 0x57, 0x53, 0x0A, 0, 0, 0, 0] 7) = false ∧
      builtin.isForbidden (.loaded "movie" [0x43, 0x57, 0x53, 0x0A, 0, 0, 0, 0]) = true := by
  decide

end Rules

end FileVerdict
