import FileVerdict.Rules

/-!
A report next to the verdicts that are asked for one at a time. A report inspects the content once,
by a media type that it looks up itself; the disposition looks that type up again. Each verdict of
its own looks up and inspects again, or does without: a name tells an image, a size a large file,
and a disposition goes through the type to serve the file with. Whatever the tables and the
patterns are, the two come to the same.
-/

namespace FileVerdict.Rules

variable (rules : Rules) (subject : Subject)

def verdicts : Report where
  name := subject.name
  mimeType := rules.mimeType subject
  disposition := rules.disposition subject
  isText := rules.isText subject
  isImage := rules.isImage subject
  isBinary := rules.isBinary subject
  isLarge := rules.isLarge subject
  isViewable := rules.isViewable subject
  isForbidden := rules.isForbidden subject
  isVendored := rules.isVendored subject
  isGenerated := rules.isGenerated subject
  isIndexable := rules.isIndexable subject
  language := (rules.language subject).name
  lexer := rules.lexer subject
  interpreter := rules.interpreter subject
  lineCount := subject.lineCount
  sourceLineCount := subject.sourceLineCount

/-- The traits that the verdicts inspect are the ones that the report shares. -/
theorem report_is_verdicts : rules.report subject = rules.verdicts subject := by
  unfold report verdicts
  rfl

/-- The extension comes before the first line, and the path after both. -/
theorem language_of_isText (text : rules.isText subject = true) :
    rules.language subject =
      ((rules.languages.byExtension (Path.extension subject.name)).or
        (rules.interpreterLanguage subject)).getD (rules.languages.byPath subject.name) := by
  have inspected : (rules.traits subject).isText = true := text
  show Verdict.language subject (rules.traits subject) rules.languages = _
  rw [Verdict.language, if_pos inspected, interpreterLanguage]
  cases rules.languages.byExtension (Path.extension subject.name) with
  | some language => rfl
  | none =>
    cases Hashbang.language? subject (rules.traits subject) rules.languages with
    | some language => rfl
    | none => rfl

theorem language_of_interpreter
    (unregistered : rules.languages.byExtension (Path.extension subject.name) = none)
    (text : rules.isText subject = true) (language : Language)
    (named : rules.interpreterLanguage subject = some language) :
    rules.language subject = language := by
  rw [language_of_isText rules subject text, unregistered, named]
  rfl

/-- Every field of a report is the verdict of that name. The language is the interpreter's where
the extension of a text is not registered and the first line names an interpreter whose language
is known. -/
theorem report_agrees :
    rules.report subject = rules.verdicts subject ∧
      (rules.languages.byExtension (Path.extension subject.name) = none →
        rules.isText subject = true →
        ∀ language, rules.interpreterLanguage subject = some language →
          (rules.report subject).language = language.name ∧
            (rules.report subject).lexer = language.lexer) := by
  refine ⟨report_is_verdicts rules subject, ?_⟩
  intro unregistered text language named
  have same := language_of_interpreter rules subject unregistered text language named
  rw [report_is_verdicts]
  show (rules.language subject).name = _ ∧ (rules.language subject).lexer = _
  rw [same]
  exact ⟨rfl, rfl⟩

def shellScript : Subject :=
  .loaded "bin/run" [0x23, 0x21, 0x2F, 0x62, 0x69, 0x6E, 0x2F, 0x73, 0x68, 0x0A]

theorem report_of_shellScript :
    builtin.report shellScript = builtin.verdicts shellScript ∧
      (builtin.report shellScript).language = "Shell" ∧
      (builtin.report shellScript).lexer = "bash" := by
  have agrees := report_agrees builtin shellScript
  exact ⟨agrees.1, agrees.2 (by decide +kernel) (by decide +kernel) ⟨"Shell", "bash"⟩
    (by decide +kernel)⟩

end FileVerdict.Rules
