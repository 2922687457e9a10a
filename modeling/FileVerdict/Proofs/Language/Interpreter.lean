import FileVerdict.Proofs.Language.Index
import FileVerdict.Proofs.Result
import FileVerdict.Rules

/-!
What a look-up that answers with plain text does to the language of a script. Of a lexer the answer
is taken for none, as it tells nothing. The name that an alias stands for is looked up too, and what
is found there is taken as it is. So an interpreter has plain text for its language just where the
tables know the name behind one of the aliases as plain text, and then the path is never asked.
-/

namespace FileVerdict.Hashbang
open FileVerdict.Text

def AliasesTell (languages : Language.Lookup) : Prop :=
  ∀ entry ∈ aliases, ∀ language, languages.byName entry.2 = some language →
    language.isText = false

/-- What the tables know an interpreter as, plain text included. -/
def knownAs (interpreter : String) (languages : Language.Lookup) : Option Language :=
  match aliases.lookup interpreter with
  | some name => languages.byName name
  | none => languages.byLexer interpreter

theorem languageOf_alias (languages : Language.Lookup) :
    ∀ entry ∈ aliases, languageOf entry.1 languages = languages.byName entry.2 := by
  have found : ∀ entry ∈ aliases, aliases.lookup entry.1 = some entry.2 := by decide
  intro entry member
  rw [languageOf, found entry member]

theorem languageOf_eq_filter (interpreter : String) (languages : Language.Lookup)
    (tell : AliasesTell languages) :
    languageOf interpreter languages =
      (knownAs interpreter languages).filter fun language => !language.isText := by
  rw [languageOf, knownAs]
  cases stands : aliases.lookup interpreter with
  | none => rfl
  | some name =>
    dsimp only
    cases known : languages.byName name with
    | none => rfl
    | some language =>
      have telling := tell _ (Result.mem_of_lookup stands) language known
      rw [Option.filter_some, telling]
      rfl

theorem not_isText_of_languageOf (interpreter : String) (languages : Language.Lookup)
    (tell : AliasesTell languages) (language : Language)
    (found : languageOf interpreter languages = some language) : language.isText = false := by
  rw [languageOf_eq_filter interpreter languages tell, Option.filter_eq_some_iff] at found
  simpa using found.2

def scriptOf (interpreter : String) : Subject :=
  .loaded "Makefile" (encode ("#!" ++ interpreter).toList)

def plain : Traits := ⟨true, false, false, false, false⟩

theorem ofSubject_scriptOf :
    ∀ entry ∈ aliases, ofSubject (scriptOf entry.1) plain = some entry.1 := by
  decide

/-- Where a script names an interpreter that is known as plain text or not at all, and nothing
speaks for another language before that, the language is looked up by the path. -/
theorem language_eq_byPath (subject : Subject) (traits : Traits) (languages : Language.Lookup)
    (tell : AliasesTell languages) (text : traits.isText = true)
    (unregistered : languages.byExtension (Path.extension subject.name) = none)
    (interpreter : String) (named : ofSubject subject traits = some interpreter)
    (idle : ∀ language, knownAs interpreter languages = some language → language.isText = true) :
    Verdict.language subject traits languages = languages.byPath subject.name := by
  have silent : language? subject traits languages = none := by
    rw [language?, named, Option.bind_some, languageOf_eq_filter interpreter languages tell,
      Option.filter_eq_none_iff]
    intro language known
    rw [idle language known]
    decide
  rw [Verdict.language, if_pos text, unregistered, silent]

/-- An interpreter has a language other than plain text, or none, just where no name behind an alias
is known as plain text; and so has the first line of any file. Only then is the path asked wherever
plain text is all that is known of an interpreter. -/
theorem tells_iff_aliasesTell (languages : Language.Lookup) :
    ((∀ interpreter language, languageOf interpreter languages = some language →
      language.isText = false) ↔ AliasesTell languages) ∧
    ((∀ subject traits language, language? subject traits languages = some language →
      language.isText = false) ↔ AliasesTell languages) ∧
    (AliasesTell languages → ∀ subject traits, traits.isText = true →
      languages.byExtension (Path.extension subject.name) = none →
      ∀ interpreter, ofSubject subject traits = some interpreter →
      (∀ language, knownAs interpreter languages = some language → language.isText = true) →
      Verdict.language subject traits languages = languages.byPath subject.name) := by
  refine ⟨⟨?_, ?_⟩, ⟨?_, ?_⟩, ?_⟩
  · intro tells entry member language known
    rw [← languageOf_alias languages entry member] at known
    exact tells _ language known
  · intro tell interpreter language found
    exact not_isText_of_languageOf interpreter languages tell language found
  · intro tells entry member language known
    rw [← languageOf_alias languages entry member] at known
    apply tells (scriptOf entry.1) plain
    rw [language?, ofSubject_scriptOf entry member, Option.bind_some, known]
  · intro tell subject traits language found
    obtain ⟨interpreter, -, known⟩ := Option.bind_eq_some_iff.mp found
    exact not_isText_of_languageOf interpreter languages tell language known
  · intro tell subject traits text unregistered interpreter named idle
    exact language_eq_byPath subject traits languages tell text unregistered interpreter named idle

/-- Every name behind an alias is the name of a built-in language. -/
theorem aliasesTell_catalogue : AliasesTell Language.catalogue := by
  have telling : ∀ entry ∈ aliases,
      ((Language.ofName? entry.2).all fun language => !language.isText) = true := by
    simp only [Language.ofName?_eq_firstOf]
    decide +kernel
  intro entry member language known
  have told := telling entry member
  rw [show Language.ofName? entry.2 = some language from known] at told
  simpa using told

theorem path_of_text_script :
    Verdict.language (scriptOf "text") plain Language.catalogue = ⟨"Makefile", "make"⟩ ∧
      ∀ language, languageOf "text" Language.catalogue = some language →
        language.isText = false := by
  obtain ⟨interpreters, -, paths⟩ := tells_iff_aliasesTell Language.catalogue
  refine ⟨?_, interpreters.mpr aliasesTell_catalogue "text"⟩
  rw [paths aliasesTell_catalogue (scriptOf "text") plain rfl (by decide +kernel) "text"
    (by decide) (by decide +kernel)]
  decide +kernel

def plainJavaScript : Language.Lookup where
  byExtension _ := none
  byLexer _ := none
  byName name := if name = "JavaScript" then some Language.text else none
  byPath _ := ⟨"Makefile", "make"⟩

/-- Plain text is the language of `node` there, and hides what the path would tell. -/
theorem alias_of_plain_text_hides_path :
    (languageOf "node" plainJavaScript = some Language.text ∧ Language.text.isText = true) ∧
      language? (scriptOf "node") plain plainJavaScript = some Language.text ∧
      Verdict.language (scriptOf "node") plain plainJavaScript ≠
        plainJavaScript.byPath (scriptOf "node").name := by
  decide

end FileVerdict.Hashbang
