import FileVerdict.Proofs.Media.Case
import FileVerdict.Proofs.Report.Consistency
import FileVerdict.Proofs.Report.Disposition

/-!
What counts as text next to the family of its type. A type is taken for text if the word stands
anywhere in it. Of all the types in the tables that makes a difference to four, those of
OpenDocument texts, which are archives; every other type that is taken for text belongs to the
family of text, or is JSON. So whatever is said of a file because it is text, is said of a type that
is none only where the extension is one of theirs, and there it always is.
-/

namespace FileVerdict
open FileVerdict.Text

namespace Media

def IsTextual (mime : List Char) : Prop := textMark ++ ['/'] <+: mime ∨ jsonMark <:+: mime

instance (mime : List Char) : Decidable (IsTextual mime) := inferInstanceAs (Decidable (_ ∨ _))

def documentExtensions : List (List Char) :=
  [['o', 'd', 't'], ['o', 'd', 'm'], ['o', 't', 't'], ['o', 't', 'h']]

def IsDocument (name : String) : Prop := fold (writtenExtension name) ∈ documentExtensions

/-! What the tables answer -/

theorem isTextual_of_sourceAnswer (name mime : String) (source : sourceAnswer? name = some mime) :
    IsTextual mime.toList := by
  have all : ∀ spelling ∈ sourceSpellings.1, IsTextual spelling.mime := by decide +kernel
  rw [sourceAnswer?, lookup_sourceTypes_eq] at source
  obtain ⟨spelled, found, rfl⟩ := Option.map_eq_some_iff.mp source
  obtain ⟨spelling, known, -, rfl⟩ := Spelling.of_lookup?_eq_some _ _ _ found
  rw [String.toList_ofList]
  exact all spelling known

/-- The general table takes a type that is not textual for text under the extensions of documents
alone. -/
theorem isTextual_of_generalAnswer (name : String) (other : ¬IsDocument name)
    (text : Traits.isTextType (generalAnswer name) = true) :
    IsTextual (generalAnswer name).toList := by
  have all : ∀ spelling ∈ generalSpellings.1, isTextSpelling spelling.mime = true →
      IsTextual spelling.mime ∨
        ∀ extension ∈ spelling.extensions, extension ∈ documentExtensions := by
    simp only [isTextSpelling_eq_byRec]
    decide +kernel
  rw [generalAnswer, generalType?_eq] at text ⊢
  cases found : Spelling.lookup? generalSpellings (fold (writtenExtension name)) with
  | none =>
    rw [Option.map_none, Option.getD_none]
    decide
  | some spelled =>
    obtain ⟨spelling, known, listed, rfl⟩ := Spelling.of_lookup?_eq_some _ _ _ found
    rw [found, Option.map_some, Option.getD_some, isTextType_ofList] at text
    rw [Option.map_some, Option.getD_some, String.toList_ofList]
    rcases all spelling known text with textual | documents
    · exact textual
    · exact absurd (documents _ listed) other

theorem generalAnswer_of_document (name : String) (document : IsDocument name) :
    Traits.isTextType (generalAnswer name) = true ∧ ¬IsTextual (generalAnswer name).toList := by
  have all : ∀ extension ∈ documentExtensions,
      (Spelling.lookup? generalSpellings extension).any fun mime =>
        isTextSpelling mime && !decide (IsTextual mime) := by
    simp only [← Spelling.lookupByRec_eq]
    decide +kernel
  obtain ⟨mime, found, misjudged⟩ := (Option.any_eq_true _ _).mp (all _ document)
  rw [Bool.and_eq_true, Bool.not_eq_true', decide_eq_false_iff_not] at misjudged
  rw [generalAnswer, generalType?_eq, found, Option.map_some, Option.getD_some, isTextType_ofList,
    String.toList_ofList]
  exact misjudged

/-- No document has the extension of a source file. -/
theorem sourceAnswer?_of_document (name : String) (document : IsDocument name) :
    sourceAnswer? name = none := by
  have unlisted : ∀ extension ∈ documentExtensions,
      Spelling.lookup? sourceSpellings extension = none := by
    simp only [← Spelling.lookupByRec_eq]
    decide +kernel
  rw [sourceAnswer?, lookup_sourceTypes_eq, unlisted _ document, Option.map_none]

theorem mimeType_of_document (name : String) (document : IsDocument name) :
    Traits.isTextType (byExtension.mimeType name) = true ∧
      ¬IsTextual (byExtension.mimeType name).toList := by
  rw [mimeType_of_no_sourceAnswer name (sourceAnswer?_of_document name document)]
  exact generalAnswer_of_document name document

theorem isTextual_of_isTextType (name : String) (other : ¬IsDocument name)
    (text : Traits.isTextType (byExtension.mimeType name) = true) :
    IsTextual (byExtension.mimeType name).toList := by
  cases source : sourceAnswer? name with
  | none =>
    rw [mimeType_of_no_sourceAnswer name source] at text ⊢
    exact isTextual_of_generalAnswer name other text
  | some mime =>
    rw [mimeType_of_sourceAnswer name mime source] at text ⊢
    by_cases long : hasLongLetter name = true
    · rw [if_pos long] at text ⊢
      exact isTextual_of_generalAnswer name other text
    · rw [if_neg long]
      exact isTextual_of_sourceAnswer name mime source

end Media

structure TextualOnly (rules : Rules) (subject : Subject) : Prop where
  text : (rules.report subject).isText = true → Media.IsTextual (rules.mimeType subject).toList
  viewable : (rules.report subject).isViewable = true →
    Media.IsTextual (rules.mimeType subject).toList
  interpreted : (rules.report subject).interpreter.isSome = true →
    Media.IsTextual (rules.mimeType subject).toList
  served : rules.contentType subject = Media.plainText →
    Media.IsTextual (rules.mimeType subject).toList

section
variable (rules : Rules) (media : rules.media = Media.byExtension) (subject : Subject)
include media

theorem Rules.isTextual_of_isText (other : ¬Media.IsDocument subject.name)
    (text : rules.isText subject = true) : Media.IsTextual (rules.mimeType subject).toList := by
  have textual := Media.isTextual_of_isTextType subject.name other
  rw [← media] at textual
  exact textual text

theorem textualOnly_of_not_document (other : ¬Media.IsDocument subject.name) :
    TextualOnly rules subject := by
  have textual := rules.isTextual_of_isText media subject other
  have one := rules.oneKind_traits media subject
  constructor
  case text => exact textual
  case viewable =>
    intro viewable
    have shown := one.isViewable_eq.symm.trans viewable
    rw [Bool.and_eq_true] at shown
    exact textual shown.1
  case interpreted =>
    intro present
    obtain ⟨script, read⟩ := Option.isSome_iff_exists.mp present
    exact textual (Hashbang.of_ofSubject_eq_some subject _ script read).1
  case served =>
    intro served
    rw [Rules.contentType] at served
    split at served
    · next text => exact textual text
    · rw [served]
      decide

theorem not_document_of_textualOnly (only : TextualOnly rules subject) :
    ¬Media.IsDocument subject.name := by
  intro document
  have taken := Media.mimeType_of_document subject.name document
  rw [← media] at taken
  exact taken.2 (only.text taken.1)

end

/-- Under the built-in tables of media types, only textual types are taken for text, shown as text,
read for an interpreter and served as plain text, if and only if the file is not an OpenDocument
text by its extension. -/
theorem textualOnly_iff_not_document (languages : Language.Lookup) (vendored : VendoredPaths)
    (subject : Subject) :
    TextualOnly ⟨languages, Media.byExtension, vendored⟩ subject ↔
      ¬Media.IsDocument subject.name := by
  constructor
  · exact not_document_of_textualOnly ⟨languages, Media.byExtension, vendored⟩ rfl subject
  · exact textualOnly_of_not_document ⟨languages, Media.byExtension, vendored⟩ rfl subject

def openDocument : Subject := .loaded "notes.odt" [0x50, 0x4B, 0x03, 0x04]

/-- An archive is shown and served as plain text, because its type has the word in it. -/
theorem openDocument_served_as_text :
    Rules.builtin.mimeType openDocument = "application/vnd.oasis.opendocument.text" ∧
      (Rules.builtin.report openDocument).isText = true ∧
      (Rules.builtin.report openDocument).isViewable = true ∧
      Rules.builtin.contentType openDocument = Media.plainText ∧
      Rules.builtin.disposition openDocument = "inline" ∧
      ¬TextualOnly Rules.builtin openDocument := by
  have mime : Rules.builtin.mimeType openDocument = "application/vnd.oasis.opendocument.text" := by
    decide +kernel
  have text : (Rules.builtin.report openDocument).isText = true := by decide +kernel
  refine ⟨mime, text, by decide +kernel, by decide +kernel, by decide +kernel, ?_⟩
  intro only
  have textual := only.text text
  rw [mime] at textual
  exact absurd textual (by decide +kernel)

end FileVerdict
