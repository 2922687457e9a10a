import FileVerdict.Proofs.Language.Catalogue
import FileVerdict.Proofs.Media.Tables
import FileVerdict.Proofs.Report.Verdicts

/-!
What the fields of a report say about one another. Text goes by the media type, images go by the
extension, and binary is what is left or calls itself octets; that a file is just one of the three
depends on every type that the tables have. The rest follows from it and from what is looked at
before content is read.
-/

namespace FileVerdict

theorem Subject.sourceLineCount_le (subject : Subject) :
    subject.sourceLineCount ≤ subject.lineCount :=
  List.length_filter_le _ _

/-- An interpreter is read only from content that is loaded, is text and is not large. -/
theorem Hashbang.of_ofSubject_eq_some (subject : Subject) (traits : Traits) (script : String)
    (read : ofSubject subject traits = some script) :
    traits.isText = true ∧ traits.isLarge = false ∧ subject.data.isSome = true := by
  rw [ofSubject] at read
  split at read
  · next looked =>
    simp only [Bool.and_eq_true, Bool.not_eq_true'] at looked
    obtain ⟨bytes, content, -⟩ := Option.bind_eq_some_iff.mp read
    rw [content]
    exact ⟨looked.1, looked.2, rfl⟩
  · cases read

theorem Hashbang.ofSubject_of_not_isText (subject : Subject) (traits : Traits)
    (other : traits.isText = false) : ofSubject subject traits = none := by
  rw [ofSubject, other]
  rfl

theorem Verdict.language_of_not_isText (subject : Subject) (traits : Traits)
    (languages : Language.Lookup) (other : traits.isText = false) :
    language subject traits languages = Language.text := by
  rw [language, other]
  rfl

theorem Verdict.of_isIndexable (subject : Subject) (traits : Traits)
    (languages : Language.Lookup) (indexed : isIndexable subject traits languages = true) :
    traits.isText = true ∧ isGenerated subject.name = false := by
  simp only [isIndexable, Bool.and_eq_true, Bool.not_eq_true'] at indexed
  exact indexed.1.1

theorem Verdict.isIndexable_of_not_isText (subject : Subject) (traits : Traits)
    (languages : Language.Lookup) (other : traits.isText = false) :
    isIndexable subject traits languages = false := by
  rw [isIndexable, other]
  rfl

namespace Traits

def OneKind (traits : Traits) : Prop :=
  [traits.isText, traits.isImage, traits.isBinary].count true = 1

/-- A type of the tables makes a file one of the three: an image has the type of one, and octets
are never text. -/
theorem oneKind_inspect (subject : Subject) :
    (inspect subject (Media.byExtension.mimeType subject.name)).OneKind := by
  have octet := Media.mimeType_of_octet subject.name
  have image := Media.mimeType_of_image subject.name
  have picture : ∀ mime ∈ Media.pictureTypes,
      isTextType mime = false ∧ mentions "octet" mime = false := by decide +kernel
  generalize Media.byExtension.mimeType subject.name = mime at octet image
  show [isTextType mime, isImageName subject.name,
    isBinaryType mime (isTextType mime) (isImageName subject.name)].count true = 1
  rw [isBinaryType]
  cases named : isImageName subject.name with
  | true =>
    obtain ⟨text, octets⟩ := picture mime (image named)
    rw [text, octets]
    rfl
  | false =>
    cases octets : mentions "octet" mime with
    | true =>
      rw [octet octets]
      rfl
    | false =>
      cases isTextType mime with
      | true => rfl
      | false => rfl

theorem OneKind.isViewable_eq {traits : Traits} (one : traits.OneKind) :
    traits.isViewable = (traits.isText && !traits.isLarge) := by
  rcases traits with ⟨isText, isImage, isBinary, isLarge, isForbidden⟩
  revert one
  unfold OneKind isViewable
  cases isText <;> cases isImage <;> cases isBinary <;> simp

end Traits

namespace Rules
variable (rules : Rules) (media : rules.media = Media.byExtension) (subject : Subject)
include media

theorem oneKind_traits : (rules.traits subject).OneKind := by
  have one := Traits.oneKind_inspect subject
  rwa [← media] at one

/-- Only types that are neither text nor an image's are offered for saving. -/
theorem isBinary_of_attached (attached : rules.disposition subject ≠ "inline") :
    rules.isBinary subject = true := by
  have image := Media.mimeType_of_image subject.name
  have picture : ∀ mime ∈ Media.pictureTypes, mime ∉ attachmentTypes := by decide +kernel
  rw [← media] at image
  have saved : rules.contentType subject ∈ attachmentTypes := by
    rw [disposition] at attached
    split at attached
    · next listed => exact List.elem_iff.mp listed
    · exact absurd rfl attached
  rw [contentType] at saved
  split at saved
  · exact absurd saved (by decide +kernel)
  · next other =>
    have text : Traits.isTextType (rules.mimeType subject) = false := Bool.eq_false_iff.mpr other
    have named : Traits.isImageName subject.name = false := by
      rw [Bool.eq_false_iff]
      exact fun named => picture _ (image named) saved
    show Traits.isBinaryType (rules.mimeType subject) (Traits.isTextType (rules.mimeType subject))
      (Traits.isImageName subject.name) = true
    rw [Traits.isBinaryType, text, named]
    exact Bool.or_true _

end Rules

namespace Report

structure Consistent (subject : Subject) (report : Report) : Prop where
  one_kind : [report.isText, report.isImage, report.isBinary].count true = 1
  viewable : report.isViewable = true ↔ report.isText = true ∧ report.isLarge = false
  attached : report.disposition ≠ "inline" → report.isBinary = true
  interpreted : report.interpreter.isSome = true →
    report.isText = true ∧ report.isLarge = false ∧ subject.data.isSome = true
  indexed : report.isIndexable = true → report.isText = true ∧ report.isGenerated = false
  other : report.isText = false → report.language = "Text" ∧ report.lexer = "text" ∧
    report.interpreter = none ∧ report.isIndexable = false
  listed : (report.language, report.lexer) ∈
    Language.entries.map fun entry => (entry.name, entry.lexer)
  counted : report.sourceLineCount ≤ report.lineCount

theorem consistent_report (rules : Rules) (languages : rules.languages = Language.catalogue)
    (media : rules.media = Media.byExtension) (subject : Subject) :
    Consistent subject (rules.report subject) := by
  have one := rules.oneKind_traits media subject
  have listed := Language.listed_language subject (rules.traits subject)
  rw [Rules.report_is_verdicts]
  constructor
  case one_kind => exact one
  case viewable =>
    show (rules.traits subject).isViewable = true ↔ _
    rw [one.isViewable_eq, Bool.and_eq_true, Bool.not_eq_true']
    rfl
  case attached => exact rules.isBinary_of_attached media subject
  case interpreted =>
    intro present
    obtain ⟨script, read⟩ := Option.isSome_iff_exists.mp present
    exact Hashbang.of_ofSubject_eq_some subject (rules.traits subject) script read
  case indexed => exact Verdict.of_isIndexable subject (rules.traits subject) rules.languages
  case other =>
    intro other
    have language : rules.language subject = Language.text :=
      Verdict.language_of_not_isText subject (rules.traits subject) rules.languages other
    refine ⟨congrArg Language.name language, congrArg Language.lexer language, ?_, ?_⟩
    · exact Hashbang.ofSubject_of_not_isText subject (rules.traits subject) other
    · exact Verdict.isIndexable_of_not_isText subject (rules.traits subject) rules.languages other
  case listed =>
    rw [← languages] at listed
    obtain ⟨entry, member, same⟩ := listed
    show ((rules.language subject).name, (rules.language subject).lexer) ∈ _
    rw [Rules.language, ← same]
    exact List.mem_map_of_mem (f := fun entry => (entry.name, entry.lexer)) member
  case counted => exact subject.sourceLineCount_le

/-- The fields of a report fit together whenever languages and media types come from the built-in
tables, whatever paths count as vendored. -/
theorem consistent_of_tables (vendored : VendoredPaths) (subject : Subject) :
    Consistent subject (Rules.report ⟨Language.catalogue, Media.byExtension, vendored⟩ subject) := by
  apply consistent_report
  · rfl
  · rfl

end Report

end FileVerdict
