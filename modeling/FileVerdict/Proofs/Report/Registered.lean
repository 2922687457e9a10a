import FileVerdict.Proofs.Language.Index
import FileVerdict.Proofs.Media.Case
import FileVerdict.Proofs.Report.Consistency

/-!
Files whose extension is registered. Languages, types of source files and general types stand in
three tables. An extension is registered just as it is written, while its type is looked up in lower
case; the type of every registered extension is text nevertheless. So such a file is text, is served
as plain text and has the registered language, whatever its content says.
-/

namespace FileVerdict

namespace Language

def Registered (extension : String) : Prop := ∃ entry ∈ entries, extension ∈ entry.extensions

theorem isSome_ofExtension? (extension : String) :
    (ofExtension? extension).isSome = true ↔ Registered extension := by
  have dotted : ∀ entry ∈ entries, ∀ listed ∈ entry.extensions, listed.isEmpty = false := by
    decide +kernel
  rw [ofExtension?_eq_firstOf, isSome_firstOf_iff]
  constructor
  · rintro ⟨entry, member, -, listed⟩
    exact ⟨entry, member, listed⟩
  · rintro ⟨entry, member, listed⟩
    refine ⟨entry, member, ?_, listed⟩
    intro empty
    have nonempty := dotted entry member extension listed
    rw [empty] at nonempty
    cases nonempty

end Language

namespace Media
open FileVerdict.Text

/-! Registered extensions in the general table -/

/-- Whether the text is among the keys. It is compared only with those that begin as it does, which
the kernel picks out once for all texts that begin so. -/
noncomputable def isAmong (keys : List (List Char)) : List Char → Bool
  | [] => keys.contains []
  | first :: rest => containsByRec (keys.filter (leadsByRec [first])) (first :: rest)

theorem isAmong_of_mem (keys : List (List Char)) (text : List Char) (member : text ∈ keys) :
    isAmong keys text = true := by
  cases text with
  | nil => exact List.contains_iff_mem.mpr member
  | cons first rest =>
    rw [isAmong, containsByRec_eq, List.contains_iff_mem, List.mem_filter, leadsByRec_eq,
      List.isPrefixOf_iff_prefix]
    exact ⟨member, rest, rfl⟩

def registeredKeys : List (List Char) :=
  Language.entries.flatMap fun entry =>
    entry.extensions.map fun extension => lower (extension.toList.drop 1)

/-- An answer is text if the table for source files knows the extension, and also if the general
table has it under text alone. -/
theorem isTextSpelling_spelledType (extension : List Char) (folded : fold extension = extension)
    (text : ∀ spelling ∈ generalSpellings.1, extension ∈ spelling.extensions →
      isTextSpelling spelling.mime = true ∨
        (Spelling.lookup? sourceSpellings extension).isSome = true) :
    isTextSpelling (spelledType extension) = true := by
  have sources : ∀ spelling ∈ sourceSpellings.1, isTextSpelling spelling.mime = true := by
    decide +kernel
  rw [spelledType, folded]
  split
  · decide
  · cases source : Spelling.lookup? sourceSpellings extension with
    | some mime =>
      obtain ⟨spelling, known, -, rfl⟩ := Spelling.of_lookup?_eq_some _ _ _ source
      exact sources spelling known
    | none =>
      cases general : Spelling.lookup? generalSpellings extension with
      | none => decide
      | some mime =>
        obtain ⟨spelling, known, listed, rfl⟩ := Spelling.of_lookup?_eq_some _ _ _ general
        rcases text spelling known listed with text | elsewhere
        · exact text
        · rw [source] at elsewhere
          cases elsewhere

theorem isTextSpelling_of_mem_registeredKeys (key : List Char) (member : key ∈ registeredKeys) :
    isTextSpelling (spelledType key) = true := by
  have folded : ∀ key ∈ registeredKeys, fold key = key := by decide +kernel
  have text : ∀ spelling ∈ generalSpellings.1, ∀ key ∈ spelling.extensions,
      isAmong registeredKeys key = true → isTextSpelling spelling.mime = true ∨
        (Spelling.lookup? sourceSpellings key).isSome = true := by
    simp only [← Spelling.lookupByRec_eq]
    decide +kernel
  apply isTextSpelling_spelledType key (folded key member)
  intro spelling known listed
  exact text spelling known key listed (isAmong_of_mem registeredKeys key member)

/-- Every extension of a language has a type that is text. -/
theorem isTextType_of_registered (name : String)
    (registered : Language.Registered (Path.extension name)) :
    Traits.isTextType (byExtension.mimeType name) = true := by
  obtain ⟨entry, member, listed⟩ := registered
  rw [mimeType_eq, isTextType_ofList]
  apply isTextSpelling_of_mem_registeredKeys
  exact List.mem_flatMap.mpr ⟨entry, member, List.mem_map.mpr ⟨_, listed, rfl⟩⟩

end Media

theorem Traits.OneKind.of_isText {traits : Traits} (one : traits.OneKind)
    (text : traits.isText = true) : traits.isImage = false ∧ traits.isBinary = false := by
  rcases traits with ⟨isText, isImage, isBinary, isLarge, isForbidden⟩
  revert one text
  unfold OneKind
  cases isText <;> cases isImage <;> cases isBinary <;> simp

/-- The extensions that keep a text out of the index, registered or not. -/
theorem Verdict.not_kept_out_iff (name : String) :
    isGenerated name = false ∧ isUnindexable name = false ↔
      Path.extension name ∉ [".xib", ".nib", ".pbxproj", ".po", ".sql"] := by
  rw [isGenerated, isUnindexable, ← Bool.or_eq_false_iff, ← Bool.not_eq_true, Bool.or_eq_true,
    List.contains_iff_mem, List.contains_iff_mem, ← List.mem_append]
  rfl

namespace Rules
variable (rules : Rules) (subject : Subject)

theorem served_of_isText (text : rules.isText subject = true) :
    rules.contentType subject = "text/plain" ∧ rules.disposition subject = "inline" := by
  have plain : rules.contentType subject = "text/plain" := if_pos text
  refine ⟨plain, ?_⟩
  have kept : attachmentTypes.contains "text/plain" = false := by decide
  rw [disposition, plain, kept]
  rfl

variable (languages : rules.languages = Language.catalogue)
variable (media : rules.media = Media.byExtension)

include media in
theorem isText_of_registered (registered : Language.Registered (Path.extension subject.name)) :
    rules.isText subject = true := by
  show Traits.isTextType (rules.media.mimeType subject.name) = true
  rw [media]
  exact Media.isTextType_of_registered subject.name registered

include languages in
theorem language_of_registered (text : rules.isText subject = true)
    (registered : Language.Registered (Path.extension subject.name)) :
    Language.catalogue.byExtension (Path.extension subject.name) =
      some (rules.language subject) := by
  obtain ⟨language, found⟩ :=
    Option.isSome_iff_exists.mp ((Language.isSome_ofExtension? _).mpr registered)
  have known : Language.catalogue.byExtension (Path.extension subject.name) = some language := found
  rw [rules.language_of_isText subject text, languages, known]
  rfl

include languages media in
theorem isIndexable_iff : rules.isIndexable subject = true ↔
    Language.Registered (Path.extension subject.name) ∧
      Path.extension subject.name ∉ [".xib", ".nib", ".pbxproj", ".po", ".sql"] := by
  have listed : (rules.languages.byExtension (Path.extension subject.name)).isSome = true ↔
      Language.Registered (Path.extension subject.name) := by
    rw [languages]
    exact Language.isSome_ofExtension? _
  rw [isIndexable, Verdict.isIndexable, Bool.and_eq_true, Bool.and_eq_true, Bool.and_eq_true,
    Bool.not_eq_true', Bool.not_eq_true']
  constructor
  · rintro ⟨⟨⟨-, generated⟩, unindexable⟩, found⟩
    exact ⟨listed.mp found, (Verdict.not_kept_out_iff _).mp ⟨generated, unindexable⟩⟩
  · rintro ⟨registered, kept⟩
    obtain ⟨generated, unindexable⟩ := (Verdict.not_kept_out_iff _).mpr kept
    have text := rules.isText_of_registered subject media registered
    exact ⟨⟨⟨text, generated⟩, unindexable⟩, listed.mpr registered⟩

include languages media in
/-- A registered extension decides alone: whatever its content and its size, the file is text, is
neither binary nor an image, is shown in place as plain text and has the language that the extension
is registered for. And no text is kept out of the index but by its extension: a file belongs there
if and only if the extension is registered and is none of the five that are left out. -/
theorem verdicts_of_registered :
    (Language.Registered (Path.extension subject.name) →
      rules.isText subject = true ∧ rules.isBinary subject = false ∧
        rules.isImage subject = false ∧ rules.contentType subject = "text/plain" ∧
        rules.disposition subject = "inline" ∧
        Language.catalogue.byExtension (Path.extension subject.name) =
          some (rules.language subject)) ∧
      (rules.isIndexable subject = true ↔
        Language.Registered (Path.extension subject.name) ∧
          Path.extension subject.name ∉ [".xib", ".nib", ".pbxproj", ".po", ".sql"]) := by
  refine ⟨?_, rules.isIndexable_iff subject languages media⟩
  intro registered
  have text := rules.isText_of_registered subject media registered
  obtain ⟨image, binary⟩ := (rules.oneKind_traits media subject).of_isText text
  obtain ⟨plain, inline⟩ := rules.served_of_isText subject text
  exact ⟨text, binary, image, plain, inline,
    rules.language_of_registered subject languages text registered⟩

def largeScript : Subject :=
  ⟨"bin/Rakefile.R", some [0x23, 0x21, 0x2F, 0x62, 0x69, 0x6E, 0x2F, 0x73, 0x68, 0x0A], 0x200000⟩

theorem verdicts_of_largeScript :
    Language.Registered (Path.extension largeScript.name) ∧ builtin.isLarge largeScript = true ∧
      builtin.isText largeScript = true ∧ builtin.disposition largeScript = "inline" ∧
      builtin.language largeScript = ⟨"R", "r"⟩ ∧ builtin.isIndexable largeScript = true := by
  have registered : Language.Registered (Path.extension largeScript.name) :=
    ⟨⟨"R", "r", ["rscript", "splus"], [".r", ".R"], []⟩, by decide +kernel, by decide +kernel⟩
  have verdicts := verdicts_of_registered builtin largeScript rfl rfl
  have language : Language.catalogue.byExtension (Path.extension largeScript.name) =
      some ⟨"R", "r"⟩ := by decide +kernel
  obtain ⟨text, -, -, -, inline, found⟩ := verdicts.1 registered
  refine ⟨registered, by decide, text, inline, ?_, verdicts.2.mpr ⟨registered, by decide +kernel⟩⟩
  rw [language] at found
  exact (Option.some.inj found).symm

end Rules

end FileVerdict
