import FileVerdict.Proofs.Path
import FileVerdict.Proofs.Report.Verdicts

/-!
What a report takes from the place of a file. Every verdict but one looks at no more of a name than
its final part; the patterns of vendored paths look at all of it. Whatever is looked up under the
whole name has to answer by the final part too, as the built-in tables do.
-/

namespace FileVerdict

def Report.renamed (report : Report) (name : String) (isVendored : Bool) : Report :=
  { report with name := name, isVendored := isVendored }

section
variable {first second : String}
variable (same : Path.finalPart? first.toList = Path.finalPart? second.toList)
include same

theorem Media.mimeType_congr : byExtension.mimeType first = byExtension.mimeType second := by
  simp only [byExtension, Path.extension_congr same]

theorem Traits.isImageName_congr : isImageName first = isImageName second := by
  rw [isImageName, isImageName, Path.extension_congr same]

theorem Verdict.isGenerated_congr : isGenerated first = isGenerated second := by
  rw [isGenerated, isGenerated, Path.extension_congr same]

theorem Verdict.isUnindexable_congr : isUnindexable first = isUnindexable second := by
  rw [isUnindexable, isUnindexable, Path.extension_congr same]

theorem Verdict.isIndexable_congr (data : Option (List UInt8)) (size : Nat) (traits : Traits)
    (languages : Language.Lookup) :
    isIndexable ⟨first, data, size⟩ traits languages =
      isIndexable ⟨second, data, size⟩ traits languages := by
  simp only [isIndexable, isGenerated_congr same, isUnindexable_congr same,
    Path.extension_congr same]

theorem Verdict.language_congr (data : Option (List UInt8)) (size : Nat) (traits : Traits)
    (languages : Language.Lookup) (path : languages.byPath first = languages.byPath second) :
    language ⟨first, data, size⟩ traits languages =
      language ⟨second, data, size⟩ traits languages := by
  simp only [language, Path.extension_congr same, path]
  rfl

variable (named : (Path.finalPart? second.toList).isSome)
include named

theorem Language.ofPath_congr : ofPath first = ofPath second := by
  rw [ofPath, ofPath, Path.basename_congr same named, Path.extension_congr same]

namespace Rules
variable (rules : Rules) (data : Option (List UInt8)) (size : Nat)
variable (media : rules.media.mimeType first = rules.media.mimeType second)
include media

theorem disposition_congr :
    rules.disposition ⟨first, data, size⟩ = rules.disposition ⟨second, data, size⟩ := by
  have served : rules.contentType ⟨first, data, size⟩ = rules.contentType ⟨second, data, size⟩ := by
    rw [contentType, contentType, mimeType, mimeType, media]
  have saved : attachmentName first = attachmentName second := by
    rw [attachmentName, attachmentName, Path.basename_congr same named]
  rw [disposition, disposition, served]
  exact congrArg (ite _ · _) (congrArg _ saved)

/-- Look-ups that do not tell two names with one final part apart leave only the name and whether
it is vendored to tell the reports apart. -/
theorem report_congr (path : rules.languages.byPath first = rules.languages.byPath second) :
    rules.report ⟨first, data, size⟩ =
      (rules.report ⟨second, data, size⟩).renamed first (rules.vendored.matchesPath first) := by
  have traits : rules.traits ⟨first, data, size⟩ = rules.traits ⟨second, data, size⟩ := by
    rw [Rules.traits, Rules.traits, Traits.inspect, Traits.inspect, mimeType, mimeType, media,
      Traits.isImageName_congr same]
  have language : rules.language ⟨first, data, size⟩ = rules.language ⟨second, data, size⟩ := by
    rw [Rules.language, Rules.language, traits]
    exact Verdict.language_congr same data size _ _ path
  have indexed : rules.isIndexable ⟨first, data, size⟩ = rules.isIndexable ⟨second, data, size⟩ := by
    rw [isIndexable, isIndexable, traits]
    exact Verdict.isIndexable_congr same data size _ _
  have attached := disposition_congr same named rules data size media
  rw [report_is_verdicts, report_is_verdicts]
  -- What is left besides these depends on the extension, the content and the size.
  simp only [verdicts, isText, isBinary, isViewable, lexer, interpreter, traits, language, indexed,
    attached, mimeType, media, isImage, Traits.isImageName_congr same, isGenerated,
    Verdict.isGenerated_congr same]
  rfl

end Rules
end

/-! The built-in tables -/

namespace Rules

section
variable (rules : Rules) (languages : rules.languages = Language.catalogue)
variable (media : rules.media = Media.byExtension)
include languages media

theorem report_of_same_finalPart (first second : String) (data : Option (List UInt8)) (size : Nat)
    (same : Path.finalPart? first.toList = Path.finalPart? second.toList)
    (named : (Path.finalPart? second.toList).isSome) :
    rules.report ⟨first, data, size⟩ =
      (rules.report ⟨second, data, size⟩).renamed first (rules.vendored.matchesPath first) := by
  apply report_congr same named
  · rw [media]
    exact Media.mimeType_congr same
  · rw [languages]
    exact Language.ofPath_congr same named

/-- A file with a final part may lie below any directory, and a slash or a slash and a dot may
follow its name: only the name in its report and whether that is vendored can change. All else is
what the report on the final part says. -/
theorem report_of_finalPart (name : String) (part : List Char)
    (final : Path.finalPart? name.toList = some part) (data : Option (List UInt8)) (size : Nat) :
    (∀ directory, ∀ place ∈ [directory ++ "/" ++ name, name ++ "/", name ++ "/."],
      rules.report ⟨place, data, size⟩ =
        (rules.report ⟨name, data, size⟩).renamed place (rules.vendored.matchesPath place)) ∧
      rules.report ⟨name, data, size⟩ =
        (rules.report ⟨String.ofList part, data, size⟩).renamed name
          (rules.vendored.matchesPath name) := by
  have named : (Path.finalPart? name.toList).isSome := by
    rw [final]
    rfl
  constructor
  · intro directory place among
    apply rules.report_of_same_finalPart languages media place name data size _ named
    simp only [List.mem_cons, List.not_mem_nil, or_false] at among
    obtain rfl | rfl | rfl := among
    · rw [String.toList_append, String.toList_append, List.append_assoc]
      exact Path.finalPart?_below directory.toList named
    · rw [String.toList_append]
      exact Path.finalPart?_above name.toList rfl
    · rw [String.toList_append]
      exact Path.finalPart?_above name.toList rfl
  · have own : Path.finalPart? (String.ofList part).toList = some part := by
      rw [String.toList_ofList]
      exact Path.finalPart?_of_finalPart? final
    apply rules.report_of_same_finalPart languages media
    · rw [final, own]
    · rw [own]
      rfl

end

theorem report_of_archive :
    Path.finalPart? "deps/my app.jar".toList = some "my app.jar".toList ∧
      (∀ place ∈ ["../x.d/deps/my app.jar", "deps/my app.jar/", "deps/my app.jar/."],
        builtin.report ⟨place, none, 4096⟩ =
          (builtin.report ⟨"deps/my app.jar", none, 4096⟩).renamed place
            (builtin.vendored.matchesPath place)) ∧
      (builtin.report ⟨"deps/my app.jar", none, 4096⟩).disposition =
        "attachment; filename=my+app.jar" := by
  have final : Path.finalPart? "deps/my app.jar".toList = some "my app.jar".toList := by decide
  obtain ⟨places, part⟩ := report_of_finalPart builtin rfl rfl "deps/my app.jar" _ final none 4096
  refine ⟨final, places "../x.d", ?_⟩
  rw [part]
  decide +kernel

end Rules

end FileVerdict
