import FileVerdict.Proofs.Media.Tables
import FileVerdict.Proofs.Text.Case
import Mathlib.Data.List.Find

/-!
Letter case in the look-up of media types. Both tables are asked for the extension in lower case,
but the general one folds it before it compares and the one for source files does not. So how an
extension is capitalised makes no difference until it has a letter that only folding makes ASCII of:
then the table for source files misses it and the general table does not. What a name is answered
follows from the fold of its extension and from whether such a letter is in it.
-/

namespace FileVerdict.Media
open FileVerdict.Text

def writtenExtension (name : String) : List Char := (Path.extension name).toList.drop 1

def hasLongLetter (name : String) : Bool := (writtenExtension name).any longLetters.contains

/-- What the table for source files has for a name if it is asked as the general one is. -/
def sourceAnswer? (name : String) : Option String :=
  sourceTypes.lookup (String.ofList (fold (writtenExtension name)))

def generalAnswer (name : String) : String :=
  (generalType? (writtenExtension name)).getD plainText

/-! The tables and lower case -/

theorem Spelling.lookup?_congr (spellings : List Spelling) (first second : List Char)
    (same : ∀ spelling ∈ spellings, ∀ extension ∈ spelling.extensions,
      first = extension ↔ second = extension) :
    lookup? spellings first = lookup? spellings second := by
  have found : (spellings.find? fun spelling => spelling.extensions.contains first) =
      spellings.find? fun spelling => spelling.extensions.contains second := by
    apply List.find?_congr
    intro spelling member
    rw [Bool.eq_iff_iff, List.contains_iff_mem, List.contains_iff_mem]
    constructor
    · intro listed
      exact (same spelling member first listed).mp rfl ▸ listed
    · intro listed
      exact (same spelling member second listed).mpr rfl ▸ listed
  rw [lookup?, found, lookup?]

theorem Spelling.lookup?_eq_none (spellings : List Spelling) (text : List Char)
    (other : ∀ spelling ∈ spellings, ∀ extension ∈ spelling.extensions, text ≠ extension) :
    lookup? spellings text = none := by
  rw [lookup?, Option.map_eq_none_iff, List.find?_eq_none]
  intro spelling member listed
  exact other spelling member text (List.contains_iff_mem.mp listed) rfl

theorem Spelling.of_lookup?_eq_some (spellings : List Spelling) (text mime : List Char)
    (found : lookup? spellings text = some mime) :
    ∃ spelling ∈ spellings, text ∈ spelling.extensions ∧ spelling.mime = mime := by
  obtain ⟨spelling, first, rfl⟩ := Option.map_eq_some_iff.mp found
  have listed := List.find?_some first
  exact ⟨spelling, List.mem_of_find?_eq_some first, List.contains_iff_mem.mp listed, rfl⟩

theorem keys_generalSpellings : ∀ spelling ∈ generalSpellings.1, ∀ key ∈ spelling.extensions,
    key ≠ [] ∧ Ascii key := by
  decide +kernel

/-- The extensions of source files are ASCII in lower case, without the letter pairs that a single
character may fold to. -/
theorem keys_sourceSpellings : ∀ spelling ∈ sourceSpellings.1, ∀ key ∈ spelling.extensions,
    key ≠ [] ∧ Ascii key ∧ fold key = key ∧
      ∀ double ∈ doubleLetters, ¬foldChar double <:+: key := by
  decide +kernel

theorem generalType?_lower (extension : List Char) :
    generalType? (lower extension) = generalType? extension := by
  rw [generalType?_eq, generalType?_eq]
  congr 1
  apply Spelling.lookup?_congr
  intro spelling member key listed
  exact fold_lower_eq_iff extension key (keys_generalSpellings spelling member key listed).2

/-- No table has a type for the empty extension. -/
theorem unlisted_nil : sourceTypes.lookup (String.ofList []) = none ∧ generalType? [] = none := by
  rw [lookup_sourceTypes_eq, generalType?_eq, Option.map_eq_none_iff, Option.map_eq_none_iff]
  constructor
  · apply Spelling.lookup?_eq_none
    intro spelling known key inside
    exact (keys_sourceSpellings spelling known key inside).1.symm
  · apply Spelling.lookup?_eq_none
    intro spelling known key inside
    exact (keys_generalSpellings spelling known key inside).1.symm

theorem lookup_lower_of_long (extension : List Char)
    (long : extension.any longLetters.contains = true) :
    sourceTypes.lookup (String.ofList (lower extension)) = none := by
  obtain ⟨char, member, listed⟩ := List.any_eq_true.mp long
  rw [lookup_sourceTypes_eq, Option.map_eq_none_iff]
  apply Spelling.lookup?_eq_none
  rintro spelling known key inside rfl
  obtain ⟨-, ascii, -⟩ := keys_sourceSpellings spelling known _ inside
  exact not_ascii_lower extension char member (List.contains_iff_mem.mp listed) ascii

theorem lookup_lower_of_short (extension : List Char)
    (short : extension.any longLetters.contains = false) :
    sourceTypes.lookup (String.ofList (lower extension)) =
      sourceTypes.lookup (String.ofList (fold extension)) := by
  have absent : ∀ char ∈ extension, char ∉ longLetters := by
    intro char member listed
    exact List.any_eq_false.mp short char member (List.contains_iff_mem.mpr listed)
  rw [lookup_sourceTypes_eq, lookup_sourceTypes_eq]
  congr 1
  apply Spelling.lookup?_congr
  intro spelling known key inside
  obtain ⟨-, ascii, folded, single⟩ := keys_sourceSpellings spelling known key inside
  constructor
  · rintro rfl
    exact (fold_lower_eq_iff extension _ ascii).mp folded
  · rintro rfl
    apply lower_eq_fold extension ascii absent
    intro char member double
    exact single char double (infix_fold extension char member)

/-! What a name is answered -/

/-- The empty extension need not be told apart. -/
theorem typeOfExtension_eq_getD (extension : List Char) :
    typeOfExtension extension = (sourceTypes.lookup (String.ofList extension)).getD
      ((generalType? extension).getD plainText) := by
  rw [typeOfExtension]
  split
  · next empty =>
    rw [List.isEmpty_iff.mp empty, unlisted_nil.1, unlisted_nil.2]
    rfl
  · cases sourceTypes.lookup (String.ofList extension) with
    | some mime => rfl
    | none => rfl

theorem mimeType_eq_getD (name : String) : byExtension.mimeType name =
    (if hasLongLetter name then none else sourceAnswer? name).getD (generalAnswer name) := by
  have asked : byExtension.mimeType name = typeOfExtension (lower (writtenExtension name)) := by
    rw [byExtension, writtenExtension]
  rw [asked, typeOfExtension_eq_getD, generalType?_lower, generalAnswer]
  cases long : hasLongLetter name with
  | true => rw [lookup_lower_of_long _ long, if_pos rfl]
  | false => rw [lookup_lower_of_short _ long, if_neg Bool.false_ne_true, sourceAnswer?]

theorem mimeType_of_sourceAnswer (name mime : String) (source : sourceAnswer? name = some mime) :
    byExtension.mimeType name = if hasLongLetter name then generalAnswer name else mime := by
  rw [mimeType_eq_getD, source]
  cases hasLongLetter name with
  | true => rw [if_pos rfl, if_pos rfl, Option.getD_none]
  | false => rw [if_neg Bool.false_ne_true, if_neg Bool.false_ne_true, Option.getD_some]

theorem mimeType_of_no_sourceAnswer (name : String) (source : sourceAnswer? name = none) :
    byExtension.mimeType name = generalAnswer name := by
  rw [mimeType_eq_getD, source, ite_self, Option.getD_none]

/-- Names whose extensions fold alike have one type if a long letter is in both or in neither, and
otherwise just where the tables have the same type for them. An extension that folds to one of a
source file has the type of that one if it has no long letter, and otherwise just where the general
table has that type too. -/
theorem mimeType_of_fold (name : String) :
    (∀ other : String, fold (writtenExtension other) = fold (writtenExtension name) →
      (byExtension.mimeType other = byExtension.mimeType name ↔
        hasLongLetter other = hasLongLetter name ∨
          ∀ mime, sourceAnswer? name = some mime → generalAnswer name = mime)) ∧
    ∀ mime : String, sourceAnswer? name = some mime →
      (byExtension.mimeType name = mime ↔
        hasLongLetter name = false ∨ generalAnswer name = mime) := by
  constructor
  · intro other same
    have sources : sourceAnswer? other = sourceAnswer? name := by
      rw [sourceAnswer?, sourceAnswer?, same]
    have generals : generalAnswer other = generalAnswer name := by
      rw [generalAnswer, generalAnswer, generalType?, generalType?, same]
    cases source : sourceAnswer? name with
    | none =>
      rw [mimeType_of_no_sourceAnswer name source,
        mimeType_of_no_sourceAnswer other (sources.trans source), generals]
      simp
    | some mime =>
      rw [mimeType_of_sourceAnswer name mime source,
        mimeType_of_sourceAnswer other mime (sources.trans source), generals]
      cases hasLongLetter other <;> cases hasLongLetter name <;> simp [eq_comm]
  · intro mime source
    rw [mimeType_of_sourceAnswer name mime source]
    cases hasLongLetter name <;> simp

theorem mimeType_of_capitals :
    byExtension.mimeType "lib/RUN.SH" = byExtension.mimeType "run.sh" ∧
      byExtension.mimeType "lib/RUN.SH" = "text/x-shellscript" := by
  have short : hasLongLetter "lib/RUN.SH" = false ∧ hasLongLetter "run.sh" = false := by
    decide +kernel
  constructor
  · refine ((mimeType_of_fold "run.sh").1 "lib/RUN.SH" (by decide +kernel)).mpr (.inl ?_)
    rw [short.1, short.2]
  · exact ((mimeType_of_fold "lib/RUN.SH").2 _ (by decide +kernel)).mpr (.inl short.1)

/-- A script is taken for what the general table has under its extension, which is no text, if the
s of the extension is a long one. -/
theorem long_s_misses_source_type :
    fold (writtenExtension "x.\u017Fh") = fold (writtenExtension "x.sh") ∧
      sourceAnswer? "x.\u017Fh" = some "text/x-shellscript" ∧
      byExtension.mimeType "x.\u017Fh" = "application/x-sh" ∧
      byExtension.mimeType "x.sh" = "text/x-shellscript" := by
  decide +kernel

end FileVerdict.Media
