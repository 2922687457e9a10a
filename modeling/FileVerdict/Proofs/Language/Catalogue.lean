import FileVerdict.Language.Catalogue
import FileVerdict.Proofs.Text.Lines
import FileVerdict.Rules

/-!
The built-in languages as they come out of look-ups: every answer is an entry of the catalogue, so
the language of any file is one too.
-/

namespace FileVerdict.Language
open FileVerdict.Text

def Listed (language : Language) : Prop := ∃ entry ∈ entries, entry.language = language

theorem listed_text : Listed text :=
  ⟨⟨"Text", "text", [], [".txt"], []⟩, List.mem_cons_self, rfl⟩

theorem listed_of_place (place? : Option (Fin entries.length)) (language : Language)
    (found : place?.map languageAt = some language) : Listed language := by
  obtain ⟨place, -, same⟩ := Option.map_eq_some_iff.mp found
  exact ⟨entries[place], List.getElem_mem place.isLt, same⟩

theorem listed_ofExtension? (extension : String) (language : Language)
    (found : ofExtension? extension = some language) : Listed language := by
  rw [ofExtension?] at found
  split at found
  · cases found
  · exact listed_of_place _ _ found

theorem listed_ofPath (path : String) : Listed (ofPath path) := by
  rw [ofPath]
  cases found : (index.byFilename[Path.basename path]?.map languageAt).or
    (ofExtension? (Path.extension path)) with
  | none => exact listed_text
  | some language =>
    rcases Option.or_eq_some_iff.mp found with named | ⟨-, registered⟩
    · exact listed_of_place _ _ named
    · exact listed_ofExtension? _ _ registered

theorem listed_ofName? (name : String) (language : Language)
    (found : ofName? name = some language) : Listed language := by
  rw [ofName?] at found
  exact listed_of_place _ _ found

theorem listed_ofLexer? (lexer : String) (language : Language)
    (found : ofLexer? lexer = some language) : Listed language := by
  rw [ofLexer?] at found
  exact listed_of_place _ _ found

theorem listed_languageOf (interpreter : String) (language : Language)
    (found : Hashbang.languageOf interpreter catalogue = some language) : Listed language := by
  rw [Hashbang.languageOf] at found
  split at found
  · exact listed_ofName? _ _ found
  · exact listed_ofLexer? _ _ (Option.filter_eq_some_iff.mp found).1

theorem listed_language (subject : Subject) (traits : Traits) :
    Listed (Verdict.language subject traits catalogue) := by
  rw [Verdict.language]
  split
  · split
    · next language found => exact listed_ofExtension? _ _ found
    · split
      · next language found =>
        obtain ⟨interpreter, -, known⟩ := Option.bind_eq_some_iff.mp found
        exact listed_languageOf _ _ known
      · exact listed_ofPath _
  · exact listed_text

theorem printable_name (language : Language) (listed : Listed language) :
    Printable language.name.toList := by
  have all : ∀ entry ∈ entries, Printable entry.name.toList := by decide +kernel
  obtain ⟨entry, member, rfl⟩ := listed
  exact all entry member

end FileVerdict.Language
