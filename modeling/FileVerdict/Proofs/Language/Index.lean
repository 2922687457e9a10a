import FileVerdict.Language.Catalogue
import Mathlib.Data.List.FinRange
import Std.Data.TreeMap.Lemmas

/-!
What an index answers. A place that is entered leaves the keys alone that are taken. So behind any
run through places of a table, what stands under a key is what has stood there before, or else the
first of the places whose entry has the key; and behind the run through the whole table, the index
answers as a scan of the table does. This is shown once, for any of the maps and any table.
-/

namespace FileVerdict.Language

section
variable {table : List Entry}

theorem Places.getElem?_insertIfNew (places : Places table) (place : Fin table.length)
    (first key : String) :
    (places.insertIfNew first place)[key]? =
      places[key]?.or (if key = first then some place else none) := by
  rw [Std.TreeMap.getElem?_insertIfNew]
  by_cases same : key = first
  · subst same
    cases taken : places[key]? with
    | none =>
      have free : key ∉ places := by simp [Std.TreeMap.mem_iff_isSome_getElem?, taken]
      simp [free]
    | some other =>
      have present : key ∈ places := by simp [Std.TreeMap.mem_iff_isSome_getElem?, taken]
      simp [present]
  · have other : ¬ compare first key = .eq := by simpa using Ne.symm same
    simp [same, other]

theorem Places.getElem?_enter (places : Places table) (place : Fin table.length)
    (keys : List String) (key : String) :
    (places.enter place keys)[key]? =
      places[key]?.or (if key ∈ keys then some place else none) := by
  induction keys generalizing places with
  | nil => simp [Places.enter]
  | cons first keys ih =>
    have entered : places.enter place (first :: keys) =
        Places.enter (places.insertIfNew first place) place keys := rfl
    rw [entered, ih, getElem?_insertIfNew, Option.or_assoc]
    by_cases same : key = first <;> simp [same]

/-- In `map` a place is entered under the keys of its entry that `keysOf` selects. -/
structure Keeps (map : Index table → Places table) (keysOf : Entry → List String) : Prop where
  empty : map Index.empty = ∅
  add : ∀ index place, map (index.add place) = (map index).enter place (keysOf (table.get place))

theorem keeps_byName : @Keeps table Index.byName fun entry => [lowerKey entry.name] :=
  ⟨rfl, fun _ _ => rfl⟩

theorem keeps_byLexer :
    @Keeps table Index.byLexer fun entry => (entry.lexer :: entry.aliases).map lowerKey :=
  ⟨rfl, fun _ _ => rfl⟩

theorem keeps_byExtension : @Keeps table Index.byExtension Entry.extensions :=
  ⟨rfl, fun _ _ => rfl⟩

theorem keeps_byFilename : @Keeps table Index.byFilename Entry.filenames :=
  ⟨rfl, fun _ _ => rfl⟩

variable {map : Index table → Places table} {keysOf : Entry → List String}

theorem Keeps.getElem?_foldl (keeps : Keeps map keysOf) (places : List (Fin table.length))
    (index : Index table) (key : String) :
    (map (places.foldl Index.add index))[key]? =
      (map index)[key]?.or (places.find? fun place => key ∈ keysOf (table.get place)) := by
  induction places generalizing index with
  | nil => simp
  | cons place places ih =>
    rw [List.foldl_cons, ih, keeps.add, Places.getElem?_enter, Option.or_assoc]
    by_cases has : key ∈ keysOf (table.get place)
    · rw [if_pos has, Option.some_or, List.find?_cons_of_pos]
      exact decide_eq_true has
    · rw [if_neg has, Option.none_or, List.find?_cons_of_neg]
      simpa using has

/-- A key leads to the language that a scan of the table comes to. -/
theorem Keeps.language_build (keeps : Keeps map keysOf) (key : String) :
    ((map (Index.build table))[key]?.map fun place => (table.get place).language) =
      (table.find? fun entry => key ∈ keysOf entry).map Entry.language := by
  rw [Index.build, keeps.getElem?_foldl, keeps.empty, Std.TreeMap.getElem?_emptyc, Option.none_or]
  calc
    _ = (((List.finRange table.length).map table.get).find?
          fun entry => key ∈ keysOf entry).map Entry.language := by
        rw [List.find?_map, Option.map_map]
        rfl
    _ = _ := by rw [List.map_get_finRange]

end

/-- Two entries with one extension: it leads to the first of them. -/
example :
    (Index.build [⟨"C", "c", [], [".h"], []⟩, ⟨"C++", "cpp", [], [".h"], []⟩]).byExtension[".h"]? =
      some ⟨0, by decide⟩ := by
  decide +kernel

/-! The built-in entries -/

namespace Entry

/-- Nothing is listed under the empty extension. -/
def HasExtension (extension : String) (entry : Entry) : Prop :=
  extension ≠ "" ∧ extension ∈ entry.extensions

def HasName (name : String) (entry : Entry) : Prop := lowerKey name = lowerKey entry.name

def HasLexer (lexer : String) (entry : Entry) : Prop :=
  ∃ listed ∈ entry.lexer :: entry.aliases, lowerKey lexer = lowerKey listed

def HasFilename (filename : String) (entry : Entry) : Prop := filename ∈ entry.filenames

instance (extension : String) : DecidablePred (HasExtension extension) :=
  fun entry => inferInstanceAs (Decidable (extension ≠ "" ∧ extension ∈ entry.extensions))

instance (name : String) : DecidablePred (HasName name) :=
  fun entry => inferInstanceAs (Decidable (lowerKey name = lowerKey entry.name))

instance (lexer : String) : DecidablePred (HasLexer lexer) := fun entry =>
  inferInstanceAs
    (Decidable (∃ listed ∈ entry.lexer :: entry.aliases, lowerKey lexer = lowerKey listed))

instance (filename : String) : DecidablePred (HasFilename filename) :=
  fun entry => inferInstanceAs (Decidable (filename ∈ entry.filenames))

end Entry

section
variable (fits : Entry → Prop) [DecidablePred fits]

def firstOf : Option Language :=
  (entries.find? fun entry => fits entry).map Entry.language

theorem isSome_firstOf_iff : (firstOf fits).isSome = true ↔ ∃ entry ∈ entries, fits entry := by
  rw [firstOf, Option.isSome_map, List.find?_isSome]
  simp only [decide_eq_true_eq]

theorem firstOf_eq_none_iff : firstOf fits = none ↔ ∀ entry ∈ entries, ¬ fits entry := by
  rw [← Option.not_isSome_iff_eq_none, isSome_firstOf_iff]
  simp only [not_exists, not_and]

theorem exists_of_firstOf (language : Language) (found : firstOf fits = some language) :
    ∃ entry ∈ entries, fits entry ∧ entry.language = language := by
  obtain ⟨entry, first, same⟩ := Option.map_eq_some_iff.mp found
  exact ⟨entry, List.mem_of_find?_eq_some first, by simpa using List.find?_some first, same⟩

end

theorem Keeps.firstOf {map : Index entries → Places entries} {keysOf : Entry → List String}
    (keeps : Keeps map keysOf) (key : String) (fits : Entry → Prop) [DecidablePred fits]
    (has : ∀ entry, key ∈ keysOf entry ↔ fits entry) :
    (map index)[key]?.map languageAt = firstOf fits := by
  have same : (fun entry => decide (key ∈ keysOf entry)) = fun entry => decide (fits entry) :=
    funext fun entry => decide_eq_decide.mpr (has entry)
  unfold Language.firstOf index
  rw [← same]
  exact keeps.language_build key

theorem ofName?_eq_firstOf (name : String) : ofName? name = firstOf (Entry.HasName name) :=
  keeps_byName.firstOf _ _ fun _ => List.mem_singleton

theorem ofLexer?_eq_firstOf (lexer : String) :
    ofLexer? lexer = firstOf (Entry.HasLexer lexer) := by
  apply keeps_byLexer.firstOf
  intro entry
  simp only [List.mem_map, Entry.HasLexer, eq_comm]

theorem byFilename_eq_firstOf (filename : String) :
    index.byFilename[filename]?.map languageAt = firstOf (Entry.HasFilename filename) :=
  keeps_byFilename.firstOf _ _ fun _ => Iff.rfl

theorem ofExtension?_eq_firstOf (extension : String) :
    ofExtension? extension = firstOf (Entry.HasExtension extension) := by
  rw [ofExtension?]
  split
  · next empty =>
    rw [eq_comm, firstOf_eq_none_iff]
    exact fun _ _ has => has.1 (String.isEmpty_iff.mp empty)
  · next nonempty =>
    apply keeps_byExtension.firstOf
    intro entry
    exact ⟨fun listed => ⟨fun empty => nonempty (String.isEmpty_iff.mpr empty), listed⟩, And.right⟩

/-! Paths -/

def Entry.HasPath (path : String) (entry : Entry) : Prop :=
  entry.HasFilename (Path.basename path) ∨ entry.HasExtension (Path.extension path)

def knownPath? (path : String) : Option Language :=
  (firstOf (Entry.HasFilename (Path.basename path))).or (ofExtension? (Path.extension path))

theorem ofPath_eq_getD (path : String) : ofPath path = (knownPath? path).getD text := by
  rw [ofPath, knownPath?, byFilename_eq_firstOf]

theorem knownPath?_eq_none_iff (path : String) :
    knownPath? path = none ↔ ∀ entry ∈ entries, ¬ entry.HasPath path := by
  rw [knownPath?, ofExtension?_eq_firstOf, Option.or_eq_none_iff, firstOf_eq_none_iff,
    firstOf_eq_none_iff]
  simp only [Entry.HasPath, not_or, forall_and]

theorem exists_of_knownPath? (path : String) (language : Language)
    (found : knownPath? path = some language) :
    ∃ entry ∈ entries, entry.HasPath path ∧ entry.language = language := by
  rw [knownPath?, ofExtension?_eq_firstOf, Option.or_eq_some_iff] at found
  rcases found with named | ⟨-, extended⟩
  · obtain ⟨entry, member, has, same⟩ := exists_of_firstOf _ _ named
    exact ⟨entry, member, .inl has, same⟩
  · obtain ⟨entry, member, has, same⟩ := exists_of_firstOf _ _ extended
    exact ⟨entry, member, .inr has, same⟩

/-- No entry of plain text has a file name, and whatever lists an extension of one is of plain text
too. -/
theorem language_of_plain :
    ∀ plain ∈ entries, plain.language = text → plain.filenames = [] ∧
      ∀ entry ∈ entries, ∀ extension ∈ plain.extensions,
        extension ∈ entry.extensions → entry.language = text := by
  decide +kernel

theorem language_of_knownPath? (path : String) (plain : knownPath? path = some text) :
    ∀ entry ∈ entries, entry.HasPath path → entry.language = text := by
  rw [knownPath?, ofExtension?_eq_firstOf, Option.or_eq_some_iff] at plain
  intro entry member has
  rcases plain with named | ⟨unnamed, extended⟩
  · obtain ⟨first, among, file, same⟩ := exists_of_firstOf _ _ named
    rw [Entry.HasFilename, (language_of_plain first among same).1] at file
    cases file
  · rcases has with file | extension
    · exact absurd file ((firstOf_eq_none_iff _).mp unnamed entry member)
    · obtain ⟨first, among, listed, same⟩ := exists_of_firstOf _ _ extended
      exact (language_of_plain first among same).2 entry member _ listed.2 extension.2

theorem ofPath_eq_text_iff (path : String) :
    ofPath path = text ↔ ∀ entry ∈ entries, entry.HasPath path → entry.language = text := by
  rw [ofPath_eq_getD]
  cases found : knownPath? path with
  | none =>
    have unlisted := (knownPath?_eq_none_iff path).mp found
    exact iff_of_true rfl fun entry member has => absurd has (unlisted entry member)
  | some language =>
    constructor
    · rintro rfl
      exact language_of_knownPath? path found
    · intro all
      obtain ⟨entry, member, has, rfl⟩ := exists_of_knownPath? path language found
      exact all entry member has

/-- A look-up answers as a scan of the entries that stops at the first that fits, and gives no
answer just where none fits. -/
structure IsScan (answer : Option Language) (fits : Entry → Prop) [DecidablePred fits] : Prop where
  first : answer = firstOf fits
  none_iff : answer = none ↔ ∀ entry ∈ entries, ¬ fits entry

theorem isScan_of_eq {answer : Option Language} {fits : Entry → Prop} [DecidablePred fits]
    (first : answer = firstOf fits) : IsScan answer fits :=
  ⟨first, first ▸ firstOf_eq_none_iff fits⟩

/-- Every look-up in the index is a scan of the entries. By path, the first entry with the file name
comes before the first with the extension, and plain text is what a path is known as if and only if
no entry of another language fits. -/
theorem catalogue_scans_entries :
    (∀ extension, IsScan (catalogue.byExtension extension) (Entry.HasExtension extension)) ∧
      (∀ name, IsScan (catalogue.byName name) (Entry.HasName name)) ∧
      (∀ lexer, IsScan (catalogue.byLexer lexer) (Entry.HasLexer lexer)) ∧
      ∀ path, catalogue.byPath path = (knownPath? path).getD text ∧
        (knownPath? path = none ↔ ∀ entry ∈ entries, ¬ entry.HasPath path) ∧
        (catalogue.byPath path = text ↔
          ∀ entry ∈ entries, entry.HasPath path → entry.language = text) :=
  ⟨fun extension => isScan_of_eq (ofExtension?_eq_firstOf extension),
    fun name => isScan_of_eq (ofName?_eq_firstOf name),
    fun lexer => isScan_of_eq (ofLexer?_eq_firstOf lexer),
    fun path => ⟨ofPath_eq_getD path, knownPath?_eq_none_iff path, ofPath_eq_text_iff path⟩⟩

end FileVerdict.Language
