import FileVerdict.Media.Lookup
import FileVerdict.Proofs.Text.Lines
import FileVerdict.Proofs.Text.Recursor

/-!
The tables of media types with every string spelled out, and what holds of every type that they can
answer. A string literal has to be decoded before its characters can be looked at; a table of lists
of characters is gone through as it is. So each table is spelled once, with a proof that the
spelling is its own, and look-ups are made in the spellings. What is decided of every entry is
decided of functions by the recursor alone, which are shown to be the ones they stand for.
-/

namespace FileVerdict.Media
open FileVerdict.Text

structure Spelling where
  mime : List Char
  extensions : List (List Char)

def Spelling.entry (spelling : Spelling) : MediaEntry :=
  ⟨String.ofList spelling.mime, spelling.extensions.map String.ofList⟩

/-- A table with its spelling, read off entry by entry and extension by extension. -/
inductive Spells : List MediaEntry → List Spelling → Prop
  | none : Spells [] []
  | type {entries : List MediaEntry} {spellings : List Spelling} {mime : List Char} :
    Spells entries spellings → Spells (⟨String.ofList mime, []⟩ :: entries) (⟨mime, []⟩ :: spellings)
  | extension {entries : List MediaEntry} {spellings : List Spelling} {mime extension : List Char}
      {extensions : List String} {others : List (List Char)} :
    Spells (⟨String.ofList mime, extensions⟩ :: entries) (⟨mime, others⟩ :: spellings) →
    Spells (⟨String.ofList mime, String.ofList extension :: extensions⟩ :: entries)
      (⟨mime, extension :: others⟩ :: spellings)

theorem Spells.eq_map {entries : List MediaEntry} {spellings : List Spelling}
    (spells : Spells entries spellings) : entries = spellings.map Spelling.entry := by
  induction spells with
  | none => rfl
  | type _ ih =>
    rw [ih]
    rfl
  | extension _ ih =>
    simp only [List.map_cons, List.cons.injEq, Spelling.entry, MediaEntry.mk.injEq] at ih
    obtain ⟨⟨-, rfl⟩, rfl⟩ := ih
    rfl

theorem Spells.append {entries others : List MediaEntry} {spellings otherSpellings : List Spelling}
    (first : Spells entries spellings) (second : Spells others otherSpellings) :
    Spells (entries ++ others) (spellings ++ otherSpellings) := by
  induction first with
  | none => exact second
  | type _ ih => exact .type ih
  | extension _ ih => exact .extension ih

abbrev SpellingsOf (entries : List MediaEntry) : Type :=
  { spellings : List Spelling // entries = spellings.map Spelling.entry }

noncomputable def generalSpellings : SpellingsOf mediaTypes :=
  ⟨_, Spells.eq_map <| by
    unfold mediaTypes applicationTypes vendorTypes experimentalTypes audioTypes imageTypes textTypes
      videoTypes otherTypes
    repeat' apply Spells.append
    all_goals repeat constructor⟩

def sourceEntries : List MediaEntry := sourceTypes.map fun (extension, mime) => ⟨mime, [extension]⟩

noncomputable def sourceSpellings : SpellingsOf sourceEntries :=
  ⟨_, Spells.eq_map <| by
    unfold sourceEntries sourceTypes
    repeat constructor⟩

/-! Look-ups in the spellings -/

def Spelling.lookup? (spellings : List Spelling) (extension : List Char) : Option (List Char) :=
  (spellings.find? fun spelling => spelling.extensions.contains extension).map Spelling.mime

noncomputable def Spelling.lookupByRec (spellings : List Spelling) (extension : List Char) :
    Option (List Char) :=
  List.rec none (fun spelling _ found =>
    Bool.rec found (some spelling.mime) (containsByRec spelling.extensions extension)) spellings

theorem Spelling.lookupByRec_eq (spellings : List Spelling) (extension : List Char) :
    lookupByRec spellings extension = lookup? spellings extension := by
  induction spellings with
  | nil => rfl
  | cons spelling others ih =>
    change Bool.rec (lookupByRec others extension) (some spelling.mime)
      (containsByRec spelling.extensions extension) = lookup? (spelling :: others) extension
    rw [ih, containsByRec_eq, lookup?, lookup?, List.find?_cons]
    cases spelling.extensions.contains extension <;> rfl

theorem find?_entries {entries : List MediaEntry} (spellings : SpellingsOf entries)
    (extension : List Char) :
    (entries.find? fun entry => entry.extensions.contains (String.ofList extension)).map
        MediaEntry.mime =
      (Spelling.lookup? spellings extension).map String.ofList := by
  obtain ⟨spellings, rfl⟩ := spellings
  have same : (fun entry => entry.extensions.contains (String.ofList extension)) ∘ Spelling.entry =
      fun spelling : Spelling => spelling.extensions.contains extension := by
    funext spelling
    rw [Bool.eq_iff_iff]
    simp [Spelling.entry, String.ofList_inj]
  rw [List.find?_map, same, Option.map_map, Spelling.lookup?, Option.map_map]
  rfl

theorem lookup_sourceTypes (extension : String) :
    sourceTypes.lookup extension =
      (sourceEntries.find? fun entry => entry.extensions.contains extension).map
        MediaEntry.mime := by
  rw [sourceEntries]
  induction sourceTypes with
  | nil => rfl
  | cons source sources ih =>
    obtain ⟨listed, mime⟩ := source
    rw [List.lookup_cons, List.map_cons, List.find?_cons, ih]
    by_cases same : extension = listed
    · simp [same]
    · simp [same, beq_false_of_ne same]

theorem lookup_sourceTypes_eq (extension : List Char) :
    sourceTypes.lookup (String.ofList extension) =
      (Spelling.lookup? sourceSpellings extension).map String.ofList := by
  rw [lookup_sourceTypes, find?_entries sourceSpellings]

theorem generalType?_eq (extension : List Char) :
    generalType? extension =
      (Spelling.lookup? generalSpellings (fold extension)).map String.ofList := by
  rw [generalType?, find?_entries generalSpellings]

noncomputable def spelledType (extension : List Char) : List Char :=
  if extension.isEmpty then plainText.toList
  else match Spelling.lookup? sourceSpellings extension with
    | some mime => mime
    | none => (Spelling.lookup? generalSpellings (fold extension)).getD plainText.toList

theorem typeOfExtension_eq (extension : List Char) :
    typeOfExtension extension = String.ofList (spelledType extension) := by
  rw [typeOfExtension, spelledType, lookup_sourceTypes_eq, generalType?_eq]
  split
  · exact String.ofList_toList.symm
  · cases Spelling.lookup? sourceSpellings extension with
    | some mime => rfl
    | none =>
      cases Spelling.lookup? generalSpellings (fold extension) with
      | some mime => rfl
      | none => exact String.ofList_toList.symm

/-- What holds of plain text and of every type in the tables holds of every answer. -/
theorem spelledType_of_all (good : List Char → Prop) (plain : good plainText.toList)
    (sources : ∀ spelling ∈ sourceSpellings.1, good spelling.mime)
    (general : ∀ spelling ∈ generalSpellings.1, good spelling.mime) (extension : List Char) :
    good (spelledType extension) := by
  have found : ∀ spellings : List Spelling, (∀ spelling ∈ spellings, good spelling.mime) →
      ∀ key mime, Spelling.lookup? spellings key = some mime → good mime := by
    intro spellings all key mime answer
    obtain ⟨spelling, first, rfl⟩ := Option.map_eq_some_iff.mp answer
    exact all spelling (List.mem_of_find?_eq_some first)
  rw [spelledType]
  split
  · exact plain
  · split
    · next mime answer => exact found _ sources _ _ answer
    · cases answer : Spelling.lookup? generalSpellings (fold extension) with
      | some mime => exact found _ general _ _ answer
      | none => exact plain

/-! What every answer is like -/

def textMark : List Char := ['t', 'e', 'x', 't']

def jsonMark : List Char := ['j', 's', 'o', 'n']

def octetMark : List Char := ['o', 'c', 't', 'e', 't']

def isTextSpelling (mime : List Char) : Bool :=
  Traits.occurs textMark mime || Traits.occurs jsonMark mime

theorem isTextType_ofList (mime : List Char) :
    Traits.isTextType (String.ofList mime) = isTextSpelling mime := by
  rw [Traits.isTextType, Traits.mentions, Traits.mentions, String.toList_ofList (l := mime)]
  rfl

theorem mentions_octet_ofList (mime : List Char) :
    Traits.mentions "octet" (String.ofList mime) = Traits.occurs octetMark mime := by
  rw [Traits.mentions, String.toList_ofList (l := mime)]
  rfl

theorem printable_iff_allByRec (text : List Char) :
    Printable text ↔ allByRec (fun char => Nat.ble 0x20 char.toNat) text = true := by
  rw [allByRec_eq, List.all_eq_true]
  simp only [Nat.ble_eq, Printable]

theorem isTextSpelling_eq_byRec (mime : List Char) :
    isTextSpelling mime = (occursByRec textMark mime || occursByRec jsonMark mime) := by
  rw [occursByRec_eq, occursByRec_eq, isTextSpelling]

theorem printable_spelledType (extension : List Char) : Printable (spelledType extension) := by
  apply spelledType_of_all Printable
  all_goals simp only [printable_iff_allByRec]
  all_goals decide +kernel

theorem spelledType_of_octet (extension : List Char) :
    Traits.occurs octetMark (spelledType extension) = true →
      isTextSpelling (spelledType extension) = false := by
  apply spelledType_of_all
    fun mime => Traits.occurs octetMark mime = true → isTextSpelling mime = false
  all_goals simp only [← occursByRec_eq, isTextSpelling_eq_byRec]
  all_goals decide +kernel

def pictureTypes : List String := ["image/png", "image/jpeg", "image/gif"]

theorem spelledType_of_image :
    ∀ extension ∈ [['p', 'n', 'g'], ['j', 'p', 'g'], ['j', 'p', 'e', 'g'], ['g', 'i', 'f']],
      spelledType (lower extension) ∈ pictureTypes.map String.toList := by
  simp only [spelledType, ← Spelling.lookupByRec_eq]
  decide +kernel

variable (name : String)

theorem mimeType_eq : byExtension.mimeType name =
    String.ofList (spelledType (lower ((Path.extension name).toList.drop 1))) := by
  simp only [byExtension, typeOfExtension_eq]

theorem printable_mimeType : Printable (byExtension.mimeType name).toList := by
  rw [mimeType_eq, String.toList_ofList]
  exact printable_spelledType _

/-- No type that calls itself a stream of octets is text. -/
theorem mimeType_of_octet (octet : Traits.mentions "octet" (byExtension.mimeType name) = true) :
    Traits.isTextType (byExtension.mimeType name) = false := by
  rw [mimeType_eq, mentions_octet_ofList] at octet
  rw [mimeType_eq, isTextType_ofList]
  exact spelledType_of_octet _ octet

theorem mimeType_of_image (image : Traits.isImageName name = true) :
    byExtension.mimeType name ∈ pictureTypes := by
  have spelled : spelledType (lower ((Path.extension name).toList.drop 1)) ∈
      pictureTypes.map String.toList := by
    apply spelledType_of_image
    have listed : Path.extension name ∈ [".png", ".jpg", ".jpeg", ".gif"] := by
      simpa [Traits.isImageName] using image
    simp only [List.mem_cons, List.not_mem_nil, or_false] at listed
    obtain same | same | same | same := listed
    all_goals
      rw [same]
      decide
  obtain ⟨mime, member, same⟩ := List.mem_map.mp spelled
  rwa [mimeType_eq, ← same, String.ofList_toList]

end FileVerdict.Media
