import FileVerdict.Proofs.Path

/-!
What the basename and the extension of a name are. The slashes and single dots at the end of a path
can be dropped one after another; if a part then remains last that is not two dots, it is the
basename, and else the whole name is. The extension is what the basename ends in from its last dot
on. It is also found by counting bytes back from the end of the basename: they never run out, and
the place where they lead to is that of the dot.
-/

namespace FileVerdict.Path
open FileVerdict.Text

/-- `part` remains last of a path when the slashes and single dots at its end are dropped. -/
inductive Remains (part : List Char) : List Char → Prop where
  | alone (counts : Counts part) : Remains part part
  | under (above : List Char) (counts : Counts part) : Remains part (above ++ '/' :: part)
  | slash {path : List Char} (remains : Remains part path) : Remains part (path ++ ['/'])
  | dot {path : List Char} (remains : Remains part path) : Remains part (path ++ ['/', '.'])

def Nameless (path : List Char) : Prop := ∀ part, Remains part path → part = ['.', '.']

theorem getLast?_of_remains {part path : List Char} (remains : Remains part path) :
    (parts path).getLast? = some part := by
  induction remains with
  | alone counts => rw [parts_of_counts counts]; rfl
  | under above counts =>
    rw [parts_append_slash, parts_of_counts counts, List.getLast?_append]
    rfl
  | slash _ ih =>
    rw [parts_append_slash, show parts [] = [] from rfl, List.append_nil, ih]
  | dot _ ih =>
    rw [parts_append_slash, show parts ['.'] = [] from rfl, List.append_nil, ih]

theorem exists_remains (path part : List Char) (last : (parts path).getLast? = some part) :
    Remains part path := by
  -- The induction is on the length: what stands before the last slash is shorter.
  induction size : path.length using Nat.strong_induction_on generalizing path with
  | _ _ ih =>
    subst size
    by_cases inside : '/' ∈ path
    · obtain ⟨above, below, rfl, whole⟩ := exists_last inside
      rw [parts_append_slash] at last
      have shorter : above.length < (above ++ '/' :: below).length := by simp
      by_cases counts : Counts below
      · rw [parts_of_counts counts, List.getLast?_concat] at last
        cases last
        exact .under above counts
      · have idle : below = [] ∨ below = ['.'] := by
          by_contra other
          rw [not_or] at other
          exact counts ⟨whole, other⟩
        obtain rfl | rfl := idle
        · rw [show parts [] = [] from rfl, List.append_nil] at last
          exact .slash (ih _ shorter above last rfl)
        · rw [show parts ['.'] = [] from rfl, List.append_nil] at last
          exact .dot (ih _ shorter above last rfl)
    · rw [parts, split_of_not_mem '/' path inside] at last
      have counts := List.mem_filter.mp (List.mem_of_getLast? last)
      obtain rfl := List.mem_singleton.mp counts.1
      exact .alone ⟨inside, by simpa using counts.2⟩

theorem finalPart?_eq_some_iff (path part : List Char) :
    finalPart? path = some part ↔ Remains part path ∧ part ≠ ['.', '.'] := by
  rw [finalPart?, Option.filter_eq_some_iff, bne_iff_ne]
  exact and_congr_left fun _ => ⟨exists_remains path part, getLast?_of_remains⟩

theorem finalPart?_eq_none_iff (path : List Char) : finalPart? path = none ↔ Nameless path := by
  simp only [Option.eq_none_iff_forall_ne_some, Ne, finalPart?_eq_some_iff, not_and, not_not,
    Nameless]

/-! The last dot of a part -/

theorem suffix_of_undotted {part : List Char} (undotted : '.' ∉ part) : suffix part = [] := by
  have cut := rdropWhile_of_not_mem undotted
  rw [List.rdropWhile, List.reverse_eq_nil_iff] at cut
  rw [suffix, cut]

theorem suffix_of_dot (stem ending : List Char) (last : '.' ∉ ending) :
    suffix (stem ++ '.' :: ending) = if stem = [] ∨ ending = [] then [] else '.' :: ending := by
  have kept := rtakeWhile_last stem ending last
  have cut := rdropWhile_last stem ending last
  rw [List.rtakeWhile, List.reverse_eq_iff] at kept
  rw [List.rdropWhile, List.reverse_eq_iff] at cut
  rw [suffix, kept, cut]
  cases stem using List.reverseRecOn with
  | nil => simp
  | append_singleton stem char => simp

theorem suffix_ends (part : List Char) : suffix part = [] ∨ ∃ stem ending,
    stem ≠ [] ∧ ending ≠ [] ∧ '.' ∉ ending ∧ suffix part = '.' :: ending ∧
      part = stem ++ '.' :: ending := by
  by_cases dotted : '.' ∈ part
  · obtain ⟨stem, ending, rfl, last⟩ := exists_last dotted
    by_cases bare : stem = [] ∨ ending = []
    · exact .inl (by rw [suffix_of_dot stem ending last, if_pos bare])
    · obtain ⟨named, ended⟩ := not_or.mp bare
      exact .inr ⟨stem, ending, named, ended, last,
        by rw [suffix_of_dot stem ending last, if_neg bare], rfl⟩
  · exact .inl (suffix_of_undotted dotted)

theorem suffix_eq_nil_iff (part : List Char) :
    suffix part = [] ↔
      '.' ∉ part ∨ (∃ rest, part = '.' :: rest ∧ '.' ∉ rest) ∨ ∃ stem, part = stem ++ ['.'] := by
  by_cases dotted : '.' ∈ part
  · obtain ⟨stem, ending, rfl, last⟩ := exists_last dotted
    have bare : suffix (stem ++ '.' :: ending) = [] ↔ stem = [] ∨ ending = [] := by
      rw [suffix_of_dot stem ending last]
      split <;> simp_all
    rw [bare]
    constructor
    · rintro (rfl | rfl)
      · exact .inr (.inl ⟨ending, rfl, last⟩)
      · exact .inr (.inr ⟨stem, rfl⟩)
    · rintro (undotted | ⟨rest, same, only⟩ | ⟨other, same⟩)
      · exact absurd dotted undotted
      · cases stem with
        | nil => exact .inl rfl
        | cons first stem =>
          obtain ⟨-, rfl⟩ := List.cons.inj same
          exact absurd (List.mem_append_right stem List.mem_cons_self) only
      · obtain rfl | ⟨ending, char, rfl⟩ := List.eq_nil_or_concat ending
        · exact .inr rfl
        · rw [List.concat_eq_append, ← List.cons_append, ← List.append_assoc] at same
          obtain ⟨-, ends⟩ := List.append_inj' same rfl
          simp [List.cons.inj ends] at last
  · simp [suffix_of_undotted dotted, dotted]

/-! The extension by counting bytes -/

/-- What stands behind the last dot of a part, if something stands before that dot. -/
def behindDot? (part : List Char) : Option (List Char) :=
  match part.rdropWhile fun char => char != '.' with
  | _ :: _ :: _ => some (part.rtakeWhile fun char => char != '.')
  | _ => none

def ending? (name : String) : Option String :=
  ((finalPart? name.toList).bind behindDot?).map String.ofList

/-- The text from a byte on, unless that byte lies within a character or behind the end. -/
def fromByte? (text : String) (byte : Nat) : Option String :=
  if place : String.Pos.Raw.IsValid text ⟨byte⟩ then
    some (text.sliceFrom ⟨⟨byte⟩, place⟩).copy
  else none

/-- The end of a text that has one byte more than its ending. Without an ending, or with an empty
one, nothing is sliced off; and where the text has not that many bytes, slicing fails. -/
def slice? (text : String) : Option String → Option String
  | none => some ""
  | some ending =>
    if ending.isEmpty then some ""
    else if ending.utf8ByteSize + 1 ≤ text.utf8ByteSize then
      fromByte? text (text.utf8ByteSize - ending.utf8ByteSize - 1)
    else none

def slicedExtension? (name : String) : Option String :=
  slice? (basename name) (ending? (basename name))

theorem behindDot?_of_undotted {part : List Char} (undotted : '.' ∉ part) :
    behindDot? part = none := by
  rw [behindDot?, rdropWhile_of_not_mem undotted]

theorem behindDot?_of_dot (stem ending : List Char) (last : '.' ∉ ending) :
    behindDot? (stem ++ '.' :: ending) = if stem = [] then none else some ending := by
  rw [behindDot?, rdropWhile_last stem ending last, rtakeWhile_last stem ending last]
  match stem with
  | [] => rfl
  | [_] => rfl
  | _ :: _ :: _ => rfl

theorem fromByte?_append (before after : String) :
    fromByte? (before ++ after) before.utf8ByteSize = some after := by
  have place : String.Pos.Raw.IsValid (before ++ after) ⟨before.utf8ByteSize⟩ :=
    String.Pos.Raw.isValid_iff_exists_append.mpr ⟨before, after, rfl, rfl⟩
  rw [fromByte?, dif_pos place, Option.some_inj]
  exact String.Pos.Splits.copy_sliceFrom_eq ⟨rfl, rfl⟩

/-! What a name comes down to -/

theorem basename_of_finalPart? {name : String} {part : List Char}
    (final : finalPart? name.toList = some part) : basename name = String.ofList part := by
  rw [basename, final]

theorem basename_of_nameless {name : String} (nameless : finalPart? name.toList = none) :
    basename name = name := by
  rw [basename, nameless]

theorem finalPart?_basename (name : String) :
    finalPart? (basename name).toList = finalPart? name.toList := by
  cases final : finalPart? name.toList with
  | none => rw [basename_of_nameless final, final]
  | some part =>
    rw [basename_of_finalPart? final, String.toList_ofList, finalPart?_of_finalPart? final]

theorem basename_basename (name : String) : basename (basename name) = basename name := by
  rw [basename, finalPart?_basename]
  cases final : finalPart? name.toList with
  | none => rfl
  | some part => exact (basename_of_finalPart? final).symm

theorem extension_of_finalPart? {name : String} {part : List Char}
    (final : finalPart? name.toList = some part) :
    extension name = String.ofList (suffix part) := by
  rw [extension, final]

theorem extension_of_nameless {name : String} (nameless : finalPart? name.toList = none) :
    extension name = "" := by
  rw [extension, nameless]

theorem ending?_basename (name : String) :
    ending? (basename name) =
      ((finalPart? name.toList).bind behindDot?).map String.ofList := by
  rw [ending?, finalPart?_basename]

theorem ofList_dot (ending : List Char) :
    String.ofList ('.' :: ending) = "." ++ String.ofList ending :=
  @String.ofList_append ['.'] ending

theorem suffix_eq_behindDot? (part : List Char) :
    suffix part = match behindDot? part with
      | some ending => if ending = [] then [] else '.' :: ending
      | none => [] := by
  by_cases dotted : '.' ∈ part
  · obtain ⟨stem, ending, rfl, last⟩ := exists_last dotted
    rw [suffix_of_dot stem ending last, behindDot?_of_dot stem ending last]
    by_cases bare : stem = [] <;> simp [bare]
  · rw [suffix_of_undotted dotted, behindDot?_of_undotted dotted]

theorem extension_eq_ending? (name : String) :
    extension name = match ending? (basename name) with
      | some ending => if ending = "" then "" else "." ++ ending
      | none => "" := by
  rw [ending?_basename]
  cases final : finalPart? name.toList with
  | none => rw [extension_of_nameless final]; rfl
  | some part =>
    rw [extension_of_finalPart? final, suffix_eq_behindDot?, Option.bind_some]
    cases behindDot? part with
    | none => rfl
    | some ending =>
      dsimp only [Option.map_some]
      by_cases empty : ending = []
      · simp [empty]
      · rw [if_neg empty, if_neg (by simpa using empty)]
        exact ofList_dot ending

/-- What is counted back from the end of the basename are the bytes behind the dot and that of the
dot itself, and what stands before them is a text. -/
theorem dot_of_ending? (name ending : String) (found : ending? (basename name) = some ending) :
    ∃ stem, basename name = stem ++ "." ++ ending ∧
      ending.utf8ByteSize + 1 ≤ (basename name).utf8ByteSize ∧
      stem.utf8ByteSize = (basename name).utf8ByteSize - ending.utf8ByteSize - 1 := by
  rw [ending?_basename] at found
  obtain ⟨behind, known, rfl⟩ := Option.map_eq_some_iff.mp found
  obtain ⟨part, final, known⟩ := Option.bind_eq_some_iff.mp known
  have dotted : '.' ∈ part := by
    by_contra undotted
    rw [behindDot?_of_undotted undotted] at known
    cases known
  obtain ⟨stem, ending, rfl, last⟩ := exists_last dotted
  rw [behindDot?_of_dot stem ending last] at known
  obtain ⟨-, same⟩ := Option.ite_none_left_eq_some.mp known
  obtain rfl := Option.some.inj same
  have base : basename name = String.ofList stem ++ "." ++ String.ofList ending := by
    rw [basename_of_finalPart? final, String.ofList_append, ofList_dot, String.append_assoc]
  have size : (basename name).utf8ByteSize =
      (String.ofList stem).utf8ByteSize + 1 + (String.ofList ending).utf8ByteSize := by
    rw [base, String.utf8ByteSize_append, String.utf8ByteSize_append]
    rfl
  refine ⟨String.ofList stem, base, ?_, ?_⟩ <;> omega

/-- To slice never fails, and gives the extension. -/
theorem slicedExtension?_eq (name : String) : slicedExtension? name = some (extension name) := by
  rw [slicedExtension?, extension_eq_ending?]
  cases found : ending? (basename name) with
  | none => rfl
  | some ending =>
    obtain ⟨stem, base, fits, place⟩ := dot_of_ending? name ending found
    rw [slice?]
    dsimp only
    by_cases empty : ending = ""
    · simp [empty]
    · rw [if_neg (by simpa using empty), if_pos fits, if_neg empty, ← place, base,
        String.append_assoc, fromByte?_append]

structure IsBasename (name base : String) : Prop where
  remaining : ∀ part, Remains part name.toList → part ≠ ['.', '.'] → base = String.ofList part
  whole : Nameless name.toList → base = name
  stable : basename base = base

/-- The extension is what the basename ends in from its last dot on, something before the dot and
something behind it. Only where there is no such end is it empty. -/
structure IsExtension (name base extension : String) : Prop where
  ends : extension = "" ∨ ∃ stem ending : String, stem ≠ "" ∧ ending ≠ "" ∧
    '.' ∉ ending.toList ∧ '/' ∉ ending.toList ∧ extension = "." ++ ending ∧ base = stem ++ extension
  empty_iff : extension = "" ↔ Nameless name.toList ∨ '.' ∉ base.toList ∨
    (∃ rest, base.toList = '.' :: rest ∧ '.' ∉ rest) ∨ ∃ stem, base.toList = stem ++ ['.']

theorem isBasename_basename (name : String) : IsBasename name (basename name) where
  remaining part remains other :=
    basename_of_finalPart? ((finalPart?_eq_some_iff name.toList part).mpr ⟨remains, other⟩)
  whole nameless := basename_of_nameless ((finalPart?_eq_none_iff name.toList).mpr nameless)
  stable := basename_basename name

theorem isExtension_of_nameless {name : String} (nameless : finalPart? name.toList = none) :
    IsExtension name (basename name) (extension name) where
  ends := .inl (extension_of_nameless nameless)
  empty_iff := iff_of_true (extension_of_nameless nameless)
    (.inl ((finalPart?_eq_none_iff name.toList).mp nameless))

theorem isExtension_of_finalPart? {name : String} {part : List Char}
    (final : finalPart? name.toList = some part) :
    IsExtension name (basename name) (extension name) := by
  have base := basename_of_finalPart? final
  have written := extension_of_finalPart? final
  constructor
  · rcases suffix_ends part with bare | ⟨stem, ending, named, ended, last, suffixed, parted⟩
    · exact .inl (by rw [written, bare])
    · have whole := (counts_of_finalPart? final).1
      refine .inr ⟨String.ofList stem, String.ofList ending, ?_, ?_, ?_, ?_, ?_, ?_⟩
      · simpa using named
      · simpa using ended
      · rwa [String.toList_ofList]
      · rw [String.toList_ofList]
        exact fun inside => whole (by simp [parted, inside])
      · rw [written, suffixed]
        exact ofList_dot ending
      · rw [base, written, suffixed, parted, String.ofList_append]
  · have named : ¬ Nameless name.toList := by
      rw [← finalPart?_eq_none_iff, final]
      exact Option.some_ne_none part
    rw [written, base, String.toList_ofList, or_iff_right named, ← suffix_eq_nil_iff]
    simp

/-- The basename of a name is the last part that counts or the whole name, and is its own basename;
the extension is the end of the basename from its last dot on. Sliced off the basename at a place
counted in bytes from the end, the extension is the same: the count never goes below zero, and at
its place stands the dot. -/
theorem basename_and_extension (name : String) :
    IsBasename name (basename name) ∧ IsExtension name (basename name) (extension name) ∧
      slicedExtension? name = some (extension name) ∧
      ∀ ending, ending? (basename name) = some ending → ∃ stem,
        basename name = stem ++ "." ++ ending ∧
          ending.utf8ByteSize + 1 ≤ (basename name).utf8ByteSize ∧
          stem.utf8ByteSize = (basename name).utf8ByteSize - ending.utf8ByteSize - 1 := by
  refine ⟨isBasename_basename name, ?_, slicedExtension?_eq name, dot_of_ending? name⟩
  cases final : finalPart? name.toList with
  | none => exact isExtension_of_nameless final
  | some part => exact isExtension_of_finalPart? final

example : basename "a/./..ä.gz/./" = "..ä.gz" ∧ extension "a/./..ä.gz/./" = ".gz" ∧
    basename "a/.." = "a/.." ∧ extension "x/.gz" = "" := by
  decide +kernel

end FileVerdict.Path
