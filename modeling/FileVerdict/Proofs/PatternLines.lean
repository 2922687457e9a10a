import FileVerdict.Proofs.PatternFile
import Mathlib.Data.List.DropRight

/-!
Files of patterns written and read back. Blanks around a line go before anything else is looked at,
so the carriage return of a line end goes with them, and it makes no difference to the patterns
which kind of line ends a file has or whether its last line is ended. What is read is a list of
texts that a line can hold as they are; any such list is read back from a file that has each of them
on a line of its own, and two files, one on a new line behind the other, have the patterns of both.
-/

namespace FileVerdict
open FileVerdict.Text

namespace Text

structure Trimmed (text : List Char) : Prop where
  first : ∀ char, text.head? = some char → isBlank char = false
  last : ∀ char, text.getLast? = some char → isBlank char = false

theorem trim_eq_rdropWhile (text : List Char) :
    trim text = (text.dropWhile isBlank).rdropWhile isBlank := rfl

theorem trimmed_trim (text : List Char) : Trimmed (trim text) := by
  rw [trim_eq_rdropWhile]
  have front := List.head?_dropWhile_not isBlank text
  generalize text.dropWhile isBlank = body at front
  constructor
  case first =>
    intro char head
    obtain ⟨behind, whole⟩ := List.rdropWhile_prefix isBlank body
    rw [← whole, List.head?_append, head] at front
    exact front
  case last =>
    intro char last
    have nonempty : body.rdropWhile isBlank ≠ [] := List.ne_nil_of_mem (List.mem_of_getLast? last)
    rw [List.getLast?_eq_some_getLast nonempty, Option.some_inj] at last
    rw [← last]
    exact Bool.eq_false_iff.mpr (List.rdropWhile_last_not isBlank body nonempty)

theorem Trimmed.trim_eq {text : List Char} (trimmed : Trimmed text) : trim text = text := by
  have front : text.dropWhile isBlank = text := by
    cases text with
    | nil => rfl
    | cons char rest =>
      rw [List.dropWhile_cons, trimmed.first char rfl, if_neg Bool.false_ne_true]
  have back : text.rdropWhile isBlank = text := by
    apply List.rdropWhile_eq_self_iff.mpr
    intro nonempty
    rw [trimmed.last _ (List.getLast?_eq_some_getLast nonempty)]
    exact Bool.false_ne_true
  rw [trim_eq_rdropWhile, front, back]

theorem trim_append_blank (line : List Char) (blank : Char) (ends : isBlank blank = true) :
    trim (line ++ [blank]) = trim line := by
  rw [trim_eq_rdropWhile, trim_eq_rdropWhile, List.dropWhile_append]
  split
  · next blanks =>
    rw [List.isEmpty_iff] at blanks
    rw [blanks, List.dropWhile_cons, if_pos ends]
    rfl
  · exact List.rdropWhile_concat_pos isBlank _ blank ends

theorem trim_dropReturn (line : List Char) : trim (dropReturn line) = trim line := by
  rw [dropReturn]
  split
  · next returned =>
    obtain ⟨body, rfl⟩ := List.getLast?_eq_some_iff.mp returned
    rw [List.dropLast_concat, trim_append_blank body '\r' (by decide)]
  · rfl

end Text

/-! What is kept of the lines -/

def keptOf (pieces : List (List Char)) : List String :=
  ((pieces.map trim).filter fun line => !line.isEmpty && line.head? != some '#').map String.ofList

theorem keptOf_append (first second : List (List Char)) :
    keptOf (first ++ second) = keptOf first ++ keptOf second := by
  rw [keptOf, List.map_append, List.filter_append, List.map_append]
  rfl

theorem keptOf_dropReturn (pieces : List (List Char)) :
    keptOf (pieces.map dropReturn) = keptOf pieces := by
  have trims : trim ∘ dropReturn = trim := funext trim_dropReturn
  rw [keptOf, List.map_map, trims]
  rfl

/-- To cut at newlines is enough: a carriage return before one is trimmed away, and nothing is
kept of what is empty. -/
theorem keptOf_lines (text : List Char) : keptOf (lines text) = keptOf (split '\n' text) := by
  obtain ⟨ended, last, pieces, parts⟩ := exists_ended text
  rw [pieces, parts, keptOf_append, keptOf_append, keptOf_dropReturn]
  congr 1
  split
  · next empty =>
    rw [List.isEmpty_iff.mp empty]
    decide
  · rfl

theorem patternLines_eq (text : String) :
    patternLines text = keptOf (split '\n' text.toList) :=
  keptOf_lines text.toList

/-- The patterns of two texts on lines of their own are those of the one and of the other. -/
theorem patternLines_append (first second : String) :
    patternLines (first ++ "\n" ++ second) = patternLines first ++ patternLines second := by
  have joined : (first ++ "\n" ++ second).toList = first.toList ++ '\n' :: second.toList := by
    rw [String.toList_append, String.toList_append, List.append_assoc]
    rfl
  simp only [patternLines_eq]
  rw [joined, split_append_cons, keptOf_append]

/-! Patterns that a line can hold as they are -/

structure IsLinePattern (pattern : String) : Prop where
  nonempty : pattern ≠ ""
  trimmed : Trimmed pattern.toList
  single : '\n' ∉ pattern.toList
  uncommented : pattern.toList.head? ≠ some '#'

theorem isLinePattern_of_mem (text : String) : ∀ pattern ∈ patternLines text,
    IsLinePattern pattern := by
  intro pattern member
  rw [← String.ofList_toList (s := text)] at member
  obtain ⟨line, known, ⟨nonempty, uncommented⟩, rfl⟩ := (mem_patternLines _ pattern).mp member
  constructor
  case nonempty =>
    intro empty
    exact nonempty (String.ofList_eq_empty_iff.mp empty)
  case trimmed =>
    rw [String.toList_ofList]
    exact trimmed_trim line
  case single =>
    rw [String.toList_ofList]
    intro inside
    exact newline_not_mem_lines _ line known (mem_of_mem_trim line _ inside)
  case uncommented =>
    rw [String.toList_ofList]
    exact uncommented

theorem patternLines_line (line : String) (single : '\n' ∉ line.toList)
    (kept : IsPatternLine line.toList) :
    patternLines line = [String.ofList (trim line.toList)] := by
  rw [patternLines_eq, split_of_not_mem '\n' line.toList single]
  have keeps : (!(trim line.toList).isEmpty && (trim line.toList).head? != some '#') = true := by
    rw [Bool.and_eq_true, Bool.not_eq_true', List.isEmpty_eq_false_iff, bne_iff_ne]
    exact kept
  rw [keptOf, List.map_singleton, List.filter_cons, if_pos keeps]
  rfl

def lineEnds : List String := ["\n", "\r\n"]

namespace IsLinePattern
variable {pattern : String} (isPattern : IsLinePattern pattern)
include isPattern

theorem patternLines_append_returns (returns : String) (returned : returns ∈ ["", "\r"]) :
    patternLines (pattern ++ returns) = [pattern] := by
  have trims : trim (pattern ++ returns).toList = pattern.toList := by
    rw [String.toList_append]
    rcases List.mem_pair.mp returned with rfl | rfl
    · exact (congrArg trim (List.append_nil _)).trans isPattern.trimmed.trim_eq
    · exact (trim_append_blank _ '\r' (by decide)).trans isPattern.trimmed.trim_eq
  have single : '\n' ∉ (pattern ++ returns).toList := by
    rw [String.toList_append, List.mem_append, not_or]
    refine ⟨isPattern.single, ?_⟩
    rcases List.mem_pair.mp returned with rfl | rfl
    · decide
    · decide
  have kept : IsPatternLine (pattern ++ returns).toList := by
    unfold IsPatternLine
    rw [trims]
    exact ⟨fun empty => isPattern.nonempty (String.toList_eq_nil_iff.mp empty),
      isPattern.uncommented⟩
  rw [patternLines_line _ single kept, trims, String.ofList_toList]

/-- A pattern on a line that is ended comes before those of the lines below. -/
theorem patternLines_ended (ending : String) (ends : ending ∈ lineEnds) (rest : String) :
    patternLines (pattern ++ ending ++ rest) = pattern :: patternLines rest := by
  obtain ⟨returns, returned, rfl⟩ : ∃ returns ∈ ["", "\r"], ending = returns ++ "\n" := by
    rcases List.mem_pair.mp ends with rfl | rfl
    · exact ⟨"", by decide, rfl⟩
    · exact ⟨"\r", by decide, rfl⟩
  rw [← String.append_assoc, patternLines_append,
    isPattern.patternLines_append_returns returns returned]
  rfl

end IsLinePattern

/-- Patterns joined by line ends are read back, with a line end behind the last or without. -/
theorem patternLines_intercalate (patterns : List String)
    (all : ∀ pattern ∈ patterns, IsLinePattern pattern) (ending : String)
    (ends : ending ∈ lineEnds) (final : String) (finished : final ∈ "" :: lineEnds) :
    patternLines (ending.intercalate patterns ++ final) = patterns := by
  induction patterns with
  | nil =>
    have nothing : ∀ final ∈ "" :: lineEnds, patternLines ("" ++ final) = [] := by decide
    exact nothing final finished
  | cons pattern patterns ih =>
    rw [List.forall_mem_cons] at all
    cases patterns with
    | nil =>
      rw [String.intercalate_singleton]
      rcases List.mem_cons.mp finished with rfl | ended
      · exact all.1.patternLines_append_returns "" (by decide)
      · have rest := all.1.patternLines_ended final ended ""
        rwa [String.append_empty] at rest
    | cons next patterns =>
      rw [String.intercalate_cons_cons, String.append_assoc,
        all.1.patternLines_ended ending ends, ih all.2]

/-- What is read from a file of patterns is a list of texts that a line can hold as they are, any
such list is read back however its lines are ended, and a file put behind another on a new line adds
its patterns to those of the other. -/
theorem patternLines_read_back :
    (∀ text, ∀ pattern ∈ patternLines text, IsLinePattern pattern) ∧
    (∀ patterns : List String, (∀ pattern ∈ patterns, IsLinePattern pattern) →
      ∀ ending ∈ lineEnds, ∀ final ∈ "" :: lineEnds,
        patternLines (ending.intercalate patterns ++ final) = patterns) ∧
    ∀ first second : String,
      patternLines (first ++ "\n" ++ second) = patternLines first ++ patternLines second := by
  refine ⟨isLinePattern_of_mem, ?_, patternLines_append⟩
  intro patterns all ending ends final finished
  exact patternLines_intercalate patterns all ending ends final finished

/-- Two patterns, one of them with a carriage return and a number sign inside. -/
theorem patternLines_of_two :
    IsLinePattern "(^|/)lib/" ∧ IsLinePattern "a\r#b" ∧
      patternLines "(^|/)lib/\r\na\r#b\r\n" = ["(^|/)lib/", "a\r#b"] := by
  have folder : IsLinePattern "(^|/)lib/" := by
    refine ⟨by decide, ⟨?_, ?_⟩, by decide, by decide⟩
    · rintro char ⟨⟩
      decide
    · rintro char ⟨⟩
      decide
  have letters : IsLinePattern "a\r#b" := by
    refine ⟨by decide, ⟨?_, ?_⟩, by decide, by decide⟩
    · rintro char ⟨⟩
      decide
    · rintro char ⟨⟩
      decide
  refine ⟨folder, letters, ?_⟩
  exact patternLines_read_back.2.1 ["(^|/)lib/", "a\r#b"]
    (List.forall_mem_cons.mpr ⟨folder, List.forall_mem_singleton.mpr letters⟩)
    "\r\n" (by decide) "\r\n" (by decide)

end FileVerdict
