import FileVerdict.Proofs.Hashbang.Selection
import FileVerdict.Proofs.Subject
import FileVerdict.Rules
import Mathlib.Data.List.Forall2

/-!
Line ends. When a carriage return is put before each newline of a file, every line but the last has
one more character at its end, a blank, whether or not the bytes before it are UTF-8. A blank there
makes no line fuller and no word longer, so as many lines are counted as before, and the first line
names the same interpreter and so the same language.
-/

namespace FileVerdict
open FileVerdict.Text

def crlf (bytes : List UInt8) : List UInt8 :=
  bytes.flatMap fun byte => if byte = 0x0A then [0x0D, 0x0A] else [byte]

def Trails {α : Type} (last : α) (first second : List α) : Prop :=
  second = first ∨ second = first ++ [last]

/-! Lines -/

theorem Trails.cons {α : Type} {last : α} {first second : List α} (item : α)
    (trails : Trails last first second) : Trails last (item :: first) (item :: second) := by
  obtain rfl | rfl := trails
  · exact .inl rfl
  · exact .inr rfl

theorem crlf_cons (byte : UInt8) (bytes : List UInt8) :
    crlf (byte :: bytes) =
      if byte = 0x0A then 0x0D :: 0x0A :: crlf bytes else byte :: crlf bytes := by
  rw [crlf, List.flatMap_cons, ← crlf]
  split
  · rfl
  · rfl

theorem split_crlf (bytes : List UInt8) :
    List.Forall₂ (Trails 0x0D) (split 0x0A bytes) (split 0x0A (crlf bytes)) := by
  induction bytes with
  | nil => exact .cons (.inl rfl) .nil
  | cons byte bytes ih =>
    obtain ⟨piece, others, pieces⟩ := List.exists_cons_of_ne_nil (split_ne_nil 0x0A bytes)
    obtain ⟨ended, more, parts⟩ :=
      List.exists_cons_of_ne_nil (split_ne_nil 0x0A (crlf bytes))
    rw [crlf_cons]
    by_cases newline : byte = 0x0A
    · -- The piece before the newline is empty here and a carriage return there.
      have front : split 0x0A (0x0A :: crlf bytes) = [] :: ended :: more :=
        splitWhere_cons _ _ _ _ _ parts
      have shifted : split 0x0A (0x0D :: 0x0A :: crlf bytes) = [0x0D] :: ended :: more :=
        splitWhere_cons _ _ _ _ _ front
      have plain : split 0x0A (0x0A :: bytes) = [] :: piece :: others :=
        splitWhere_cons _ _ _ _ _ pieces
      rw [if_pos newline, newline, plain, shifted, ← pieces, ← parts]
      exact .cons (.inr rfl) ih
    · have cut : decide (byte = 0x0A) = false := decide_eq_false newline
      rw [if_neg newline, split, splitWhere_cons _ _ _ _ _ pieces, split,
        splitWhere_cons _ _ _ _ _ parts, cut]
      rw [pieces, parts, List.forall₂_cons] at ih
      exact .cons (ih.1.cons byte) ih.2

theorem decodeLossy_trails (first second : List UInt8) (trails : Trails 0x0D first second) :
    Trails '\r' (decodeLossy first) (decodeLossy second) := by
  obtain rfl | rfl := trails
  · exact .inl rfl
  · exact .inr (decodeLossy_append_ascii first [] 0x0D (by decide))

/-! A carriage return at the end of a line -/

theorem any_unblank_of_trails (first second : List Char) (trails : Trails '\r' first second) :
    (second.any fun char => !isBlank char) = first.any fun char => !isBlank char := by
  obtain rfl | rfl := trails
  · rfl
  · have blank : (!isBlank '\r') = false := by decide
    rw [List.any_append, List.any_cons, List.any_nil, blank, Bool.or_false, Bool.or_false]

theorem length_filter_of_trails (first second : List (List Char))
    (trails : List.Forall₂ (Trails '\r') first second) :
    (second.filter fun line => line.any fun char => !isBlank char).length =
      (first.filter fun line => line.any fun char => !isBlank char).length := by
  induction trails with
  | nil => rfl
  | cons same rest ih =>
    rw [List.filter_cons, List.filter_cons, any_unblank_of_trails _ _ same]
    split
    · rw [List.length_cons, List.length_cons, ih]
    · exact ih

namespace Hashbang

theorem prefix_append_return (front line : List Char) (other : front.getLast? ≠ some '\r') :
    front <+: line ++ ['\r'] ↔ front <+: line := by
  rw [List.prefix_concat_iff]
  refine or_iff_right fun whole => ?_
  rw [whole, List.getLast?_concat] at other
  exact other rfl

theorem squeezed_append_return (line : List Char) :
    squeezed (line ++ ['\r']) = squeezed line ++ ['\r'] := by
  unfold squeezed
  simp only [prefix_append_return _ line (by decide : (mark ++ [' ']).getLast? ≠ some '\r')]
  split
  · next spaced =>
    have long : 3 ≤ line.length := spaced.length_le
    rw [List.drop_append_of_le_length long, List.append_assoc]
  · rfl

theorem behindMark?_append_return (line : List Char) :
    behindMark? (line ++ ['\r']) = (behindMark? line).map fun rest => rest ++ ['\r'] := by
  rw [behindMark?_eq, behindMark?_eq]
  simp only [prefix_append_return _ line (by decide : mark.getLast? ≠ some '\r')]
  split
  · next marked =>
    obtain ⟨rest, behind⟩ := exists_squeezed line marked
    rw [squeezed_append_return, behind, List.append_assoc, List.drop_left,
      List.drop_left, Option.map_some]
  · rfl

theorem interpreter?_append_return (line : List Char) :
    interpreter? (line ++ ['\r']) = interpreter? line := by
  have parted : ∀ rest, words (mark ++ (rest ++ ['\r'])) = words (mark ++ rest) := by
    intro rest
    rw [← List.append_assoc, words_append_blank '\r' (by decide)]
    exact List.append_nil _
  rw [interpreter?, interpreter?, behindMark?_append_return]
  cases behindMark? line with
  | none => rfl
  | some rest => simp only [Option.map_some, Option.bind_eq_bind, Option.bind_some, parted]

theorem parse_of_trails (first second : String)
    (trails : Trails '\r' first.toList second.toList) : parse second = parse first := by
  rw [parse, parse]
  obtain same | longer := trails
  · rw [same]
  · rw [longer, interpreter?_append_return]

end Hashbang

/-- The file may be said to have any size. -/
def Subject.toCrlf (subject : Subject) (size : Nat) : Subject :=
  ⟨subject.name, subject.data.map crlf, size⟩

namespace Subject
variable (subject : Subject) (size : Nat)

theorem lines_toCrlf :
    List.Forall₂ (Trails '\r') subject.lines (subject.toCrlf size).lines := by
  obtain ⟨name, data, told⟩ := subject
  cases data with
  | none => exact .nil
  | some bytes =>
    cases bytes with
    | nil => exact .nil
    | cons byte bytes =>
      have filled : crlf (byte :: bytes) ≠ [] := by
        rw [crlf_cons]
        split <;> simp
      rw [lines_eq_split _ (byte :: bytes) rfl (by simp),
        lines_eq_split (toCrlf _ size) (crlf (byte :: bytes)) rfl filled,
        split_decodeLossy, split_decodeLossy, List.forall₂_map_left_iff, List.forall₂_map_right_iff]
      exact (split_crlf (byte :: bytes)).imp decodeLossy_trails

theorem lineCount_toCrlf : (subject.toCrlf size).lineCount = subject.lineCount :=
  (subject.lines_toCrlf size).length_eq.symm

theorem sourceLineCount_toCrlf :
    (subject.toCrlf size).sourceLineCount = subject.sourceLineCount :=
  length_filter_of_trails _ _ (subject.lines_toCrlf size)

end Subject

theorem Hashbang.firstLine_trails (bytes : List UInt8) :
    Trails '\r' (firstLine bytes).toList (firstLine (crlf bytes)).toList := by
  have first := head?_splitWhere (fun byte => decide (byte = 0x0A)) bytes
  have second := head?_splitWhere (fun byte => decide (byte = 0x0A)) (crlf bytes)
  have lines := split_crlf bytes
  unfold split at lines
  generalize splitWhere _ bytes = pieces at first lines
  generalize splitWhere _ (crlf bytes) = parts at second lines
  cases lines with
  | nil => cases first
  | cons trails rest =>
    cases first
    cases second
    rw [firstLine, firstLine, String.toList_ofList, String.toList_ofList]
    exact decodeLossy_trails _ _ trails

theorem Hashbang.ofSubject_toCrlf (subject : Subject) (size : Nat) (traits : Traits) :
    ofSubject (subject.toCrlf size) traits = ofSubject subject traits := by
  obtain ⟨name, data, told⟩ := subject
  cases data with
  | none => rfl
  | some bytes =>
    have same := parse_of_trails _ _ (firstLine_trails bytes)
    rw [ofSubject, ofSubject, Option.bind_some, ← same]
    rfl

/-- A file whose lines end in a carriage return and a newline has as many lines as with newlines
alone, and as many that are not blank; it names the same interpreter, and its language is the same
whatever the look-up. -/
theorem verdicts_under_crlf (subject : Subject) (size : Nat) (traits : Traits)
    (languages : Language.Lookup) :
    (subject.toCrlf size).lineCount = subject.lineCount ∧
      (subject.toCrlf size).sourceLineCount = subject.sourceLineCount ∧
      Hashbang.ofSubject (subject.toCrlf size) traits = Hashbang.ofSubject subject traits ∧
      Hashbang.language? (subject.toCrlf size) traits languages =
        Hashbang.language? subject traits languages ∧
      Verdict.language (subject.toCrlf size) traits languages =
        Verdict.language subject traits languages := by
  have script := Hashbang.ofSubject_toCrlf subject size traits
  have language : Hashbang.language? (subject.toCrlf size) traits languages =
      Hashbang.language? subject traits languages := by
    rw [Hashbang.language?, Hashbang.language?, script]
  refine ⟨subject.lineCount_toCrlf size, subject.sourceLineCount_toCrlf size, script, language,
    ?_⟩
  rw [Verdict.language, Verdict.language, language]
  rfl

end FileVerdict
