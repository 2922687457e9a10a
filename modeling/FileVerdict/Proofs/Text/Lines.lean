import FileVerdict.Text.Basic
import Mathlib.Data.List.DropRight

/-!
Lines hold no newlines, and cutting blanks off a line brings none in. What has been joined with a
separator that no piece holds is cut back into the pieces.
-/

namespace FileVerdict.Text

theorem not_cut_of_mem_splitWhere {α : Type} (cuts : α → Bool) (text : List α) :
    ∀ piece ∈ splitWhere cuts text, ∀ item ∈ piece, cuts item = false := by
  induction text with
  | nil => simp [splitWhere]
  | cons first text ih =>
    simp only [splitWhere, List.foldr_cons] at ih ⊢
    generalize List.foldr _ [[]] text = pieces at ih ⊢
    by_cases cut : cuts first = true
    · rw [if_pos cut, List.forall_mem_cons]
      exact ⟨by simp, ih⟩
    · have kept : cuts first = false := Bool.eq_false_iff.mpr cut
      rw [if_neg cut]
      cases pieces with
      | nil => simp [kept]
      | cons piece others =>
        rw [List.forall_mem_cons] at ih ⊢
        exact ⟨List.forall_mem_cons.mpr ⟨kept, ih.1⟩, ih.2⟩

theorem mem_of_mem_splitWhere {α : Type} (cuts : α → Bool) (text : List α) :
    ∀ piece ∈ splitWhere cuts text, ∀ item ∈ piece, item ∈ text := by
  induction text with
  | nil => simp [splitWhere]
  | cons first text ih =>
    simp only [splitWhere, List.foldr_cons] at ih ⊢
    generalize List.foldr _ [[]] text = pieces at ih ⊢
    have later : ∀ piece ∈ pieces, ∀ item ∈ piece, item ∈ first :: text :=
      fun piece member item inside => List.mem_cons_of_mem _ (ih piece member item inside)
    by_cases cut : cuts first = true
    · rw [if_pos cut, List.forall_mem_cons]
      exact ⟨by simp, later⟩
    · rw [if_neg cut]
      cases pieces with
      | nil => simp
      | cons piece others =>
        rw [List.forall_mem_cons] at later ⊢
        exact ⟨List.forall_mem_cons.mpr ⟨List.mem_cons_self, later.1⟩, later.2⟩

theorem not_mem_of_mem_split {α : Type} [DecidableEq α] (separator : α) (text : List α) :
    ∀ piece ∈ split separator text, separator ∉ piece := by
  intro piece member inside
  have kept := not_cut_of_mem_splitWhere _ _ _ member _ inside
  simp at kept

theorem mem_of_mem_dropReturn (line : List Char) (char : Char) (member : char ∈ dropReturn line) :
    char ∈ line := by
  rw [dropReturn] at member
  split at member
  · exact (List.dropLast_sublist _).mem member
  · exact member

/-! Pieces joined and cut again -/

theorem splitWhere_cons {α : Type} (cuts : α → Bool) (first : α) (rest piece : List α)
    (others : List (List α)) (pieces : splitWhere cuts rest = piece :: others) :
    splitWhere cuts (first :: rest) =
      if cuts first then [] :: piece :: others else (first :: piece) :: others := by
  unfold splitWhere at pieces ⊢
  rw [List.foldr_cons, pieces]

theorem splitWhere_eq_splitOnP {α : Type} (cuts : α → Bool) (text : List α) :
    splitWhere cuts text = text.splitOnP cuts := by
  induction text with
  | nil => rfl
  | cons first rest ih =>
    obtain ⟨piece, others, pieces⟩ := List.exists_cons_of_ne_nil (List.splitOnP_ne_nil cuts rest)
    rw [List.splitOnP_cons_eq_if_modifyHead, splitWhere_cons _ _ _ _ _ (ih.trans pieces), pieces]
    rfl

/-- The first piece is what stands before the first cut. -/
theorem head?_splitWhere {α : Type} (cuts : α → Bool) (text : List α) :
    (splitWhere cuts text).head? = some (text.takeWhile fun item => !cuts item) := by
  rw [splitWhere_eq_splitOnP]
  induction text with
  | nil => rfl
  | cons first rest ih =>
    rw [List.splitOnP_cons_eq_if_modifyHead, List.takeWhile_cons]
    by_cases cut : cuts first = true
    · simp [cut]
    · simp [cut, ih]

/-- Each cut ends a piece, and behind the last one there is one more. -/
theorem length_splitWhere {α : Type} (cuts : α → Bool) (text : List α) :
    (splitWhere cuts text).length = text.countP cuts + 1 := by
  rw [splitWhere_eq_splitOnP]
  induction text with
  | nil => rfl
  | cons first rest ih =>
    rw [List.splitOnP_cons_eq_if_modifyHead, List.countP_cons]
    by_cases cut : cuts first = true
    · rw [if_pos cut, if_pos cut, List.length_cons, ih]
    · rw [if_neg cut, if_neg cut, List.length_modifyHead, ih]

section
variable {α : Type} [DecidableEq α] (separator : α)

theorem split_eq_splitOn (text : List α) : split separator text = text.splitOn separator :=
  splitWhere_eq_splitOnP (fun item => item == separator) text

theorem split_ne_nil (text : List α) : split separator text ≠ [] := by
  rw [split_eq_splitOn]
  exact List.splitOn_ne_nil separator text

theorem intercalate_split (text : List α) :
    [separator].intercalate (split separator text) = text := by
  rw [split_eq_splitOn, List.intercalate_splitOn]

theorem split_append_cons (first rest : List α) :
    split separator (first ++ separator :: rest) =
      split separator first ++ split separator rest := by
  simp only [split_eq_splitOn]
  exact List.splitOnP_append_cons first rest (beq_self_eq_true separator)

theorem split_of_not_mem (text : List α) (whole : separator ∉ text) :
    split separator text = [text] := by
  rw [split_eq_splitOn]
  exact List.splitOn_eq_singleton whole

theorem split_intercalate (pieces : List (List α)) (nonempty : pieces ≠ [])
    (clean : ∀ piece ∈ pieces, separator ∉ piece) :
    split separator ([separator].intercalate pieces) = pieces := by
  rw [split_eq_splitOn]
  exact List.splitOn_intercalate separator clean nonempty

/-- Behind the last piece that is ended there is nothing. -/
theorem split_ended (pieces : List (List α)) (clean : ∀ piece ∈ pieces, separator ∉ piece) :
    split separator (pieces.flatMap fun piece => piece ++ [separator]) = pieces ++ [[]] := by
  have joined : (pieces.flatMap fun piece => piece ++ [separator]) =
      [separator].intercalate (pieces ++ [[]]) := by
    clear clean
    induction pieces with
    | nil => rfl
    | cons piece pieces ih =>
      rw [List.flatMap_cons, ih, List.cons_append, List.intercalate_cons_of_ne_nil (by simp)]
  rw [joined]
  apply split_intercalate
  · simp
  · rw [List.forall_mem_append, List.forall_mem_singleton]
    exact ⟨clean, List.not_mem_nil⟩

end

/-- The lines are the pieces that a newline ends, without their carriage returns, and what is left
behind the last newline unless that is nothing. -/
theorem exists_ended (text : List Char) :
    ∃ ended last, split '\n' text = ended ++ [last] ∧
      lines text = ended.map dropReturn ++ if last.isEmpty then [] else [last] := by
  rw [lines]
  cases reversed : (split '\n' text).reverse with
  | nil => exact absurd (List.reverse_eq_nil_iff.mp reversed) (split_ne_nil '\n' text)
  | cons last ended =>
    refine ⟨ended.reverse, last, ?_, ?_⟩
    · rw [← List.reverse_reverse (split '\n' text), reversed, List.reverse_cons]
    · dsimp only
      split
      · exact (List.append_nil _).symm
      · rfl

theorem newline_not_mem_lines (text : List Char) : ∀ line ∈ lines text, '\n' ∉ line := by
  have clean := not_mem_of_mem_split '\n' text
  obtain ⟨ended, last, pieces, parts⟩ := exists_ended text
  rw [pieces, List.forall_mem_append, List.forall_mem_singleton] at clean
  rw [parts, List.forall_mem_append]
  constructor
  · intro line member inside
    obtain ⟨piece, known, rfl⟩ := List.mem_map.mp member
    exact clean.1 piece known (mem_of_mem_dropReturn _ _ inside)
  · intro line member
    split at member
    · cases member
    · rw [List.mem_singleton.mp member]
      exact clean.2

theorem forall_mem_intercalate {α : Type} (good : α → Prop) (separator : List α)
    (pieces : List (List α)) (between : ∀ item ∈ separator, good item)
    (within : ∀ piece ∈ pieces, ∀ item ∈ piece, good item) :
    ∀ item ∈ separator.intercalate pieces, good item := by
  induction pieces with
  | nil => simp
  | cons piece pieces ih =>
    rw [List.forall_mem_cons] at within
    by_cases last : pieces = []
    · rw [last, List.intercalate_singleton]
      exact within.1
    · rw [List.intercalate_cons_of_ne_nil last, List.forall_mem_append, List.forall_mem_append]
      exact ⟨⟨within.1, between⟩, ih within.2⟩

theorem length_le_intercalate {α : Type} (separator : α) (pieces : List (List α)) :
    pieces.length ≤ ([separator].intercalate pieces).length + 1 := by
  induction pieces with
  | nil => simp
  | cons piece pieces ih =>
    by_cases last : pieces = []
    · simp [last]
    · rw [List.intercalate_cons_of_ne_nil last, List.length_append, List.length_append]
      simp only [List.length_cons, List.length_nil]
      omega

/-! The last separator -/

section
variable {α : Type} {separator : α}

theorem exists_last {text : List α} (inside : separator ∈ text) :
    ∃ before after, text = before ++ separator :: after ∧ separator ∉ after := by
  obtain ⟨after, before, reversed, last⟩ := List.eq_append_cons_of_mem (List.mem_reverse.mpr inside)
  refine ⟨before.reverse, after.reverse, ?_, by rwa [List.mem_reverse]⟩
  rw [← List.reverse_reverse text, reversed]
  simp

variable [DecidableEq α]

theorem all_ne_of_not_mem {text : List α} (absent : separator ∉ text) :
    ∀ item ∈ text.reverse, (item != separator) = true := by
  intro item member
  rw [bne_iff_ne]
  exact fun same => absent (same ▸ List.mem_reverse.mp member)

theorem rdropWhile_of_not_mem {text : List α} (absent : separator ∉ text) :
    (text.rdropWhile fun item => item != separator) = [] := by
  rw [List.rdropWhile, List.dropWhile_eq_nil_iff.mpr (all_ne_of_not_mem absent)]
  rfl

variable (before after : List α) (last : separator ∉ after)
include last

theorem rtakeWhile_last :
    ((before ++ separator :: after).rtakeWhile fun item => item != separator) = after := by
  rw [List.rtakeWhile, List.reverse_append, List.reverse_cons, List.append_assoc,
    List.takeWhile_append_of_pos (all_ne_of_not_mem last)]
  simp

theorem rdropWhile_last :
    ((before ++ separator :: after).rdropWhile fun item => item != separator) =
      before ++ [separator] := by
  rw [List.rdropWhile, List.reverse_append, List.reverse_cons, List.append_assoc,
    List.dropWhile_append_of_pos (all_ne_of_not_mem last)]
  simp

end

/-! Text without controls -/

def Printable (text : List Char) : Prop := ∀ char ∈ text, 0x20 ≤ char.toNat

-- Not left to inference, which may find the instance that tries every character there is.
instance (text : List Char) : Decidable (Printable text) :=
  List.decidableBAll (fun char : Char => 0x20 ≤ char.toNat) text

theorem Printable.append {first second : List Char} (head : Printable first)
    (tail : Printable second) : Printable (first ++ second) :=
  List.forall_mem_append.mpr ⟨head, tail⟩

theorem printable_intercalate (separator : List Char) (pieces : List (List Char))
    (between : Printable separator) (within : ∀ piece ∈ pieces, Printable piece) :
    Printable (separator.intercalate pieces) :=
  forall_mem_intercalate _ separator pieces between within

theorem Printable.not_mem {text : List Char} (printable : Printable text) (char : Char)
    (control : char.toNat < 0x20) : char ∉ text := by
  intro inside
  have bound := printable char inside
  omega

theorem mem_of_mem_trim (text : List Char) (char : Char) (member : char ∈ trim text) :
    char ∈ text := by
  rw [trim, List.mem_reverse] at member
  have front := (List.dropWhile_sublist _).mem member
  rw [List.mem_reverse] at front
  exact (List.dropWhile_sublist _).mem front

end FileVerdict.Text
