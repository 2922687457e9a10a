import FileVerdict.Regex.Cursor
import Mathlib.Tactic.SplitIfs

/-!
A cursor with more text behind what it stands before. A reader that stops before the end of its
text reads the same in the longer text. One that runs to the end stops at what follows if it is
not in a comment there, and otherwise reads on in the comment.
-/

namespace FileVerdict.Regex.Cursor
open FileVerdict.Text

def extend (cursor : Cursor) (tail : List Char) : Cursor := ⟨cursor.index, cursor.rest ++ tail⟩

@[simp] theorem extend_index (cursor : Cursor) (tail : List Char) :
    (cursor.extend tail).index = cursor.index := rfl

@[simp] theorem extend_rest (cursor : Cursor) (tail : List Char) :
    (cursor.extend tail).rest = cursor.rest ++ tail := rfl

@[simp] theorem extend_here (cursor : Cursor) (tail : List Char) :
    (cursor.extend tail).here = cursor.here := rfl

theorem extend_head (cursor : Cursor) (tail : List Char) (left : cursor.rest ≠ []) :
    (cursor.extend tail).rest.head? = cursor.rest.head? := by
  obtain ⟨index, rest⟩ := cursor
  cases rest with
  | nil => exact absurd rfl left
  | cons char rest => rfl

theorem extend_left (cursor : Cursor) (tail : List Char) (left : cursor.rest ≠ []) :
    (cursor.extend tail).rest ≠ [] := by
  simp [left]

theorem extend_isEmpty (cursor : Cursor) (tail : List Char) (left : cursor.rest ≠ []) :
    (cursor.extend tail).rest.isEmpty = false := by
  simp [left]

theorem advance_extend (cursor : Cursor) (tail : List Char) (left : cursor.rest ≠ []) :
    (cursor.extend tail).advance = cursor.advance.extend tail := by
  obtain ⟨index, rest⟩ := cursor
  cases rest with
  | nil => exact absurd rfl left
  | cons char rest => rfl

/-! Blanks and comments -/

def commentAtEnd (inComment : Bool) : List Char → Bool
  | [] => inComment
  | char :: rest =>
    if inComment then commentAtEnd (char != '\n') rest
    else if isBlank char then commentAtEnd false rest
    else if char = '#' then commentAtEnd true rest
    else false

theorem skipComments_append (inComment : Bool) (index : Nat) (text tail : List Char)
    (left : (skipComments inComment index text).rest ≠ []) :
    skipComments inComment index (text ++ tail) =
      (skipComments inComment index text).extend tail := by
  induction text generalizing inComment index with
  | nil => exact absurd rfl left
  | cons char rest ih =>
    simp only [skipComments, List.cons_append] at left ⊢
    split_ifs at left ⊢
    · exact ih _ _ left
    · exact ih _ _ left
    · exact ih _ _ left
    · rfl

theorem skipComments_through (inComment : Bool) (index : Nat) (text tail : List Char)
    (through : (skipComments inComment index text).rest = []) :
    skipComments inComment index (text ++ tail) =
      skipComments (commentAtEnd inComment text) (index + text.length) tail := by
  induction text generalizing inComment index with
  | nil => rfl
  | cons char rest ih =>
    have shift : index + (char :: rest).length = index + 1 + rest.length := by
      simp only [List.length_cons]
      omega
    rw [shift]
    simp only [skipComments, commentAtEnd, List.cons_append] at through ⊢
    split_ifs at through ⊢
    · exact ih _ _ through
    · exact ih _ _ through
    · exact ih _ _ through

theorem skipComments_of_commentAtEnd (inComment : Bool) (index : Nat) (text : List Char)
    (stays : commentAtEnd inComment text = true) :
    (skipComments inComment index text).rest = [] := by
  induction text generalizing inComment index with
  | nil => rfl
  | cons char rest ih =>
    simp only [commentAtEnd] at stays
    simp only [skipComments]
    split_ifs at stays ⊢
    · exact ih _ _ stays
    · exact ih _ _ stays
    · exact ih _ _ stays

/-- What is left does not hang on where counting began. -/
theorem skipComments_rest (inComment : Bool) (index other : Nat) (text : List Char) :
    (skipComments inComment index text).rest = (skipComments inComment other text).rest := by
  induction text generalizing inComment index other with
  | nil => rfl
  | cons char rest ih =>
    simp only [skipComments]
    split_ifs
    · exact ih _ _ _
    · exact ih _ _ _
    · exact ih _ _ _
    · rfl

/-- A comment that meets no newline takes all there is. -/
theorem skipComments_no_newline (index : Nat) (text : List Char) (oneLine : '\n' ∉ text) :
    (skipComments true index text).rest = [] := by
  induction text generalizing index with
  | nil => rfl
  | cons char rest ih =>
    simp only [List.mem_cons, not_or] at oneLine
    have other : (char != '\n') = true := by simpa using Ne.symm oneLine.1
    simp only [skipComments, if_true, other]
    exact ih _ oneLine.2

theorem skipComments_length (inComment : Bool) (index : Nat) (text : List Char) :
    (skipComments inComment index text).rest.length ≤ text.length := by
  induction text generalizing inComment index with
  | nil => exact Nat.le_refl _
  | cons char rest ih =>
    simp only [skipComments]
    split_ifs
    · exact Nat.le_succ_of_le (ih _ _)
    · exact Nat.le_succ_of_le (ih _ _)
    · exact Nat.le_succ_of_le (ih _ _)
    · exact Nat.le_refl _

theorem skip_extend (verbose : Bool) (cursor : Cursor) (tail : List Char)
    (left : (cursor.skip verbose).rest ≠ []) :
    (cursor.extend tail).skip verbose = (cursor.skip verbose).extend tail := by
  cases verbose with
  | false => rfl
  | true => exact skipComments_append _ _ _ _ left

theorem skip_rest (verbose : Bool) (cursor other : Cursor) (same : cursor.rest = other.rest) :
    (cursor.skip verbose).rest = (other.skip verbose).rest := by
  cases verbose with
  | false => exact same
  | true =>
    change (skipComments false cursor.index cursor.rest).rest = _
    rw [same]
    exact skipComments_rest _ _ _ _

theorem skip_length (verbose : Bool) (cursor : Cursor) :
    (cursor.skip verbose).rest.length ≤ cursor.rest.length := by
  cases verbose with
  | false => exact Nat.le_refl _
  | true => exact skipComments_length _ _ _

def endsInComment (verbose : Bool) (cursor : Cursor) : Bool :=
  verbose && commentAtEnd false cursor.rest

theorem skip_of_endsInComment (verbose : Bool) (cursor : Cursor)
    (inside : cursor.endsInComment verbose = true) : (cursor.skip verbose).rest = [] := by
  obtain ⟨rfl, inside⟩ := Bool.and_eq_true_iff.mp inside
  exact skipComments_of_commentAtEnd _ _ _ inside

/-- The comment goes on into what follows. -/
theorem rest_behind_comment (verbose : Bool) (cursor : Cursor) (tail : List Char)
    (inside : cursor.endsInComment verbose = true) :
    ((cursor.extend tail).skip verbose).rest = (skipComments true 0 tail).rest := by
  have passed := skip_of_endsInComment _ _ inside
  obtain ⟨rfl, still⟩ := Bool.and_eq_true_iff.mp inside
  change (skipComments false cursor.index (cursor.rest ++ tail)).rest = _
  rw [skipComments_through _ _ _ _ passed, still]
  exact skipComments_rest _ _ _ _

/-- Blanks and comments that are over end before a parenthesis. -/
theorem rest_behind_blanks (verbose : Bool) (cursor : Cursor) (rest : List Char)
    (passed : (cursor.skip verbose).rest = []) (outside : cursor.endsInComment verbose = false) :
    ((cursor.extend (')' :: rest)).skip verbose).rest = ')' :: rest := by
  cases verbose with
  | false =>
    change cursor.rest = [] at passed
    simp [skip, passed]
  | true =>
    have ended : commentAtEnd false cursor.rest = false := outside
    change (skipComments false cursor.index (cursor.rest ++ ')' :: rest)).rest = _
    rw [skipComments_through _ _ _ _ passed, ended]
    rfl

theorem rest_of_skip (verbose : Bool) (cursor : Cursor) (left : (cursor.skip verbose).rest ≠ []) :
    cursor.rest ≠ [] := by
  have shorter := skip_length verbose cursor
  intro ended
  rw [ended, List.length_nil] at shorter
  exact left (List.eq_nil_of_length_eq_zero (by omega))

theorem advance_length (cursor : Cursor) :
    cursor.advance.rest.length = cursor.rest.length - 1 := by
  obtain ⟨index, rest⟩ := cursor
  cases rest <;> rfl

theorem rest_of_advance (cursor : Cursor) (left : cursor.advance.rest ≠ []) :
    cursor.rest ≠ [] := by
  intro ended
  apply left
  apply List.eq_nil_of_length_eq_zero
  rw [advance_length, ended, List.length_nil]

theorem dropBlanks_extend (cursor : Cursor) (tail : List Char)
    (left : cursor.dropBlanks.rest ≠ []) :
    (cursor.extend tail).dropBlanks = cursor.dropBlanks.extend tail := by
  simp only [dropBlanks, extend] at left ⊢
  have shorter := (List.dropWhile_suffix (l := cursor.rest) isBlank).length_le
  rw [List.dropWhile_append, if_neg (by simpa using left)]
  simp only [List.length_append]
  congr 1
  omega

theorem dropBlanks_length (cursor : Cursor) :
    cursor.dropBlanks.rest.length ≤ cursor.rest.length :=
  (List.dropWhile_suffix isBlank).length_le

theorem collect_append (verbose : Bool) (wanted : Char → Bool) (inComment : Bool) (index : Nat)
    (text tail : List Char) (left : (collect verbose wanted inComment index text).2.rest ≠ []) :
    collect verbose wanted inComment index (text ++ tail) =
      ((collect verbose wanted inComment index text).1,
        (collect verbose wanted inComment index text).2.extend tail) := by
  induction text generalizing inComment index with
  | nil => exact absurd rfl left
  | cons char rest ih =>
    simp only [collect, List.cons_append] at left ⊢
    split_ifs at left ⊢
    · exact ih _ _ left
    · exact ih _ _ left
    · exact ih _ _ left
    · rw [ih _ _ left]
    · rfl

theorem collect_length (verbose : Bool) (wanted : Char → Bool) (inComment : Bool) (index : Nat)
    (text : List Char) :
    (collect verbose wanted inComment index text).2.rest.length ≤ text.length := by
  induction text generalizing inComment index with
  | nil => exact Nat.le_refl _
  | cons char rest ih =>
    simp only [collect]
    split_ifs
    · exact Nat.le_succ_of_le (ih _ _)
    · exact Nat.le_succ_of_le (ih _ _)
    · exact Nat.le_succ_of_le (ih _ _)
    · exact Nat.le_succ_of_le (ih _ _)
    · exact Nat.le_refl _

theorem collectFrom_extend (verbose : Bool) (wanted : Char → Bool) (cursor stop : Cursor)
    (tail : List Char) (collected : List (Nat × Char))
    (found : cursor.collectFrom verbose wanted = (collected, stop)) (left : stop.rest ≠ []) :
    (cursor.extend tail).collectFrom verbose wanted = (collected, stop.extend tail) := by
  unfold collectFrom at found
  have longer := collect_append verbose wanted false cursor.index cursor.rest tail
    (by rw [found]; exact left)
  rw [found] at longer
  exact longer

theorem collectFrom_length (verbose : Bool) (wanted : Char → Bool) (cursor : Cursor) :
    (cursor.collectFrom verbose wanted).2.rest.length ≤ cursor.rest.length :=
  collect_length _ _ _ _ _

def Carries {α : Type} (tail : List Char) (short long : Except Fault (α × Cursor)) : Prop :=
  ∀ value stop, short = .ok (value, stop) → long = .ok (value, stop.extend tail)

theorem carries_error {α : Type} (tail : List Char) (fault : Fault)
    (long : Except Fault (α × Cursor)) : Carries tail (.error fault) long := by
  intro value stop read
  cases read

theorem carries_ok {α : Type} (tail : List Char) (value : α) (stop : Cursor) :
    Carries tail (.ok (value, stop)) (.ok (value, stop.extend tail)) := by
  intro value stop read
  cases read
  rfl

def Leaves {α : Type} (bound : Nat) (result : Except Fault (α × Cursor)) : Prop :=
  ∀ value stop, result = .ok (value, stop) → stop.rest.length ≤ bound

theorem leaves_error {α : Type} (bound : Nat) (fault : Fault) :
    Leaves bound (.error fault : Except Fault (α × Cursor)) := by
  intro value stop read
  cases read

theorem leaves_ok {α : Type} (bound : Nat) (value : α) (stop : Cursor)
    (short : stop.rest.length ≤ bound) : Leaves bound (.ok (value, stop)) := by
  intro value stop read
  cases read
  exact short

end FileVerdict.Regex.Cursor
