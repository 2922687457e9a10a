import FileVerdict.Proofs.Regex.Cursor
import FileVerdict.Proofs.Result
import FileVerdict.Regex.Repetition

/-!
Repetition marks with a closing parenthesis somewhere behind them. A mark looks past the blanks
and comments behind it for a question mark. A parenthesis stops that look, unless it stands in a
comment that the text leaves open.
-/

namespace FileVerdict.Regex.Repetition
open FileVerdict.Text

theorem number_extend (verbose : Bool) (tail : List Char) (cursor stop : Cursor)
    (result : Except Fault Nat) (read : number verbose cursor = (result, stop))
    (left : stop.rest ≠ []) :
    number verbose (cursor.extend tail) = (result, stop.extend tail) := by
  cases found : cursor.dropBlanks.collectFrom verbose Char.isDigit with
  | mk digits behind =>
    simp only [number, found, Prod.mk.injEq] at read
    obtain ⟨rfl, rfl⟩ := read
    have behindLeft : behind.rest ≠ [] := by
      intro ended
      have shorter := Cursor.dropBlanks_length behind
      rw [ended, List.length_nil] at shorter
      exact left (List.eq_nil_of_length_eq_zero (by omega))
    have startLeft : cursor.dropBlanks.rest ≠ [] := by
      intro ended
      have shorter := Cursor.collectFrom_length verbose Char.isDigit cursor.dropBlanks
      rw [found, ended, List.length_nil] at shorter
      dsimp only at shorter
      exact behindLeft (List.eq_nil_of_length_eq_zero (by omega))
    simp only [number, Cursor.dropBlanks_extend _ _ startLeft,
      Cursor.collectFrom_extend _ _ _ _ tail _ found behindLeft, Cursor.extend_index,
      Cursor.dropBlanks_extend _ _ left]

theorem number_length (verbose : Bool) (cursor : Cursor) :
    (number verbose cursor).2.rest.length ≤ cursor.rest.length := by
  have first := Cursor.dropBlanks_length cursor
  have second := Cursor.collectFrom_length verbose Char.isDigit cursor.dropBlanks
  have third := Cursor.dropBlanks_length (cursor.dropBlanks.collectFrom verbose Char.isDigit).2
  simp only [number]
  omega

theorem bounds_extend (verbose : Bool) (tail : List Char) (start : Nat) (cursor stop : Cursor)
    (counts : Counts) (read : bounds verbose start cursor = .ok (counts, stop))
    (left : stop.rest ≠ []) :
    bounds verbose start (cursor.extend tail) = .ok (counts, stop.extend tail) := by
  cases first : number verbose cursor with
  | mk least next =>
    simp only [bounds, first, Result.throw_eq_error, Result.error_bind] at read
    by_cases ended : next.rest = []
    · simp [ended] at read
    have firstLonger := number_extend verbose tail _ _ _ first ended
    simp only [bounds, firstLonger, Result.throw_eq_error, Result.error_bind,
      Cursor.extend_left _ tail ended, Cursor.extend_head _ _ ended,
      Cursor.advance_extend _ _ ended, List.isEmpty_iff, ended, if_false] at read ⊢
    by_cases single : next.rest.head? ≠ some ','
    · rw [if_pos single] at read ⊢
      obtain ⟨count, known, same⟩ := Result.bind_eq_ok.mp read
      cases same
      rw [known]
      rfl
    rw [if_neg single] at read ⊢
    by_cases passed : (next.advance.skip verbose).rest = []
    · simp [passed] at read
    simp only [Cursor.skip_extend _ _ _ passed, Cursor.extend_left _ tail passed,
      Cursor.extend_head _ _ passed, passed, if_false] at read ⊢
    by_cases unlimited : (next.advance.skip verbose).rest.head? = some '}'
    · rw [if_pos unlimited] at read ⊢
      obtain ⟨count, known, same⟩ := Result.bind_eq_ok.mp read
      cases same
      rw [known]
      rfl
    rw [if_neg unlimited] at read ⊢
    obtain ⟨count, known, read⟩ := Result.bind_eq_ok.mp read
    cases second : number verbose (next.advance.skip verbose) with
    | mk most behind =>
      simp only [second] at read
      obtain ⟨limit, bounded, same⟩ := Result.bind_eq_ok.mp read
      cases same
      simp only [number_extend verbose tail _ _ _ second left, known, bounded, Result.ok_bind,
        Result.pure_eq_ok]

theorem bounds_leaves (verbose : Bool) (start : Nat) (cursor : Cursor) :
    Cursor.Leaves cursor.rest.length (bounds verbose start cursor) := by
  intro counts stop read
  have first := number_length verbose cursor
  have advanced := Cursor.advance_length (number verbose cursor).2
  have skipped := Cursor.skip_length verbose (number verbose cursor).2.advance
  have second := number_length verbose ((number verbose cursor).2.advance.skip verbose)
  simp only [bounds, Result.throw_eq_error, Result.error_bind] at read
  split_ifs at read
  · obtain ⟨count, known, same⟩ := Result.bind_eq_ok.mp read
    cases same
    exact first
  · obtain ⟨count, known, same⟩ := Result.bind_eq_ok.mp read
    cases same
    omega
  · obtain ⟨count, known, read⟩ := Result.bind_eq_ok.mp read
    obtain ⟨limit, bounded, same⟩ := Result.bind_eq_ok.mp read
    cases same
    omega

/-- A parenthesis is not the question mark that is looked for. -/
theorem dropLazy_extend (cursor : Cursor) (rest : List Char) :
    dropLazy (cursor.extend (')' :: rest)) = (dropLazy cursor).extend (')' :: rest) := by
  by_cases ended : cursor.rest = []
  · simp [dropLazy, ended]
  · simp only [dropLazy, Cursor.extend_head _ _ ended, Cursor.advance_extend _ _ ended]
    split_ifs
    · rfl
    · rfl

theorem dropLazy_rest (cursor other : Cursor) (same : cursor.rest = other.rest) :
    (dropLazy cursor).rest = (dropLazy other).rest := by
  obtain ⟨index, rest⟩ := cursor
  obtain ⟨place, more⟩ := other
  obtain rfl : rest = more := same
  simp only [dropLazy]
  split_ifs
  · cases rest <;> rfl
  · rfl

theorem dropLazy_length (cursor : Cursor) :
    (dropLazy cursor).rest.length ≤ cursor.rest.length := by
  have advanced := Cursor.advance_length cursor
  rw [dropLazy]
  split_ifs
  · omega
  · exact Nat.le_refl _

/-- A mark in braces is read alike when a parenthesis and more text follow, unless the look for a
question mark finds one behind a comment that the text leaves open. -/
theorem counted_extend (verbose : Bool) (rest : List Char) (cursor : Cursor) (counts : Counts)
    (span : Span) (stop : Cursor) (read : counted verbose cursor = .ok (counts, span, stop))
    (quiet : stop.endsInComment verbose = true →
      (Cursor.skipComments true 0 (')' :: rest)).rest.head? ≠ some '?') :
    ∃ place, counted verbose (cursor.extend (')' :: rest)) =
      .ok (counts, place, stop.extend (')' :: rest)) := by
  simp only [counted, Result.throw_eq_error, Result.error_bind] at read
  by_cases ended : (cursor.advance.skip verbose).rest = []
  · simp [ended] at read
  have cursorLeft := Cursor.rest_of_advance _ (Cursor.rest_of_skip _ _ ended)
  simp only [List.isEmpty_iff, ended, if_false] at read
  obtain ⟨⟨found, brace⟩, bounded, read⟩ := Result.bind_eq_ok.mp read
  by_cases closed : brace.rest.head? = some '}'
  · have braceLeft : brace.rest ≠ [] := by
      intro none
      simp [none] at closed
    have longer := bounds_extend verbose (')' :: rest) _ _ _ _ bounded braceLeft
    simp only [counted, Cursor.advance_extend _ _ cursorLeft, Cursor.skip_extend _ _ _ ended,
      List.isEmpty_iff, Cursor.extend_left _ _ ended, Cursor.extend_index, if_false, longer,
      Result.ok_bind, Cursor.extend_head _ _ braceLeft, Cursor.advance_extend _ _ braceLeft, closed,
      ne_eq, not_true_eq_false, Result.throw_eq_error, Result.error_bind] at read ⊢
    by_cases disordered : (found.most.any fun most => decide (most < found.least)) = true
    · simp [disordered] at read
    rw [if_neg disordered] at read ⊢
    by_cases passed : (brace.advance.skip verbose).rest = []
    · have unasked : ¬(brace.advance.skip verbose).rest.head? = some '?' := by simp [passed]
      rw [if_neg unasked] at read
      cases read
      have stillUnasked :
          ¬((brace.advance.extend (')' :: rest)).skip verbose).rest.head? = some '?' := by
        cases inside : brace.advance.endsInComment verbose with
        | true =>
          rw [Cursor.rest_behind_comment _ _ _ inside]
          exact quiet inside
        | false =>
          rw [Cursor.rest_behind_blanks _ _ _ passed inside]
          simp
      rw [if_neg stillUnasked]
      exact ⟨_, rfl⟩
    · rw [Cursor.skip_extend _ _ _ passed, Cursor.extend_head _ _ passed, dropLazy_extend]
      cases read
      split_ifs
      · exact ⟨_, rfl⟩
      · exact ⟨_, rfl⟩
  · simp [closed] at read

theorem counted_leaves (verbose : Bool) (cursor : Cursor) (counts : Counts) (span : Span)
    (stop : Cursor) (read : counted verbose cursor = .ok (counts, span, stop)) :
    stop.rest.length ≤ cursor.rest.length - 1 := by
  have advanced := Cursor.advance_length cursor
  have skipped := Cursor.skip_length verbose cursor.advance
  simp only [counted, Result.throw_eq_error, Result.error_bind] at read
  split_ifs at read
  obtain ⟨⟨found, brace⟩, bounded, read⟩ := Result.bind_eq_ok.mp read
  have inner := bounds_leaves _ _ _ _ _ bounded
  have closed := Cursor.advance_length brace
  have passed := Cursor.skip_length verbose brace.advance
  have dropped := dropLazy_length (brace.advance.skip verbose)
  dsimp only at read
  split_ifs at read
  · cases read
    omega
  · cases read
    omega

end FileVerdict.Regex.Repetition
