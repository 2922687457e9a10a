import FileVerdict.Proofs.Regex.Cursor
import FileVerdict.Regex.Escape

/-!
Escapes with a closing parenthesis somewhere behind them. What is read is the same; only the place
that an escape is given may reach further, since blanks and comments behind it are reckoned in.
-/

namespace FileVerdict.Regex.Escape
open FileVerdict.Text

/-- Whatever `short` reads, `long` reads too, and at the same place if something that means
something follows it. -/
def Continues (verbose : Bool) (tail : List Char) (short long : Reading) : Prop :=
  ∀ span leaf stop, short = .ok ((span, leaf), stop) →
    ∃ place, long = .ok ((place, leaf), stop.extend tail) ∧
      ((stop.skip verbose).rest ≠ [] → place = span)

section
variable {verbose : Bool} {tail : List Char}

theorem continues_error (fault : Fault) (long : Reading) :
    Continues verbose tail (.error fault) long := by
  intro span leaf stop read
  cases read

theorem continues_same (span : Span) (leaf : Leaf) (stop : Cursor) :
    Continues verbose tail (.ok ((span, leaf), stop)) (.ok ((span, leaf), stop.extend tail)) := by
  intro span leaf stop read
  cases read
  exact ⟨_, rfl, fun _ => rfl⟩

/-- The place of a leaf that ends where the blanks behind it end. -/
theorem continues_skipped (start : Nat) (leaf : Leaf) (stop : Cursor) :
    Continues verbose tail (.ok ((⟨start, (stop.skip verbose).index⟩, leaf), stop))
      (.ok ((⟨start, ((stop.extend tail).skip verbose).index⟩, leaf), stop.extend tail)) := by
  intro span leaf stop read
  cases read
  refine ⟨_, rfl, fun left => ?_⟩
  rw [Cursor.skip_extend _ _ _ left, Cursor.extend_index]

end

theorem hexDigits_extend (verbose : Bool) (tail : List Char) (count value : Nat)
    (cursor : Cursor) (result : Nat × Cursor)
    (read : hexDigits verbose value cursor count = .ok result) :
    hexDigits verbose value (cursor.extend tail) count = .ok (result.1, result.2.extend tail) := by
  induction count generalizing value cursor with
  | zero =>
    cases read
    rfl
  | succ count ih =>
    obtain ⟨index, rest⟩ := cursor
    cases rest with
    | nil => cases read
    | cons char rest =>
      simp only [hexDigits, Cursor.extend, List.cons_append] at read ⊢
      cases digit : hexDigit char with
      | none => simp [digit] at read
      | some value' =>
        simp only [digit] at read ⊢
        split_ifs at read ⊢
        · cases read
          rfl
        · have left : ((Cursor.advance ⟨index, char :: rest⟩).skip verbose).rest ≠ [] := by
            intro ended
            obtain ⟨more, rfl⟩ := Nat.exists_eq_succ_of_ne_zero ‹count ≠ 0›
            simp [hexDigits, ended] at read
          have moved := Cursor.skip_extend verbose (Cursor.advance ⟨index, char :: rest⟩) tail left
          change hexDigits verbose _ ((Cursor.extend (Cursor.advance ⟨index, char :: rest⟩)
            tail).skip verbose) count = _
          rw [moved]
          exact ih _ _ read

theorem fixedHex_extend (verbose : Bool) (tail : List Char) (start count : Nat) (cursor : Cursor) :
    Continues verbose tail (fixedHex verbose start cursor count)
      (fixedHex verbose start (cursor.extend tail) count) := by
  cases digits : hexDigits verbose 0 cursor count with
  | error fault =>
    have failed : fixedHex verbose start cursor count = .error fault := by
      simp [fixedHex, digits, bind, Except.bind]
    rw [failed]
    exact continues_error _ _
  | ok result =>
    obtain ⟨value, stop⟩ := result
    have longer := hexDigits_extend verbose tail count 0 cursor _ digits
    simp only [fixedHex, digits, longer, bind, Except.bind]
    cases scalar? value with
    | none => exact continues_error _ _
    | some char => exact continues_skipped start _ stop

theorem bracedHex_extend (verbose : Bool) (tail : List Char) (start : Nat) (cursor : Cursor)
    (left : cursor.rest ≠ []) :
    Continues verbose tail (bracedHex verbose start cursor)
      (bracedHex verbose start (cursor.extend tail)) := by
  cases found : cursor.advance.collectFrom verbose fun char => char != '}' with
  | mk digits brace =>
    simp only [bracedHex, found, Cursor.advance_extend _ _ left]
    by_cases ended : brace.rest = []
    · cases digits.find? fun digit => (hexDigit digit.2).isNone with
      | none =>
        simp only [ended, List.isEmpty_nil, if_true]
        exact continues_error _ _
      | some digit => exact continues_error _ _
    · simp only [Cursor.collectFrom_extend _ _ _ _ tail _ found ended,
        Cursor.extend_isEmpty _ tail ended, Cursor.advance_extend _ tail ended]
      cases digits.find? fun digit => (hexDigit digit.2).isNone with
      | some digit => exact continues_error _ _
      | none =>
        simp only [List.isEmpty_iff, ended, if_false, Bool.false_eq_true]
        by_cases none : digits = []
        · simp only [none, if_true]
          exact continues_error _ _
        · simp only [none, if_false]
          cases scalar? (hexNumber (digits.map Prod.snd)) with
          | none => exact continues_error _ _
          | some char => exact continues_skipped start _ _

theorem hex_extend (verbose : Bool) (tail : List Char) (start : Nat) (letter : Char)
    (cursor : Cursor) :
    Continues verbose tail (hex verbose start letter cursor)
      (hex verbose start letter (cursor.extend tail)) := by
  by_cases ended : (cursor.advance.skip verbose).rest = []
  · simp only [hex, ended]
    exact continues_error _ _
  · have left := Cursor.rest_of_advance _ (Cursor.rest_of_skip _ _ ended)
    simp only [hex, Cursor.advance_extend _ _ left, Cursor.skip_extend _ _ _ ended]
    obtain ⟨char, rest, form⟩ := List.exists_cons_of_ne_nil ended
    simp only [form, Cursor.extend_rest, List.cons_append]
    by_cases braced : char = '\x7b'
    · subst braced
      exact bracedHex_extend _ _ _ _ ended
    · generalize (if letter = 'x' then 2 else if letter = 'u' then 4 else 8) = count
      split
      · next same => cases same
      · next same => exact absurd (List.cons.inj same).1 braced
      · split
        · next same => cases same
        · next same => exact absurd (List.cons.inj same).1 braced
        · exact fixedHex_extend _ _ _ _ _

theorem property_extend (verbose : Bool) (tail : List Char) (start : Nat) (negated : Bool)
    (cursor : Cursor) :
    Continues verbose tail (property verbose start negated cursor)
      (property verbose start negated (cursor.extend tail)) := by
  by_cases ended : (cursor.advance.skip verbose).rest = []
  · simp only [property, ended]
    exact continues_error _ _
  · have left := Cursor.rest_of_advance _ (Cursor.rest_of_skip _ _ ended)
    simp only [property, Cursor.advance_extend _ _ left, Cursor.skip_extend _ _ _ ended]
    obtain ⟨char, rest, form⟩ := List.exists_cons_of_ne_nil ended
    simp only [form, Cursor.extend_rest, List.cons_append, Cursor.advance_extend _ tail ended]
    by_cases braced : char = '\x7b'
    · subst braced
      cases found : (cursor.advance.skip verbose).advance.collectFrom verbose
          fun char => char != '}' with
      | mk name brace =>
        by_cases unclosed : brace.rest = []
        · simp only [unclosed, List.isEmpty_nil, if_true]
          exact continues_error _ _
        · simp only [Cursor.collectFrom_extend _ _ _ _ tail _ found unclosed,
            Cursor.extend_isEmpty _ tail unclosed, Cursor.advance_extend _ tail unclosed,
            List.isEmpty_iff, unclosed, if_false, Bool.false_eq_true]
          exact continues_same _ _ _
    by_cases escaped : char = '\\'
    · subst escaped
      exact continues_error _ _
    split
    · next same => cases same
    · next same => exact absurd (List.cons.inj same).1 braced
    · next same => exact absurd (List.cons.inj same).1 escaped
    · next same =>
      cases same
      exact continues_skipped start _ _

/-- A word boundary at the end of the text does not see braces behind it, since a parenthesis
comes first. -/
theorem boundary_extend (verbose : Bool) (rest : List Char) (start : Nat) (cursor : Cursor) :
    Continues verbose (')' :: rest) (boundary verbose start cursor)
      (boundary verbose start (cursor.extend (')' :: rest))) := by
  obtain ⟨index, text⟩ := cursor
  cases text with
  | nil => exact continues_same _ _ _
  | cons char text =>
    by_cases braced : char = '\x7b'
    · subst braced
      have advanced := Cursor.advance_extend ⟨index, '\x7b' :: text⟩ (')' :: rest) (by simp)
      generalize whole : (⟨index, '\x7b' :: text⟩ : Cursor) = cursor at advanced ⊢
      have here : cursor.rest = '\x7b' :: text := by rw [← whole]
      by_cases ended : (cursor.advance.skip verbose).rest = []
      · simp only [boundary, here, ended]
        exact continues_error _ _
      · simp only [boundary, here, Cursor.extend_rest, List.cons_append, advanced,
          Cursor.skip_extend _ _ (')' :: rest) ended]
        obtain ⟨letter, letters, form⟩ := List.exists_cons_of_ne_nil ended
        simp only [form, List.cons_append]
        by_cases named : isBoundaryLetter letter = true
        · simp only [named, Bool.not_true, Bool.false_eq_true, if_false]
          cases found : (cursor.advance.skip verbose).collectFrom verbose isBoundaryLetter with
          | mk name brace =>
            by_cases unclosed : brace.rest = []
            · simp only [unclosed, List.head?_nil, reduceCtorEq, if_false]
              exact continues_error _ _
            · simp only [Cursor.collectFrom_extend _ _ _ _ (')' :: rest) _ found unclosed,
                Cursor.extend_head _ (')' :: rest) unclosed,
                Cursor.advance_extend _ (')' :: rest) unclosed]
              split_ifs
              · split
                · exact continues_same _ _ _
                · exact continues_same _ _ _
                · exact continues_same _ _ _
                · exact continues_same _ _ _
                · exact continues_error _ _
              · exact continues_error _ _
        · simp only [named, Bool.not_false, if_true]
          exact continues_same _ _ _
    · simp only [boundary, Cursor.extend, List.cons_append]
      split
      · next same => exact absurd (List.cons.inj same).1 braced
      · split
        · next same => exact absurd (List.cons.inj same).1 braced
        · exact continues_same _ _ _

/-- An escape is read alike when a parenthesis and more text follow. -/
theorem read_extend (verbose : Bool) (rest : List Char) (cursor : Cursor) :
    Continues verbose (')' :: rest) (read verbose cursor)
      (read verbose (cursor.extend (')' :: rest))) := by
  by_cases ended : cursor.advance.rest = []
  · simp only [read, ended]
    exact continues_error _ _
  · have left := Cursor.rest_of_advance _ ended
    simp only [read, Cursor.advance_extend _ _ left, Cursor.advance_extend _ _ ended]
    obtain ⟨char, text, form⟩ := List.exists_cons_of_ne_nil ended
    simp only [form, Cursor.extend_rest, List.cons_append, Cursor.extend_index]
    split_ifs
    · exact continues_error _ _
    · exact hex_extend _ _ _ _ _
    · exact property_extend _ _ _ _ _
    · exact boundary_extend _ _ _ _
    · exact continues_same _ _ _
    · split
      · exact continues_same _ _ _
      · exact continues_same _ _ _
      · exact continues_same _ _ _
      · exact continues_error _ _

/-! Progress -/

theorem hexDigits_leaves (verbose : Bool) (value : Nat) (cursor : Cursor) (count : Nat) :
    Cursor.Leaves cursor.rest.length (hexDigits verbose value cursor count) := by
  induction count generalizing value cursor with
  | zero => exact Cursor.leaves_ok _ _ _ (Nat.le_refl _)
  | succ count ih =>
    have advanced := Cursor.advance_length cursor
    have skipped := Cursor.skip_length verbose cursor.advance
    rw [hexDigits]
    split
    · exact Cursor.leaves_error _ _
    · split
      · exact Cursor.leaves_error _ _
      · dsimp only
        split_ifs
        · exact Cursor.leaves_ok _ _ _ (by omega)
        · intro read stop done
          have shorter := ih _ _ _ _ done
          omega

theorem fixedHex_leaves (verbose : Bool) (start count : Nat) (cursor : Cursor) :
    Cursor.Leaves cursor.rest.length (fixedHex verbose start cursor count) := by
  have shorter := hexDigits_leaves verbose 0 cursor count
  rw [fixedHex]
  cases digits : hexDigits verbose 0 cursor count with
  | error fault => exact Cursor.leaves_error _ _
  | ok result =>
    simp only [bind, Except.bind]
    split
    · exact Cursor.leaves_error _ _
    · exact Cursor.leaves_ok _ _ _ (shorter _ _ digits)

theorem bracedHex_leaves (verbose : Bool) (start : Nat) (cursor : Cursor) :
    Cursor.Leaves cursor.rest.length (bracedHex verbose start cursor) := by
  have advanced := Cursor.advance_length cursor
  have collected := Cursor.collectFrom_length verbose (fun char => char != '}') cursor.advance
  have closed := Cursor.advance_length
    (cursor.advance.collectFrom verbose fun char => char != '}').2
  simp only [bracedHex]
  split
  · exact Cursor.leaves_error _ _
  · split_ifs
    · exact Cursor.leaves_error _ _
    · exact Cursor.leaves_error _ _
    · split
      · exact Cursor.leaves_error _ _
      · exact Cursor.leaves_ok _ _ _ (by omega)

theorem hex_leaves (verbose : Bool) (start : Nat) (letter : Char) (cursor : Cursor) :
    Cursor.Leaves cursor.rest.length (hex verbose start letter cursor) := by
  have advanced := Cursor.advance_length cursor
  have skipped := Cursor.skip_length verbose cursor.advance
  simp only [hex]
  split
  · exact Cursor.leaves_error _ _
  · intro read stop done
    have shorter := bracedHex_leaves _ _ _ _ _ done
    omega
  · intro read stop done
    have shorter := fixedHex_leaves _ _ _ _ _ _ done
    omega

theorem property_leaves (verbose : Bool) (start : Nat) (negated : Bool) (cursor : Cursor) :
    Cursor.Leaves cursor.rest.length (property verbose start negated cursor) := by
  have advanced := Cursor.advance_length cursor
  have skipped := Cursor.skip_length verbose cursor.advance
  have named := Cursor.advance_length (cursor.advance.skip verbose)
  have collected := Cursor.collectFrom_length verbose (fun char => char != '}')
    (cursor.advance.skip verbose).advance
  have closed := Cursor.advance_length
    ((cursor.advance.skip verbose).advance.collectFrom verbose fun char => char != '}').2
  simp only [property]
  split
  · exact Cursor.leaves_error _ _
  · split_ifs
    · exact Cursor.leaves_error _ _
    · exact Cursor.leaves_ok _ _ _ (by omega)
  · exact Cursor.leaves_error _ _
  · exact Cursor.leaves_ok _ _ _ (by omega)

theorem boundary_leaves (verbose : Bool) (start : Nat) (cursor : Cursor) :
    Cursor.Leaves cursor.rest.length (boundary verbose start cursor) := by
  have advanced := Cursor.advance_length cursor
  have skipped := Cursor.skip_length verbose cursor.advance
  have collected := Cursor.collectFrom_length verbose isBoundaryLetter
    (cursor.advance.skip verbose)
  have closed := Cursor.advance_length
    ((cursor.advance.skip verbose).collectFrom verbose isBoundaryLetter).2
  simp only [boundary]
  split
  · split
    · exact Cursor.leaves_error _ _
    · split_ifs
      · exact Cursor.leaves_ok _ _ _ (Nat.le_refl _)
      · split
        · exact Cursor.leaves_ok _ _ _ (by omega)
        · exact Cursor.leaves_ok _ _ _ (by omega)
        · exact Cursor.leaves_ok _ _ _ (by omega)
        · exact Cursor.leaves_ok _ _ _ (by omega)
        · exact Cursor.leaves_error _ _
      · exact Cursor.leaves_error _ _
  · exact Cursor.leaves_ok _ _ _ (Nat.le_refl _)

/-- An escape takes its backslash and the letter behind it at least. -/
theorem read_leaves (verbose : Bool) (cursor : Cursor) :
    Cursor.Leaves (cursor.rest.length - 1) (read verbose cursor) := by
  have advanced := Cursor.advance_length cursor
  have stopped := Cursor.advance_length cursor.advance
  simp only [read]
  split
  · exact Cursor.leaves_error _ _
  · split_ifs
    · exact Cursor.leaves_error _ _
    · exact advanced ▸ hex_leaves _ _ _ _
    · exact advanced ▸ property_leaves _ _ _ _
    · intro read stop done
      have shorter := boundary_leaves _ _ _ _ _ done
      omega
    · exact Cursor.leaves_ok _ _ _ (by omega)
    · split
      · exact Cursor.leaves_ok _ _ _ (by omega)
      · exact Cursor.leaves_ok _ _ _ (by omega)
      · exact Cursor.leaves_ok _ _ _ (by omega)
      · exact Cursor.leaves_error _ _

end FileVerdict.Regex.Escape
