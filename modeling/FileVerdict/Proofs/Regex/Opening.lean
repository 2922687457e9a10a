import FileVerdict.Proofs.Regex.Cursor
import FileVerdict.Proofs.Result
import FileVerdict.Regex.Opening

/-!
Opening parentheses with a closing one somewhere behind them. Names and flags are closed before
anything that follows is looked at. Only where a plain group opens at the very end is it the text
behind that tells where the inside begins.
-/

namespace FileVerdict.Regex.Opening
open FileVerdict.Text

theorem readFlags_append (tail : List Char) (items : List (Span × FlagItem)) (index : Nat)
    (text : List Char) (flags : List FlagItem) (stop : Cursor)
    (read : readFlags items index text = .ok (flags, stop)) :
    readFlags items index (text ++ tail) = .ok (flags, stop.extend tail) := by
  induction text generalizing items index with
  | nil => cases read
  | cons char text ih =>
    simp only [readFlags, List.cons_append] at read ⊢
    by_cases ended : char = ':' ∨ char = ')'
    · rw [if_pos ended] at read ⊢
      split at read
      · cases read
      · cases read
        rfl
    · rw [if_neg ended] at read ⊢
      generalize (if char = '-' then some FlagItem.negation
        else (flag? char).map FlagItem.flag) = item? at read ⊢
      cases item? with
      | none => cases read
      | some item =>
        dsimp only at read ⊢
        split at read
        · cases read
        · exact ih _ _ read

theorem readFlags_leaves (items : List (Span × FlagItem)) (index : Nat) (text : List Char)
    (flags : List FlagItem) (stop : Cursor)
    (read : readFlags items index text = .ok (flags, stop)) :
    stop.rest ≠ [] ∧ stop.rest.length ≤ text.length := by
  induction text generalizing items index with
  | nil => cases read
  | cons char text ih =>
    simp only [readFlags] at read
    by_cases ended : char = ':' ∨ char = ')'
    · rw [if_pos ended] at read
      split at read
      · cases read
      · cases read
        exact ⟨List.cons_ne_nil _ _, Nat.le_refl _⟩
    · rw [if_neg ended] at read
      split at read
      · cases read
      · split at read
        · cases read
        · obtain ⟨left, shorter⟩ := ih _ _ read
          exact ⟨left, Nat.le_succ_of_le shorter⟩

theorem readName_append (tail : List Char) (start index : Nat) (text name : List Char)
    (stop : Cursor) (read : readName start index text = .ok (name, stop)) :
    readName start index (text ++ tail) = .ok (name, stop.extend tail) := by
  induction text generalizing index name with
  | nil => cases read
  | cons char text ih =>
    simp only [readName, List.cons_append] at read ⊢
    split_ifs at read ⊢
    · cases read
      rfl
    · obtain ⟨⟨others, after⟩, found, same⟩ := Result.bind_eq_ok.mp read
      cases same
      rw [ih _ _ found]
      rfl

theorem readName_leaves (start index : Nat) (text name : List Char) (stop : Cursor)
    (read : readName start index text = .ok (name, stop)) : stop.rest.length ≤ text.length := by
  induction text generalizing index name with
  | nil => cases read
  | cons char text ih =>
    simp only [readName] at read
    split_ifs at read
    · cases read
      exact Nat.le_succ _
    · obtain ⟨⟨others, after⟩, found, same⟩ := Result.bind_eq_ok.mp read
      cases same
      exact Nat.le_succ_of_le (ih _ _ found)

theorem named_extend (tail : List Char) (cursor : Cursor) :
    Cursor.Carries tail (named cursor) (named (cursor.extend tail)) := by
  intro opening stop read
  obtain ⟨⟨name, after⟩, found, read⟩ := Result.bind_eq_ok.mp read
  have longer := readName_append tail _ _ _ _ _ found
  refine Result.bind_eq_ok.mpr ⟨_, longer, ?_⟩
  simp only [Result.throw_eq_error, Result.error_bind] at read ⊢
  split_ifs at read ⊢
  cases read
  rfl

theorem named_leaves (cursor : Cursor) : Cursor.Leaves cursor.rest.length (named cursor) := by
  intro opening stop read
  obtain ⟨⟨name, after⟩, found, read⟩ := Result.bind_eq_ok.mp read
  have shorter := readName_leaves _ _ _ _ _ found
  simp only [Result.throw_eq_error, Result.error_bind] at read
  split_ifs at read
  cases read
  exact shorter

theorem flagged_extend (tail : List Char) (start : Nat) (mark : Span) (cursor : Cursor) :
    Cursor.Carries tail (flagged start mark cursor) (flagged start mark (cursor.extend tail)) := by
  intro opening stop read
  by_cases ended : cursor.rest = []
  · simp [flagged, ended] at read
  simp only [flagged, Cursor.extend_isEmpty _ _ ended, List.isEmpty_iff, ended, if_false,
    Bool.false_eq_true] at read ⊢
  obtain ⟨⟨flags, after⟩, found, read⟩ := Result.bind_eq_ok.mp read
  have left := (readFlags_leaves _ _ _ _ _ found).1
  refine Result.bind_eq_ok.mpr ⟨_, readFlags_append tail _ _ _ _ _ found, ?_⟩
  simp only [Result.throw_eq_error, Result.error_bind, Cursor.extend_head _ _ left,
    Cursor.advance_extend _ _ left, Cursor.extend_index] at read ⊢
  split_ifs at read ⊢
  · cases read
    rfl
  · cases read
    rfl

theorem flagged_leaves (start : Nat) (mark : Span) (cursor : Cursor) :
    Cursor.Leaves cursor.rest.length (flagged start mark cursor) := by
  intro opening stop read
  simp only [flagged, Result.throw_eq_error, Result.error_bind] at read
  split_ifs at read
  obtain ⟨⟨flags, after⟩, found, read⟩ := Result.bind_eq_ok.mp read
  have shorter := (readFlags_leaves _ _ _ _ _ found).2
  have advanced := Cursor.advance_length after
  dsimp only at read
  split_ifs at read
  · cases read
    omega
  · cases read
    omega

/-- A parenthesis behind a text does not make a longer word of it. -/
theorem isPrefixOf_append_paren (word text rest : List Char) (without : ')' ∉ word) :
    word.isPrefixOf (text ++ ')' :: rest) = word.isPrefixOf text := by
  induction word generalizing text with
  | nil => simp
  | cons char word ih =>
    rw [List.mem_cons, not_or] at without
    cases text with
    | nil => simp [List.isPrefixOf, Ne.symm without.1]
    | cons first text => simp [List.isPrefixOf, ih text without.2]

theorem lookArounds_find (text rest : List Char) :
    (lookArounds.find? fun look => look.isPrefixOf (text ++ ')' :: rest)) =
      lookArounds.find? fun look => look.isPrefixOf text := by
  simp [lookArounds, List.find?_cons, isPrefixOf_append_paren]

theorem begun_extend (rest : List Char) (start : Nat) (next : Cursor) (left : next.rest ≠ []) :
    Cursor.Carries (')' :: rest) (begun start next) (begun start (next.extend (')' :: rest))) := by
  intro opening stop done
  simp only [begun, Cursor.extend_rest, Cursor.extend_index, Cursor.extend_here] at done ⊢
  split at done
  · next more form =>
    rw [form]
    exact named_extend (')' :: rest) ⟨next.index + 3, more⟩ _ _ done
  · next more form =>
    rw [form]
    exact named_extend (')' :: rest) ⟨next.index + 2, more⟩ _ _ done
  · next more named angled form =>
    -- No longer text makes a name out of what was read as flags: a name needs a bracket.
    rw [form, List.cons_append]
    have longer := flagged_extend (')' :: rest) start next.here ⟨next.index + 1, more⟩ _ _ done
    split
    · next other same =>
      rcases more with _ | ⟨first, _ | ⟨second, others⟩⟩
      · simp at same
      · simp at same
      · simp only [List.cons_append, List.cons.injEq, true_and] at same
        obtain ⟨rfl, rfl, -⟩ := same
        exact (named others rfl).elim
    · next other same =>
      rcases more with _ | ⟨first, others⟩
      · simp at same
      · simp only [List.cons_append, List.cons.injEq, true_and] at same
        obtain ⟨rfl, -⟩ := same
        exact (angled others rfl).elim
    · next other same =>
      cases (List.cons.inj same).2
      exact longer
    · next other => exact absurd rfl (other _)
  · next named angled marked =>
    obtain ⟨char, more, form⟩ := List.exists_cons_of_ne_nil left
    have plain : char ≠ '?' := fun same => marked more (by rw [form, same])
    cases done
    rw [form, List.cons_append]
    split
    · next same => exact absurd (List.cons.inj same).1 plain
    · next same => exact absurd (List.cons.inj same).1 plain
    · next same => exact absurd (List.cons.inj same).1 plain
    · rfl

theorem begun_leaves (start : Nat) (next : Cursor) :
    Cursor.Leaves next.rest.length (begun start next) := by
  intro opening stop done
  simp only [begun] at done
  split at done
  · next form =>
    have shorter := named_leaves _ _ _ done
    rw [form]
    simp only [List.length_cons] at shorter ⊢
    omega
  · next form =>
    have shorter := named_leaves _ _ _ done
    rw [form]
    simp only [List.length_cons] at shorter ⊢
    omega
  · next form =>
    have shorter := flagged_leaves _ _ _ _ _ done
    rw [form]
    simp only [List.length_cons] at shorter ⊢
    omega
  · cases done
    exact Nat.le_refl _

/-- An opening is read alike when a parenthesis and more text follow, unless it opens a group at
the end of the text. -/
theorem read_extend (verbose : Bool) (rest : List Char) (cursor : Cursor) (opening : Opening)
    (stop : Cursor) (done : read verbose cursor = .ok (opening, stop))
    (left : (∃ span items, opening = .directive span items) ∨ stop.rest ≠ []) :
    read verbose (cursor.extend (')' :: rest)) = .ok (opening, stop.extend (')' :: rest)) := by
  by_cases ended : (cursor.advance.skip verbose).rest = []
  · have plain : read verbose cursor = .ok (.group true [] none, cursor.advance.skip verbose) := by
      simp [read, begun, ended, lookArounds]
    rw [plain] at done
    cases done
    rcases left with ⟨span, items, same⟩ | left
    · cases same
    · exact absurd ended left
  have nonempty := Cursor.rest_of_advance _ (Cursor.rest_of_skip _ _ ended)
  simp only [read, Cursor.advance_extend _ _ nonempty, Cursor.skip_extend _ _ _ ended,
    Cursor.extend_rest, lookArounds_find, Cursor.extend_index] at done ⊢
  split at done
  · cases done
  · exact begun_extend rest _ _ ended _ _ done

/-- An opening takes its parenthesis at least. -/
theorem read_leaves (verbose : Bool) (cursor : Cursor) :
    Cursor.Leaves (cursor.rest.length - 1) (read verbose cursor) := by
  intro opening stop done
  have advanced := Cursor.advance_length cursor
  have skipped := Cursor.skip_length verbose cursor.advance
  simp only [read] at done
  split at done
  · cases done
  · have shorter := begun_leaves _ _ _ _ done
    omega

end FileVerdict.Regex.Opening
