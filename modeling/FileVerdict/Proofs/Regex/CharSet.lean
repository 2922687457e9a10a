import FileVerdict.Proofs.Regex.Escape
import FileVerdict.Proofs.Result
import FileVerdict.Regex.CharSetReader

/-!
Sets of characters with a closing parenthesis behind them. A set that can be read has been closed,
so nothing that follows has been looked at, and more text changes nothing at all.
-/

namespace FileVerdict.Regex.CharSetReader
open FileVerdict.Text

theorem proceed_extend (verbose : Bool) (tail : List Char) (start : Nat) (cursor next : Cursor)
    (read : proceed verbose start cursor = .ok next) :
    proceed verbose start (cursor.extend tail) = .ok (next.extend tail) := by
  by_cases ended : (cursor.advance.skip verbose).rest = []
  · simp [proceed, ended] at read
  · have left := Cursor.rest_of_advance _ (Cursor.rest_of_skip _ _ ended)
    have same : cursor.advance.skip verbose = next := by simpa [proceed, ended] using read
    simp [proceed, Cursor.advance_extend _ tail left, Cursor.skip_extend _ _ tail ended, same,
      same ▸ ended]

theorem proceed_leaves (verbose : Bool) (start : Nat) (cursor next : Cursor)
    (read : proceed verbose start cursor = .ok next) :
    next.rest ≠ [] ∧ next.rest.length < cursor.rest.length := by
  have advanced := Cursor.advance_length cursor
  have skipped := Cursor.skip_length verbose cursor.advance
  by_cases ended : (cursor.advance.skip verbose).rest = []
  · simp [proceed, ended] at read
  · have left := Cursor.rest_of_advance _ (Cursor.rest_of_skip _ _ ended)
    have nonempty := List.length_pos_iff.mpr left
    have same : cursor.advance.skip verbose = next := by simpa [proceed, ended] using read
    rw [same] at skipped ended
    exact ⟨ended, by omega⟩

theorem negation_extend (verbose : Bool) (tail : List Char) (start : Nat) (cursor : Cursor)
    (left : cursor.rest ≠ []) :
    Cursor.Carries tail (negation verbose start cursor)
      (negation verbose start (cursor.extend tail)) := by
  simp only [negation, Cursor.extend_head _ tail left]
  split_ifs
  · intro negated stop read
    obtain ⟨next, met, same⟩ := Result.map_eq_ok.mp read
    rw [proceed_extend verbose tail start cursor next met]
    cases same
    rfl
  · exact Cursor.carries_ok _ _ _

theorem negation_leaves (verbose : Bool) (start : Nat) (cursor : Cursor) :
    Cursor.Leaves cursor.rest.length (negation verbose start cursor) := by
  rw [negation]
  split_ifs
  · intro negated stop read
    obtain ⟨next, met, same⟩ := Result.map_eq_ok.mp read
    cases same
    exact Nat.le_of_lt (proceed_leaves _ _ _ _ met).2
  · exact Cursor.leaves_ok _ _ _ (Nat.le_refl _)

theorem leading_extend (verbose : Bool) (tail : List Char) (start : Nat) (cursor : Cursor) :
    Cursor.Carries tail (leading verbose start cursor)
      (leading verbose start (cursor.extend tail)) := by
  cases found : cursor.collectFrom verbose fun char => char == '-' with
  | mk hyphens next =>
    by_cases ended : next.rest = []
    · simp only [leading, found, ended, List.isEmpty_nil, if_true]
      exact Cursor.carries_error _ _ _
    · simp only [leading, found, Cursor.collectFrom_extend _ _ _ _ tail _ found ended,
        Cursor.extend_isEmpty _ tail ended, Cursor.extend_head _ tail ended, List.isEmpty_iff,
        ended, if_false, Bool.false_eq_true]
      split_ifs
      · intro items stop read
        obtain ⟨after, met, same⟩ := Result.map_eq_ok.mp read
        rw [proceed_extend verbose tail start next after met]
        cases same
        rfl
      · exact Cursor.carries_ok _ _ _

theorem leading_leaves (verbose : Bool) (start : Nat) (cursor : Cursor) :
    Cursor.Leaves cursor.rest.length (leading verbose start cursor) := by
  have collected := Cursor.collectFrom_length verbose (fun char => char == '-') cursor
  simp only [leading]
  split_ifs
  · exact Cursor.leaves_error _ _
  · intro items stop read
    obtain ⟨after, met, same⟩ := Result.map_eq_ok.mp read
    have shorter := (proceed_leaves _ _ _ _ met).2
    cases same
    omega
  · exact Cursor.leaves_ok _ _ _ collected

namespace State

def extend (state : State) (tail : List Char) : State :=
  { state with cursor := state.cursor.extend tail }

@[simp] theorem extend_cursor (state : State) (tail : List Char) :
    (state.extend tail).cursor = state.cursor.extend tail := rfl

end State

theorem openBracket_extend (verbose : Bool) (tail : List Char) (outer : Items)
    (stack : List Frame) (cursor : Cursor) (state : State)
    (read : openBracket verbose outer stack cursor = .ok state) :
    openBracket verbose outer stack (cursor.extend tail) = .ok (state.extend tail) := by
  obtain ⟨next, proceeded, read⟩ := Result.bind_eq_ok.mp read
  obtain ⟨⟨negated, marked⟩, negating, read⟩ := Result.bind_eq_ok.mp read
  obtain ⟨⟨items, stop⟩, led, read⟩ := Result.bind_eq_ok.mp read
  cases read
  have left := (proceed_leaves _ _ _ _ proceeded).1
  simp only [openBracket, Cursor.extend_index]
  rw [proceed_extend _ tail _ _ _ proceeded]
  refine Result.bind_eq_ok.mpr ⟨_, rfl, ?_⟩
  rw [negation_extend _ tail _ _ left _ _ negating]
  refine Result.bind_eq_ok.mpr ⟨_, rfl, ?_⟩
  dsimp only
  rw [leading_extend _ tail _ _ _ _ led]
  rfl

theorem openBracket_leaves (verbose : Bool) (outer : Items) (stack : List Frame)
    (cursor : Cursor) (state : State) (read : openBracket verbose outer stack cursor = .ok state) :
    state.cursor.rest.length < cursor.rest.length := by
  obtain ⟨next, proceeded, read⟩ := Result.bind_eq_ok.mp read
  obtain ⟨⟨negated, marked⟩, negating, read⟩ := Result.bind_eq_ok.mp read
  obtain ⟨⟨items, stop⟩, led, read⟩ := Result.bind_eq_ok.mp read
  cases read
  have first := (proceed_leaves _ _ _ _ proceeded).2
  have second := negation_leaves _ _ _ _ _ negating
  have third := leading_leaves _ _ _ _ _ led
  dsimp only at third ⊢
  omega

/-! Named classes -/

theorem asciiNames_lookup_paren (name : List Char) (held : ')' ∈ name) :
    asciiNames.lookup (String.ofList name) = none := by
  have without : ∀ entry ∈ asciiNames, ')' ∉ entry.1.toList := by decide
  rw [List.lookup_eq_none_iff]
  intro entry member
  have missing := without entry member
  rw [bne_iff_ne]
  intro same
  rw [← same, String.toList_ofList] at missing
  exact missing held

theorem asciiBody?_leaves (body after : List Char) (kind : AsciiClass)
    (read : asciiBody? body = some (kind, after)) : after.length ≤ body.length := by
  have shorter := (List.dropWhile_suffix (l := body) fun char => char != ':').length_le
  unfold asciiBody? at read
  split at read
  · next remains =>
    obtain ⟨kind', -, same⟩ := Option.map_eq_some_iff.mp read
    cases same
    rw [remains, List.length_cons, List.length_cons] at shorter
    omega
  · cases read

/-- A name does not reach over a parenthesis, so a class is named before it or not at all. -/
theorem asciiBody?_append (body rest : List Char) :
    asciiBody? (body ++ ')' :: rest) =
      (asciiBody? body).map fun read => (read.1, read.2 ++ ')' :: rest) := by
  unfold asciiBody?
  rw [List.dropWhile_append, List.takeWhile_append]
  cases remains : body.dropWhile fun char => char != ':' with
  | nil =>
    have whole : (body.takeWhile fun char => char != ':') = body := by
      have both := List.takeWhile_append_dropWhile (p := fun char => char != ':') (l := body)
      rwa [remains, List.append_nil] at both
    simp only [whole, if_true, List.isEmpty_nil]
    rw [asciiNames_lookup_paren _ (by simp)]
    split <;> rfl
  | cons char others =>
    have part : (body.takeWhile fun char => char != ':').length ≠ body.length := by
      have both := congrArg List.length
        (List.takeWhile_append_dropWhile (p := fun char => char != ':') (l := body))
      rw [remains, List.length_append, List.length_cons] at both
      omega
    simp only [part, if_false, List.isEmpty_cons, Bool.false_eq_true, List.cons_append]
    cases others with
    | nil =>
      by_cases colon : char = ':'
      · subst colon
        rfl
      · split
        · next same => exact absurd (List.cons.inj same).1 colon
        · split
          · next same => cases same
          · rfl
    | cons second after =>
      split
      · next same =>
        obtain ⟨rfl, rest'⟩ := List.cons.inj same
        obtain ⟨rfl, rfl⟩ := List.cons.inj rest'
        simp only [Option.map_map]
        rfl
      · next other =>
        split
        · next same =>
          obtain ⟨rfl, rest'⟩ := List.cons.inj same
          obtain ⟨rfl, rfl⟩ := List.cons.inj rest'
          exact absurd rfl (other _)
        · rfl

/-- The mark that negates a named class, with a parenthesis behind the text. -/
theorem asciiMark_append (text rest : List Char) :
    (text ++ ')' :: rest).head? = some '^' ↔ text.head? = some '^' := by
  cases text with
  | nil => simp
  | cons char text => simp

theorem ascii?_extend (rest : List Char) (cursor : Cursor) :
    ascii? (cursor.extend (')' :: rest)) =
      (ascii? cursor).map fun read => (read.1, read.2.extend (')' :: rest)) := by
  obtain ⟨index, text⟩ := cursor
  by_cases opening : ∃ inside, text = '[' :: ':' :: inside
  · obtain ⟨inside, rfl⟩ := opening
    have body : (if inside.head? = some '^' then (inside ++ ')' :: rest).drop 1
        else inside ++ ')' :: rest) =
        (if inside.head? = some '^' then inside.drop 1 else inside) ++ ')' :: rest := by
      cases inside with
      | nil => rfl
      | cons char inside =>
        split_ifs
        · rfl
        · rfl
    simp only [ascii?, Cursor.extend, List.cons_append, asciiMark_append, body,
      asciiBody?_append, Option.map_map]
    congr 1
    funext read
    obtain ⟨kind, after⟩ := read
    have length : inside.length + (rest.length + 1) + 1 + 1 - (after.length + (rest.length + 1)) =
        inside.length + 1 + 1 - after.length := by omega
    simp only [Function.comp_apply, List.length_cons, List.length_append, length]
  · have short : ascii? ⟨index, text⟩ = none := by
      unfold ascii?
      split
      · next inside same => exact absurd ⟨inside, same⟩ opening
      · rfl
    have long : ascii? (Cursor.extend ⟨index, text⟩ (')' :: rest)) = none := by
      unfold ascii?
      split
      · next inside same =>
        rcases text with _ | ⟨first, _ | ⟨second, more⟩⟩
        · simp [Cursor.extend] at same
        · simp [Cursor.extend] at same
        · simp only [Cursor.extend, List.cons_append, List.cons.injEq] at same
          exact absurd ⟨more, by rw [same.1, same.2.1]⟩ opening
      · rfl
    rw [short, long]
    rfl

theorem ascii?_leaves (cursor stop : Cursor) (named : CharSet)
    (read : ascii? cursor = some (named, stop)) : stop.rest.length < cursor.rest.length := by
  unfold ascii? at read
  split at read
  · next rest open_ =>
    obtain ⟨⟨kind, after⟩, body, same⟩ := Option.map_eq_some_iff.mp read
    have shorter := asciiBody?_leaves _ _ _ body
    cases same
    rw [open_, List.length_cons, List.length_cons]
    dsimp only
    split_ifs at shorter
    · rw [List.length_drop] at shorter
      omega
    · omega
  · cases read

/-! Items and ranges -/

theorem visible_append (passed : Bool) (text tail : List Char) (char : Char)
    (seen : peek.visible passed text = some char) :
    peek.visible passed (text ++ tail) = some char := by
  induction text generalizing passed with
  | nil => cases seen
  | cons first text ih =>
    simp only [peek.visible, List.cons_append] at seen ⊢
    split_ifs at seen ⊢
    · exact ih _ seen
    · exact ih _ seen
    · exact seen

/-- Behind a `#` that has been passed there is nothing to see if all is blank, and blanks do not
end a search for what means something. -/
theorem skipComments_of_visible_passed (inComment : Bool) (index : Nat) (text : List Char)
    (unseen : peek.visible true text = none) :
    (Cursor.skipComments inComment index text).rest = [] := by
  induction text generalizing inComment index with
  | nil => rfl
  | cons first text ih =>
    simp only [peek.visible, Bool.not_true, Bool.false_and, Bool.false_eq_true, if_false] at unseen
    split_ifs at unseen with blank
    simp only [Cursor.skipComments, blank, if_true]
    split_ifs
    · exact ih _ _ unseen
    · exact ih _ _ unseen

theorem skipComments_of_visible (index : Nat) (text : List Char)
    (unseen : peek.visible false text = none) :
    (Cursor.skipComments false index text).rest = [] := by
  induction text generalizing index with
  | nil => rfl
  | cons first text ih =>
    simp only [peek.visible, Bool.not_false, Bool.true_and, decide_eq_true_eq] at unseen
    simp only [Cursor.skipComments, Bool.false_eq_true, if_false]
    split_ifs at unseen ⊢
    · exact ih _ unseen
    · exact skipComments_of_visible_passed _ _ _ unseen

theorem head_of_visible (text : List Char) (char : Char)
    (unseen : peek.visible false text = none) (first : text.head? = some char) :
    isBlank char = true ∨ char = '#' := by
  cases text with
  | nil => cases first
  | cons other text =>
    cases first
    simp only [peek.visible, Bool.not_false, Bool.true_and, decide_eq_true_eq] at unseen
    split_ifs at unseen with blank mark
    · exact .inl blank
    · exact .inr mark

/-- What tells a range from a hyphen is seen before the text ends, or there is no range. -/
theorem peek_extend (verbose : Bool) (tail : List Char) (cursor : Cursor)
    (seen : peek verbose cursor = some ']' ∨ peek verbose cursor = some '-' ∨
      (cursor.advance.skip verbose).rest ≠ []) :
    peek verbose (cursor.extend tail) = peek verbose cursor := by
  obtain ⟨index, text⟩ := cursor
  cases text with
  | nil => cases verbose <;> simp [peek, peek.visible, Cursor.advance, Cursor.skip,
      Cursor.skipComments] at seen
  | cons first text =>
    cases verbose with
    | false =>
      cases text with
      | nil => simp [peek, Cursor.advance, Cursor.skip] at seen
      | cons second text => rfl
    | true =>
      have drop : (Cursor.extend ⟨index, first :: text⟩ tail).rest.drop 1 = text ++ tail := rfl
      cases shown : peek.visible false text with
      | some char =>
        simp only [peek, drop, List.drop_succ_cons, List.drop_zero, shown,
          visible_append _ _ tail _ shown, if_true, Option.some_or]
      | none =>
        have ended := skipComments_of_visible (index + 1) text shown
        have head := head_of_visible text
        simp only [peek, List.drop_succ_cons, List.drop_zero, shown, if_true, Option.none_or,
          Cursor.advance, Cursor.skip, ended, ne_eq, not_true_eq_false, or_false] at seen
        rcases seen with bracket | hyphen
        · exact absurd (head _ shown bracket) (by decide)
        · exact absurd (head _ shown hyphen) (by decide)

theorem item_extend (verbose : Bool) (rest : List Char) (cursor : Cursor) :
    Escape.Continues verbose (')' :: rest) (item verbose cursor)
      (item verbose (cursor.extend (')' :: rest))) := by
  obtain ⟨index, text⟩ := cursor
  cases text with
  | nil => exact Escape.continues_error _ _
  | cons char text =>
    by_cases escaped : char = '\\'
    · subst escaped
      exact Escape.read_extend verbose rest ⟨index, '\\' :: text⟩
    · simp only [item, Cursor.extend, List.cons_append]
      exact Escape.continues_same _ _ _

theorem item_leaves (verbose : Bool) (cursor : Cursor) :
    Cursor.Leaves (cursor.rest.length - 1) (item verbose cursor) := by
  have advanced := Cursor.advance_length cursor
  unfold item
  split
  · exact Escape.read_leaves _ _
  · exact Cursor.leaves_ok _ _ _ (by omega)
  · exact Cursor.leaves_error _ _

theorem rangeFrom_extend (verbose : Bool) (rest : List Char) (first : Span × Leaf)
    (cursor : Cursor) (set : CharSet) (stop : Cursor)
    (read : rangeFrom verbose first cursor = .ok (set, stop))
    (left : (stop.skip verbose).rest ≠ []) :
    rangeFrom verbose first (cursor.extend (')' :: rest)) =
      .ok (set, stop.extend (')' :: rest)) := by
  obtain ⟨⟨⟨span, leaf⟩, after⟩, last, read⟩ := Result.bind_eq_ok.mp read
  obtain ⟨place, longLast, placed⟩ := item_extend verbose rest cursor _ _ _ last
  obtain ⟨⟨firstChar, firstByte⟩, lower, read⟩ := Result.bind_eq_ok.mp read
  obtain ⟨⟨lastChar, lastByte⟩, upper, read⟩ := Result.bind_eq_ok.mp read
  by_cases backward : lastChar < firstChar
  · simp [backward] at read
  simp only [backward, if_false, Result.pure_eq_ok] at read
  cases read
  obtain rfl := placed left
  simp [rangeFrom, longLast, lower, upper, backward]

/-- What ends the last part of a range is seen by the step after it. -/
theorem rangeOrItem_extend (verbose : Bool) (rest : List Char) (state : State) (set : CharSet)
    (stop : Cursor) (read : rangeOrItem verbose state = .ok (set, stop))
    (left : (stop.skip verbose).rest ≠ []) :
    rangeOrItem verbose (state.extend (')' :: rest)) =
      .ok (set, stop.extend (')' :: rest)) := by
  obtain ⟨⟨⟨span, leaf⟩, middle⟩, first, read⟩ := Result.bind_eq_ok.mp read
  obtain ⟨place, longFirst, placed⟩ := item_extend verbose rest state.cursor _ _ _ first
  refine Result.bind_eq_ok.mpr ⟨_, longFirst, ?_⟩
  dsimp only at read ⊢
  by_cases ended : (middle.skip verbose).rest = []
  · simp [ended] at read
  obtain rfl := placed ended
  simp only [Cursor.skip_extend _ _ _ ended, Cursor.extend_isEmpty _ _ ended,
    Cursor.extend_head _ _ ended, List.isEmpty_iff, ended, if_false, Bool.false_eq_true] at read ⊢
  by_cases single : (middle.skip verbose).rest.head? ≠ some '-'
  · rw [if_pos (.inl single)] at read ⊢
    obtain ⟨item, asked, same⟩ := Result.bind_eq_ok.mp read
    cases same
    rw [asked]
    rfl
  by_cases hyphen : peek verbose (middle.skip verbose) = some ']' ∨
      peek verbose (middle.skip verbose) = some '-'
  · rw [peek_extend _ _ _ (hyphen.imp_right .inl)]
    rw [if_pos (.inr hyphen)] at read ⊢
    obtain ⟨item, asked, same⟩ := Result.bind_eq_ok.mp read
    cases same
    rw [asked]
    rfl
  by_cases cut : ((middle.skip verbose).advance.skip verbose).rest = []
  · simp [single, hyphen, cut] at read
  have ranging : ¬((middle.skip verbose).rest.head? ≠ some '-' ∨
      peek verbose (middle.skip verbose) = some ']' ∨
      peek verbose (middle.skip verbose) = some '-') := not_or.mpr ⟨single, hyphen⟩
  rw [if_neg ranging, if_neg cut] at read
  rw [peek_extend _ _ _ (.inr (.inr cut)), if_neg ranging, Cursor.advance_extend _ _ ended,
    Cursor.skip_extend _ _ _ cut, if_neg (Cursor.extend_left _ _ cut)]
  exact rangeFrom_extend verbose rest _ _ _ _ read left

/-! The reader of sets -/

def carried (tail : List Char) :
    State ⊕ ((Span × Bool × CharSet) × Cursor) → State ⊕ ((Span × Bool × CharSet) × Cursor)
  | .inl state => .inl (state.extend tail)
  | .inr (set, stop) => .inr (set, stop.extend tail)

theorem close_extend (tail : List Char) (state : State) (left : state.cursor.rest ≠ []) :
    close (state.extend tail) = carried tail (close state) := by
  have advanced := Cursor.advance_extend state.cursor tail left
  simp only [close, State.extend, advanced]
  rcases joinOperator state.stack state.items.set with ⟨body, stack⟩
  match stack with
  | [] => rfl
  | [.opened _ _ _] => rfl
  | .opened _ _ _ :: _ :: _ => rfl
  | .operator _ _ :: _ => rfl

/-- An operator is two characters of the text, and a parenthesis is none of them. -/
theorem operator?_append (rest : List Char) (text : List Char) :
    operator? (text ++ ')' :: rest) = operator? text := by
  match text with
  | [] => rfl
  | [char] =>
    simp only [operator?, List.cons_append, List.nil_append]
    split
    · next same => cases same
    · next same => cases same
    · next same => cases same
    · rfl
  | first :: second :: more =>
    unfold operator?
    split
    · next form => cases form; rfl
    · next form => cases form; rfl
    · next form => cases form; rfl
    · next conjunction difference symmetric =>
      split
      · next form => cases form; exact absurd rfl (conjunction _)
      · next form => cases form; exact absurd rfl (difference _)
      · next form => cases form; exact absurd rfl (symmetric _)
      · rfl

theorem operator?_length (text : List Char) (kind : SetOperator)
    (read : operator? text = some kind) : 2 ≤ text.length := by
  unfold operator? at read
  split at read
  · simp
  · simp
  · simp
  · cases read

theorem step_extend (verbose : Bool) (rest : List Char) (state : State)
    (result : State ⊕ ((Span × Bool × CharSet) × Cursor)) (read : step verbose state = .ok result)
    (left : ∀ next, result = .inl next → (next.cursor.skip verbose).rest ≠ []) :
    step verbose (state.extend (')' :: rest)) = .ok (carried (')' :: rest) result) := by
  by_cases ended : (state.cursor.skip verbose).rest = []
  · simp [step, ended] at read
  simp only [step, State.extend_cursor, Cursor.skip_extend _ _ _ ended,
    Cursor.extend_isEmpty _ _ ended, Cursor.extend_head _ _ ended, List.isEmpty_iff, ended,
    if_false, Bool.false_eq_true] at read ⊢
  by_cases opening : (state.cursor.skip verbose).rest.head? = some '['
  · rw [if_pos opening] at read ⊢
    rw [ascii?_extend]
    cases named : ascii? (state.cursor.skip verbose) with
    | some class_ =>
      rw [named] at read
      cases read
      rfl
    | none =>
      simp only [named] at read
      obtain ⟨inner, opened, same⟩ := Result.bind_eq_ok.mp read
      cases same
      exact Result.bind_eq_ok.mpr
        ⟨_, openBracket_extend verbose (')' :: rest) _ _ _ _ opened, rfl⟩
  rw [if_neg opening] at read ⊢
  by_cases closing : (state.cursor.skip verbose).rest.head? = some ']'
  · rw [if_pos closing] at read ⊢
    cases read
    exact congrArg Except.ok (close_extend (')' :: rest) ⟨state.stack, state.items, _⟩ ended)
  rw [if_neg closing] at read ⊢
  rw [Cursor.extend_rest, operator?_append]
  cases operator : operator? (state.cursor.skip verbose).rest with
  | some kind =>
    have long := operator?_length _ _ operator
    have second : (state.cursor.skip verbose).advance.rest ≠ [] := by
      rw [← List.length_pos_iff, Cursor.advance_length]
      omega
    simp only [operator] at read
    cases read
    simp only [Cursor.advance_extend _ _ ended, Cursor.advance_extend _ _ second]
    rfl
  | none =>
    simp only [operator] at read
    obtain ⟨⟨set, stop⟩, ranged, same⟩ := Result.bind_eq_ok.mp read
    cases same
    exact Result.bind_eq_ok.mpr
      ⟨_, rangeOrItem_extend verbose rest _ _ _ ranged (left _ rfl), rfl⟩

theorem run_left (verbose : Bool) (steps : Nat) (state : State)
    (result : (Span × Bool × CharSet) × Cursor) (read : run verbose steps state = .ok result) :
    (state.cursor.skip verbose).rest ≠ [] := by
  intro ended
  cases steps with
  | zero => cases read
  | succ steps => simp [run, step, ended] at read

theorem run_extend (verbose : Bool) (rest : List Char) (steps more : Nat) (state : State)
    (set : Span × Bool × CharSet) (stop : Cursor)
    (read : run verbose steps state = .ok (set, stop)) :
    run verbose (steps + more) (state.extend (')' :: rest)) =
      .ok (set, stop.extend (')' :: rest)) := by
  induction steps generalizing state with
  | zero => cases read
  | succ steps ih =>
    rw [Nat.add_right_comm]
    obtain ⟨result, stepped, read⟩ := Result.bind_eq_ok.mp read
    have longer := step_extend verbose rest state result stepped
    refine Result.bind_eq_ok.mpr ⟨carried (')' :: rest) result, longer ?_, ?_⟩
    · rintro next rfl
      exact run_left _ _ _ _ read
    · cases result with
      | inl next => exact ih _ read
      | inr done =>
        cases read
        rfl

/-- A set is read alike when a parenthesis and more text follow. -/
theorem read_extend (verbose : Bool) (rest : List Char) (cursor : Cursor) :
    Cursor.Carries (')' :: rest) (read verbose cursor)
      (read verbose (cursor.extend (')' :: rest))) := by
  intro set stop done
  obtain ⟨state, opened, done⟩ := Result.bind_eq_ok.mp done
  refine Result.bind_eq_ok.mpr ⟨_, openBracket_extend verbose (')' :: rest) _ _ _ _ opened, ?_⟩
  rw [Cursor.extend_rest, List.length_append]
  exact run_extend _ _ _ _ _ _ _ done

/-! Progress -/

theorem rangeFrom_leaves (verbose : Bool) (first : Span × Leaf) (cursor : Cursor) :
    Cursor.Leaves cursor.rest.length (rangeFrom verbose first cursor) := by
  intro set stop read
  obtain ⟨⟨last, after⟩, ended, read⟩ := Result.bind_eq_ok.mp read
  obtain ⟨lower, -, read⟩ := Result.bind_eq_ok.mp read
  obtain ⟨upper, -, read⟩ := Result.bind_eq_ok.mp read
  have shorter := item_leaves _ _ _ _ ended
  dsimp only at read
  split_ifs at read
  · cases read
  · cases read
    omega

theorem rangeOrItem_leaves (verbose : Bool) (state : State) :
    Cursor.Leaves state.cursor.rest.length (rangeOrItem verbose state) := by
  intro set stop read
  obtain ⟨⟨first, middle⟩, began, read⟩ := Result.bind_eq_ok.mp read
  have shorter := item_leaves _ _ _ _ began
  have skipped := Cursor.skip_length verbose middle
  have advanced := Cursor.advance_length (middle.skip verbose)
  have ranged := Cursor.skip_length verbose (middle.skip verbose).advance
  simp only [Result.throw_eq_error, Result.error_bind] at read
  split_ifs at read
  · obtain ⟨item, -, same⟩ := Result.bind_eq_ok.mp read
    cases same
    omega
  · have last := rangeFrom_leaves _ _ _ _ _ read
    omega

def remaining : State ⊕ ((Span × Bool × CharSet) × Cursor) → Nat
  | .inl state => state.cursor.rest.length
  | .inr (_, stop) => stop.rest.length

theorem remaining_close (state : State) :
    remaining (close state) = state.cursor.rest.length - 1 := by
  have advanced := Cursor.advance_length state.cursor
  simp only [close]
  rcases joinOperator state.stack state.items.set with ⟨body, stack⟩
  match stack with
  | [] => exact advanced
  | [.opened _ _ _] => exact advanced
  | .opened _ _ _ :: _ :: _ => exact advanced
  | .operator _ _ :: _ => exact advanced

theorem step_leaves (verbose : Bool) (state : State)
    (result : State ⊕ ((Span × Bool × CharSet) × Cursor)) (read : step verbose state = .ok result) :
    remaining result ≤ state.cursor.rest.length := by
  have skipped := Cursor.skip_length verbose state.cursor
  have advanced := Cursor.advance_length (state.cursor.skip verbose)
  have second := Cursor.advance_length (state.cursor.skip verbose).advance
  have closed := remaining_close ⟨state.stack, state.items, state.cursor.skip verbose⟩
  dsimp only at closed
  simp only [step, Result.throw_eq_error, Result.error_bind] at read
  split_ifs at read
  · split at read
    · next named =>
      have shorter := ascii?_leaves _ _ _ named
      cases read
      exact Nat.le_of_lt (Nat.lt_of_lt_of_le shorter skipped)
    · obtain ⟨inner, opened, same⟩ := Result.bind_eq_ok.mp read
      have shorter := openBracket_leaves _ _ _ _ _ opened
      cases same
      exact Nat.le_of_lt (Nat.lt_of_lt_of_le shorter skipped)
  · cases read
    omega
  · split at read
    · cases read
      simp only [remaining]
      omega
    · obtain ⟨⟨set, stop⟩, ranged, same⟩ := Result.bind_eq_ok.mp read
      have shorter := rangeOrItem_leaves _ _ _ _ ranged
      cases same
      exact Nat.le_trans shorter skipped

theorem run_leaves (verbose : Bool) (steps : Nat) (state : State) :
    Cursor.Leaves state.cursor.rest.length (run verbose steps state) := by
  intro set stop read
  induction steps generalizing state with
  | zero => cases read
  | succ steps ih =>
    obtain ⟨result, stepped, read⟩ := Result.bind_eq_ok.mp read
    have shorter := step_leaves _ _ _ stepped
    cases result with
    | inl next => exact Nat.le_trans (ih _ read) shorter
    | inr done =>
      cases read
      exact shorter

/-- A set takes its opening bracket at least. -/
theorem read_leaves (verbose : Bool) (cursor : Cursor) :
    Cursor.Leaves (cursor.rest.length - 1) (read verbose cursor) := by
  intro set stop done
  obtain ⟨state, opened, done⟩ := Result.bind_eq_ok.mp done
  have first := openBracket_leaves _ _ _ _ _ opened
  have rest := run_leaves _ _ _ _ _ done
  omega

end FileVerdict.Regex.CharSetReader
