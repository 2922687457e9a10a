import FileVerdict.Proofs.Text.JsonReader
import FileVerdict.Proofs.Text.Lines
import FileVerdict.Text.Encoding
import Mathlib.Data.List.Forall2

/-!
Objects that are written are read back, every name and every value in order, from a text that has
no controls in it.
-/

namespace FileVerdict.Text.Json

def Value.document : Value → Document
  | .text value => .text value
  | .truth value => .truth value
  | .count value => .number value 0

/-! Strings -/

/-- A piece of a written string with the character it was written for. Only controls are written
by their numbers, so no two units are taken for a pair. -/
inductive Stands : Piece → Char → Prop
  | char (char : Char) : Stands (.char char) char
  | control (char : Char) : char.toNat < 0x20 → Stands (.unit char.toNat) char

theorem scalar?_toNat (char : Char) : scalar? char.toNat = some char := by
  have valid : char.toNat.isValidChar := char.valid
  rw [scalar?, if_pos valid, Char.ofNat_toNat]

theorem characters_control (char : Char) (control : char.toNat < 0x20) (rest : List Piece) :
    characters (.unit char.toNat :: rest) = (characters rest).map (char :: ·) := by
  have alone : scalar? char.toNat = some char := scalar?_toNat char
  -- Only a unit that follows could make a pair, and a control is no half of one.
  rcases rest with _ | ⟨char | low, rest⟩
  · simp [characters, alone]
  · simp [characters, alone]
  · have single : paired? char.toNat low = none := by
      rw [paired?, if_neg]
      omega
    simp [characters, alone, single]

theorem characters_of_stands (pieces : List Piece) (chars : List Char)
    (stand : List.Forall₂ Stands pieces chars) : characters pieces = some chars := by
  induction stand with
  | nil => rfl
  | cons first others ih =>
    cases first with
    | char =>
      rw [characters, ih]
      rfl
    | control _ small =>
      rw [characters_control _ small, ih]
      rfl

theorem pieces_letter (letter char : Char) (known : letters.lookup letter = some char)
    (text : List Char) : pieces ('\\' :: letter :: text) = before (.char char) (pieces text) := by
  have other : letter ≠ 'u' := by
    rintro rfl
    cases known
  rw [pieces, known]
  · rfl
  · intro a b c d rest same
    exact absurd same other

theorem pieces_char (char : Char) (visible : ¬char.toNat < 0x20) (quote : char ≠ '"')
    (backslash : char ≠ '\\') (text : List Char) :
    pieces (char :: text) = before (.char char) (pieces text) := by
  rw [pieces, if_neg visible]
  · exact quote
  · intro a b c d rest same
    exact absurd same backslash
  · intro letter rest same
    exact absurd same backslash

theorem pieces_escape (char : Char) (text : List Char) :
    ∃ piece, Stands piece char ∧ pieces (escape char ++ text) = before piece (pieces text) := by
  unfold escape
  split
  case h_1 => exact ⟨_, .char _, pieces_letter '"' '"' rfl text⟩
  case h_2 => exact ⟨_, .char _, pieces_letter '\\' '\\' rfl text⟩
  case h_3 => exact ⟨_, .char _, pieces_letter 'n' '\n' rfl text⟩
  case h_4 => exact ⟨_, .char _, pieces_letter 'r' '\r' rfl text⟩
  case h_5 => exact ⟨_, .char _, pieces_letter 't' '\t' rfl text⟩
  case h_6 quote backslash _ _ _ =>
    split
    · next backspace =>
      have same : letters.lookup 'b' = some char := by
        rw [← Char.ofNat_toNat char, backspace]
        rfl
      exact ⟨_, .char _, pieces_letter 'b' char same text⟩
    split
    · next feed =>
      have same : letters.lookup 'f' = some char := by
        rw [← Char.ofNat_toNat char, feed]
        rfl
      exact ⟨_, .char _, pieces_letter 'f' char same text⟩
    split
    · next control =>
      have numbered : ∀ value < 0x20, unit? ('0' :: '0' :: hexPair 'a' value) = some value := by
        decide
      refine ⟨.unit char.toNat, .control char control, ?_⟩
      show (unit? ('0' :: '0' :: hexPair 'a' char.toNat)).bind _ = _
      rw [numbered char.toNat control]
      rfl
    · next visible => exact ⟨_, .char _, pieces_char char visible quote backslash text⟩

theorem pieces_escaped (chars behind : List Char) :
    ∃ read, List.Forall₂ Stands read chars ∧
      pieces (chars.flatMap escape ++ '"' :: behind) = some (read, behind) := by
  induction chars with
  | nil => exact ⟨[], .nil, rfl⟩
  | cons char chars ih =>
    obtain ⟨others, stand, read⟩ := ih
    obtain ⟨piece, first, step⟩ := pieces_escape char (chars.flatMap escape ++ '"' :: behind)
    refine ⟨piece :: others, .cons first stand, ?_⟩
    rw [List.flatMap_cons, List.append_assoc, step, read]
    rfl

theorem string_escaped (text : String) (behind : List Char) :
    string (text.toList.flatMap escape ++ '"' :: behind) = some (text, behind) := by
  obtain ⟨read, stand, pieces⟩ := pieces_escaped text.toList behind
  have chars := characters_of_stands read text.toList stand
  simp only [string, pieces, chars, Option.bind_eq_bind, Option.bind_some, String.ofList_toList]

/-! Numbers -/

theorem head?_toDigits (count : Nat) (positive : 0 < count) :
    (Nat.toDigits 10 count).head? ≠ some '0' := by
  induction count using Nat.strongRecOn with
  | ind count ih =>
    rw [Nat.toDigits_eq_if (by decide)]
    split
    · next small =>
      have digits : ∀ digit < 10, 0 < digit → [digit.digitChar].head? ≠ some '0' := by decide
      exact digits count small positive
    · rw [List.head?_append, Option.or_of_isSome (by simp [Nat.toDigits_ne_nil])]
      apply ih
      · omega
      · omega

def Ends (mark : Char) : Prop := mark = ',' ∨ mark = '\x7d'

theorem digits_toDigits (count : Nat) (mark : Char) (ends : Ends mark) (rest : List Char) :
    digits (Nat.toDigits 10 count ++ mark :: rest) =
      some (Nat.toDigits 10 count, mark :: rest) := by
  have all : ∀ char ∈ Nat.toDigits 10 count, char.isDigit = true :=
    fun char => Nat.isDigit_of_mem_toDigits (by decide) (by decide)
  have stop : mark.isDigit = false := by
    obtain rfl | rfl := ends
    · rfl
    · rfl
  rw [digits, List.takeWhile_append_of_pos all, List.dropWhile_append_of_pos all,
    List.takeWhile_cons, List.dropWhile_cons, stop]
  simp [Nat.toDigits_ne_nil]

theorem whole_toDigits (count : Nat) (mark : Char) (ends : Ends mark) (rest : List Char) :
    whole (Nat.toDigits 10 count ++ mark :: rest) =
      some (Nat.toDigits 10 count, mark :: rest) := by
  have short : ¬((Nat.toDigits 10 count).head? = some '0' ∧ (Nat.toDigits 10 count).length ≠ 1) := by
    rintro ⟨zero, long⟩
    obtain rfl | positive := Nat.eq_zero_or_pos count
    · exact long rfl
    · exact head?_toDigits count positive zero
  simp only [whole, digits_toDigits count mark ends rest, Option.bind_eq_bind, Option.bind_some,
    if_neg short]

/-- The first digit of a number, in the text that goes on behind it. -/
theorem exists_toDigits (count : Nat) (behind : List Char) :
    ∃ first others, Nat.toDigits 10 count ++ behind = first :: others ∧ first.isDigit = true := by
  obtain ⟨first, others, same⟩ :=
    List.exists_cons_of_ne_nil (Nat.toDigits_ne_nil (n := count) (b := 10))
  refine ⟨first, others ++ behind, by rw [same, List.cons_append], ?_⟩
  apply Nat.isDigit_of_mem_toDigits (b := 10) (n := count) (by decide) (by decide)
  rw [same]
  exact List.mem_cons_self

theorem minus_of_isDigit (first : Char) (digit : first.isDigit = true) (others : List Char) :
    minus (first :: others) = (false, first :: others) := by
  rw [minus]
  intro rest same
  cases same
  cases digit

theorem number_toDigits (count : Nat) (mark : Char) (ends : Ends mark) (rest : List Char) :
    number (Nat.toDigits 10 count ++ mark :: rest) = some (.number count 0, mark :: rest) := by
  have unsigned : minus (Nat.toDigits 10 count ++ mark :: rest) =
      (false, Nat.toDigits 10 count ++ mark :: rest) := by
    obtain ⟨first, others, same, digit⟩ := exists_toDigits count (mark :: rest)
    rw [same, minus_of_isDigit first digit others]
  have run := whole_toDigits count mark ends rest
  have part : fraction (mark :: rest) = some ([], mark :: rest) := by
    obtain rfl | rfl := ends
    · rfl
    · rfl
  have plain : power (mark :: rest) = some (0, mark :: rest) := by
    obtain rfl | rfl := ends
    · rfl
    · rfl
  have exactly : natural (Nat.toDigits 10 count ++ []) = count := by
    rw [List.append_nil]
    exact Nat.ofDigitChars_ten_toDigits
  simp only [number, unsigned, run, part, plain, exactly, Option.bind_eq_bind, Option.bind_some]
  rfl

/-! Values -/

theorem skip_of_not_isSpace (char : Char) (solid : isSpace char = false) (text : List Char) :
    skip (char :: text) = char :: text := by
  rw [skip, List.dropWhile_cons, solid]
  rfl

/-- What does not open a string, a list or an object is a word or a number. -/
theorem value_of_plain (depth : Nat) (first : Char) (solid : isSpace first = false)
    (plain : first ∉ ['"', '[', '\x7b']) (text : List Char) :
    value (depth + 1) (first :: text) = (word (first :: text)).or (number (first :: text)) := by
  simp only [List.mem_cons, List.not_mem_nil, or_false, not_or] at plain
  obtain ⟨quote, bracket, brace⟩ := plain
  rw [value, skip_of_not_isSpace first solid]
  split
  · next same => exact absurd (List.cons.inj same).1 quote
  · next same => exact absurd (List.cons.inj same).1 bracket
  · next same => exact absurd (List.cons.inj same).1 brace
  · rfl

theorem not_mem_of_isDigit (first : Char) (digit : first.isDigit = true) (marks : List Char)
    (others : marks.any Char.isDigit = false) : first ∉ marks := by
  intro member
  rw [List.any_eq_false] at others
  exact others first member digit

theorem word_of_isDigit (first : Char) (digit : first.isDigit = true) (text : List Char) :
    word (first :: text) = none := by
  have other := not_mem_of_isDigit first digit ['n', 't', 'f'] (by decide)
  simp only [List.mem_cons, List.not_mem_nil, or_false, not_or] at other
  simp [word, words, Ne.symm other.1, Ne.symm other.2.1, Ne.symm other.2.2]

theorem value_toDigits (depth count : Nat) (mark : Char) (ends : Ends mark) (rest : List Char) :
    value (depth + 1) (Nat.toDigits 10 count ++ mark :: rest) =
      some (.number count 0, mark :: rest) := by
  rw [← number_toDigits count mark ends rest]
  obtain ⟨first, others, same, digit⟩ := exists_toDigits count (mark :: rest)
  have solid : isSpace first = false := by
    rw [isSpace, List.contains_eq_mem, decide_eq_false_iff_not]
    exact not_mem_of_isDigit first digit _ (by decide)
  have plain := not_mem_of_isDigit first digit ['"', '[', '\x7b'] (by decide)
  rw [same, value_of_plain depth first solid plain, word_of_isDigit first digit]
  rfl

theorem value_write (depth : Nat) (written : Value) (mark : Char) (ends : Ends mark)
    (rest : List Char) :
    value (depth + 1) (written.write ++ mark :: rest) = some (written.document, mark :: rest) := by
  cases written with
  | text text =>
    show value (depth + 1) (quote text ++ mark :: rest) = _
    rw [quote, List.cons_append, List.append_assoc]
    show ((string (text.toList.flatMap escape ++ '"' :: mark :: rest)).map _ : Option _) = _
    rw [string_escaped]
    rfl
  | truth holds =>
    cases holds with
    | true => rfl
    | false => rfl
  | count count => exact value_toDigits depth count mark ends rest

theorem member_write (depth : Nat) (written : String × Value) (mark : Char) (ends : Ends mark)
    (rest : List Char) :
    member (value (depth + 1)) (writeMember written ++ mark :: rest) =
      some ((written.1, written.2.document), mark :: rest) := by
  have name := string_escaped written.1 (':' :: (written.2.write ++ mark :: rest))
  have content := value_write depth written.2 mark ends rest
  have spelled : writeMember written ++ mark :: rest =
      '"' :: (written.1.toList.flatMap escape ++ '"' :: ':' :: (written.2.write ++ mark :: rest)) := by
    simp [writeMember, quote]
  rw [spelled, member, skip_of_not_isSpace '"' rfl]
  simp only [name, Option.bind_eq_bind, Option.bind_some, skip_of_not_isSpace ':' rfl, content]

def documents (members : List (String × Value)) : List (String × Document) :=
  members.map fun (name, written) => (name, written.document)

/-- Each member takes one of the steps that the limit allows. -/
theorem items_write (depth : Nat) (first : String × Value) (others : List (String × Value))
    (rest : List Char) (limit : Nat) (enough : others.length < limit) :
    items (member (value (depth + 1))) '\x7d' limit
        ([','].intercalate ((first :: others).map writeMember) ++ '\x7d' :: rest) =
      some (documents (first :: others), rest) := by
  induction others generalizing first limit with
  | nil =>
    obtain ⟨limit, rfl⟩ := Nat.exists_eq_succ_of_ne_zero (Nat.ne_of_gt enough)
    have read := member_write depth first '\x7d' (.inr rfl) rest
    rw [List.map_singleton, List.intercalate_singleton, items, read]
    rfl
  | cons second others ih =>
    obtain ⟨limit, rfl⟩ := Nat.exists_eq_succ_of_ne_zero (Nat.ne_of_gt (Nat.zero_lt_of_lt enough))
    have later := ih second limit (by simpa using enough)
    rw [List.map_cons, List.intercalate_cons_of_ne_nil (by simp), List.append_assoc,
      List.append_assoc, List.singleton_append, items, member_write depth first ',' (.inl rfl)]
    show ((items _ _ limit _).bind _ : Option _) = _
    rw [later]
    rfl

theorem row_write (depth : Nat) (members : List (String × Value)) (rest : List Char) :
    row (member (value (depth + 1))) '\x7d'
        ([','].intercalate (members.map writeMember) ++ '\x7d' :: rest) =
      some (documents members, rest) := by
  cases members with
  | nil => rfl
  | cons first others =>
    have enough : others.length <
        ([','].intercalate ((first :: others).map writeMember) ++ '\x7d' :: rest).length := by
      have pieces := length_le_intercalate ',' ((first :: others).map writeMember)
      rw [List.length_map, List.length_cons] at pieces
      rw [List.length_append, List.length_cons]
      omega
    have read := items_write depth first others rest _ enough
    have opened : ∃ text, [','].intercalate ((first :: others).map writeMember) ++ '\x7d' :: rest =
        '"' :: text := by
      cases others with
      | nil => simp [writeMember, quote]
      | cons second others => simp [writeMember, quote, List.intercalate_cons_of_ne_nil]
    obtain ⟨text, same⟩ := opened
    rw [same] at read ⊢
    rw [row, skip_of_not_isSpace '"' rfl]
    exact read

/-- A written object is read back whole. -/
theorem read_writeObject (members : List (String × Value)) :
    read (writeObject members) = some (.object (documents members)) := by
  have written : writeObject members =
      '\x7b' :: ([','].intercalate (members.map writeMember) ++ '\x7d' :: []) := rfl
  have long : ∃ depth, (writeObject members).length = depth + 2 := by
    rw [written, List.length_cons, List.length_append]
    exact ⟨_, rfl⟩
  obtain ⟨depth, length⟩ := long
  have object : value (depth + 2) (writeObject members) = some (.object (documents members), []) := by
    rw [written, value, skip_of_not_isSpace '\x7b' rfl]
    show ((row _ _ _).map _ : Option _) = _
    rw [row_write]
    rfl
  rw [read, length, object]
  rfl

/-! No controls -/

theorem printable_escape (char : Char) : Printable (escape char) := by
  unfold escape
  split
  case h_6 =>
    split
    · decide
    split
    · decide
    split
    · next control =>
      have pairs : ∀ value < 0x20, Printable (['\\', 'u', '0', '0'] ++ hexPair 'a' value) := by
        decide
      exact pairs char.toNat control
    · next visible =>
      intro other member
      rw [List.mem_singleton.mp member]
      omega
  all_goals decide

theorem printable_quote (text : String) : Printable (quote text) := by
  have escaped : Printable (text.toList.flatMap escape) := by
    intro char member
    obtain ⟨inner, -, inside⟩ := List.mem_flatMap.mp member
    exact printable_escape inner char inside
  have mark : Printable ['"'] := by decide
  exact mark.append (escaped.append mark)

theorem printable_toDigits (count : Nat) : Printable (Nat.toDigits 10 count) := by
  intro char member
  have digit : char.isDigit = true :=
    Nat.isDigit_of_mem_toDigits (by decide) (by decide) member
  calc
    0x20 ≤ '0'.toNat := by decide
    _ ≤ char.toNat := (Char.isDigit_iff_toNat.mp digit).1

theorem printable_write (written : Value) : Printable written.write := by
  cases written with
  | text text => exact printable_quote text
  | truth holds =>
    cases holds with
    | true => decide
    | false => decide
  | count count => exact printable_toDigits count

theorem printable_writeMember (member : String × Value) : Printable (writeMember member) := by
  have colon : Printable [':'] := by decide
  exact (printable_quote member.1).append (colon.append (printable_write member.2))

theorem printable_writeObject (members : List (String × Value)) :
    Printable (writeObject members) := by
  have inner : Printable ([','].intercalate (members.map writeMember)) := by
    apply printable_intercalate
    · decide
    · rw [List.forall_mem_map]
      exact fun member _ => printable_writeMember member
  have opening : Printable ['\x7b'] := by decide
  have closing : Printable ['\x7d'] := by decide
  exact opening.append (inner.append closing)

end FileVerdict.Text.Json
