/-!
Texts and their characters. A text is cut at separators, and into lines in two ways: `split` keeps
whatever stands between two newlines, while `lines` also takes a carriage return before a newline
as part of the line end and gives no line for what follows the last newline if that is nothing.
Blanks are the twenty-five characters with the property White_Space; a zero-width space and a byte
order mark are not among them. Decimal digits are those of every script, hexadecimal ones the ASCII
digits and letters, in either case.
-/

namespace FileVerdict.Text

/-- The pieces between the items that `cuts` selects: always one more than there are of those. -/
def splitWhere {α : Type} (cuts : α → Bool) (text : List α) : List (List α) :=
  text.foldr
    (fun item pieces =>
      if cuts item then [] :: pieces
      else match pieces with
        | [] => [[item]]
        | piece :: others => (item :: piece) :: others)
    [[]]

def split {α : Type} [DecidableEq α] (separator : α) (text : List α) : List (List α) :=
  splitWhere (fun item => decide (item = separator)) text

def dropReturn (line : List Char) : List Char :=
  if line.getLast? = some '\r' then line.dropLast else line

def lines (text : List Char) : List (List Char) :=
  match (split '\n' text).reverse with
  | [] => []
  | last :: ended =>
    let ended := ended.reverse.map dropReturn
    if last.isEmpty then ended else ended ++ [last]

/-! Sets of characters as ranges of code points, and labels as runs of them -/

def covers (ranges : List (Nat × Nat)) (code : Nat) : Bool :=
  ranges.any fun range => decide (range.1 ≤ code) && decide (code ≤ range.2)

/-- The label of the last run that starts no later than `code`. The runs ascend. -/
def labelOf (code : Nat) (held : Option String) : List (Nat × String) → Option String
  | [] => held
  | (first, label) :: runs => if first ≤ code then labelOf code (some label) runs else held

/-! Blanks -/

def blanks : List (Nat × Nat) := [
  (0x9, 0xD), (0x20, 0x20), (0x85, 0x85), (0xA0, 0xA0), (0x1680, 0x1680), (0x2000, 0x200A),
  (0x2028, 0x2029), (0x202F, 0x202F), (0x205F, 0x205F), (0x3000, 0x3000)]

def isBlank (char : Char) : Bool := covers blanks char.toNat

def trim (text : List Char) : List Char :=
  ((text.dropWhile isBlank).reverse.dropWhile isBlank).reverse

def words (text : List Char) : List (List Char) :=
  (splitWhere isBlank text).filter fun word => !word.isEmpty

/-! Digits -/

/-- Ten characters in a row for each set of digits. -/
def decimalDigits : List (Nat × Nat) := [
  (0x30, 0x39), (0x660, 0x669), (0x6F0, 0x6F9), (0x7C0, 0x7C9), (0x966, 0x96F), (0x9E6, 0x9EF),
  (0xA66, 0xA6F), (0xAE6, 0xAEF), (0xB66, 0xB6F), (0xBE6, 0xBEF), (0xC66, 0xC6F), (0xCE6, 0xCEF),
  (0xD66, 0xD6F), (0xDE6, 0xDEF), (0xE50, 0xE59), (0xED0, 0xED9), (0xF20, 0xF29),
  (0x1040, 0x1049), (0x1090, 0x1099), (0x17E0, 0x17E9), (0x1810, 0x1819), (0x1946, 0x194F),
  (0x19D0, 0x19D9), (0x1A80, 0x1A89), (0x1A90, 0x1A99), (0x1B50, 0x1B59), (0x1BB0, 0x1BB9),
  (0x1C40, 0x1C49), (0x1C50, 0x1C59), (0xA620, 0xA629), (0xA8D0, 0xA8D9), (0xA900, 0xA909),
  (0xA9D0, 0xA9D9), (0xA9F0, 0xA9F9), (0xAA50, 0xAA59), (0xABF0, 0xABF9), (0xFF10, 0xFF19),
  (0x104A0, 0x104A9), (0x10D30, 0x10D39), (0x10D40, 0x10D49), (0x11066, 0x1106F),
  (0x110F0, 0x110F9), (0x11136, 0x1113F), (0x111D0, 0x111D9), (0x112F0, 0x112F9),
  (0x11450, 0x11459), (0x114D0, 0x114D9), (0x11650, 0x11659), (0x116C0, 0x116C9),
  (0x116D0, 0x116E3), (0x11730, 0x11739), (0x118E0, 0x118E9), (0x11950, 0x11959),
  (0x11BF0, 0x11BF9), (0x11C50, 0x11C59), (0x11D50, 0x11D59), (0x11DA0, 0x11DA9),
  (0x11DE0, 0x11DE9), (0x11F50, 0x11F59), (0x16130, 0x16139), (0x16A60, 0x16A69),
  (0x16AC0, 0x16AC9), (0x16B50, 0x16B59), (0x16D70, 0x16D79), (0x1CCF0, 0x1CCF9),
  (0x1D7CE, 0x1D7FF), (0x1E140, 0x1E149), (0x1E2F0, 0x1E2F9), (0x1E4F0, 0x1E4F9),
  (0x1E5F1, 0x1E5FA), (0x1E950, 0x1E959), (0x1FBF0, 0x1FBF9)]

def isDigit (char : Char) : Bool := covers decimalDigits char.toNat

def hexDigit (char : Char) : Option Nat :=
  if '0' ≤ char ∧ char ≤ '9' then some (char.toNat - '0'.toNat)
  else if 'A' ≤ char ∧ char ≤ 'F' then some (char.toNat - 'A'.toNat + 10)
  else if 'a' ≤ char ∧ char ≤ 'f' then some (char.toNat - 'a'.toNat + 10)
  else none

/-- The number that hexadecimal digits write; other characters count as zero. -/
def hexNumber (digits : List Char) : Nat :=
  digits.foldl (fun value digit => value * 16 + (hexDigit digit).getD 0) 0

/-- The digit for a value below sixteen, where `ten` is the one for ten. -/
def hexLetter (ten : Char) (value : Nat) : Char :=
  if value < 10 then Char.ofNat ('0'.toNat + value) else Char.ofNat (ten.toNat + (value - 10))

def hexPair (ten : Char) (value : Nat) : List Char :=
  [hexLetter ten (value / 16), hexLetter ten (value % 16)]

end FileVerdict.Text
