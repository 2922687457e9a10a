import FileVerdict.Text.Basic

/-!
JSON texts and what they stand for. The reader takes any text that the JSON grammar allows, with a
value of any kind, however deep, and refuses every other. Names may repeat in an object and keep
their order. A number is exact: no digit is lost. An escape for one half of a surrogate pair
stands for nothing and is refused.
-/

namespace FileVerdict.Text.Json

/-- What a text stands for. A number is its mantissa times that power of ten. -/
inductive Document where
  | null
  | truth (value : Bool)
  | number (mantissa exponent : Int)
  | text (value : String)
  | list (items : List Document)
  | object (members : List (String × Document))
  deriving Repr

/-- A reader takes what it knows off the front of a text, and answers with the rest as well. -/
abbrev Reader (α : Type) : Type := List Char → Option (α × List Char)

def isSpace (char : Char) : Bool := [' ', '\n', '\r', '\t'].contains char

def skip (text : List Char) : List Char := text.dropWhile isSpace

/-! Strings -/

/-- One step inside a string: a character, or the number of a UTF-16 unit. -/
inductive Piece where
  | char (char : Char)
  | unit (value : Nat)
  deriving Repr, DecidableEq

def letters : List (Char × Char) := [
  ('"', '"'), ('\\', '\\'), ('/', '/'), ('b', Char.ofNat 8), ('f', Char.ofNat 12), ('n', '\n'),
  ('r', '\r'), ('t', '\t')]

def unit? (digits : List Char) : Option Nat :=
  if digits.all fun digit => (hexDigit digit).isSome then some (hexNumber digits) else none

def before (piece : Piece) (read : Option (List Piece × List Char)) :
    Option (List Piece × List Char) :=
  read.map fun (others, rest) => (piece :: others, rest)

def pieces : Reader (List Piece)
  | [] => none
  | '"' :: rest => some ([], rest)
  | '\\' :: 'u' :: a :: b :: c :: d :: rest =>
    (unit? [a, b, c, d]).bind fun value => before (.unit value) (pieces rest)
  | '\\' :: letter :: rest =>
    (letters.lookup letter).bind fun char => before (.char char) (pieces rest)
  | char :: rest => if char.toNat < 0x20 then none else before (.char char) (pieces rest)

def scalar? (unit : Nat) : Option Char :=
  if unit.isValidChar then some (Char.ofNat unit) else none

def paired? (high low : Nat) : Option Char :=
  if 0xD800 ≤ high ∧ high < 0xDC00 ∧ 0xDC00 ≤ low ∧ low < 0xE000 then
    some (Char.ofNat (0x10000 + (high - 0xD800) * 0x400 + (low - 0xDC00)))
  else none

def characters : List Piece → Option (List Char)
  | [] => some []
  | .char char :: rest => (characters rest).map (char :: ·)
  | .unit high :: .unit low :: rest =>
    match paired? high low with
    | some char => (characters rest).map (char :: ·)
    | none => do
      let char ← scalar? high
      (characters (.unit low :: rest)).map (char :: ·)
  | .unit value :: rest => do
    let char ← scalar? value
    (characters rest).map (char :: ·)

def string : Reader String := fun text => do
  let (pieces, rest) ← pieces text
  let chars ← characters pieces
  some (String.ofList chars, rest)

/-! Numbers -/

def digits : Reader (List Char) := fun text =>
  let run := text.takeWhile Char.isDigit
  if run.isEmpty then none else some (run, text.dropWhile Char.isDigit)

def whole : Reader (List Char) := fun text => do
  let (run, rest) ← digits text
  if run.head? = some '0' ∧ run.length ≠ 1 then none
  some (run, rest)

def fraction : Reader (List Char)
  | '.' :: rest => digits rest
  | text => some ([], text)

def natural (digits : List Char) : Nat := Nat.ofDigitChars 10 digits 0

def signed (negative : Bool) (value : Nat) : Int := if negative then -value else value

def minus : List Char → Bool × List Char
  | '-' :: rest => (true, rest)
  | text => (false, text)

def power : Reader Int
  | 'e' :: rest | 'E' :: rest =>
    let (negative, rest) := match rest with
      | '+' :: rest => (false, rest)
      | rest => minus rest
    (digits rest).map fun (run, rest) => (signed negative (natural run), rest)
  | text => some (0, text)

def number : Reader Document := fun text => do
  let (negative, text) := minus text
  let (whole, text) ← whole text
  let (fraction, text) ← fraction text
  let (power, text) ← power text
  let mantissa := signed negative (natural (whole ++ fraction))
  some (.number mantissa (power - fraction.length), text)

/-! Values -/

def words : List (List Char × Document) := [
  (['n', 'u', 'l', 'l'], .null), (['t', 'r', 'u', 'e'], .truth true),
  (['f', 'a', 'l', 's', 'e'], .truth false)]

def word : Reader Document := fun text =>
  words.findSome? fun (word, meaning) =>
    if word.isPrefixOf text then some (meaning, text.drop word.length) else none

section
variable {α : Type} (item : Reader α) (close : Char)

/-- One item or more with commas between them, up to the closing mark. There can be no more of
them than `limit`. -/
def items : Nat → Reader (List α)
  | 0, _ => none
  | limit + 1, text => do
    let (first, rest) ← item text
    match skip rest with
    | [] => none
    | mark :: rest =>
      if mark = close then some ([first], rest)
      else if mark = ',' then do
        let (others, rest) ← items limit rest
        some (first :: others, rest)
      else none

def row : Reader (List α) := fun text =>
  match skip text with
  | [] => none
  | mark :: rest =>
    if mark = close then some ([], rest) else items item close text.length (mark :: rest)

end

def member (value : Reader Document) : Reader (String × Document) := fun text =>
  match skip text with
  | '"' :: rest => do
    let (name, rest) ← string rest
    match skip rest with
    | ':' :: rest => do
      let (document, rest) ← value rest
      some ((name, document), rest)
    | _ => none
  | _ => none

/-- A value that has fewer than `depth` others around it at any place. -/
def value : Nat → Reader Document
  | 0, _ => none
  | depth + 1, text =>
    match skip text with
    | '"' :: rest => (string rest).map fun (text, rest) => (.text text, rest)
    | '[' :: rest => (row (value depth) ']' rest).map fun (items, rest) => (.list items, rest)
    | '\x7b' :: rest =>
      (row (member (value depth)) '\x7d' rest).map fun (members, rest) => (.object members, rest)
    | text => (word text).or (number text)

/-- The value of a whole text, which cannot be deeper than it is long. -/
def read (text : List Char) : Option Document := do
  let (document, rest) ← value text.length text
  if (skip rest).isEmpty then some document else none

end FileVerdict.Text.Json
