import FileVerdict.Regex.Cursor
import FileVerdict.Regex.Syntax
import FileVerdict.Text.Basic

/-!
What a backslash begins: a character that would mean something without it, a character by its
number, a class of characters, a property, or a place in the text. A letter or a digit that is not
listed here is refused, so that it stays free.
-/

namespace FileVerdict.Regex.Escape
open FileVerdict.Text

abbrev Reading := Except Fault ((Span × Leaf) × Cursor)

/-- Every mark of ASCII may be escaped, except for the two that stand for ends of words. -/
def isEscapable (char : Char) : Bool :=
  char.toNat < 128 && !char.isAlphanum && char != '<' && char != '>'

def scalar? (value : Nat) : Option Char :=
  if value.isValidChar then some (Char.ofNat value) else none

def hexDigits (verbose : Bool) (value : Nat) (cursor : Cursor) :
    Nat → Except Fault (Nat × Cursor)
  | 0 => .ok (value, cursor)
  | count + 1 =>
    match cursor.rest with
    | [] => .error (.of .escapeUnfinished cursor.here)
    | char :: _ =>
      match hexDigit char with
      | none => .error (.of .hexDigitInvalid cursor.char)
      | some digit =>
        let value := value * 16 + digit
        if count = 0 then .ok (value, cursor.advance)
        else hexDigits verbose value (cursor.advance.skip verbose) count

def fixedHex (verbose : Bool) (start : Nat) (cursor : Cursor) (count : Nat) : Reading := do
  let (value, stop) ← hexDigits verbose 0 cursor count
  let last := (stop.skip verbose).index
  match scalar? value with
  | none => .error (.of .hexInvalid ⟨cursor.index, last⟩)
  | some char => .ok ((⟨start, last⟩, .literal char (count == 2)), stop)

def bracedHex (verbose : Bool) (start : Nat) (cursor : Cursor) : Reading :=
  let (digits, brace) := cursor.advance.collectFrom verbose fun char => char != '}'
  match digits.find? fun digit => (hexDigit digit.2).isNone with
  | some (index, _) => .error (.of .hexDigitInvalid (Span.one index))
  | none =>
    if brace.rest.isEmpty then .error (.of .escapeUnfinished ⟨cursor.index, brace.index⟩)
    else
      let last := (brace.advance.skip verbose).index
      if digits.isEmpty then .error (.of .hexEmpty ⟨cursor.index, last⟩)
      else match scalar? (hexNumber (digits.map Prod.snd)) with
        | none => .error (.of .hexInvalid ⟨cursor.index + 1, brace.index⟩)
        | some char => .ok ((⟨start, last⟩, .literal char false), brace.advance)

def hex (verbose : Bool) (start : Nat) (letter : Char) (cursor : Cursor) : Reading :=
  let cursor := cursor.advance.skip verbose
  match cursor.rest with
  | [] => .error (.of .escapeUnfinished cursor.here)
  | '\x7b' :: _ => bracedHex verbose start cursor
  | _ => fixedHex verbose start cursor (if letter = 'x' then 2 else if letter = 'u' then 4 else 8)

def cutAt (mark : List Char) : List Char → Option (List Char × List Char)
  | [] => none
  | char :: rest =>
    if mark.isPrefixOf (char :: rest) then some ([], (char :: rest).drop mark.length)
    else (cutAt mark rest).map fun (before, after) => (char :: before, after)

/-- A value stands behind `!=`, `:` or `=`, which all say the same. -/
def queryOf (name : List Char) : PropertyQuery :=
  match (cutAt ['!', '='] name).or ((cutAt [':'] name).or (cutAt ['='] name)) with
  | some (property, value) => .valued property value
  | none => .named name

def property (verbose : Bool) (start : Nat) (negated : Bool) (cursor : Cursor) : Reading :=
  let cursor := cursor.advance.skip verbose
  match cursor.rest with
  | [] => .error (.of .escapeUnfinished cursor.here)
  | '\x7b' :: _ =>
    let (name, brace) := cursor.advance.collectFrom verbose fun char => char != '}'
    if brace.rest.isEmpty then .error (.of .escapeUnfinished brace.here)
    else
      let stop := brace.advance
      .ok ((⟨start, stop.index⟩, .property (queryOf (name.map Prod.snd)) negated), stop)
  | '\\' :: _ => .error (.of .propertyInvalid cursor.char)
  | char :: _ =>
    let stop := cursor.advance
    .ok ((⟨start, (stop.skip verbose).index⟩, .property (.named [char]) negated), stop)

def isBoundaryLetter (char : Char) : Bool := char.isAlpha || char = '-'

/-- A word boundary, which may say in braces which side of a word it means. Braces that begin
otherwise count repetitions. -/
def boundary (verbose : Bool) (start : Nat) (cursor : Cursor) : Reading :=
  let plain : Reading := .ok ((⟨start, cursor.index⟩, .assertion .wordBoundary), cursor)
  match cursor.rest with
  | '\x7b' :: _ =>
    let inside := cursor.advance.skip verbose
    match inside.rest with
    | [] => .error (.of .boundaryUnfinished ⟨start, inside.index⟩)
    | char :: _ =>
      if !isBoundaryLetter char then plain
      else
        let (name, brace) := inside.collectFrom verbose isBoundaryLetter
        let stop := brace.advance
        let special (kind : Assertion) : Reading :=
          .ok ((⟨start, stop.index⟩, .assertion kind), stop)
        if brace.rest.head? = some '\x7d' then
          match String.ofList (name.map Prod.snd) with
          | "start" => special .wordStart
          | "end" => special .wordEnd
          | "start-half" => special .wordStartHalf
          | "end-half" => special .wordEndHalf
          | _ => .error (.of .boundaryUnknown ⟨inside.index, brace.index⟩)
        else .error (.of .boundaryUnclosed ⟨cursor.index, brace.index⟩)
  | _ => plain

def control? : Char → Option Char
  | 'a' => some '\x07'
  | 'f' => some '\x0c'
  | 't' => some '\t'
  | 'n' => some '\n'
  | 'r' => some '\r'
  | 'v' => some '\x0b'
  | _ => none

def assertion? : Char → Option Assertion
  | 'A' => some .textStart
  | 'z' => some .textEnd
  | 'B' => some .notWordBoundary
  | '<' => some .wordStart
  | '>' => some .wordEnd
  | _ => none

def perl? : Char → Option (PerlClass × Bool)
  | 'd' => some (.digit, false)
  | 's' => some (.space, false)
  | 'w' => some (.word, false)
  | 'D' => some (.digit, true)
  | 'S' => some (.space, true)
  | 'W' => some (.word, true)
  | _ => none

def read (verbose : Bool) (cursor : Cursor) : Reading :=
  let start := cursor.index
  let letter := cursor.advance
  match letter.rest with
  | [] => .error (.of .escapeUnfinished ⟨start, letter.index⟩)
  | char :: _ =>
    let stop := letter.advance
    let span : Span := ⟨start, stop.index⟩
    if char.isDigit then .error (.of .backreference span)
    else if char = 'x' ∨ char = 'u' ∨ char = 'U' then hex verbose start char letter
    else if char = 'p' ∨ char = 'P' then property verbose start (char == 'P') letter
    else if char = 'b' then boundary verbose start stop
    else if isEscapable char then .ok ((span, .literal char false), stop)
    else match perl? char, control? char, assertion? char with
      | some (kind, negated), _, _ => .ok ((span, .perl kind negated), stop)
      | _, some control, _ => .ok ((span, .literal control false), stop)
      | _, _, some kind => .ok ((span, .assertion kind), stop)
      | _, _, _ => .error (.of .escapeUnknown span)

end FileVerdict.Regex.Escape
