import FileVerdict.Text.Basic

/-!
What can be wrong with a pattern, where, and how it is told. Positions count the characters before
them. A fault is shown under the pattern with carets below the place, and where the pattern has
several lines, under the line that it is on.
-/

namespace FileVerdict.Regex
open FileVerdict.Text

/-- The characters from `start` up to, and without, the one at `stop`. -/
structure Span where
  start : Nat
  stop : Nat
  deriving Repr, DecidableEq

namespace Span

def point (place : Nat) : Span := ⟨place, place⟩

def one (place : Nat) : Span := ⟨place, place + 1⟩

def shift (offset : Nat) (span : Span) : Span := ⟨span.start + offset, span.stop + offset⟩

end Span

inductive Cause where
  | classEscapeInvalid
  | classRangeInvalid
  | classRangeNotLiteral
  | classUnclosed
  | decimalInvalid
  | hexEmpty
  | hexInvalid
  | hexDigitInvalid
  | escapeUnfinished
  | escapeUnknown
  | flagNegationDangling
  | flagDuplicate
  | flagNegationRepeated
  | flagMissing
  | flagUnknown
  | nameDuplicate
  | nameEmpty
  | nameInvalid
  | nameUnclosed
  | groupUnclosed
  | groupUnopened
  | nestedTooDeep (limit : Nat)
  | countInvalid
  | countMissing
  | countUnclosed
  | repetitionMissing
  | boundaryUnclosed
  | boundaryUnknown
  | boundaryUnfinished
  | propertyInvalid
  | backreference
  | lookAround
  | unicodeNotAllowed
  | invalidUtf8
  | propertyUnknown
  | propertyValueUnknown
  deriving Repr, DecidableEq

def Cause.message : Cause → String
  | .classEscapeInvalid => "invalid escape sequence found in character class"
  | .classRangeInvalid => "invalid character class range, the start must be <= the end"
  | .classRangeNotLiteral => "invalid range boundary, must be a literal"
  | .classUnclosed => "unclosed character class"
  | .decimalInvalid => "decimal literal invalid"
  | .hexEmpty => "hexadecimal literal empty"
  | .hexInvalid => "hexadecimal literal is not a Unicode scalar value"
  | .hexDigitInvalid => "invalid hexadecimal digit"
  | .escapeUnfinished => "incomplete escape sequence, reached end of pattern prematurely"
  | .escapeUnknown => "unrecognized escape sequence"
  | .flagNegationDangling => "dangling flag negation operator"
  | .flagDuplicate => "duplicate flag"
  | .flagNegationRepeated => "flag negation operator repeated"
  | .flagMissing => "expected flag but got end of regex"
  | .flagUnknown => "unrecognized flag"
  | .nameDuplicate => "duplicate capture group name"
  | .nameEmpty => "empty capture group name"
  | .nameInvalid => "invalid capture group character"
  | .nameUnclosed => "unclosed capture group name"
  | .groupUnclosed => "unclosed group"
  | .groupUnopened => "unopened group"
  | .nestedTooDeep limit =>
    "exceed the maximum number of nested parentheses/brackets (" ++ toString limit ++ ")"
  | .countInvalid => "invalid repetition count range, the start must be <= the end"
  | .countMissing => "repetition quantifier expects a valid decimal"
  | .countUnclosed => "unclosed counted repetition"
  | .repetitionMissing => "repetition operator missing expression"
  | .boundaryUnclosed =>
    "special word boundary assertion is either unclosed or contains an invalid character"
  | .boundaryUnknown =>
    "unrecognized special word boundary assertion, valid choices are: " ++
      "start, end, start-half or end-half"
  | .boundaryUnfinished =>
    "found either the beginning of a special word boundary or a bounded repetition on a \\b " ++
      "with an opening brace, but no closing brace"
  | .propertyInvalid => "invalid Unicode character class"
  | .backreference => "backreferences are not supported"
  | .lookAround => "look-around, including look-ahead and look-behind, is not supported"
  | .unicodeNotAllowed => "Unicode not allowed here"
  | .invalidUtf8 => "pattern can match invalid UTF-8"
  | .propertyUnknown => "Unicode property not found"
  | .propertyValueUnknown => "Unicode property value not found"

/-- `first` is the place of what a fault repeats, such as a name given twice. -/
structure Fault where
  cause : Cause
  span : Span
  first : Option Span
  deriving Repr, DecidableEq

namespace Fault

def of (cause : Cause) (span : Span) : Fault := ⟨cause, span, none⟩

def shift (offset : Nat) (fault : Fault) : Fault :=
  { fault with span := fault.span.shift offset, first := fault.first.map (Span.shift offset) }

def spans (fault : Fault) : List Span :=
  match fault.first with
  | none => [fault.span]
  | some first =>
    if first.start ≤ fault.span.start then [first, fault.span] else [fault.span, first]

/-- The line and the column of a place, both counted from one. -/
def lineAndColumn (pattern : List Char) (place : Nat) : Nat × Nat :=
  let before := split '\n' (pattern.take place)
  (before.length, (before.getLast?.getD []).length + 1)

/-- Carets below the columns of the spans. An empty span gets one caret too. -/
def carets (pattern : List Char) (column : Nat) : List Span → List Char
  | [] => []
  | span :: spans =>
    let start := (lineAndColumn pattern span.start).2
    let width := max 1 ((lineAndColumn pattern span.stop).2 - start)
    List.replicate (start - column) ' ' ++ List.replicate width '^' ++
      carets pattern (max column start + width) spans

def isOnOneLine (pattern : List Char) (span : Span) : Bool :=
  (lineAndColumn pattern span.start).1 == (lineAndColumn pattern span.stop).1

/-- Room for the widest line number; a pattern of one line has no numbers. -/
def numberWidth (pattern : List Char) : Nat :=
  let count := (lines pattern).length + if pattern.getLast? = some '\n' then 1 else 0
  if count ≤ 1 then 0 else (toString count).length

def margin (width number : Nat) : List Char :=
  if width = 0 then List.replicate 4 ' '
  else
    let digits := Nat.toDigits 10 number
    List.replicate (width - digits.length) ' ' ++ digits ++ [':', ' ']

def notated (pattern : List Char) (spans : List Span) : List Char :=
  let width := numberWidth pattern
  let numbered := (lines pattern).zipIdx 1
  numbered.flatMap fun (line, number) =>
    let marked := spans.filter fun span =>
      isOnOneLine pattern span && (lineAndColumn pattern span.start).1 == number
    margin width number ++ line ++ ['\n'] ++
      if marked.isEmpty then []
      else List.replicate (margin width number).length ' ' ++ carets pattern 1 marked ++ ['\n']

def overlong (pattern : List Char) (spans : List Span) : List Char :=
  let notes := (spans.filter fun span => !isOnOneLine pattern span).map fun span =>
    let (startLine, startColumn) := lineAndColumn pattern span.start
    let (stopLine, stopColumn) := lineAndColumn pattern span.stop
    ("on line " ++ toString startLine ++ " (column " ++ toString startColumn ++
      ") through line " ++ toString stopLine ++ " (column " ++ toString (stopColumn - 1) ++
      ")\n").toList
  notes.flatten

def render (pattern : List Char) (fault : Fault) : String :=
  let shown := notated pattern fault.spans
  let body :=
    if pattern.contains '\n' then
      let divider := List.replicate 79 '~' ++ ['\n']
      divider ++ shown ++ divider ++ overlong pattern fault.spans
    else shown
  "regex parse error:\n" ++ String.ofList body ++ "error: " ++ fault.cause.message

end Fault

end FileVerdict.Regex
