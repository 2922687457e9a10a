import FileVerdict.Regex.Expr

/-!
The meaning of a pattern as it is written. The flags in force are carried from left to right and
given back at the end of a group. Outside Unicode a pattern is about bytes, and as it is matched
against text it must not match half a character: so there no class may be a complement, and no
byte over 127 may be named.
-/

namespace FileVerdict.Regex
open FileVerdict.Text

structure Modes where
  ignoreCase : Bool
  multiLine : Bool
  dotAll : Bool
  unicode : Bool
  crlf : Bool
  deriving Repr, DecidableEq

namespace Modes

def initial : Modes := ⟨false, false, false, true, false⟩

def set (modes : Modes) (items : List FlagItem) : Modes where
  ignoreCase := (flagState .ignoreCase false items).getD modes.ignoreCase
  multiLine := (flagState .multiLine false items).getD modes.multiLine
  dotAll := (flagState .dotAll false items).getD modes.dotAll
  unicode := (flagState .unicode false items).getD modes.unicode
  crlf := (flagState .crlf false items).getD modes.crlf

end Modes

abbrev Meaning (α : Type) := Except Fault α

def refused {α : Type} (cause : Cause) (span : Span) : Meaning α := .error (.of cause span)

/-- The character of a literal; outside Unicode two hexadecimal digits must name an ASCII one. -/
def literalChar (modes : Modes) (span : Span) (char : Char) (isByte : Bool) : Meaning Char :=
  if !modes.unicode && isByte && 128 ≤ char.toNat then refused .invalidUtf8 span else .ok char

/-- A literal in a set; outside Unicode such a set holds ASCII characters only. -/
def memberChar (modes : Modes) (span : Span) (char : Char) (isByte : Bool) : Meaning Char := do
  let char ← literalChar modes span char isByte
  if !modes.unicode && 128 ≤ char.toNat then refused .unicodeNotAllowed span else return char

def caseless (modes : Modes) (chars : CharClass) : CharClass :=
  if !modes.ignoreCase then chars
  else if modes.unicode then .ignoringCase chars
  else .ignoringAsciiCase chars

def signed (modes : Modes) (span : Span) (negated : Bool) (chars : CharClass) :
    Meaning CharClass :=
  if !negated then .ok chars
  else if modes.unicode then .ok (.complement chars)
  else refused .invalidUtf8 span

def asciiClass : AsciiClass → CharClass
  | .alnum => .ofRanges [('0', '9'), ('A', 'Z'), ('a', 'z')]
  | .alpha => .ofRanges [('A', 'Z'), ('a', 'z')]
  | .ascii => .range '\x00' '\x7f'
  | .blank => .ofChars ['\t', ' ']
  | .cntrl => .ofRanges [('\x00', '\x1f'), ('\x7f', '\x7f')]
  | .digit => .range '0' '9'
  | .graph => .range '!' '~'
  | .lower => .range 'a' 'z'
  | .print => .range ' ' '~'
  | .punct => .ofRanges [('!', '/'), (':', '@'), ('[', '\x60'), ('\x7b', '~')]
  | .space => .ofChars ['\t', '\n', '\x0b', '\x0c', '\r', ' ']
  | .upper => .range 'A' 'Z'
  | .word => .ofRanges [('0', '9'), ('A', 'Z'), ('_', '_'), ('a', 'z')]
  | .xdigit => .ofRanges [('0', '9'), ('A', 'F'), ('a', 'f')]

def perlClass (modes : Modes) (span : Span) (kind : PerlClass) (negated : Bool) :
    Meaning CharClass :=
  signed modes span negated <|
    match kind, modes.unicode with
    | .digit, true => .property .digit
    | .space, true => .property .blank
    | .word, true => .property .word
    | .digit, false => asciiClass .digit
    | .space, false => asciiClass .space
    | .word, false => asciiClass .word

/-- Which characters have a property, or that there is no such property, is for tables to say. -/
class Properties where
  find : PropertyQuery → Unicode.Answer

variable [Properties]

def propertyClass (modes : Modes) (span : Span) (query : PropertyQuery) (negated : Bool) :
    Meaning CharClass :=
  if !modes.unicode then refused .unicodeNotAllowed span
  else match Properties.find query with
    | .error .unknownProperty => refused .propertyUnknown span
    | .error .unknownValue => refused .propertyValueUnknown span
    | .ok property => signed modes span negated (caseless modes (.property property))

def combined (operator : SetOperator) (left right : CharClass) : CharClass :=
  match operator with
  | .intersection => .intersection left right
  | .difference => .difference left right
  | .symmetricDifference => .union (.difference left right) (.difference right left)

def CharSet.meaning (modes : Modes) : CharSet → Meaning CharClass
  | .empty _ => .ok .none
  | .leaf span what => match what with
    | .literal char isByte => return .one (← memberChar modes span char isByte)
    | .perl kind negated => perlClass modes span kind negated
    | .property query negated => propertyClass modes span query negated
    | .dot | .assertion _ => .ok .none
  | .range _ first last firstSpan lastSpan firstByte lastByte => do
    let first ← memberChar modes firstSpan first firstByte
    let last ← memberChar modes lastSpan last lastByte
    return .range first last
  | .ascii span kind negated => signed modes span negated (caseless modes (asciiClass kind))
  | .bracket span negated body => do
    signed modes span negated (caseless modes (← body.meaning modes))
  | .union _ items => items.meaning modes
  | .beside first rest => do
    let first ← first.meaning modes
    let rest ← rest.meaning modes
    return .union first rest
  | .combine _ operator left right => do
    let left ← left.meaning modes
    let right ← right.meaning modes
    return combined operator (caseless modes left) (caseless modes right)

def dotClass (modes : Modes) (span : Span) : Meaning CharClass :=
  if !modes.unicode then refused .invalidUtf8 span
  else if modes.dotAll then .ok .all
  else if modes.crlf then .ok (.complement (.ofChars ['\r', '\n']))
  else .ok (.complement (.one '\n'))

def assertionLook (modes : Modes) : Assertion → Look
  | .lineStart =>
    if !modes.multiLine then .textStart else if modes.crlf then .crlfLineStart else .lineStart
  | .lineEnd => if !modes.multiLine then .textEnd else if modes.crlf then .crlfLineEnd else .lineEnd
  | .textStart => .textStart
  | .textEnd => .textEnd
  | kind => .boundary kind modes.unicode

def Leaf.meaning (modes : Modes) (span : Span) : Leaf → Meaning (Expr Step)
  | .literal char isByte => do
    let char ← literalChar modes span char isByte
    return .step (.read (caseless modes (.one char)))
  | .dot => return .step (.read (← dotClass modes span))
  | .assertion kind => return .step (.look (assertionLook modes kind))
  | .perl kind negated => return .step (.read (← perlClass modes span kind negated))
  | .property query negated => return .step (.read (← propertyClass modes span query negated))

/-- The meaning of a part, and the flags in force behind it. -/
def Ast.meaning (modes : Modes) : Ast → Meaning (Expr Step × Modes)
  | .empty _ => .ok (.empty, modes)
  | .leaf span what => return (← what.meaning modes span, modes)
  | .bracket span negated set => do
    let chars ← signed modes span negated (caseless modes (← set.meaning modes))
    return (.step (.read chars), modes)
  | .flags _ items => .ok (.empty, modes.set items)
  | .group _ _ items body => return ((← body.meaning (modes.set items)).1, modes)
  | .repetition _ least most body => do
    let (body, modes) ← body.meaning modes
    return (.repeated least most body, modes)
  | .concat _ parts => parts.meaning modes
  | .alternation _ branches => branches.meaning modes
  | .beside first rest => do
    let (first, modes) ← first.meaning modes
    let (rest, modes) ← rest.meaning modes
    return (.seq first rest, modes)
  | .orElse first rest => do
    let (first, modes) ← first.meaning modes
    let (rest, modes) ← rest.meaning modes
    return (.either first rest, modes)

end FileVerdict.Regex
