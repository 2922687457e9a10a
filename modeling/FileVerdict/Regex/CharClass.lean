import FileVerdict.Text.Case
import FileVerdict.Unicode.Property

/-!
Sets of characters as a pattern means them, built from ranges and properties. Ignoring case adds
every other spelling of the characters of a set; outside Unicode it does so for ASCII letters
alone.
-/

namespace FileVerdict.Regex
open FileVerdict.Text

inductive CharClass where
  | none
  | range (first last : Char)
  | property (held : Unicode.Property)
  | union (left right : CharClass)
  | intersection (left right : CharClass)
  | difference (left right : CharClass)
  | complement (body : CharClass)
  | ignoringCase (body : CharClass)
  | ignoringAsciiCase (body : CharClass)
  deriving Repr, DecidableEq

namespace CharClass

def contains : CharClass → Char → Bool
  | .none, _ => false
  | .range first last, char => decide (first ≤ char) && decide (char ≤ last)
  | .property held, char => held.holds char
  | .union left right, char => left.contains char || right.contains char
  | .intersection left right, char => left.contains char && right.contains char
  | .difference left right, char => left.contains char && !right.contains char
  | .complement body, char => !body.contains char
  | .ignoringCase body, char =>
    (variants char.toNat).any fun code => body.contains (Char.ofNat code)
  | .ignoringAsciiCase body, char =>
    body.contains char || body.contains char.toLower || body.contains char.toUpper

def one (char : Char) : CharClass := range char char

def all : CharClass := range (Char.ofNat 0) (Char.ofNat 0x10FFFF)

def ofChars : List Char → CharClass
  | [] => none
  | char :: chars => union (one char) (ofChars chars)

def ofRanges : List (Char × Char) → CharClass
  | [] => none
  | (first, last) :: ranges => union (range first last) (ofRanges ranges)

end CharClass

end FileVerdict.Regex
