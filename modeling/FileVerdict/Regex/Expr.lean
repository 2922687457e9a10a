import FileVerdict.Regex.CharClass
import FileVerdict.Regex.Syntax

/-!
What a pattern means: a regular expression over steps, where a step either reads one character of
a class or looks at the characters on either side of a place. Groups, flags and the difference
between the longer and the shorter match first are gone.
-/

namespace FileVerdict.Regex

inductive Expr (α : Type) where
  | empty
  | step (taken : α)
  | seq (first second : Expr α)
  | either (first second : Expr α)
  | repeated (least : Nat) (most : Option Nat) (body : Expr α)
  deriving Repr, DecidableEq

def Expr.map {α β : Type} (change : α → β) : Expr α → Expr β
  | .empty => .empty
  | .step taken => .step (change taken)
  | .seq first second => .seq (first.map change) (second.map change)
  | .either first second => .either (first.map change) (second.map change)
  | .repeated least most body => .repeated least most (body.map change)

/-- Conditions on a place in a text. Lines end before a newline, or before a newline, a carriage
return or the two together; words are of ASCII characters or of any script. -/
inductive Look where
  | textStart
  | textEnd
  | lineStart
  | lineEnd
  | crlfLineStart
  | crlfLineEnd
  | boundary (kind : Assertion) (unicode : Bool)
  deriving Repr, DecidableEq

inductive Step where
  | read (chars : CharClass)
  | look (condition : Look)
  deriving Repr, DecidableEq

def isWord (unicode : Bool) (char : Char) : Bool :=
  if unicode then Unicode.isWordChar char else char.isAlphanum || char = '_'

def Look.holds (before after : Option Char) : Look → Bool
  | .textStart => before.isNone
  | .textEnd => after.isNone
  | .lineStart => before.isNone || before = some '\n'
  | .lineEnd => after.isNone || after = some '\n'
  | .crlfLineStart =>
    before.isNone || before = some '\n' || (before = some '\r' && after != some '\n')
  | .crlfLineEnd => after.isNone || after = some '\r' || (after = some '\n' && before != some '\r')
  | .boundary kind unicode =>
    let left := before.any (isWord unicode)
    let right := after.any (isWord unicode)
    match kind with
    | .wordBoundary => left != right
    | .notWordBoundary => left == right
    | .wordStart => !left && right
    | .wordEnd => left && !right
    | .wordStartHalf => !left
    | .wordEndHalf => !right
    | .lineStart | .textStart => before.isNone
    | .lineEnd | .textEnd => after.isNone

end FileVerdict.Regex
