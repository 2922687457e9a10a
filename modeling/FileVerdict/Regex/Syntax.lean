import FileVerdict.Regex.Fault

/-!
Patterns as they are written. Every node keeps its place, for the faults that come to light only
when the pattern is given its meaning. Neighbours are linked in pairs: `beside` links the parts of
a concatenation and of a set of characters, `orElse` the branches of an alternation, and the node
above such a chain holds the place of the whole.
-/

namespace FileVerdict.Regex

inductive PerlClass where
  | digit
  | space
  | word
  deriving Repr, DecidableEq

inductive AsciiClass where
  | alnum
  | alpha
  | ascii
  | blank
  | cntrl
  | digit
  | graph
  | lower
  | print
  | punct
  | space
  | upper
  | word
  | xdigit
  deriving Repr, DecidableEq

inductive Assertion where
  | lineStart
  | lineEnd
  | textStart
  | textEnd
  | wordBoundary
  | notWordBoundary
  | wordStart
  | wordEnd
  | wordStartHalf
  | wordEndHalf
  deriving Repr, DecidableEq

inductive PropertyQuery where
  | named (name : List Char)
  | valued (name value : List Char)
  deriving Repr, DecidableEq

/-- What one position can hold. `isByte` tells that a character is written as two hexadecimal
digits, which stand for a byte where the pattern is not about characters. -/
inductive Leaf where
  | literal (char : Char) (isByte : Bool)
  | dot
  | assertion (kind : Assertion)
  | perl (kind : PerlClass) (negated : Bool)
  | property (query : PropertyQuery) (negated : Bool)
  deriving Repr, DecidableEq

inductive SetOperator where
  | intersection
  | difference
  | symmetricDifference
  deriving Repr, DecidableEq

inductive CharSet where
  | empty (span : Span)
  | leaf (span : Span) (leaf : Leaf)
  | range (span : Span) (first last : Char) (firstSpan lastSpan : Span) (firstByte lastByte : Bool)
  | ascii (span : Span) (kind : AsciiClass) (negated : Bool)
  | bracket (span : Span) (negated : Bool) (body : CharSet)
  | union (span : Span) (items : CharSet)
  | beside (first rest : CharSet)
  | combine (span : Span) (operator : SetOperator) (left right : CharSet)
  deriving Repr, DecidableEq

inductive Flag where
  | ignoreCase
  | multiLine
  | dotAll
  | swapGreed
  | unicode
  | crlf
  | verbose
  deriving Repr, DecidableEq

inductive FlagItem where
  | negation
  | flag (flag : Flag)
  deriving Repr, DecidableEq

/-- Whether a list of flags sets or clears one; a flag behind the negation is cleared. -/
def flagState (wanted : Flag) (negated : Bool) : List FlagItem → Option Bool
  | [] => none
  | .negation :: items => flagState wanted true items
  | .flag flag :: items => if flag = wanted then some !negated else flagState wanted negated items

inductive Ast where
  | empty (span : Span)
  | leaf (span : Span) (leaf : Leaf)
  | bracket (span : Span) (negated : Bool) (set : CharSet)
  | flags (span : Span) (items : List FlagItem)
  | group (span : Span) (captures : Bool) (items : List FlagItem) (body : Ast)
  | repetition (span : Span) (least : Nat) (most : Option Nat) (body : Ast)
  | concat (span : Span) (parts : Ast)
  | alternation (span : Span) (branches : Ast)
  | beside (first rest : Ast)
  | orElse (first rest : Ast)
  deriving Repr, DecidableEq

namespace CharSet

def span : CharSet → Span
  | empty span | leaf span _ | range span .. | ascii span .. | bracket span .. | union span _
  | combine span .. => span
  | beside first rest => ⟨first.span.start, rest.span.stop⟩

def ofItems (span : Span) : List CharSet → CharSet
  | [] => empty span
  | [item] => item
  | item :: items => union span (chain item items)
where
  chain (first : CharSet) : List CharSet → CharSet
    | [] => first
    | second :: rest => beside first (chain second rest)

def shift (offset : Nat) : CharSet → CharSet
  | empty span => empty (span.shift offset)
  | leaf span item => leaf (span.shift offset) item
  | range span first last firstSpan lastSpan firstByte lastByte =>
    range (span.shift offset) first last (firstSpan.shift offset) (lastSpan.shift offset) firstByte
      lastByte
  | ascii span kind negated => ascii (span.shift offset) kind negated
  | bracket span negated body => bracket (span.shift offset) negated (body.shift offset)
  | union span items => union (span.shift offset) (items.shift offset)
  | beside first rest => beside (first.shift offset) (rest.shift offset)
  | combine span operator left right =>
    combine (span.shift offset) operator (left.shift offset) (right.shift offset)

end CharSet

namespace Ast

def span : Ast → Span
  | empty span | leaf span _ | bracket span .. | flags span _ | group span .. | repetition span ..
  | concat span _ | alternation span _ => span
  | beside first rest => ⟨first.span.start, rest.span.stop⟩
  | orElse first rest => ⟨first.span.start, rest.span.stop⟩

def ofParts (span : Span) : List Ast → Ast
  | [] => empty span
  | [part] => part
  | part :: parts => concat span (chain part parts)
where
  chain (first : Ast) : List Ast → Ast
    | [] => first
    | second :: rest => beside first (chain second rest)

def ofBranches (span : Span) : List Ast → Ast
  | [] => empty span
  | [branch] => branch
  | branch :: branches => alternation span (chain branch branches)
where
  chain (first : Ast) : List Ast → Ast
    | [] => first
    | second :: rest => orElse first (chain second rest)

end Ast

end FileVerdict.Regex
