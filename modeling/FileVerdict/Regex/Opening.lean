import FileVerdict.Regex.Cursor
import FileVerdict.Regex.Syntax
import FileVerdict.Unicode.Property

/-!
What an opening parenthesis begins: a group, which may have a name or flags of its own, or a
directive that sets flags for the rest of the group around it.
-/

namespace FileVerdict.Regex
open FileVerdict.Text

inductive Opening where
  | directive (span : Span) (items : List FlagItem)
  | group (captures : Bool) (items : List FlagItem) (name : Option (Span × List Char))
  deriving Repr, DecidableEq

namespace Opening

def flag? : Char → Option Flag
  | 'i' => some .ignoreCase
  | 'm' => some .multiLine
  | 's' => some .dotAll
  | 'U' => some .swapGreed
  | 'u' => some .unicode
  | 'R' => some .crlf
  | 'x' => some .verbose
  | _ => none

/-- The flags up to the colon or the parenthesis that ends them. `items` holds those read so far,
with their places, the last one first. -/
def readFlags (items : List (Span × FlagItem)) (index : Nat) :
    List Char → Except Fault (List FlagItem × Cursor)
  | [] => .error (.of .flagMissing (Span.point index))
  | char :: rest =>
    if char = ':' ∨ char = ')' then
      match items with
      | (span, .negation) :: _ => .error (.of .flagNegationDangling span)
      | items => .ok ((items.map Prod.snd).reverse, ⟨index, char :: rest⟩)
    else
      let span := Span.one index
      let read := if char = '-' then some .negation else (flag? char).map FlagItem.flag
      match read with
      | none => .error (.of .flagUnknown span)
      | some item =>
        match items.find? fun earlier => decide (earlier.2 = item) with
        | some (first, _) =>
          let cause := if item = .negation then .flagNegationRepeated else .flagDuplicate
          .error ⟨cause, span, some first⟩
        | none => readFlags ((span, item) :: items) (index + 1) rest

/-- Letters and underscores may begin a name; digits, dots and brackets may follow. -/
def isNameChar (isFirst : Bool) (char : Char) : Bool :=
  if char.toNat < 128 then
    char.isAlpha || char = '_' ||
      (!isFirst && (char.isDigit || char = '.' || char = '[' || char = ']'))
  else if isFirst then Unicode.isAlphabetic char else Unicode.isAlphanumeric char

def readName (start index : Nat) : List Char → Except Fault (List Char × Cursor)
  | [] => .error (.of .nameUnclosed (Span.point index))
  | char :: rest =>
    if char = '>' then .ok ([], ⟨index + 1, rest⟩)
    else if isNameChar (index == start) char then do
      let (name, stop) ← readName start (index + 1) rest
      return (char :: name, stop)
    else .error (.of .nameInvalid (Span.one index))

def named (cursor : Cursor) : Except Fault (Opening × Cursor) := do
  let start := cursor.index
  let (name, stop) ← readName start start cursor.rest
  if name.isEmpty then throw (.of .nameEmpty (Span.point start))
  return (.group true [] (some (⟨start, start + name.length⟩, name)), stop)

def flagged (start : Nat) (mark : Span) (cursor : Cursor) : Except Fault (Opening × Cursor) := do
  if cursor.rest.isEmpty then throw (.of .groupUnclosed (Span.one start))
  let (items, stop) ← readFlags [] cursor.index cursor.rest
  if stop.rest.head? = some ')' then
    if items.isEmpty then throw (.of .repetitionMissing mark)
    return (.directive ⟨start, stop.index + 1⟩ items, stop.advance)
  else return (.group false items none, stop.advance)

def lookArounds : List (List Char) := [['?', '='], ['?', '!'], ['?', '<', '='], ['?', '<', '!']]

def begun (start : Nat) (next : Cursor) : Except Fault (Opening × Cursor) :=
  match next.rest with
  | '?' :: 'P' :: '<' :: rest => named ⟨next.index + 3, rest⟩
  | '?' :: '<' :: rest => named ⟨next.index + 2, rest⟩
  | '?' :: rest => flagged start next.here ⟨next.index + 1, rest⟩
  | _ => .ok (.group true [] none, next)

def read (verbose : Bool) (cursor : Cursor) : Except Fault (Opening × Cursor) :=
  let start := cursor.index
  let next := cursor.advance.skip verbose
  match lookArounds.find? fun look => look.isPrefixOf next.rest with
  | some look => .error (.of .lookAround ⟨start, next.index + look.length⟩)
  | none => begun start next

end Opening

end FileVerdict.Regex
