import FileVerdict.Regex.Cursor

/-!
Repetition marks. `?`, `*` and `+` stand for themselves; braces give the least and the most count
as decimal numbers below 2^32. A question mark behind the mark asks for the shorter match first,
which makes no difference to whether there is one.
-/

namespace FileVerdict.Regex.Repetition
open FileVerdict.Text

structure Counts where
  least : Nat
  most : Option Nat
  deriving Repr, DecidableEq

def simple? : Char → Option Counts
  | '?' => some ⟨0, some 1⟩
  | '*' => some ⟨0, none⟩
  | '+' => some ⟨1, none⟩
  | _ => none

def countBound : Nat := 0x100000000

def decimal (digits : List Char) : Nat :=
  digits.foldl (fun value digit => value * 10 + (digit.toNat - '0'.toNat)) 0

def number (verbose : Bool) (cursor : Cursor) : Except Fault Nat × Cursor :=
  let start := cursor.dropBlanks
  let (digits, stop) := start.collectFrom verbose Char.isDigit
  let value := decimal (digits.map Prod.snd)
  let span : Span := ⟨start.index, stop.index⟩
  let result :=
    if digits.isEmpty then .error (.of .countMissing span)
    else if countBound ≤ value then .error (.of .decimalInvalid span)
    else .ok value
  (result, stop.dropBlanks)

/-- A question mark behind a repetition belongs to it. -/
def dropLazy (cursor : Cursor) : Cursor :=
  if cursor.rest.head? = some '?' then cursor.advance else cursor

def unclosed (start : Nat) (cursor : Cursor) : Fault := .of .countUnclosed ⟨start, cursor.index⟩

/-- One count for both ends, or the least and, behind a comma, maybe the most. -/
def bounds (verbose : Bool) (start : Nat) (cursor : Cursor) : Except Fault (Counts × Cursor) := do
  let (least, next) := number verbose cursor
  if next.rest.isEmpty then throw (unclosed start next)
  if next.rest.head? ≠ some ',' then
    let count ← least
    return (⟨count, some count⟩, next)
  let next := next.advance.skip verbose
  if next.rest.isEmpty then throw (unclosed start next)
  if next.rest.head? = some '\x7d' then return (⟨← least, none⟩, next)
  let least ← least
  let (most, next) := number verbose next
  return (⟨least, some (← most)⟩, next)

def counted (verbose : Bool) (cursor : Cursor) : Except Fault (Counts × Span × Cursor) := do
  let start := cursor.index
  let inside := cursor.advance.skip verbose
  if inside.rest.isEmpty then throw (unclosed start inside)
  let (counts, stop) ← bounds verbose start inside
  if stop.rest.head? ≠ some '\x7d' then throw (unclosed start stop)
  let after := stop.advance.skip verbose
  let last := dropLazy after
  let span : Span := ⟨start, last.index⟩
  if counts.most.any fun most => most < counts.least then throw (.of .countInvalid span)
  return (counts, span, if after.rest.head? = some '?' then last else stop.advance)

end FileVerdict.Regex.Repetition
