import FileVerdict.Regex.Escape

/-!
Sets of characters between square brackets, which may hold sets in turn and be combined with
`&&`, `--` and `~~`. The operators bind alike, from left to right, and looser than standing side
by side. Sets that have been opened wait on a stack, and so do the left sides of operators.
-/

namespace FileVerdict.Regex.CharSetReader
open FileVerdict.Text

/-- Items read so far, the last one first. -/
structure Items where
  span : Span
  items : List CharSet
  deriving Repr, DecidableEq

namespace Items

def none (place : Nat) : Items := ⟨Span.point place, []⟩

def push (union : Items) (item : CharSet) : Items :=
  let start := if union.items.isEmpty then item.span.start else union.span.start
  ⟨⟨start, item.span.stop⟩, item :: union.items⟩

def set (union : Items) : CharSet := CharSet.ofItems union.span union.items.reverse

end Items

inductive Frame where
  | opened (outer : Items) (span : Span) (negated : Bool)
  | operator (kind : SetOperator) (left : CharSet)
  deriving Repr, DecidableEq

structure State where
  stack : List Frame
  items : Items
  cursor : Cursor
  deriving Repr, DecidableEq

def unclosed (span : Span) : Fault := .of .classUnclosed span

def unclosedIn (stack : List Frame) : Fault :=
  unclosed ((stack.findSome? fun frame =>
    match frame with
    | .opened _ span _ => some span
    | .operator _ _ => none).getD (Span.point 0))

def hyphen (place : Nat) : CharSet := .leaf (Span.one place) (.literal '-' false)

def proceed (verbose : Bool) (start : Nat) (cursor : Cursor) : Except Fault Cursor :=
  let next := cursor.advance.skip verbose
  if next.rest.isEmpty then .error (unclosed ⟨start, next.index⟩) else .ok next

def negation (verbose : Bool) (start : Nat) (cursor : Cursor) : Except Fault (Bool × Cursor) :=
  if cursor.rest.head? = some '^' then
    (proceed verbose start cursor).map fun next => (true, next)
  else .ok (false, cursor)

/-- Hyphens, or a closing bracket in first place, which are ordinary characters there. -/
def leading (verbose : Bool) (start : Nat) (cursor : Cursor) : Except Fault (Items × Cursor) :=
  let (hyphens, next) := cursor.collectFrom verbose fun char => char == '-'
  let items := hyphens.foldl (fun items (place, _) => items.push (hyphen place)) (.none cursor.index)
  if next.rest.isEmpty then .error (unclosed (Span.point start))
  else if hyphens.isEmpty ∧ next.rest.head? = some ']' then
    let literal := CharSet.leaf next.char (.literal ']' false)
    (proceed verbose start next).map fun next => (items.push literal, next)
  else .ok (items, next)

def openBracket (verbose : Bool) (outer : Items) (stack : List Frame) (cursor : Cursor) :
    Except Fault State := do
  let start := cursor.index
  let next ← proceed verbose start cursor
  let (negated, next) ← negation verbose start next
  let (items, next) ← leading verbose start next
  return ⟨.opened outer ⟨start, next.index⟩ negated :: stack, items, next⟩

def asciiNames : List (String × AsciiClass) := [
  ("alnum", .alnum), ("alpha", .alpha), ("ascii", .ascii), ("blank", .blank),
  ("cntrl", .cntrl), ("digit", .digit), ("graph", .graph), ("lower", .lower),
  ("print", .print), ("punct", .punct), ("space", .space), ("upper", .upper),
  ("word", .word), ("xdigit", .xdigit)]

def asciiBody? (body : List Char) : Option (AsciiClass × List Char) :=
  match body.dropWhile fun char => char != ':' with
  | ':' :: ']' :: after =>
    (asciiNames.lookup (String.ofList (body.takeWhile fun char => char != ':'))).map
      fun kind => (kind, after)
  | _ => none

/-- A named class such as `[:alpha:]`. Anything else that begins like one is a set. -/
def ascii? (cursor : Cursor) : Option (CharSet × Cursor) :=
  match cursor.rest with
  | '[' :: ':' :: rest =>
    let negated := rest.head? = some '^'
    (asciiBody? (if negated then rest.drop 1 else rest)).map fun (kind, after) =>
      let stop := cursor.index + (cursor.rest.length - after.length)
      (.ascii ⟨cursor.index, stop⟩ kind negated, ⟨stop, after⟩)
  | _ => none

def joinOperator (stack : List Frame) (right : CharSet) : CharSet × List Frame :=
  match stack with
  | .operator kind left :: stack =>
    (.combine ⟨left.span.start, right.span.stop⟩ kind left right, stack)
  | stack => (right, stack)

/-- The character behind the next one, without regard to blanks and to a `#` among them. It
serves to tell a range from a hyphen that stands for itself. -/
def peek (verbose : Bool) (cursor : Cursor) : Option Char :=
  let rest := cursor.rest.drop 1
  if verbose then (visible false rest).or rest.head? else rest.head?
where
  visible (passed : Bool) : List Char → Option Char
    | [] => none
    | char :: rest =>
      if isBlank char then visible passed rest
      else if !passed && char = '#' then visible true rest
      else some char

def item (verbose : Bool) (cursor : Cursor) : Escape.Reading :=
  match cursor.rest with
  | '\\' :: _ => Escape.read verbose cursor
  | char :: _ => .ok ((cursor.char, .literal char false), cursor.advance)
  | [] => .error (unclosed cursor.here)

/-- Places in the text are no characters. -/
def asItem : Span × Leaf → Except Fault CharSet
  | (span, .assertion _) => .error (.of .classEscapeInvalid span)
  | (span, leaf) => .ok (.leaf span leaf)

def asBoundary : Span × Leaf → Except Fault (Char × Bool)
  | (_, .literal char isByte) => .ok (char, isByte)
  | (span, _) => .error (.of .classRangeNotLiteral span)

def rangeFrom (verbose : Bool) (first : Span × Leaf) (cursor : Cursor) :
    Except Fault (CharSet × Cursor) := do
  let (last, stop) ← item verbose cursor
  let span : Span := ⟨first.1.start, last.1.stop⟩
  let (firstChar, firstByte) ← asBoundary first
  let (lastChar, lastByte) ← asBoundary last
  if lastChar < firstChar then throw (.of .classRangeInvalid span)
  return (.range span firstChar lastChar first.1 last.1 firstByte lastByte, stop)

def rangeOrItem (verbose : Bool) (state : State) : Except Fault (CharSet × Cursor) := do
  let (first, stop) ← item verbose state.cursor
  let next := stop.skip verbose
  if next.rest.isEmpty then throw (unclosedIn state.stack)
  let peeked := peek verbose next
  if next.rest.head? ≠ some '-' ∨ peeked = some ']' ∨ peeked = some '-' then
    return (← asItem first, stop)
  let next := next.advance.skip verbose
  if next.rest.isEmpty then throw (unclosedIn state.stack)
  rangeFrom verbose first next

def operator? : List Char → Option SetOperator
  | '&' :: '&' :: _ => some .intersection
  | '-' :: '-' :: _ => some .difference
  | '~' :: '~' :: _ => some .symmetricDifference
  | _ => none

def close (state : State) : State ⊕ ((Span × Bool × CharSet) × Cursor) :=
  let (body, stack) := joinOperator state.stack state.items.set
  let stop := state.cursor.advance
  match stack with
  | [.opened _ span negated] => .inr ((⟨span.start, stop.index⟩, negated, body), stop)
  | .opened outer span negated :: stack =>
    .inl ⟨stack, outer.push (.bracket ⟨span.start, stop.index⟩ negated body), stop⟩
  | _ => .inr ((Span.point stop.index, false, body), stop)

def step (verbose : Bool) (state : State) :
    Except Fault (State ⊕ ((Span × Bool × CharSet) × Cursor)) := do
  let cursor := state.cursor.skip verbose
  let state := { state with cursor }
  if cursor.rest.isEmpty then throw (unclosedIn state.stack)
  if cursor.rest.head? = some '[' then
    match ascii? cursor with
    | some (named, stop) =>
      return .inl { state with items := state.items.push named, cursor := stop }
    | none => return .inl (← openBracket verbose state.items state.stack cursor)
  if cursor.rest.head? = some ']' then return close state
  match operator? cursor.rest with
  | some kind =>
    let (left, stack) := joinOperator state.stack state.items.set
    let stop := cursor.advance.advance
    return .inl ⟨.operator kind left :: stack, .none stop.index, stop⟩
  | none =>
    let (read, stop) ← rangeOrItem verbose state
    return .inl { state with items := state.items.push read, cursor := stop }

/-- Every step reads a character, so as many steps as there are characters are enough. -/
def run (verbose : Bool) : Nat → State → Except Fault ((Span × Bool × CharSet) × Cursor)
  | 0, state => .error (unclosedIn state.stack)
  | steps + 1, state => do
    match ← step verbose state with
    | .inl state => run verbose steps state
    | .inr done => .ok done

def read (verbose : Bool) (cursor : Cursor) : Except Fault ((Span × Bool × CharSet) × Cursor) := do
  run verbose cursor.rest.length (← openBracket verbose (.none cursor.index) [] cursor)

end FileVerdict.Regex.CharSetReader
