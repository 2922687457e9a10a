import FileVerdict.Regex.CharSetReader
import FileVerdict.Regex.Opening
import FileVerdict.Regex.Repetition

/-!
Patterns read as a whole. The reader keeps the group it is in and, on a stack, the groups around
it. What stands at the cursor is read by itself and put in its place; only a parenthesis, a bar
and a repetition mark touch what has been read before. A group that closes takes its own verbose
flag with it, and what has been read outside it is as it was.
-/

namespace FileVerdict.Regex
open FileVerdict.Text

/-- What has been read of the inside of one group: finished branches and the parts of the branch
that is being read, both with the last one first. -/
structure Level where
  start : Nat
  branches : List Ast
  branchStart : Nat
  parts : List Ast
  deriving Repr, DecidableEq

namespace Level

def fresh (place : Nat) : Level := ⟨place, [], place, []⟩

def push (level : Level) (part : Ast) : Level := { level with parts := part :: level.parts }

def branch (level : Level) (stop : Nat) : Ast :=
  Ast.ofParts ⟨level.branchStart, stop⟩ level.parts.reverse

def bar (level : Level) (place : Nat) : Level :=
  { level with
    branches := level.branch place :: level.branches, branchStart := place + 1, parts := [] }

def close (level : Level) (stop : Nat) : Ast :=
  Ast.ofBranches ⟨level.start, stop⟩ (level.branches.reverse ++ [level.branch stop])

end Level

/-- A group that is still open: what stands before it, where it opens, whether what it matches is
captured, its flags, and whether the pattern around it is verbose. -/
structure OpenGroup where
  outer : Level
  start : Nat
  captures : Bool
  items : List FlagItem
  verbose : Bool
  deriving Repr, DecidableEq

structure Reader where
  groups : List OpenGroup
  level : Level
  verbose : Bool
  names : List (List Char × Span)
  cursor : Cursor
  deriving Repr, DecidableEq

namespace Reader

def start (pattern : List Char) : Reader :=
  ⟨[], Level.fresh 0, false, [], Cursor.start pattern⟩

def ahead (reader : Reader) : Cursor := Cursor.start reader.cursor.rest

def goTo (reader : Reader) (stop : Cursor) : Reader :=
  { reader with cursor := ⟨reader.cursor.index + stop.index, stop.rest⟩ }

def push (reader : Reader) (part : Ast) : Reader :=
  { reader with level := reader.level.push part }

def placed {α : Type} (reader : Reader) (result : Except Fault α) : Except Fault α :=
  result.mapError (Fault.shift reader.cursor.index)

def here (reader : Reader) : Fault := .of .repetitionMissing reader.cursor.here

/-- The names given so far and the one that a group has, if any; no two groups have the same. -/
def enrolled (reader : Reader) :
    Option (Span × List Char) → Except Fault (List (List Char × Span))
  | none => .ok reader.names
  | some (span, name) =>
    let span := span.shift reader.cursor.index
    match reader.names.lookup name with
    | some first => .error ⟨.nameDuplicate, span, some first⟩
    | none => .ok ((name, span) :: reader.names)

def openGroup (reader : Reader) : Except Fault Reader := do
  let index := reader.cursor.index
  let (opening, stop) ← reader.placed (Opening.read reader.verbose reader.ahead)
  match opening with
  | .directive span items =>
    let next := (reader.push (.flags (span.shift index) items)).goTo stop
    return { next with verbose := (flagState .verbose false items).getD reader.verbose }
  | .group captures items name =>
    let names ← reader.enrolled name
    let next := reader.goTo stop
    return { next with
      groups := ⟨reader.level, index, captures, items, reader.verbose⟩ :: reader.groups
      level := Level.fresh next.cursor.index
      verbose := (flagState .verbose false items).getD reader.verbose
      names }

def closeGroup (reader : Reader) : Except Fault Reader :=
  match reader.groups with
  | [] => .error (.of .groupUnopened reader.cursor.char)
  | group :: others =>
    let index := reader.cursor.index
    let body := reader.level.close index
    .ok { reader with
      groups := others
      level := group.outer.push (.group ⟨group.start, index + 1⟩ group.captures group.items body)
      verbose := group.verbose
      cursor := reader.cursor.advance }

def repeated (reader : Reader) : Except Fault (Ast × List Ast) :=
  match reader.level.parts with
  | [] | .empty _ :: _ | .flags _ _ :: _ => .error reader.here
  | part :: parts => .ok (part, parts)

def repetition (reader : Reader) (counts : Repetition.Counts) (stop : Nat) (next : Cursor) :
    Except Fault Reader := do
  let (part, parts) ← reader.repeated
  let node := Ast.repetition ⟨part.span.start, stop⟩ counts.least counts.most part
  return { reader with level := { reader.level with parts := node :: parts }, cursor := next }

def simpleRepetition (reader : Reader) (counts : Repetition.Counts) : Except Fault Reader :=
  let next := Repetition.dropLazy reader.cursor.advance
  reader.repetition counts next.index next

def countedRepetition (reader : Reader) : Except Fault Reader := do
  let _ ← reader.repeated
  let (counts, span, stop) ← reader.placed (Repetition.counted reader.verbose reader.ahead)
  reader.repetition counts (reader.cursor.index + span.stop) (reader.goTo stop).cursor

def set (reader : Reader) : Except Fault Reader := do
  let ((span, negated, body), stop) ←
    reader.placed (CharSetReader.read reader.verbose reader.ahead)
  let index := reader.cursor.index
  return (reader.push (.bracket (span.shift index) negated (body.shift index))).goTo stop

def leaf (reader : Reader) (leaf : Leaf) : Reader :=
  { reader.push (.leaf reader.cursor.char leaf) with cursor := reader.cursor.advance }

def escape (reader : Reader) : Except Fault Reader := do
  let ((span, leaf), stop) ← reader.placed (Escape.read reader.verbose reader.ahead)
  return (reader.push (.leaf (span.shift reader.cursor.index) leaf)).goTo stop

def step (reader : Reader) (char : Char) : Except Fault Reader :=
  match char with
  | '(' => reader.openGroup
  | ')' => reader.closeGroup
  | '|' => .ok { reader with
      level := reader.level.bar reader.cursor.index, cursor := reader.cursor.advance }
  | '[' => reader.set
  | '\x7b' => reader.countedRepetition
  | '\\' => reader.escape
  | '.' => .ok (reader.leaf .dot)
  | '^' => .ok (reader.leaf (.assertion .lineStart))
  | '$' => .ok (reader.leaf (.assertion .lineEnd))
  | char =>
    match Repetition.simple? char with
    | some counts => reader.simpleRepetition counts
    | none => .ok (reader.leaf (.literal char false))

def finish (reader : Reader) : Except Fault Ast :=
  match reader.groups with
  | [] => .ok (reader.level.close reader.cursor.index)
  | group :: _ => .error (.of .groupUnclosed (Span.one group.start))

/-- Every step reads a character, so as many steps as there are characters are enough. -/
def run : Nat → Reader → Except Fault Ast
  | 0, reader => reader.finish
  | steps + 1, reader =>
    let reader := { reader with cursor := reader.cursor.skip reader.verbose }
    match reader.cursor.rest with
    | [] => reader.finish
    | char :: _ => do run steps (← reader.step char)

end Reader

/-! Depth -/

def nestLimit : Nat := 250

/-- The first set, in the order in which they are written, that lies deeper than `room` allows. -/
def CharSet.tooDeep? (room : Nat) : CharSet → Option Span
  | .bracket span _ body => match room with
    | 0 => some span
    | room + 1 => body.tooDeep? room
  | .union span items => match room with
    | 0 => some span
    | room + 1 => items.tooDeep? room
  | .combine span _ left right => match room with
    | 0 => some span
    | room + 1 => (left.tooDeep? room).or (right.tooDeep? room)
  | .beside first rest => (first.tooDeep? room).or (rest.tooDeep? room)
  | _ => none

def Ast.tooDeep? (room : Nat) : Ast → Option Span
  | .bracket span _ set => match room with
    | 0 => some span
    | room + 1 => set.tooDeep? room
  | .group span _ _ body | .repetition span _ _ body | .concat span body
  | .alternation span body => match room with
    | 0 => some span
    | room + 1 => body.tooDeep? room
  | .beside first rest | .orElse first rest => (first.tooDeep? room).or (rest.tooDeep? room)
  | _ => none

def parse (pattern : List Char) : Except Fault Ast := do
  let ast ← (Reader.start pattern).run pattern.length
  match ast.tooDeep? nestLimit with
  | some span => throw (.of (.nestedTooDeep nestLimit) span)
  | none => return ast

end FileVerdict.Regex
