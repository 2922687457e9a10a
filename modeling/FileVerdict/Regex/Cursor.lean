import FileVerdict.Regex.Fault
import FileVerdict.Text.Basic

/-!
Reading a pattern from left to right. In a verbose pattern blanks mean nothing, and neither does
what stands between `#` and the end of the line. Every reader counts characters from where it
itself began, and its result is moved to its place by whoever called it; so what a piece of a
pattern reads as does not depend on where it stands.
-/

namespace FileVerdict.Regex
open FileVerdict.Text

structure Cursor where
  index : Nat
  rest : List Char
  deriving Repr, DecidableEq

namespace Cursor

def start (text : List Char) : Cursor := ⟨0, text⟩

def advance (cursor : Cursor) : Cursor :=
  match cursor.rest with
  | [] => cursor
  | _ :: rest => ⟨cursor.index + 1, rest⟩

def here (cursor : Cursor) : Span := Span.point cursor.index

def char (cursor : Cursor) : Span := Span.one cursor.index

def skipComments (inComment : Bool) (index : Nat) : List Char → Cursor
  | [] => ⟨index, []⟩
  | char :: rest =>
    if inComment then skipComments (char != '\n') (index + 1) rest
    else if isBlank char then skipComments false (index + 1) rest
    else if char = '#' then skipComments true (index + 1) rest
    else ⟨index, char :: rest⟩

def skip (verbose : Bool) (cursor : Cursor) : Cursor :=
  if verbose then skipComments false cursor.index cursor.rest else cursor

def dropBlanks (cursor : Cursor) : Cursor :=
  let rest := cursor.rest.dropWhile isBlank
  ⟨cursor.index + (cursor.rest.length - rest.length), rest⟩

/-- The characters that mean something and have the property, with their places, and the cursor
at the first that has it not. -/
def collect (verbose : Bool) (wanted : Char → Bool) (inComment : Bool) (index : Nat) :
    List Char → List (Nat × Char) × Cursor
  | [] => ([], ⟨index, []⟩)
  | char :: rest =>
    if inComment then collect verbose wanted (char != '\n') (index + 1) rest
    else if verbose && isBlank char then collect verbose wanted false (index + 1) rest
    else if verbose && char = '#' then collect verbose wanted true (index + 1) rest
    else if wanted char then
      let (collected, stop) := collect verbose wanted false (index + 1) rest
      ((index, char) :: collected, stop)
    else ([], ⟨index, char :: rest⟩)

def collectFrom (verbose : Bool) (wanted : Char → Bool) (cursor : Cursor) :
    List (Nat × Char) × Cursor :=
  collect verbose wanted false cursor.index cursor.rest

end Cursor

end FileVerdict.Regex
