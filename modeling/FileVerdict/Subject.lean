import FileVerdict.Text.Basic
import FileVerdict.Text.Encoding

/-!
Files to be judged: a name, the bytes if they have been loaded, and a size. The size stands on
its own, since only the beginning of a file may have been loaded, or nothing of it.
-/

namespace FileVerdict
open FileVerdict.Text

structure Subject where
  name : String
  data : Option (List UInt8)
  size : Nat
  deriving Repr, DecidableEq

namespace Subject

def empty : Subject := ⟨"", none, 0⟩

def loaded (name : String) (data : List UInt8) : Subject := ⟨name, some data, data.length⟩

def unloaded (name : String) (size : Nat) : Subject := ⟨name, none, size⟩

/-- The text of the content cut at newlines. A file that ends in a newline has an empty last
line; one with no content, or none loaded, has no lines. -/
def lines (subject : Subject) : List (List Char) :=
  match subject.data with
  | none | some [] => []
  | some bytes => split '\n' (decodeLossy bytes)

def lineCount (subject : Subject) : Nat := subject.lines.length

def sourceLineCount (subject : Subject) : Nat :=
  (subject.lines.filter fun line => line.any fun char => !isBlank char).length

end Subject

end FileVerdict
