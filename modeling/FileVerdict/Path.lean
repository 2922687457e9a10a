import FileVerdict.Text.Basic

/-!
Names of files, read as slash-separated paths. Empty parts and parts that are a single dot count
for nothing, so a trailing slash changes nothing; a name whose last part is two dots, or that has
no part left, has no final part. Nothing here looks at a disk.
-/

namespace FileVerdict.Path
open FileVerdict.Text

def parts (path : List Char) : List (List Char) :=
  (split '/' path).filter fun part => !part.isEmpty && part != ['.']

def finalPart? (path : List Char) : Option (List Char) :=
  (parts path).getLast?.filter fun part => part != ['.', '.']

/-- What stands from the last dot on, if something stands on either side of that dot. -/
def suffix (part : List Char) : List Char :=
  let tail := part.reverse.takeWhile fun char => char != '.'
  match part.reverse.dropWhile fun char => char != '.' with
  | _ :: _ :: _ => if tail.isEmpty then [] else '.' :: tail.reverse
  | _ => []

def basename (name : String) : String :=
  match finalPart? name.toList with
  | some part => String.ofList part
  | none => name

/-- The extension with its dot, exactly as written. A name that only begins with a dot has none,
and neither has one that ends in a dot. -/
def extension (name : String) : String :=
  match finalPart? name.toList with
  | some part => String.ofList (suffix part)
  | none => ""

def toName (path : String) : String :=
  String.ofList (path.toList.map fun char => if char = '\\' then '/' else char)

end FileVerdict.Path
