/-!
Files that can be looked at by path: what one holds, and what is known of it without reading it.
The two are asked for separately, since either may be had where the other is refused.
-/

namespace FileVerdict

inductive ReadFault where
  | notFound
  | isDirectory
  | notDirectory
  | nameTooLong
  | nulInName
  | notUtf8
  | directory
  | other (text : String) (code : Nat)
  deriving Repr, DecidableEq

/-- `isDirectory` is what reading a directory meets, `directory` what asking for its size does. -/
def ReadFault.message : ReadFault → String
  | notFound => "No such file or directory (os error 2)"
  | isDirectory => "Is a directory (os error 21)"
  | notDirectory => "Not a directory (os error 20)"
  | nameTooLong => "File name too long (os error 36)"
  | nulInName => "file name contained an unexpected NUL byte"
  | notUtf8 => "stream did not contain valid UTF-8"
  | directory => "is a directory"
  | other text code => text ++ " (os error " ++ toString code ++ ")"

structure Metadata where
  isDirectory : Bool
  length : Nat
  deriving Repr, DecidableEq

structure Files where
  read : String → Except ReadFault (List UInt8)
  metadata : String → Except ReadFault Metadata

def Files.size (files : Files) (path : String) : Except ReadFault Nat := do
  let known ← files.metadata path
  if known.isDirectory then throw .directory
  return known.length

end FileVerdict
