import FileVerdict.Path
import FileVerdict.Subject

/-!
What a file is like, from its media type, its name, its size and its first bytes. Text goes by the
media type, images by four extensions in lower case; what is neither is binary.
-/

namespace FileVerdict

structure Traits where
  isText : Bool
  isImage : Bool
  isBinary : Bool
  isLarge : Bool
  isForbidden : Bool
  deriving Repr, DecidableEq

namespace Traits

def occurs (part : List Char) : List Char → Bool
  | [] => part.isEmpty
  | char :: rest => part.isPrefixOf (char :: rest) || occurs part rest

def mentions (part text : String) : Bool := occurs part.toList text.toList

def isTextType (mime : String) : Bool := mentions "text" mime || mentions "json" mime

def isImageName (name : String) : Bool :=
  [".png", ".jpg", ".jpeg", ".gif"].contains (Path.extension name)

def isBinaryType (mime : String) (isText isImage : Bool) : Bool :=
  mentions "octet" mime || !(isText || isImage)

def largeSize : Nat := 1024 * 1024

/-- A file of exactly one mebibyte is not large. -/
def isLargeSize (size : Nat) : Bool := decide (largeSize < size)

def flashMarks : List (List UInt8) := [[0x43, 0x57, 0x53], [0x46, 0x57, 0x53]]

/-- Whether the content is a Flash movie, which a browser would run whatever type it is served
with. Eight bytes are needed for one. -/
def isFlash (data : Option (List UInt8)) : Bool :=
  match data with
  | none => false
  | some bytes =>
    decide ((bytes.take 8).length = 8) && flashMarks.any fun mark => mark.isPrefixOf bytes

def inspect (subject : Subject) (mime : String) : Traits where
  isText := isTextType mime
  isImage := isImageName subject.name
  isBinary := isBinaryType mime (isTextType mime) (isImageName subject.name)
  isLarge := isLargeSize subject.size
  isForbidden := isFlash subject.data

def isViewable (traits : Traits) : Bool :=
  !traits.isImage && !traits.isBinary && !traits.isLarge

end Traits

end FileVerdict
