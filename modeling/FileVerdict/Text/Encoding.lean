import FileVerdict.Text.Basic

/-!
What texts are read from and written as: UTF-8, one-line JSON objects and form data.
-/

/-! ## UTF-8

Reading bytes as UTF-8 text. A reader holds the characters read so far and the sequence it is in
the middle of. A byte that cannot continue that sequence ends it: the sequence is replaced by one
U+FFFD and the byte starts anew. So no byte is lost, and a newline ends whatever stands before it.
-/

namespace FileVerdict.Text

/-- A sequence that has begun: how many bytes are missing, the bounds of the next one, and the
value of those read. -/
structure Unfinished where
  missing : Nat
  low : UInt8
  high : UInt8
  value : Nat
  deriving Repr, DecidableEq

/-- `read` holds the last character first; `faulty` tells that a sequence has been replaced. -/
structure Utf8Reader where
  unfinished : Option Unfinished
  read : List Char
  faulty : Bool
  deriving Repr, DecidableEq

def replacement : Char := Char.ofNat 0xFFFD

namespace Utf8Reader

def start : Utf8Reader := ⟨none, [], false⟩

def begin (reader : Utf8Reader) (byte : UInt8) : Utf8Reader :=
  let opened (missing : Nat) (low high : UInt8) (bits : UInt8) : Utf8Reader :=
    { reader with unfinished := some ⟨missing, low, high, bits.toNat⟩ }
  if byte < 0x80 then
    { reader with unfinished := none, read := Char.ofNat byte.toNat :: reader.read }
  else if byte < 0xC2 then ⟨none, replacement :: reader.read, true⟩
  else if byte < 0xE0 then opened 1 0x80 0xBF (byte - 0xC0)
  else if byte = 0xE0 then opened 2 0xA0 0xBF 0
  else if byte = 0xED then opened 2 0x80 0x9F 0x0D
  else if byte < 0xF0 then opened 2 0x80 0xBF (byte - 0xE0)
  else if byte = 0xF0 then opened 3 0x90 0xBF 0
  else if byte < 0xF4 then opened 3 0x80 0xBF (byte - 0xF0)
  else if byte = 0xF4 then opened 3 0x80 0x8F 4
  else ⟨none, replacement :: reader.read, true⟩

def push (reader : Utf8Reader) (byte : UInt8) : Utf8Reader :=
  match reader.unfinished with
  | none => reader.begin byte
  | some sequence =>
    if sequence.low ≤ byte ∧ byte ≤ sequence.high then
      let value := sequence.value * 64 + (byte.toNat - 0x80)
      if sequence.missing ≤ 1 then
        { reader with unfinished := none, read := Char.ofNat value :: reader.read }
      else
        { reader with unfinished := some ⟨sequence.missing - 1, 0x80, 0xBF, value⟩ }
    else
      begin ⟨none, replacement :: reader.read, true⟩ byte

def finish (reader : Utf8Reader) : Utf8Reader :=
  match reader.unfinished with
  | none => reader
  | some _ => ⟨none, replacement :: reader.read, true⟩

def readAll (bytes : List UInt8) : Utf8Reader := (bytes.foldl push start).finish

end Utf8Reader

/-- The text of any bytes, with U+FFFD for each piece that is no UTF-8. -/
def decodeLossy (bytes : List UInt8) : List Char :=
  (Utf8Reader.readAll bytes).read.reverse

def decode? (bytes : List UInt8) : Option (List Char) :=
  let reader := Utf8Reader.readAll bytes
  if reader.faulty then none else some reader.read.reverse

def encode (text : List Char) : List UInt8 := text.flatMap String.utf8EncodeChar

end FileVerdict.Text

/-! ## JSON

One-line JSON objects whose members are strings, truth values and counts. A string escapes the
quote, the backslash and the controls below the space, five of which have letters of their own,
and holds every other character as it is; so an object never breaks its line.
-/

namespace FileVerdict.Text.Json

inductive Value where
  | text (value : String)
  | truth (value : Bool)
  | count (value : Nat)
  deriving Repr, DecidableEq

def escape (char : Char) : List Char :=
  match char with
  | '"' => ['\\', '"']
  | '\\' => ['\\', '\\']
  | '\n' => ['\\', 'n']
  | '\r' => ['\\', 'r']
  | '\t' => ['\\', 't']
  | char =>
    if char.toNat = 8 then ['\\', 'b']
    else if char.toNat = 12 then ['\\', 'f']
    else if char.toNat < 0x20 then ['\\', 'u', '0', '0'] ++ hexPair 'a' char.toNat
    else [char]

def quote (text : String) : List Char := '"' :: (text.toList.flatMap escape ++ ['"'])

def Value.write : Value → List Char
  | .text value => quote value
  | .truth true => ['t', 'r', 'u', 'e']
  | .truth false => ['f', 'a', 'l', 's', 'e']
  | .count value => Nat.toDigits 10 value

def writeMember (member : String × Value) : List Char :=
  quote member.1 ++ ':' :: member.2.write

def writeObject (members : List (String × Value)) : List Char :=
  '\x7b' :: ((members.map writeMember).intersperse [',']).flatten ++ ['\x7d']

end FileVerdict.Text.Json

/-! ## Form data

The form encoding of URLs. A letter, a digit and the four marks `*`, `-`, `.` and `_` stand for
themselves, a space is written `+`, and every other byte as `%` with two hexadecimal digits.
-/

namespace FileVerdict.Text.FormUrl

def isPlain (byte : UInt8) : Bool :=
  let char := Char.ofNat byte.toNat
  char.isAlphanum || char = '*' || char = '-' || char = '.' || char = '_'

def encodeByte (byte : UInt8) : List Char :=
  if isPlain byte then [Char.ofNat byte.toNat]
  else if byte = 0x20 then ['+']
  else '%' :: hexPair 'A' byte.toNat

def encode (bytes : List UInt8) : List Char := bytes.flatMap encodeByte

end FileVerdict.Text.FormUrl
