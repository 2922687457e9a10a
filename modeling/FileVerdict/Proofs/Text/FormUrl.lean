import FileVerdict.Text.Encoding
import Mathlib.Logic.Function.Basic

/-!
Reading the form encoding back. A `+` is a space and `%` with two hexadecimal digits the byte that
they write; any other character stands for its UTF-8 bytes, a `%` without its digits included. The
encoding writes a literal `+` and `%` as bytes, so no byte is taken for another, and what it writes
holds no quote, no separator and no control character.
-/

namespace FileVerdict.Text.FormUrl

def decode : List Char → List UInt8
  | '%' :: high :: low :: rest =>
    match hexDigit high, hexDigit low with
    | some upper, some lower => UInt8.ofNat (upper * 16 + lower) :: decode rest
    | _, _ => 0x25 :: decode (high :: low :: rest)
  | '+' :: rest => 0x20 :: decode rest
  | char :: rest => String.utf8EncodeChar char ++ decode rest
  | [] => []

def isWritten (char : Char) : Bool := char.isAlphanum || "*-._+%".toList.contains char

/-! One character of an encoding -/

theorem decode_space (rest : List Char) : decode ('+' :: rest) = 0x20 :: decode rest := by
  rw [decode]

theorem decode_self (char : Char) (space : char ≠ '+') (escape : char ≠ '%') (rest : List Char) :
    decode (char :: rest) = String.utf8EncodeChar char ++ decode rest := by
  rw [decode]
  · intro _ _ _ same
    exact absurd same escape
  · exact space

theorem decode_escape (high low : Char) (upper lower : Nat) (first : hexDigit high = some upper)
    (second : hexDigit low = some lower) (rest : List Char) :
    decode ('%' :: high :: low :: rest) = UInt8.ofNat (upper * 16 + lower) :: decode rest := by
  rw [decode, first, second]

/-! One byte -/

theorem hexDigit_hexLetter : ∀ value < 16, hexDigit (hexLetter 'A' value) = some value := by decide

theorem isWritten_hexLetter : ∀ value < 16, isWritten (hexLetter 'A' value) = true := by decide

theorem plain_written : ∀ code < 256, isPlain (UInt8.ofNat code) = true →
    isWritten (Char.ofNat code) = true ∧ Char.ofNat code ≠ '+' ∧ Char.ofNat code ≠ '%' ∧
      String.utf8EncodeChar (Char.ofNat code) = [UInt8.ofNat code] := by decide +kernel

theorem of_isPlain (byte : UInt8) (plain : isPlain byte = true) :
    isWritten (Char.ofNat byte.toNat) = true ∧ Char.ofNat byte.toNat ≠ '+' ∧
      Char.ofNat byte.toNat ≠ '%' ∧ String.utf8EncodeChar (Char.ofNat byte.toNat) = [byte] := by
  have known := plain_written byte.toNat byte.toNat_lt
  rw [UInt8.ofNat_toNat] at known
  exact known plain

theorem decode_hexPair (byte : UInt8) (rest : List Char) :
    decode ('%' :: (hexPair 'A' byte.toNat ++ rest)) = byte :: decode rest := by
  have bound : byte.toNat < 256 := byte.toNat_lt
  have high := hexDigit_hexLetter (byte.toNat / 16) (by omega)
  have low := hexDigit_hexLetter (byte.toNat % 16) (by omega)
  have value : byte.toNat / 16 * 16 + byte.toNat % 16 = byte.toNat := by omega
  calc
    _ = UInt8.ofNat (byte.toNat / 16 * 16 + byte.toNat % 16) :: decode rest :=
      decode_escape _ _ _ _ high low rest
    _ = byte :: decode rest := by rw [value, UInt8.ofNat_toNat]

theorem decode_encodeByte (byte : UInt8) (rest : List Char) :
    decode (encodeByte byte ++ rest) = byte :: decode rest := by
  unfold encodeByte
  split
  · next plain =>
    obtain ⟨-, space, escape, written⟩ := of_isPlain byte plain
    apply Eq.trans (decode_self _ space escape rest)
    rw [written]
    rfl
  · split
    · next blank =>
      rw [blank]
      exact decode_space rest
    · exact decode_hexPair byte rest

theorem isWritten_encodeByte (byte : UInt8) :
    ∀ char ∈ encodeByte byte, isWritten char = true := by
  have bound : byte.toNat < 256 := byte.toNat_lt
  unfold encodeByte
  split
  · next plain =>
    rw [List.forall_mem_singleton]
    exact (of_isPlain byte plain).1
  · split
    · rw [List.forall_mem_singleton]
      decide
    · rw [hexPair, List.forall_mem_cons, List.forall_mem_cons, List.forall_mem_singleton]
      refine ⟨by decide, ?_, ?_⟩
      · exact isWritten_hexLetter (byte.toNat / 16) (by omega)
      · exact isWritten_hexLetter (byte.toNat % 16) (by omega)

/-! All bytes -/

/-- An encoding is read back whatever the bytes, UTF-8 or not. -/
theorem decode_encode (bytes : List UInt8) : decode (encode bytes) = bytes := by
  induction bytes with
  | nil => rfl
  | cons byte bytes ih =>
    calc
      decode (encode (byte :: bytes)) = decode (encodeByte byte ++ encode bytes) := by
        rw [encode, List.flatMap_cons, ← encode]
      _ = byte :: decode (encode bytes) := decode_encodeByte byte (encode bytes)
      _ = byte :: bytes := by rw [ih]

/-- A lower case digit is read too, and a `%` that has no digits is left as it is. -/
example : decode "a%2b+5%".toList = "a+ 5%".toList.map fun char => UInt8.ofNat char.toNat := by
  decide

theorem encode_injective : Function.Injective encode :=
  Function.LeftInverse.injective decode_encode

theorem isWritten_encode (bytes : List UInt8) : ∀ char ∈ encode bytes, isWritten char = true := by
  intro char member
  obtain ⟨byte, -, among⟩ := List.mem_flatMap.mp member
  exact isWritten_encodeByte byte char among

end FileVerdict.Text.FormUrl
