import FileVerdict.Proofs.Text.Lines
import FileVerdict.Text.Encoding

/-!
Bytes read as text, one line at a time. A byte below 0x80 continues no sequence, so it ends the one
before it and leaves nothing for the bytes behind it to depend on: what stands on either side of it
is read as if it stood alone. No other byte and no piece that is no UTF-8 is read as a newline. Text
that has been encoded is read back as it was.
-/

namespace FileVerdict.Text

/-- Goes on with no byte below 0x80 and, whatever it goes on with, has a value greater than the code
of a newline. -/
structure Unfinished.Beyond (sequence : Unfinished) : Prop where
  low : 0x80 ≤ sequence.low
  value : 0x10 ≤ sequence.value * 64 + (sequence.low.toNat - 0x80)

/-- The value of a sequence with one more byte. -/
theorem Unfinished.Beyond.value_of_le {sequence : Unfinished} (beyond : sequence.Beyond)
    {byte : UInt8} (within : sequence.low ≤ byte) :
    0x10 ≤ sequence.value * 64 + (byte.toNat - 0x80) := by
  have value := beyond.value
  rw [UInt8.le_iff_toNat_le] at within
  omega

theorem Unfinished.beyond_of_positive (missing value : Nat) (high : UInt8) (positive : 0 < value) :
    Unfinished.Beyond ⟨missing, 0x80, high, value⟩ := by
  refine ⟨UInt8.le_refl _, Nat.le_add_right_of_le ?_⟩
  dsimp only
  omega

namespace Utf8Reader

/-! What has been read before makes no difference -/

def behind (reader earlier : Utf8Reader) : Utf8Reader :=
  ⟨reader.unfinished, reader.read ++ earlier.read, reader.faulty || earlier.faulty⟩

theorem behind_behind (reader later earlier : Utf8Reader) :
    (later.behind reader).behind earlier = later.behind (reader.behind earlier) := by
  simp only [behind, List.append_assoc, Bool.or_assoc]

/-- A byte that stands first in its sequence does the same behind whatever has been read. -/
theorem begin_eq_behind (reader : Utf8Reader) (byte : UInt8) :
    reader.begin byte = (start.begin byte).behind reader := by
  simp only [begin, apply_ite fun begun : Utf8Reader => begun.behind reader]
  rfl

theorem begin_behind (reader earlier : Utf8Reader) (byte : UInt8) :
    (reader.behind earlier).begin byte = (reader.begin byte).behind earlier := by
  rw [begin_eq_behind, begin_eq_behind reader, behind_behind]

theorem push_behind (reader earlier : Utf8Reader) (byte : UInt8) :
    (reader.behind earlier).push byte = (reader.push byte).behind earlier := by
  obtain ⟨unfinished, read, faulty⟩ := reader
  cases unfinished with
  | none => exact begin_behind ⟨none, read, faulty⟩ earlier byte
  | some sequence =>
    by_cases continues : sequence.low ≤ byte ∧ byte ≤ sequence.high
    · by_cases last : sequence.missing ≤ 1
      · simp [push, behind, continues, last]
      · simp [push, behind, continues, last]
    · have anew := begin_behind ⟨none, replacement :: read, true⟩ earlier byte
      simpa [push, behind, continues] using anew

theorem foldl_push_behind (reader earlier : Utf8Reader) (bytes : List UInt8) :
    bytes.foldl push (reader.behind earlier) = (bytes.foldl push reader).behind earlier := by
  induction bytes generalizing reader with
  | nil => rfl
  | cons byte bytes ih => rw [List.foldl_cons, push_behind, ih, List.foldl_cons]

theorem finish_behind (reader earlier : Utf8Reader) :
    (reader.behind earlier).finish = reader.finish.behind earlier := by
  obtain ⟨unfinished, read, faulty⟩ := reader
  cases unfinished with
  | none => rfl
  | some sequence => simp [finish, behind]

theorem start_behind (earlier : Utf8Reader) (idle : earlier.unfinished = none) :
    start.behind earlier = earlier := by
  obtain ⟨unfinished, read, faulty⟩ := earlier
  cases idle
  rfl

/-! What a byte begins -/

inductive Begun (reader : Utf8Reader) (byte : UInt8) : Utf8Reader → Prop where
  | char : Begun reader byte ⟨none, Char.ofNat byte.toNat :: reader.read, reader.faulty⟩
  | replaced : Begun reader byte ⟨none, replacement :: reader.read, true⟩
  | opened (sequence : Unfinished) (beyond : sequence.Beyond) :
    Begun reader byte ⟨some sequence, reader.read, reader.faulty⟩

theorem toNat_sub_pos {byte base : UInt8} (least : ¬byte < base) (other : byte ≠ base) :
    0 < (byte - base).toNat := by
  rw [UInt8.not_lt] at least
  have codes : byte.toNat ≠ base.toNat := fun same => other (UInt8.toNat_inj.mp same)
  rw [UInt8.toNat_sub_of_le _ _ least]
  rw [UInt8.le_iff_toNat_le] at least
  omega

/-- The bits of a first byte are not all zero, save in two that bound the second byte instead. -/
theorem begun_begin (reader : Utf8Reader) (byte : UInt8) :
    Begun reader byte (reader.begin byte) := by
  rw [begin]
  refine iteInduction (fun _ => .char) fun ascii => ?_
  refine iteInduction (fun _ => .replaced) fun tail => ?_
  refine iteInduction (fun _ => ?_) fun two => ?_
  · have bits : 0 < (byte - 0xC0).toNat := by
      apply toNat_sub_pos
      · exact fun less => tail (UInt8.lt_trans less (by decide))
      · rintro rfl
        exact tail (by decide)
    exact .opened _ (Unfinished.beyond_of_positive _ _ _ bits)
  refine iteInduction (fun _ => .opened _ ⟨by decide, by decide⟩) fun least => ?_
  refine iteInduction (fun _ => .opened _ ⟨by decide, by decide⟩) fun surrogate => ?_
  refine iteInduction (fun _ => ?_) fun three => ?_
  · have bits := toNat_sub_pos two least
    exact .opened _ (Unfinished.beyond_of_positive _ _ _ bits)
  refine iteInduction (fun _ => .opened _ ⟨by decide, by decide⟩) fun least => ?_
  refine iteInduction (fun _ => ?_) fun four => ?_
  · have bits := toNat_sub_pos three least
    exact .opened _ (Unfinished.beyond_of_positive _ _ _ bits)
  exact iteInduction (fun _ => .opened _ ⟨by decide, by decide⟩) fun _ => .replaced

/-! What a sequence may go on with -/

/-- Whether nothing is unfinished but what may be. -/
def Beyond (reader : Utf8Reader) : Prop :=
  ∀ sequence, reader.unfinished = some sequence → sequence.Beyond

theorem beyond_begin (reader : Utf8Reader) (byte : UInt8) : (reader.begin byte).Beyond := by
  have begun := begun_begin reader byte
  generalize reader.begin byte = next at begun
  cases begun with
  | char => exact nofun
  | replaced => exact nofun
  | opened sequence beyond =>
    intro other same
    cases same
    exact beyond

theorem beyond_push (reader : Utf8Reader) (byte : UInt8) (beyond : reader.Beyond) :
    (reader.push byte).Beyond := by
  obtain ⟨unfinished, read, faulty⟩ := reader
  cases unfinished with
  | none => exact beyond_begin _ byte
  | some sequence =>
    by_cases continues : sequence.low ≤ byte ∧ byte ≤ sequence.high
    · have value := (beyond sequence rfl).value_of_le continues.1
      intro next
      simp only [push, if_pos continues]
      split
      · exact nofun
      · intro same
        cases same
        exact Unfinished.beyond_of_positive _ _ _ (by omega)
    · simp only [push, if_neg continues]
      exact beyond_begin _ byte

theorem beyond_foldl (bytes : List UInt8) (reader : Utf8Reader) (beyond : reader.Beyond) :
    (bytes.foldl push reader).Beyond := by
  induction bytes generalizing reader with
  | nil => exact beyond
  | cons byte bytes ih => exact ih _ (beyond_push reader byte beyond)

theorem push_ascii (reader : Utf8Reader) (byte : UInt8) (ascii : byte < 0x80)
    (beyond : reader.Beyond) : reader.push byte = reader.finish.begin byte := by
  obtain ⟨unfinished, read, faulty⟩ := reader
  cases unfinished with
  | none => rfl
  | some sequence =>
    have breaks : ¬(sequence.low ≤ byte ∧ byte ≤ sequence.high) := by
      intro continues
      have low := UInt8.le_trans (beyond sequence rfl).low continues.1
      exact UInt8.lt_irrefl byte (UInt8.lt_of_lt_of_le ascii low)
    simp only [push, if_neg breaks, finish]

/-- What stands on either side of a byte below 0x80 is read as if it stood alone. -/
theorem readAll_append_ascii (first rest : List UInt8) (byte : UInt8) (ascii : byte < 0x80) :
    readAll (first ++ byte :: rest) = (readAll rest).behind ((readAll first).begin byte) := by
  have beyond : (first.foldl push start).Beyond := beyond_foldl first start nofun
  have idle : ((readAll first).begin byte).unfinished = none := by
    rw [begin, if_pos ascii]
  calc readAll (first ++ byte :: rest)
    _ = (rest.foldl push ((readAll first).begin byte)).finish := by
      rw [readAll, List.foldl_append, List.foldl_cons, push_ascii _ byte ascii beyond, readAll]
    _ = (rest.foldl push (start.behind ((readAll first).begin byte))).finish := by
      rw [start_behind _ idle]
    _ = (readAll rest).behind ((readAll first).begin byte) := by
      rw [foldl_push_behind, finish_behind, ← readAll]

/-! Newlines are read from newlines only -/

theorem ofNat_ne_newline (code : Nat) (other : code ≠ 0x0A) : Char.ofNat code ≠ '\n' := by
  by_cases valid : code.isValidChar
  · rw [Char.ofNat, dif_pos valid]
    intro same
    have codes : code = 0x0A := congrArg Char.toNat same
    exact other codes
  · rw [Char.ofNat, dif_neg valid]
    decide

theorem newline_ne_replacement : '\n' ≠ replacement := by decide

theorem newline_not_mem_begin (reader : Utf8Reader) (byte : UInt8) (other : byte ≠ 0x0A)
    (clean : '\n' ∉ reader.read) : '\n' ∉ (reader.begin byte).read := by
  have code : byte.toNat ≠ 0x0A := fun same => other (UInt8.toNat_inj.mp same)
  have begun := begun_begin reader byte
  generalize reader.begin byte = next at begun
  cases begun with
  | char => exact List.not_mem_cons_of_ne_of_not_mem (ofNat_ne_newline _ code).symm clean
  | replaced => exact List.not_mem_cons_of_ne_of_not_mem newline_ne_replacement clean
  | opened sequence beyond => exact clean

theorem newline_not_mem_push (reader : Utf8Reader) (byte : UInt8) (beyond : reader.Beyond)
    (other : byte ≠ 0x0A) (clean : '\n' ∉ reader.read) : '\n' ∉ (reader.push byte).read := by
  obtain ⟨unfinished, read, faulty⟩ := reader
  cases unfinished with
  | none => exact newline_not_mem_begin _ byte other clean
  | some sequence =>
    by_cases continues : sequence.low ≤ byte ∧ byte ≤ sequence.high
    · have greater := (beyond sequence rfl).value_of_le continues.1
      have char : '\n' ≠ Char.ofNat (sequence.value * 64 + (byte.toNat - 0x80)) :=
        (ofNat_ne_newline _ (by omega)).symm
      simp only [push, if_pos continues]
      split
      · exact List.not_mem_cons_of_ne_of_not_mem char clean
      · exact clean
    · simp only [push, if_neg continues]
      exact newline_not_mem_begin _ byte other
        (List.not_mem_cons_of_ne_of_not_mem newline_ne_replacement clean)

theorem newline_not_mem_foldl (bytes : List UInt8) (reader : Utf8Reader) (beyond : reader.Beyond)
    (absent : 0x0A ∉ bytes) (clean : '\n' ∉ reader.read) :
    '\n' ∉ (bytes.foldl push reader).read := by
  induction bytes generalizing reader with
  | nil => exact clean
  | cons byte bytes ih =>
    have other : byte ≠ 0x0A := fun same => absent (same ▸ List.mem_cons_self)
    exact ih _ (beyond_push reader byte beyond) (fun later => absent (List.mem_cons_of_mem _ later))
      (newline_not_mem_push reader byte beyond other clean)

/-! The bytes of a character -/

theorem begin_two : ∀ lead < 32, 2 ≤ lead →
    start.begin (UInt8.ofNat (lead + 192)) = ⟨some ⟨1, 0x80, 0xBF, lead⟩, [], false⟩ := by
  decide

theorem begin_three : ∀ lead < 16, start.begin (UInt8.ofNat (lead + 224)) =
    ⟨some ⟨2, if lead = 0 then 0xA0 else 0x80, if lead = 13 then 0x9F else 0xBF, lead⟩, [],
      false⟩ := by
  decide

theorem begin_four : ∀ lead < 5, start.begin (UInt8.ofNat (lead + 240)) =
    ⟨some ⟨3, if lead = 0 then 0x90 else 0x80, if lead = 4 then 0x8F else 0xBF, lead⟩, [],
      false⟩ := by
  decide

/-- A byte within the bounds brings six bits. -/
theorem push_within (missing value digit : Nat) (low high : UInt8) (small : digit < 64)
    (above : low.toNat ≤ digit + 128) (below : digit + 128 ≤ high.toNat) :
    push ⟨some ⟨missing, low, high, value⟩, [], false⟩ (UInt8.ofNat (digit + 128)) =
      if missing ≤ 1 then ⟨none, [Char.ofNat (value * 64 + digit)], false⟩
      else ⟨some ⟨missing - 1, 0x80, 0xBF, value * 64 + digit⟩, [], false⟩ := by
  have code : (UInt8.ofNat (digit + 128)).toNat = digit + 128 :=
    UInt8.toNat_ofNat_of_lt' (by simp only [UInt8.size]; omega)
  have continues : low ≤ UInt8.ofNat (digit + 128) ∧ UInt8.ofNat (digit + 128) ≤ high := by
    rw [UInt8.le_iff_toNat_le, UInt8.le_iff_toNat_le, code]
    exact ⟨above, below⟩
  simp only [push, if_pos continues, code, Nat.add_sub_cancel]

/-- Behind the second byte any tail will do. -/
theorem push_tail (missing value digit : Nat) (small : digit < 64) :
    push ⟨some ⟨missing, 0x80, 0xBF, value⟩, [], false⟩ (UInt8.ofNat (digit + 128)) =
      if missing ≤ 1 then ⟨none, [Char.ofNat (value * 64 + digit)], false⟩
      else ⟨some ⟨missing - 1, 0x80, 0xBF, value * 64 + digit⟩, [], false⟩ := by
  apply push_within missing value digit 0x80 0xBF small
  · exact Nat.le_add_left 128 digit
  · exact Nat.add_le_add_right (Nat.le_of_lt_succ small) 128

section
variable (code : Nat)

theorem foldl_push_one (small : code < 0x80) :
    [UInt8.ofNat code].foldl push start = ⟨none, [Char.ofNat code], false⟩ := by
  have byte : (UInt8.ofNat code).toNat = code :=
    UInt8.toNat_ofNat_of_lt' (by simp only [UInt8.size]; omega)
  have ascii : UInt8.ofNat code < 0x80 := by
    rw [UInt8.lt_iff_toNat_lt, byte]
    exact small
  rw [List.foldl_cons, List.foldl_nil]
  simp only [push, start, begin, if_pos ascii, byte]

theorem foldl_push_two (large : 0x80 ≤ code) (small : code < 0x800) :
    [UInt8.ofNat (code / 64 % 32 + 192), UInt8.ofNat (code % 64 + 128)].foldl push start =
      ⟨none, [Char.ofNat code], false⟩ := by
  have value : code / 64 % 32 * 64 + code % 64 = code := by omega
  rw [List.foldl_cons, List.foldl_cons, List.foldl_nil]
  show push (start.begin _) _ = _
  rw [begin_two _ (by omega) (by omega), push_tail _ _ _ (by omega), value]
  rfl

/-- Below 0x800 there are fewer bytes, and between 0xD800 and 0xDFFF no characters; the bounds of
the second byte keep both out. -/
theorem foldl_push_three (large : 0x800 ≤ code) (small : code < 0x10000)
    (scalar : code < 0xD800 ∨ 0xDFFF < code) :
    [UInt8.ofNat (code / 4096 % 16 + 224), UInt8.ofNat (code / 64 % 64 + 128),
      UInt8.ofNat (code % 64 + 128)].foldl push start = ⟨none, [Char.ofNat code], false⟩ := by
  have value : (code / 4096 % 16 * 64 + code / 64 % 64) * 64 + code % 64 = code := by omega
  rw [List.foldl_cons, List.foldl_cons, List.foldl_cons, List.foldl_nil]
  show push (push (start.begin _) _) _ = _
  rw [begin_three _ (by omega), push_within _ _ _ _ _ (by omega), if_neg (by decide),
    push_tail _ _ _ (by omega), value]
  · rfl
  · split <;> simp only [UInt8.reduceToNat] <;> omega
  · split <;> simp only [UInt8.reduceToNat] <;> omega

theorem foldl_push_four (large : 0x10000 ≤ code) (small : code < 0x110000) :
    [UInt8.ofNat (code / 262144 % 8 + 240), UInt8.ofNat (code / 4096 % 64 + 128),
      UInt8.ofNat (code / 64 % 64 + 128), UInt8.ofNat (code % 64 + 128)].foldl push start =
      ⟨none, [Char.ofNat code], false⟩ := by
  have value : ((code / 262144 % 8 * 64 + code / 4096 % 64) * 64 + code / 64 % 64) * 64 +
      code % 64 = code := by omega
  rw [List.foldl_cons, List.foldl_cons, List.foldl_cons, List.foldl_cons, List.foldl_nil]
  show push (push (push (start.begin _) _) _) _ = _
  rw [begin_four _ (by omega), push_within _ _ _ _ _ (by omega), if_neg (by decide),
    push_tail _ _ _ (by omega), if_neg (by decide), push_tail _ _ _ (by omega), value]
  · rfl
  · split <;> simp only [UInt8.reduceToNat] <;> omega
  · split <;> simp only [UInt8.reduceToNat] <;> omega

end

theorem foldl_push_encodeChar (char : Char) :
    (String.utf8EncodeChar char).foldl push start = ⟨none, [char], false⟩ := by
  have valid : char.val.toNat < 0xD800 ∨ 0xDFFF < char.val.toNat ∧ char.val.toNat < 0x110000 :=
    char.valid
  have back : Char.ofNat char.val.toNat = char := Char.ofNat_toNat char
  rw [String.utf8EncodeChar]
  generalize char.val.toNat = code at valid back
  subst back
  split
  · exact foldl_push_one code (by omega)
  split
  · exact foldl_push_two code (by omega) (by omega)
  split
  · exact foldl_push_three code (by omega) (by omega) (by omega)
  · exact foldl_push_four code (by omega) (by omega)

theorem foldl_push_encode (text : List Char) :
    (encode text).foldl push start = ⟨none, text.reverse, false⟩ := by
  induction text with
  | nil => rfl
  | cons char text ih =>
    have split : encode (char :: text) = String.utf8EncodeChar char ++ encode text := rfl
    rw [split, List.foldl_append, foldl_push_encodeChar, ← start_behind ⟨none, [char], false⟩ rfl,
      foldl_push_behind, ih, List.reverse_cons]
    rfl

end Utf8Reader

/-! The text of bytes -/

theorem decodeLossy_append_ascii (first rest : List UInt8) (byte : UInt8) (ascii : byte < 0x80) :
    decodeLossy (first ++ byte :: rest) =
      decodeLossy first ++ Char.ofNat byte.toNat :: decodeLossy rest := by
  have read : ((Utf8Reader.readAll first).begin byte).read =
      Char.ofNat byte.toNat :: (Utf8Reader.readAll first).read := by
    rw [Utf8Reader.begin, if_pos ascii]
  rw [decodeLossy, Utf8Reader.readAll_append_ascii first rest byte ascii, Utf8Reader.behind, read,
    List.reverse_append, List.reverse_cons, List.append_assoc]
  rfl

theorem newline_not_mem_decodeLossy (bytes : List UInt8) (absent : 0x0A ∉ bytes) :
    '\n' ∉ decodeLossy bytes := by
  have clean : '\n' ∉ (bytes.foldl Utf8Reader.push .start).read :=
    Utf8Reader.newline_not_mem_foldl bytes .start nofun absent List.not_mem_nil
  rw [decodeLossy, List.mem_reverse, Utf8Reader.readAll]
  generalize bytes.foldl Utf8Reader.push .start = reader at clean
  obtain ⟨unfinished, read, faulty⟩ := reader
  cases unfinished with
  | none => exact clean
  | some sequence => exact List.not_mem_cons_of_ne_of_not_mem Utf8Reader.newline_ne_replacement clean

theorem decodeLossy_intercalate (pieces : List (List UInt8)) :
    decodeLossy ([0x0A].intercalate pieces) = ['\n'].intercalate (pieces.map decodeLossy) := by
  induction pieces with
  | nil => rfl
  | cons piece pieces ih =>
    by_cases last : pieces = []
    · rw [last, List.intercalate_singleton, List.map_singleton, List.intercalate_singleton]
    · rw [List.map_cons, List.intercalate_cons_of_ne_nil last, List.intercalate_cons_of_ne_nil
        (mt List.map_eq_nil_iff.mp last), ← ih, List.append_assoc, List.append_assoc]
      exact decodeLossy_append_ascii piece _ 0x0A (by decide)

/-- Read and then cut at newlines, bytes give the same lines as cut and then read. -/
theorem split_decodeLossy (bytes : List UInt8) :
    split '\n' (decodeLossy bytes) = (split 0x0A bytes).map decodeLossy := by
  have pieces : (split 0x0A bytes).map decodeLossy ≠ [] :=
    mt List.map_eq_nil_iff.mp (split_ne_nil 0x0A bytes)
  have clean : ∀ piece ∈ (split 0x0A bytes).map decodeLossy, '\n' ∉ piece := by
    rw [List.forall_mem_map]
    exact fun piece member =>
      newline_not_mem_decodeLossy piece (not_mem_of_mem_split 0x0A bytes piece member)
  calc split '\n' (decodeLossy bytes)
    _ = split '\n' (decodeLossy ([0x0A].intercalate (split 0x0A bytes))) := by
      rw [intercalate_split]
    _ = split '\n' (['\n'].intercalate ((split 0x0A bytes).map decodeLossy)) := by
      rw [decodeLossy_intercalate]
    _ = (split 0x0A bytes).map decodeLossy := split_intercalate '\n' _ pieces clean

theorem decodeLossy_encode (text : List Char) : decodeLossy (encode text) = text := by
  rw [decodeLossy, Utf8Reader.readAll, Utf8Reader.foldl_push_encode]
  exact List.reverse_reverse text

theorem encode_injective : Function.Injective encode :=
  Function.LeftInverse.injective decodeLossy_encode

end FileVerdict.Text
