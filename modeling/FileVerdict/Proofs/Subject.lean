import FileVerdict.Hashbang
import FileVerdict.Proofs.Text.Utf8

/-!
The lines of a file and its first line are read in two ways: the lines by reading all of its bytes
and cutting the text, the first line by cutting the bytes and reading what is left of them. Both
come to the same, whether the bytes are UTF-8 or not, and no newline is lost or made up on the way.
-/

namespace FileVerdict
open FileVerdict.Text

namespace Subject

variable (subject : Subject) (bytes : List UInt8) (loaded : subject.data = some bytes)
  (nonempty : bytes ≠ [])
include loaded nonempty

theorem lines_eq_split : subject.lines = split '\n' (decodeLossy bytes) := by
  rw [lines, loaded]
  cases bytes with
  | nil => exact absurd rfl nonempty
  | cons => rfl

theorem lines_eq_map : subject.lines = (bytes.splitOn 0x0A).map decodeLossy := by
  rw [subject.lines_eq_split bytes loaded nonempty, split_decodeLossy, split_eq_splitOn]

theorem lineCount_eq_count : subject.lineCount = bytes.count 0x0A + 1 := by
  rw [lineCount, subject.lines_eq_split bytes loaded nonempty, split_decodeLossy, List.length_map,
    split, length_splitWhere]
  rfl

theorem head?_lines : subject.lines.head? = some (Hashbang.firstLine bytes).toList := by
  rw [subject.lines_eq_split bytes loaded nonempty, split_decodeLossy, List.head?_map, split,
    head?_splitWhere, Hashbang.firstLine, String.toList_ofList]
  rfl

theorem ofSubject_eq_head? (traits : Traits) (text : traits.isText = true)
    (small : traits.isLarge = false) :
    Hashbang.ofSubject subject traits =
      subject.lines.head?.bind fun line => Hashbang.parse (String.ofList line) := by
  rw [Hashbang.ofSubject, text, small, loaded, subject.head?_lines bytes loaded nonempty,
    Option.bind_some, Option.bind_some, String.ofList_toList]
  rfl

theorem intercalate_lines : ['\n'].intercalate subject.lines = decodeLossy bytes := by
  rw [subject.lines_eq_split bytes loaded nonempty, intercalate_split]

/-- Joined again, the lines give back the bytes of every text, and of nothing else. -/
theorem encode_lines :
    encode (['\n'].intercalate subject.lines) = bytes ↔ ∃ text, encode text = bytes := by
  rw [subject.intercalate_lines bytes loaded nonempty]
  constructor
  · exact fun same => ⟨_, same⟩
  · rintro ⟨text, rfl⟩
    rw [decodeLossy_encode]

/-- Reading whole and then cutting is cutting and then reading each piece. So there is one line more
than there are newlines, the first one is the line that a script is told by, and joining the lines
gives the bytes back just where they are the bytes of some text. -/
theorem lines_of_bytes :
    subject.lines = (bytes.splitOn 0x0A).map decodeLossy ∧
      subject.lineCount = bytes.count 0x0A + 1 ∧
      subject.lines.head? = some (Hashbang.firstLine bytes).toList ∧
      (∀ traits : Traits, traits.isText = true → traits.isLarge = false →
        Hashbang.ofSubject subject traits =
          subject.lines.head?.bind fun line => Hashbang.parse (String.ofList line)) ∧
      (encode (['\n'].intercalate subject.lines) = bytes ↔ ∃ text, encode text = bytes) :=
  ⟨subject.lines_eq_map bytes loaded nonempty, subject.lineCount_eq_count bytes loaded nonempty,
    subject.head?_lines bytes loaded nonempty, subject.ofSubject_eq_head? bytes loaded nonempty,
    subject.encode_lines bytes loaded nonempty⟩

end Subject

/-- A script that breaks off in the middle of a sequence before its first newline, and has half of a
surrogate pair before its second one and a slash in two bytes behind it. -/
def brokenScript : List UInt8 :=
  encode "#!sh".toList ++ [0xE2, 0x82, 0x0A, 0xED, 0xA0, 0x80, 0x0A, 0xC0, 0xAF]

namespace Subject

theorem lines_of_brokenScript :
    (loaded "run" brokenScript).lines =
        ["#!sh".toList ++ [replacement], List.replicate 3 replacement,
          List.replicate 2 replacement] ∧
      (loaded "run" brokenScript).lineCount = 3 ∧
      Hashbang.ofSubject (loaded "run" brokenScript) ⟨true, false, false, false, false⟩ =
        some (String.ofList ("sh".toList ++ [replacement])) := by
  obtain ⟨lines, count, first, script, -⟩ :=
    lines_of_bytes (loaded "run" brokenScript) brokenScript rfl (by decide)
  rw [lines] at script
  rw [lines, count, script _ rfl rfl]
  decide

end Subject

end FileVerdict
