import FileVerdict.Hashbang
import Mathlib.Data.List.Basic
import Mathlib.Data.List.TakeWhile

/-!
The version in the name of an interpreter. It begins at the first digit and goes on in groups of
digits, with a dot or without one behind each, as long as another group or such a dot follows. A name
with a digit can be cut around its version in one way only, and what is left of it is what stands on
either side; a name without one is left as it is, and so are all later versions.
-/

namespace FileVerdict.Hashbang
open FileVerdict.Text

def IsGroup (group : List Char) : Prop :=
  ∃ digits dot, group = digits ++ dot ∧ digits ≠ [] ∧ (∀ char ∈ digits, isDigit char = true) ∧
    (dot = [] ∨ dot = ['.'])

def IsVersion (version : List Char) : Prop :=
  ∃ groups, groups ≠ [] ∧ version = groups.flatten ∧ ∀ group ∈ groups, IsGroup group

structure EndsVersion (version after : List Char) : Prop where
  undigited : ∀ char, after.head? = some char → isDigit char = false
  dotted : after.head? = some '.' → version.getLast? = some '.'

/-- A token cut in three around its version. Nothing that could belong to the version stands before
it or behind it, and only a token without digits has an empty one. -/
structure Cut (token before version after : List Char) : Prop where
  whole : token = before ++ version ++ after
  plain : ∀ char ∈ before, isDigit char = false
  empty_iff : version = [] ↔ ∀ char ∈ token, isDigit char = false
  groups : version ≠ [] → IsVersion version
  ended : version ≠ [] → EndsVersion version after

theorem not_isDigit_dot : isDigit '.' = false := by decide

theorem getLast?_digits (digits : List Char) (all : ∀ char ∈ digits, isDigit char = true) :
    digits.getLast? ≠ some '.' := by
  intro dot
  have digit := all '.' (List.mem_of_getLast? dot)
  rw [not_isDigit_dot] at digit
  cases digit

/-! Passing over groups -/

theorem dropVersion_digits (dotted : Bool) (digits rest : List Char) (nonempty : digits ≠ [])
    (all : ∀ char ∈ digits, isDigit char = true) :
    dropVersion dotted (digits ++ rest) = dropVersion false rest := by
  induction digits generalizing dotted with
  | nil => exact absurd rfl nonempty
  | cons first digits ih =>
    rw [List.forall_mem_cons] at all
    rw [List.cons_append, dropVersion, if_pos all.1]
    cases digits with
    | nil => rfl
    | cons second digits => exact ih false (by simp) all.2

theorem dropVersion_group (dotted : Bool) (group rest : List Char) (isGroup : IsGroup group) :
    dropVersion dotted (group ++ rest) =
      dropVersion (decide (group.getLast? = some '.')) rest := by
  obtain ⟨digits, dot, rfl, nonempty, all, rfl | rfl⟩ := isGroup
  · have last := getLast?_digits digits all
    rw [List.append_nil, dropVersion_digits dotted digits rest nonempty all, decide_eq_false last]
  · rw [List.append_assoc, dropVersion_digits dotted digits _ nonempty all, List.getLast?_concat]
    simp [dropVersion, not_isDigit_dot]

theorem IsGroup.ne_nil {group : List Char} (isGroup : IsGroup group) : group ≠ [] := by
  obtain ⟨digits, dot, rfl, nonempty, -⟩ := isGroup
  exact List.append_ne_nil_of_left_ne_nil nonempty dot

theorem IsGroup.head {group : List Char} (isGroup : IsGroup group) :
    ∃ first rest, group = first :: rest ∧ isDigit first = true := by
  obtain ⟨digits, dot, rfl, nonempty, all, -⟩ := isGroup
  obtain ⟨first, rest, rfl⟩ := List.exists_cons_of_ne_nil nonempty
  exact ⟨first, rest ++ dot, rfl, all first List.mem_cons_self⟩

/-- Whether a dot may be passed over behind a version depends on its last character. -/
theorem dropVersion_version (dotted : Bool) (version rest : List Char)
    (isVersion : IsVersion version) : dropVersion dotted (version ++ rest) =
      dropVersion (decide (version.getLast? = some '.')) rest := by
  obtain ⟨groups, nonempty, rfl, all⟩ := isVersion
  induction groups generalizing dotted with
  | nil => exact absurd rfl nonempty
  | cons group groups ih =>
    rw [List.forall_mem_cons] at all
    rw [List.flatten_cons, List.append_assoc, dropVersion_group dotted group _ all.1]
    cases groups with
    | nil => simp
    | cons second others =>
      have more : (second :: others).flatten ≠ [] := by
        obtain ⟨nonempty, -⟩ := List.forall_mem_cons.mp all.2
        exact List.append_ne_nil_of_left_ne_nil nonempty.ne_nil _
      rw [ih _ (by simp) all.2, List.getLast?_append_of_ne_nil _ more]

theorem dropVersion_ended (version after : List Char) (ended : EndsVersion version after) :
    dropVersion (decide (version.getLast? = some '.')) after = after := by
  cases after with
  | nil => rfl
  | cons first rest =>
    rw [dropVersion, if_neg (by simp [ended.undigited first rfl]), if_neg]
    intro more
    simp only [Bool.and_eq_true, decide_eq_true_eq, Bool.not_eq_true', decide_eq_false_iff_not]
      at more
    exact more.2 (ended.dotted (congrArg some more.1))

/-! The parts of a token -/

theorem withoutVersion_eq (token : List Char) :
    withoutVersion token = (token.takeWhile fun char => !isDigit char) ++
      dropVersion false (token.dropWhile fun char => !isDigit char) := by
  rw [withoutVersion]
  cases rest : token.dropWhile fun char => !isDigit char with
  | nil => rfl
  | cons first others =>
    have digit := List.head?_dropWhile_not (fun char => !isDigit char) token
    rw [rest] at digit
    rw [dropVersion, if_pos (by simpa using digit)]

theorem withoutVersion_of_plain (token : List Char)
    (plain : ∀ char ∈ token, isDigit char = false) : withoutVersion token = token := by
  have all : ∀ char ∈ token, (!isDigit char) = true := by simpa using plain
  rw [withoutVersion_eq, List.takeWhile_eq_self_iff.mpr all, List.dropWhile_eq_nil_iff.mpr all]
  exact List.append_nil token

section
variable {token before version after : List Char} (cut : Cut token before version after)
include cut

theorem Cut.takeWhile_eq (nonempty : version ≠ []) :
    (token.takeWhile fun char => !isDigit char) = before ∧
      (token.dropWhile fun char => !isDigit char) = version ++ after := by
  obtain ⟨groups, some, rfl, all⟩ := cut.groups nonempty
  obtain ⟨group, others, rfl⟩ := List.exists_cons_of_ne_nil some
  obtain ⟨first, rest, rfl, digit⟩ := (all group List.mem_cons_self).head
  have plain : ∀ char ∈ before, (!isDigit char) = true := by simpa using cut.plain
  rw [cut.whole, List.append_assoc]
  constructor
  · rw [List.takeWhile_append_of_pos plain]
    simp [digit]
  · rw [List.dropWhile_append_of_pos plain]
    simp [digit]

theorem Cut.dropVersion_eq (nonempty : version ≠ []) :
    dropVersion false (version ++ after) = after := by
  rw [dropVersion_version false version after (cut.groups nonempty)]
  exact dropVersion_ended version after (cut.ended nonempty)

theorem Cut.withoutVersion_eq : withoutVersion token = before ++ after := by
  by_cases empty : version = []
  · rw [withoutVersion_of_plain token (cut.empty_iff.mp empty), cut.whole, empty, List.append_nil]
  · obtain ⟨left, right⟩ := cut.takeWhile_eq empty
    rw [Hashbang.withoutVersion_eq, left, right, cut.dropVersion_eq empty]

/-- The version of a token is one, and so are the parts on either side of it if it is not empty. -/
theorem Cut.unique {first middle last : List Char} (other : Cut token first middle last) :
    middle = version ∧ (version ≠ [] → first = before ∧ last = after) := by
  by_cases empty : version = []
  · exact ⟨(other.empty_iff.mpr (cut.empty_iff.mp empty)).trans empty.symm,
      fun nonempty => absurd empty nonempty⟩
  · have filled : middle ≠ [] := fun none => empty (cut.empty_iff.mpr (other.empty_iff.mp none))
    obtain ⟨left, right⟩ := cut.takeWhile_eq empty
    obtain ⟨otherLeft, otherRight⟩ := other.takeWhile_eq filled
    have afters : last = after := by
      rw [← other.dropVersion_eq filled, ← otherRight, right, cut.dropVersion_eq empty]
    have versions : middle ++ last = version ++ after := otherRight.symm.trans right
    rw [afters] at versions
    exact ⟨List.append_cancel_right versions, fun _ => ⟨otherLeft.symm.trans left, afters⟩⟩

end

/-! Every token can be cut -/

/-- A version taken group by group as long as it goes on: each group but the last ends with a dot,
and what stands behind the last one does not go on with it. -/
inductive Scans : List Char → List Char → Prop where
  | last (group after : List Char) (isGroup : IsGroup group) (ended : EndsVersion group after) :
      Scans group after
  | more (group version after : List Char) (isGroup : IsGroup group)
      (dotted : group.getLast? = some '.') (rest : Scans version after) :
      Scans (group ++ version) after

theorem Scans.isVersion {version after : List Char} (scans : Scans version after) :
    IsVersion version := by
  induction scans with
  | last group after isGroup ended => exact ⟨[group], by simp, by simp, by simpa using isGroup⟩
  | more group version after isGroup dotted rest ih =>
    obtain ⟨groups, -, rfl, all⟩ := ih
    exact ⟨group :: groups, by simp, rfl, List.forall_mem_cons.mpr ⟨isGroup, all⟩⟩

theorem Scans.ne_nil {version after : List Char} (scans : Scans version after) :
    version ≠ [] := by
  cases scans with
  | last group after isGroup ended => exact isGroup.ne_nil
  | more group version after isGroup dotted rest =>
    exact List.append_ne_nil_of_left_ne_nil isGroup.ne_nil version

theorem Scans.ended {version after : List Char} (scans : Scans version after) :
    EndsVersion version after := by
  induction scans with
  | last group after isGroup ended => exact ended
  | more group version after isGroup dotted rest ih =>
    refine ⟨ih.undigited, fun dot => ?_⟩
    rw [List.getLast?_append_of_ne_nil _ rest.ne_nil, ih.dotted dot]

theorem exists_group (text : List Char) (first : Char) (begins : text.head? = some first)
    (digit : isDigit first = true) : ∃ group rest, text = group ++ rest ∧ IsGroup group ∧
      (group.getLast? = some '.' ∨ EndsVersion group rest) := by
  have parts : text = text.takeWhile isDigit ++ text.dropWhile isDigit :=
    List.takeWhile_append_dropWhile.symm
  have all : ∀ char ∈ text.takeWhile isDigit, isDigit char = true :=
    fun char member => List.mem_takeWhile_imp member
  have nonempty : text.takeWhile isDigit ≠ [] := by
    obtain ⟨rest, rfl⟩ := List.head?_eq_some_iff.mp begins
    simp [digit]
  have stopped := List.head?_dropWhile_not isDigit text
  generalize text.takeWhile isDigit = digits at parts all nonempty
  generalize text.dropWhile isDigit = rest at parts stopped
  by_cases dot : rest.head? = some '.'
  · obtain ⟨more, rfl⟩ := List.head?_eq_some_iff.mp dot
    refine ⟨digits ++ ['.'], more, ?_, ⟨digits, ['.'], rfl, nonempty, all, .inr rfl⟩, .inl ?_⟩
    · rw [parts, List.append_assoc]
      rfl
    · exact List.getLast?_concat
  · have isGroup : IsGroup digits := ⟨digits, [], by simp, nonempty, all, .inl rfl⟩
    refine ⟨digits, rest, parts, isGroup, .inr ⟨?_, fun head => absurd head dot⟩⟩
    intro char head
    simpa [head] using stopped

/-- Groups are taken from the front as long as there is a digit to begin another one. -/
theorem exists_scan (text : List Char) (first : Char) (begins : text.head? = some first)
    (digit : isDigit first = true) : ∃ version after, text = version ++ after ∧
      Scans version after := by
  induction size : text.length using Nat.strong_induction_on generalizing text first with
  | h count ih =>
  obtain ⟨group, rest, rfl, isGroup, closed⟩ := exists_group text first begins digit
  by_cases again : ∃ char, rest.head? = some char ∧ isDigit char = true
  · obtain ⟨char, head, next⟩ := again
    have dotted : group.getLast? = some '.' := by
      refine closed.resolve_right fun ended => ?_
      have other := ended.undigited char head
      rw [next] at other
      cases other
    have filled : 0 < group.length := List.length_pos_of_ne_nil isGroup.ne_nil
    have shorter : rest.length < count := by
      rw [← size, List.length_append]
      omega
    obtain ⟨version, after, rfl, scans⟩ := ih rest.length shorter rest char head next rfl
    exact ⟨group ++ version, after, (List.append_assoc _ _ _).symm, .more _ _ _ isGroup dotted scans⟩
  · have undigited : ∀ char, rest.head? = some char → isDigit char = false :=
      fun char head => Bool.eq_false_iff.mpr fun more => again ⟨char, head, more⟩
    refine ⟨group, rest, rfl, .last _ _ isGroup ⟨undigited, fun dot => ?_⟩⟩
    exact closed.elim id fun ended => ended.dotted dot

/-- In a token with a digit, what stands from the first one on begins with the version. -/
theorem exists_cut (token : List Char) : ∃ before version after, Cut token before version after ∧
    (version ≠ [] → Scans version after) := by
  have parts : token = (token.takeWhile fun char => !isDigit char) ++
      token.dropWhile fun char => !isDigit char := List.takeWhile_append_dropWhile.symm
  have plain : ∀ char ∈ token.takeWhile fun char => !isDigit char, isDigit char = false := by
    intro char member
    simpa using List.mem_takeWhile_imp member
  have stopped := List.head?_dropWhile_not (fun char => !isDigit char) token
  generalize token.takeWhile _ = before at parts plain
  generalize token.dropWhile _ = rest at parts stopped
  cases rest with
  | nil =>
    rw [List.append_nil] at parts
    refine ⟨before, [], [], ⟨?_, plain, ?_, fun absent => absurd rfl absent,
      fun absent => absurd rfl absent⟩, fun absent => absurd rfl absent⟩
    · simpa using parts
    · simpa [parts] using plain
  | cons first rest =>
    have digit : isDigit first = true := by simpa using stopped
    obtain ⟨version, after, versions, scans⟩ := exists_scan (first :: rest) first rfl digit
    have filled : ¬∀ char ∈ token, isDigit char = false := by
      intro none
      have absent := none first (by rw [parts]; simp)
      rw [digit] at absent
      cases absent
    refine ⟨before, version, after, ⟨?_, plain, iff_of_false scans.ne_nil filled,
      fun _ => scans.isVersion, fun _ => scans.ended⟩, fun _ => scans⟩
    rw [parts, versions, List.append_assoc]

end FileVerdict.Hashbang
