import FileVerdict.Hashbang
import FileVerdict.Proofs.Text.Words

/-!
The ways to name an interpreter on a first line. It stands behind the mark by itself or below any
directory, with slashes behind it or without, or is what `env` is given, and one space may follow
the mark. Arguments behind it do not matter. All of these lines name the same interpreter.
-/

namespace FileVerdict.Hashbang
open FileVerdict.Text

/-- The first words of a line that run a command: the command by itself or below a directory, with
any number of slashes behind it. -/
inductive Runs (command : List Char) : List Char → Prop where
  | bare (slashes : Nat) : Runs command (command ++ List.replicate slashes '/')
  | below (directory : List Char) (slashes : Nat)
      (unblank : ∀ char ∈ directory, isBlank char = false) :
      Runs command (directory ++ '/' :: (command ++ List.replicate slashes '/'))

def env : List Char := ['e', 'n', 'v']

inductive Names (token : List Char) : List Char → Prop where
  | outright (gap word arguments : List Char) (narrow : gap = [] ∨ gap = [' '])
      (runs : Runs token word) (ended : EndsWord arguments) :
      Names token (mark ++ gap ++ word ++ arguments)
  | throughEnv (gap word blanks arguments : List Char) (narrow : gap = [] ∨ gap = [' '])
      (runs : Runs env word) (apart : blanks ≠ []) (blank : ∀ char ∈ blanks, isBlank char = true)
      (ended : EndsWord arguments) :
      Names token (mark ++ gap ++ word ++ blanks ++ token ++ arguments)

section
variable {command word : List Char} (runs : Runs command word)
include runs

theorem Runs.nonempty (named : command ≠ []) : word ≠ [] := by
  cases runs with
  | bare slashes => simp [named]
  | below directory slashes unblank => simp

theorem Runs.unblank (solid : ∀ char ∈ command, isBlank char = false) :
    ∀ char ∈ word, isBlank char = false := by
  have slash : ∀ count, ∀ char ∈ List.replicate count '/', isBlank char = false := by
    intro count char member
    rw [(List.mem_replicate.mp member).2]
    decide
  cases runs with
  | bare slashes => exact List.forall_mem_append.mpr ⟨solid, slash slashes⟩
  | below directory slashes unblank =>
    rw [List.forall_mem_append, List.forall_mem_cons, List.forall_mem_append]
    exact ⟨unblank, by decide, solid, slash slashes⟩

end

/-! The segment of the first word -/

def pieces (word : List Char) : List (List Char) :=
  (split '/' word).reverse.dropWhile List.isEmpty

theorem segment_eq_pieces (word : List Char) :
    segment word = match pieces word with
      | [] => []
      | [only] => if mark.isPrefixOf only then only.drop mark.length else only
      | last :: _ => last := rfl

/-- Slashes at the end count for nothing, as there is nothing behind them. -/
theorem pieces_append_slashes (word : List Char) (slashes : Nat) :
    pieces (word ++ List.replicate slashes '/') = pieces word := by
  induction slashes with
  | zero => rw [List.replicate_zero, List.append_nil]
  | succ slashes ih =>
    rw [← ih, pieces, pieces, List.replicate_succ', ← List.append_assoc, split_append_cons,
      List.reverse_append]
    rfl

theorem pieces_below (above command : List Char) (named : command ≠ [])
    (slashless : '/' ∉ command) :
    pieces (above ++ '/' :: command) = command :: (split '/' above).reverse := by
  rw [pieces, split_append_cons, split_of_not_mem _ _ slashless, List.reverse_append]
  exact List.dropWhile_cons_of_neg (by simpa using named)

theorem pieces_whole (word : List Char) (nonempty : word ≠ []) (slashless : '/' ∉ word) :
    pieces word = [word] := by
  rw [pieces, split_of_not_mem _ _ slashless]
  exact List.dropWhile_cons_of_neg (by simpa using nonempty)

theorem segment_append_slashes (word : List Char) (slashes : Nat) :
    segment (word ++ List.replicate slashes '/') = segment word := by
  rw [segment_eq_pieces, segment_eq_pieces, pieces_append_slashes]

theorem segment_below (above command : List Char) (named : command ≠ [])
    (slashless : '/' ∉ command) : segment (above ++ '/' :: command) = command := by
  obtain ⟨last, others, parts⟩ :=
    List.exists_cons_of_ne_nil (List.reverse_ne_nil_iff.mpr (split_ne_nil '/' above))
  rw [segment_eq_pieces, pieces_below above command named slashless, parts]

theorem segment_bare (command : List Char) (slashless : '/' ∉ command) :
    segment (mark ++ command) = command := by
  have whole : '/' ∉ mark ++ command := by simp [mark, slashless]
  rw [segment_eq_pieces, pieces_whole _ (by simp [mark]) whole]
  simp [mark]

theorem segment_of_runs {command word : List Char} (runs : Runs command word)
    (named : command ≠ []) (slashless : '/' ∉ command) : segment (mark ++ word) = command := by
  cases runs with
  | bare slashes =>
    rw [← List.append_assoc, segment_append_slashes, segment_bare command slashless]
  | below directory slashes unblank =>
    rw [← List.cons_append, ← List.append_assoc, ← List.append_assoc, segment_append_slashes,
      segment_below _ command named slashless]

/-! The words of the line -/

theorem behindMark?_mark (gap rest : List Char) (narrow : gap = [] ∨ gap = [' '])
    (spaceless : rest.head? ≠ some ' ') : behindMark? (mark ++ gap ++ rest) = some rest := by
  obtain rfl | rfl := narrow
  · cases rest with
    | nil => rfl
    | cons first rest =>
      have other : first ≠ ' ' := by simpa using spaceless
      simp [mark, behindMark?, other]
  · rfl

theorem interpreter?_of_words (line rest first : List Char) (others : List (List Char))
    (behind : behindMark? line = some rest) (tokens : words (mark ++ rest) = first :: others) :
    interpreter? line =
      if segment first = env then withoutVersion <$> others.head?
      else some (withoutVersion (segment first)) := by
  rw [interpreter?, behind]
  simp only [Option.bind_eq_bind, Option.bind_some, tokens, List.getElem?_cons_succ,
    List.head?_eq_getElem?]
  rfl

/-- A line with a first word behind its mark names what the last segment of that word names. -/
theorem interpreter?_of_word (gap word rest : List Char) (narrow : gap = [] ∨ gap = [' '])
    (nonempty : word ≠ []) (unblank : ∀ char ∈ word, isBlank char = false)
    (ended : EndsWord rest) :
    interpreter? (mark ++ gap ++ word ++ rest) =
      if segment (mark ++ word) = env then withoutVersion <$> (words rest).head?
      else some (withoutVersion (segment (mark ++ word))) := by
  have spaceless : (word ++ rest).head? ≠ some ' ' := by
    obtain ⟨first, others, rfl⟩ := List.exists_cons_of_ne_nil nonempty
    intro space
    have blank := unblank first List.mem_cons_self
    cases space
    exact absurd blank (by decide)
  have solid : ∀ char ∈ mark ++ word, isBlank char = false :=
    List.forall_mem_append.mpr ⟨by decide, unblank⟩
  have tokens : words (mark ++ (word ++ rest)) = (mark ++ word) :: words rest := by
    rw [← List.append_assoc]
    exact words_append _ rest (by simp [mark]) solid ended
  rw [List.append_assoc _ word rest]
  exact interpreter?_of_words _ _ _ _ (behindMark?_mark _ _ narrow spaceless) tokens

section
variable (token : List Char) (nonempty : token ≠ [])
  (unblank : ∀ char ∈ token, isBlank char = false)
include nonempty unblank

theorem interpreter?_outright (slashless : '/' ∉ token) (other : token ≠ env)
    (gap word arguments : List Char) (narrow : gap = [] ∨ gap = [' ']) (runs : Runs token word)
    (ended : EndsWord arguments) :
    interpreter? (mark ++ gap ++ word ++ arguments) = some (withoutVersion token) := by
  rw [interpreter?_of_word gap word arguments narrow (runs.nonempty nonempty)
    (runs.unblank unblank) ended, segment_of_runs runs nonempty slashless, if_neg other]

theorem interpreter?_throughEnv (gap word blanks arguments : List Char)
    (narrow : gap = [] ∨ gap = [' ']) (runs : Runs env word) (apart : blanks ≠ [])
    (blank : ∀ char ∈ blanks, isBlank char = true) (ended : EndsWord arguments) :
    interpreter? (mark ++ gap ++ word ++ blanks ++ token ++ arguments) =
      some (withoutVersion token) := by
  have parted : EndsWord (blanks ++ (token ++ arguments)) := by
    obtain ⟨first, others, rfl⟩ := List.exists_cons_of_ne_nil apart
    intro char head
    cases head
    exact blank first List.mem_cons_self
  have second : words (blanks ++ (token ++ arguments)) = token :: words arguments := by
    rw [words_blanks_append _ _ blank, words_append _ _ nonempty unblank ended]
  rw [List.append_assoc _ token arguments, List.append_assoc _ blanks,
    interpreter?_of_word gap word _ narrow (runs.nonempty (by decide))
      (runs.unblank (by decide)) parted,
    segment_of_runs runs (by decide) (by decide), if_pos rfl, second]
  rfl

end

/-- Every line that names an interpreter comes to the same, whatever the directory, the slashes, the
space behind the mark, `env` and the arguments: the answer is there and is made from the name of the
interpreter alone. -/
theorem parse_of_names (token : List Char) (nonempty : token ≠ [])
    (unblank : ∀ char ∈ token, isBlank char = false) (slashless : '/' ∉ token)
    (other : token ≠ env) (line : String) (names : Names token line.toList) :
    parse line = some (String.ofList (withoutVersion token)) := by
  have found : interpreter? line.toList = some (withoutVersion token) := by
    generalize line.toList = chars at names
    cases names with
    | outright gap word arguments narrow runs ended =>
      exact interpreter?_outright token nonempty unblank slashless other gap word arguments narrow
        runs ended
    | throughEnv gap word blanks arguments narrow runs apart blank ended =>
      exact interpreter?_throughEnv token nonempty unblank gap word blanks arguments narrow runs
        apart blank ended
  rw [parse, found, Option.map_some]

def versioned : List Char := "python2.7".toList

theorem parse_of_versioned :
    parse "#!/usr/bin/python2.7 -u" = some "python" ∧ parse "#! python2.7//" = some "python" ∧
      parse "#! /usr/bin/env \tpython2.7 -u" = some "python" := by
  have named : ∀ line : String, Names versioned line.toList → parse line = some "python" :=
    parse_of_names versioned (by decide) (by decide) (by decide) (by decide)
  have arguments : EndsWord " -u".toList := by
    intro char head
    cases head
    decide
  have below : Names versioned "#!/usr/bin/python2.7 -u".toList :=
    .outright [] _ " -u".toList (.inl rfl) (.below "/usr/bin".toList 0 (by decide)) arguments
  have bare : Names versioned "#! python2.7//".toList :=
    .outright [' '] _ [] (.inr rfl) (.bare 2) nofun
  have given : Names versioned "#! /usr/bin/env \tpython2.7 -u".toList :=
    .throughEnv [' '] _ " \t".toList " -u".toList (.inr rfl) (.below "/usr/bin".toList 0 (by decide))
      (by decide) (by decide) arguments
  exact ⟨named _ below, named _ bare, named _ given⟩

end FileVerdict.Hashbang
