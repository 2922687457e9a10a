import FileVerdict.Proofs.Hashbang.Spelling
import FileVerdict.Proofs.Hashbang.VersionPattern
import Mathlib.Data.List.DropRight

/-!
The word that a first line selects. Of a line with the mark the first word names a command, and where
that is `env` the second word is selected in its place. Behind the mark there is always a first word;
it has a piece that counts, and a single one begins with the mark. So a line comes to nothing only if
it has no mark or if `env` is given no word. The answer is the word that is selected, with its version
cut out.
-/

namespace FileVerdict.Hashbang
open FileVerdict.Text

def squeezed (line : List Char) : List Char :=
  if mark ++ [' '] <+: line then mark ++ line.drop 3 else line

/-- What a first word names: without the slashes at its end, what stands behind its last slash, or
behind the mark if there is no slash. -/
def commandOf (word : List Char) : List Char :=
  let body := word.rdropWhile fun char => char = '/'
  if '/' ∈ body then body.rtakeWhile fun char => char != '/' else body.drop mark.length

/-- The word that a line selects: what its first word names or, if that is `env`, the second one. -/
inductive Selects (line : List Char) : List Char → Prop where
  | outright (first : List Char) (others : List (List Char)) (marked : mark <+: line)
      (tokens : words (squeezed line) = first :: others) (other : commandOf first ≠ env) :
      Selects line (commandOf first)
  | throughEnv (first token : List Char) (others : List (List Char)) (marked : mark <+: line)
      (tokens : words (squeezed line) = first :: token :: others)
      (command : commandOf first = env) : Selects line token

/-! The segment of the first word -/

theorem rdropWhile_marked (tail : List Char) :
    ((mark ++ tail).rdropWhile fun char => char = '/') =
      mark ++ tail.rdropWhile fun char => char = '/' := by
  rw [List.rdropWhile, List.rdropWhile, List.reverse_append, List.dropWhile_append]
  split
  · next none =>
    rw [List.isEmpty_iff.mp none]
    decide
  · rw [List.reverse_append, List.reverse_reverse]

theorem exists_slashes (word : List Char) : ∃ slashes,
    (word.rdropWhile fun char => char = '/') ++ List.replicate slashes '/' = word := by
  refine ⟨(word.rtakeWhile fun char => char = '/').length, ?_⟩
  have all : ∀ char ∈ word.rtakeWhile fun char => char = '/', char = '/' := by
    intro char member
    have passed := List.mem_rtakeWhile_imp member
    simpa using passed
  rw [← List.eq_replicate_of_mem all]
  exact List.rdropWhile_append_rtakeWhile

theorem exists_above (body : List Char) (inside : '/' ∈ body) : ∃ above,
    above ++ '/' :: (body.rtakeWhile fun char => char != '/') = body := by
  obtain ⟨above, below, rfl, last⟩ := exists_last inside
  exact ⟨above, by rw [rtakeWhile_last above below last]⟩

/-- What stands behind the last slash that is not at the end is a piece, and not the only one. -/
theorem pieces_of_slash (word : List Char)
    (inside : '/' ∈ word.rdropWhile fun char => char = '/') :
    ∃ above, pieces word = commandOf word :: (split '/' above).reverse := by
  obtain ⟨slashes, whole⟩ := exists_slashes word
  obtain ⟨above, parts⟩ := exists_above _ inside
  have command : commandOf word =
      (word.rdropWhile fun char => char = '/').rtakeWhile fun char => char != '/' := if_pos inside
  rw [← command] at parts
  have named : commandOf word ≠ [] := by
    intro empty
    rw [empty] at parts
    have nonempty : (word.rdropWhile fun char => char = '/') ≠ [] := List.ne_nil_of_mem inside
    have last := List.rdropWhile_last_not _ word nonempty
    simp [← parts] at last
  have slashless : '/' ∉ commandOf word := by
    rw [command]
    intro member
    exact absurd (List.mem_rtakeWhile_imp member) (by decide)
  refine ⟨above, ?_⟩
  conv_lhs => rw [← whole, pieces_append_slashes, ← parts]
  exact pieces_below above _ named slashless

/-- Where there is no such slash, the only piece still has its mark. -/
theorem pieces_of_whole (tail : List Char)
    (slashless : '/' ∉ (mark ++ tail).rdropWhile fun char => char = '/') :
    pieces (mark ++ tail) = [mark ++ commandOf (mark ++ tail)] := by
  obtain ⟨slashes, whole⟩ := exists_slashes (mark ++ tail)
  have command : mark ++ commandOf (mark ++ tail) =
      (mark ++ tail).rdropWhile fun char => char = '/' := by
    have dropped : commandOf (mark ++ tail) =
        ((mark ++ tail).rdropWhile fun char => char = '/').drop mark.length := if_neg slashless
    rw [dropped, rdropWhile_marked, List.drop_left]
  rw [← command] at whole slashless
  conv_lhs => rw [← whole, pieces_append_slashes]
  exact pieces_whole _ (by simp [mark]) slashless

theorem segment_eq_commandOf (tail : List Char) :
    segment (mark ++ tail) = commandOf (mark ++ tail) := by
  rw [segment_eq_pieces]
  by_cases inside : '/' ∈ (mark ++ tail).rdropWhile fun char => char = '/'
  · obtain ⟨above, parts⟩ := pieces_of_slash _ inside
    obtain ⟨last, others, more⟩ :=
      List.exists_cons_of_ne_nil (List.reverse_ne_nil_iff.mpr (split_ne_nil '/' above))
    rw [parts, more]
  · rw [pieces_of_whole tail inside]
    simp [mark]

/-- However short a first word is, it has a piece that counts, and a single one begins with the
mark. -/
theorem exists_pieces (tail : List Char) : ∃ last above,
    pieces (mark ++ tail) = last :: above ∧ (above = [] → mark <+: last) := by
  by_cases inside : '/' ∈ (mark ++ tail).rdropWhile fun char => char = '/'
  · obtain ⟨above, parts⟩ := pieces_of_slash _ inside
    refine ⟨_, _, parts, fun none => ?_⟩
    exact absurd (List.reverse_eq_nil_iff.mp none) (split_ne_nil '/' above)
  · exact ⟨_, _, pieces_of_whole tail inside, fun _ => List.prefix_append mark _⟩

/-! The words of the line -/

theorem behindMark?_eq (line : List Char) :
    behindMark? line = if mark <+: line then some ((squeezed line).drop mark.length) else none := by
  unfold behindMark?
  split
  · simp [mark, squeezed]
  · next rest spaceless =>
    have narrow : ¬[' '] <+: rest := by
      rintro ⟨others, rfl⟩
      exact spaceless others rfl
    simp [mark, squeezed, narrow]
  · next unmarked =>
    rw [if_neg]
    rintro ⟨rest, rfl⟩
    exact unmarked rest rfl

theorem exists_squeezed (line : List Char) (marked : mark <+: line) :
    ∃ rest, squeezed line = mark ++ rest := by
  rw [squeezed]
  split
  · exact ⟨_, rfl⟩
  · obtain ⟨rest, rfl⟩ := marked
    exact ⟨rest, rfl⟩

theorem words_marked (rest : List Char) : words (mark ++ rest) =
    (mark ++ rest.takeWhile fun char => !isBlank char) ::
      words (rest.dropWhile fun char => !isBlank char) := by
  have solid : ∀ char ∈ mark ++ rest.takeWhile fun char => !isBlank char, isBlank char = false := by
    rw [List.forall_mem_append]
    refine ⟨by decide, fun char member => ?_⟩
    simpa using List.mem_takeWhile_imp member
  have ended : EndsWord (rest.dropWhile fun char => !isBlank char) := by
    intro char head
    have stops := List.head?_dropWhile_not (fun char => !isBlank char) rest
    rw [head] at stops
    simpa using stops
  rw [← words_append _ _ (by simp [mark]) solid ended, List.append_assoc,
    List.takeWhile_append_dropWhile]

theorem exists_words (line : List Char) (marked : mark <+: line) :
    ∃ tail others, words (squeezed line) = (mark ++ tail) :: others := by
  obtain ⟨rest, behind⟩ := exists_squeezed line marked
  rw [behind]
  exact ⟨_, _, words_marked rest⟩

theorem interpreter?_of_first (line tail : List Char) (others : List (List Char))
    (marked : mark <+: line) (tokens : words (squeezed line) = (mark ++ tail) :: others) :
    interpreter? line =
      if commandOf (mark ++ tail) = env then withoutVersion <$> others.head?
      else some (withoutVersion (commandOf (mark ++ tail))) := by
  obtain ⟨rest, squeezed⟩ := exists_squeezed line marked
  have behind : behindMark? line = some rest := by
    rw [behindMark?_eq, if_pos marked, squeezed, List.drop_left]
  rw [squeezed] at tokens
  rw [interpreter?_of_words line rest _ others behind tokens, segment_eq_commandOf]

theorem interpreter?_of_selects {line token : List Char} (selects : Selects line token) :
    interpreter? line = some (withoutVersion token) := by
  cases selects with
  | outright first others marked tokens other =>
    obtain ⟨tail, more, words⟩ := exists_words line marked
    obtain ⟨rfl, rfl⟩ := List.cons_eq_cons.mp (tokens.symm.trans words)
    rw [interpreter?_of_first line tail others marked tokens, if_neg other]
  | throughEnv first _ others marked tokens command =>
    obtain ⟨tail, more, words⟩ := exists_words line marked
    obtain ⟨rfl, rfl⟩ := List.cons_eq_cons.mp (tokens.symm.trans words)
    rw [interpreter?_of_first line tail _ marked tokens, if_pos command]
    rfl

theorem interpreter?_of_env (line first : List Char) (marked : mark <+: line)
    (alone : words (squeezed line) = [first]) (command : commandOf first = env) :
    interpreter? line = none := by
  obtain ⟨tail, others, words⟩ := exists_words line marked
  obtain ⟨rfl, rfl⟩ := List.cons_eq_cons.mp (alone.symm.trans words)
  rw [interpreter?_of_first line tail [] marked alone, if_pos command]
  rfl

/-- A line with its mark selects a word, unless all that it has is the name of `env`. -/
theorem selects_or_env (line : List Char) (marked : mark <+: line) :
    (∃ token, Selects line token) ∨
      ∃ first, words (squeezed line) = [first] ∧ commandOf first = env := by
  obtain ⟨tail, others, tokens⟩ := exists_words line marked
  by_cases command : commandOf (mark ++ tail) = env
  · cases others with
    | nil => exact .inr ⟨_, tokens, command⟩
    | cons token others => exact .inl ⟨token, .throughEnv _ token others marked tokens command⟩
  · exact .inl ⟨_, .outright _ others marked tokens command⟩

theorem interpreter?_of_unmarked (line : List Char) (unmarked : ¬mark <+: line) :
    interpreter? line = none := by
  rw [interpreter?, behindMark?_eq, if_neg unmarked]
  rfl

theorem interpreter?_eq_none_iff (line : List Char) :
    interpreter? line = none ↔
      ¬mark <+: line ∨ ∃ first, words (squeezed line) = [first] ∧ commandOf first = env := by
  by_cases marked : mark <+: line
  · constructor
    · intro nothing
      obtain ⟨token, selects⟩ | idle := selects_or_env line marked
      · rw [interpreter?_of_selects selects] at nothing
        cases nothing
      · exact .inr idle
    · intro given
      obtain ⟨first, alone, command⟩ := given.resolve_left (not_not_intro marked)
      exact interpreter?_of_env line first marked alone command
  · exact iff_of_true (interpreter?_of_unmarked line marked) (.inl marked)

theorem selects_of_interpreter? (line script : List Char) (found : interpreter? line = some script) :
    ∃ token, Selects line token ∧ script = withoutVersion token := by
  have marked : mark <+: line := by
    by_contra unmarked
    rw [interpreter?_of_unmarked line unmarked] at found
    cases found
  obtain ⟨token, selects⟩ | ⟨first, alone, command⟩ := selects_or_env line marked
  · rw [interpreter?_of_selects selects] at found
    exact ⟨token, selects, (Option.some.inj found).symm⟩
  · rw [interpreter?_of_env line first marked alone command] at found
    cases found

/-! Blanks -/

theorem unblank_of_mem_words (text : List Char) :
    ∀ word ∈ words text, ∀ char ∈ word, isBlank char = false :=
  fun word member => not_cut_of_mem_splitWhere isBlank text word (List.mem_of_mem_filter member)

theorem commandOf_subset (word : List Char) : commandOf word ⊆ word := by
  have body : (word.rdropWhile fun char => char = '/') <+: word := List.rdropWhile_prefix _ word
  rw [commandOf]
  split
  · exact ((List.rtakeWhile_suffix _ _).sublist.trans body.sublist).subset
  · exact ((List.drop_sublist _ _).trans body.sublist).subset

theorem Selects.unblank {line token : List Char} (selects : Selects line token) :
    ∀ char ∈ token, isBlank char = false := by
  have solid := unblank_of_mem_words (squeezed line)
  cases selects with
  | outright first others marked tokens other =>
    rw [tokens, List.forall_mem_cons] at solid
    exact fun char member => solid.1 char (commandOf_subset first member)
  | throughEnv first _ others marked tokens command =>
    rw [tokens, List.forall_mem_cons, List.forall_mem_cons] at solid
    exact solid.2.1

theorem withoutVersion_subset (token : List Char) : withoutVersion token ⊆ token := by
  obtain ⟨before, version, after, cut, -⟩ := exists_cut token
  rw [cut.withoutVersion_eq, cut.whole]
  simp

/-- A line comes to nothing only if it has no mark, or if all that it has is the name of `env`: behind
a mark there is a first word, the word has a piece that counts, and a single one begins with the mark.
What a line comes to has no blanks. -/
theorem parse_eq_none_iff (line : String) :
    (parse line = none ↔ ¬mark <+: line.toList ∨
        ∃ first, words (squeezed line.toList) = [first] ∧ commandOf first = env) ∧
      (∀ rest, behindMark? line.toList = some rest → ∃ first others last above,
        words (mark ++ rest) = first :: others ∧ pieces first = last :: above ∧
          (above = [] → mark <+: last)) ∧
      ∀ script, parse line = some script → ∀ char ∈ script.toList, isBlank char = false := by
  refine ⟨?_, ?_, ?_⟩
  · rw [parse, Option.map_eq_none_iff, interpreter?_eq_none_iff]
  · intro rest behind
    obtain ⟨last, above, parts, single⟩ := exists_pieces (rest.takeWhile fun char => !isBlank char)
    exact ⟨_, _, last, above, words_marked rest, parts, single⟩
  · intro script parsed
    obtain ⟨chars, found, rfl⟩ := Option.map_eq_some_iff.mp parsed
    obtain ⟨token, selects, rfl⟩ := selects_of_interpreter? line.toList chars found
    rw [String.toList_ofList]
    exact fun char member => selects.unblank char (withoutVersion_subset token member)

theorem parse_of_short_lines :
    parse "#! /usr/bin//env/ " = none ∧
      (∃ first others last above, words (mark ++ []) = first :: others ∧
        pieces first = last :: above ∧ (above = [] → mark <+: last)) ∧
      parse "#!env awk4 -f" = some "awk" ∧ ∀ char ∈ "awk".toList, isBlank char = false := by
  have env : parse "#! /usr/bin//env/ " = none :=
    (parse_eq_none_iff _).1.mpr (.inr ⟨"#!/usr/bin//env/".toList, by decide, by decide⟩)
  have bare := (parse_eq_none_iff "#!").2.1 [] (by decide)
  have awk : parse "#!env awk4 -f" = some "awk" := by decide
  exact ⟨env, bare, awk, (parse_eq_none_iff _).2.2 _ awk⟩

/-- A token that a line selects can be cut around its version, and the answer is what stands on
either side. The version is what its pattern finds in the token, the first match that a search comes
to. There is only one way to cut a token that has a digit; in one without, the version is empty and
the answer is the token, wherever that is cut. -/
theorem parse_of_selects (line : String) (token : List Char) (selects : Selects line.toList token) :
    (∃ before version after, Cut token before version after) ∧
      (∃ expr, Regex.compile versionPattern = .ok expr ∧
        ∀ before version after, Cut token before version after → expr.found token =
          if version = [] then none else some (before.length, before.length + version.length)) ∧
      ∀ before version after, Cut token before version after →
        parse line = some (String.ofList (before ++ after)) ∧
          ∀ first middle last, Cut token first middle last → middle = version ∧
            first ++ last = before ++ after ∧ (version ≠ [] → first = before ∧ last = after) := by
  have found : parse line = some (String.ofList (withoutVersion token)) := by
    rw [parse, interpreter?_of_selects selects, Option.map_some]
  refine ⟨?_, ⟨versionExpr, compile_versionPattern, fun _ _ _ cut => cut.found_eq⟩, ?_⟩
  · obtain ⟨before, version, after, cut, -⟩ := exists_cut token
    exact ⟨before, version, after, cut⟩
  · intro before version after cut
    rw [cut.withoutVersion_eq] at found
    refine ⟨found, fun first middle last other => ?_⟩
    obtain ⟨version, sides⟩ := cut.unique other
    exact ⟨version, other.withoutVersion_eq.symm.trans cut.withoutVersion_eq, sides⟩

/-- Two dots stand behind the digits of this version, of which only the first belongs to it. -/
theorem cut_dotted : Cut "py3.11..x2".toList "py".toList "3.11.".toList ".x2".toList where
  whole := by decide
  plain := by decide
  empty_iff := by decide
  groups _ := by
    refine ⟨["3.".toList, "11.".toList], by decide, by decide, ?_⟩
    rw [List.forall_mem_cons, List.forall_mem_singleton]
    exact ⟨⟨['3'], ['.'], rfl, by decide, by decide, .inr rfl⟩,
      ⟨['1', '1'], ['.'], rfl, by decide, by decide, .inr rfl⟩⟩
  ended _ := by
    constructor
    · intro char head
      cases head
      decide
    · exact fun _ => rfl

theorem parse_of_dotted :
    Selects "#!/opt/py3.11..x2 -u".toList "py3.11..x2".toList ∧
      parse "#!/opt/py3.11..x2 -u" = some "py.x2" := by
  have selects : Selects "#!/opt/py3.11..x2 -u".toList "py3.11..x2".toList :=
    .outright "#!/opt/py3.11..x2".toList ["-u".toList] (by decide) (by decide) (by decide)
  obtain ⟨-, -, answer⟩ := parse_of_selects _ _ selects
  exact ⟨selects, (answer _ _ _ cut_dotted).1⟩

end FileVerdict.Hashbang
