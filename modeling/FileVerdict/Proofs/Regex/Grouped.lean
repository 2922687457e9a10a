import FileVerdict.Proofs.Regex.Places
import FileVerdict.Proofs.Regex.Reading
import Mathlib.Data.List.Basic

/-!
A pattern read inside a group. Step for step it is read as it is alone: what stands around it is
touched by none of its steps, and the parenthesis behind it stops every look ahead. Two things can
come in between: a name that has been given outside, and a comment that the pattern leaves open.
-/

namespace FileVerdict.Regex.Reader
open FileVerdict.Text

/-- `inside` stands within the groups `outer`, where `names` have been given, as far as `alone`
stands in a pattern of its own, and has `tail` behind that. -/
structure Within (outer : List OpenGroup) (names : List (List Char)) (tail : List Char)
    (alone inside : Reader) : Prop where
  groups : inside.groups.map OpenGroup.unplaced = alone.groups.map OpenGroup.unplaced ++ outer
  level : inside.level.unplaced = alone.level.unplaced
  verbose : inside.verbose = alone.verbose
  keys : inside.keys = alone.keys ++ names
  rest : inside.cursor.rest = alone.cursor.rest ++ tail

/-- What becomes of a step inside when alone it leads to `next`. -/
structure Joins (outer : List OpenGroup) (names : List (List Char)) (tail : List Char)
    (next : Reader) (result : Except Fault Reader) : Prop where
  apart : next.keys.Disjoint names →
    ∃ inside, result = .ok inside ∧ Within outer names tail next inside
  clash : ¬next.keys.Disjoint names → ∃ fault, result = .error fault

section
variable {outer : List OpenGroup} {names : List (List Char)} {tail : List Char}
  {alone inside next : Reader}

theorem Within.joins (free : next.keys.Disjoint names)
    (within : Within outer names tail next inside) :
    Joins outer names tail next (.ok inside) :=
  ⟨fun _ => ⟨inside, rfl, within⟩, fun clash => absurd free clash⟩

theorem Within.ahead (within : Within outer names tail alone inside) :
    inside.ahead = alone.ahead.extend tail := by
  simp [Reader.ahead, Cursor.start, Cursor.extend, within.rest]

theorem Within.skipped (within : Within outer names tail alone inside)
    (left : alone.skipped.cursor.rest ≠ []) :
    Within outer names tail alone.skipped inside.skipped := by
  refine ⟨within.groups, within.level, within.verbose, within.keys, ?_⟩
  have same : inside.cursor.rest = (alone.cursor.extend tail).rest := within.rest
  simp only [Reader.skipped, within.verbose] at left ⊢
  rw [Cursor.skip_rest _ _ _ same, Cursor.skip_extend _ _ _ left, Cursor.extend_rest]

/-- At the end of the text alone, inside only a comment can go on. -/
theorem Within.rest_skipped {rest : List Char}
    (within : Within outer names (')' :: rest) alone inside) (ended : alone.skipped.cursor.rest = []) :
    inside.skipped.cursor.rest =
      (Cursor.skipComments (alone.cursor.endsInComment alone.verbose) 0 (')' :: rest)).rest := by
  have same : inside.cursor.rest = (alone.cursor.extend (')' :: rest)).rest := within.rest
  simp only [Reader.skipped, within.verbose] at ended ⊢
  rw [Cursor.skip_rest _ _ _ same]
  cases unfinished : alone.cursor.endsInComment alone.verbose with
  | true => exact Cursor.rest_behind_comment _ _ _ unfinished
  | false => exact Cursor.rest_behind_blanks _ _ _ ended unfinished

theorem Within.push (within : Within outer names tail alone inside) (part other : Ast)
    (same : other.unplaced = part.unplaced) :
    Within outer names tail (alone.push part) (inside.push other) := by
  refine ⟨within.groups, ?_, within.verbose, within.keys, within.rest⟩
  simp only [Reader.push, Level.unplaced_push, within.level, same]

theorem Within.goTo (within : Within outer names tail alone inside) (stop : Cursor) :
    Within outer names tail (alone.goTo stop) (inside.goTo (stop.extend tail)) :=
  ⟨within.groups, within.level, within.verbose, within.keys, rfl⟩

theorem Within.advance (within : Within outer names tail alone inside)
    (left : alone.cursor.rest ≠ []) :
    Within outer names tail { alone with cursor := alone.cursor.advance }
      { inside with cursor := inside.cursor.advance } := by
  refine ⟨within.groups, within.level, within.verbose, within.keys, ?_⟩
  have rest := within.rest
  obtain ⟨char, more, form⟩ := List.exists_cons_of_ne_nil left
  rw [form, List.cons_append] at rest
  simp [Cursor.advance, form, rest]

end

/-! One step -/

theorem placed_ok {α : Type} (reader : Reader) (value : α) :
    reader.placed (.ok value) = .ok value := rfl

theorem repeated_eq_ok (reader : Reader) (part : Ast) (parts : List Ast) :
    reader.repeated = .ok (part, parts) ↔
      reader.level.parts = part :: parts ∧ part.isRepeatable = true := by
  cases known : reader.level.parts with
  | nil => simp [repeated, known]
  | cons first others =>
    cases first with
    | empty span =>
      simp only [repeated, known, reduceCtorEq, List.cons.injEq, false_iff, not_and, and_imp]
      rintro rfl rfl
      simp [Ast.isRepeatable]
    | flags span items =>
      simp only [repeated, known, reduceCtorEq, List.cons.injEq, false_iff, not_and, and_imp]
      rintro rfl rfl
      simp [Ast.isRepeatable]
    | _ =>
      simp only [repeated, known, Except.ok.injEq, Prod.mk.injEq, List.cons.injEq, iff_self_and,
        and_imp]
      rintro rfl rfl
      rfl

section
variable {outer : List OpenGroup} {names : List (List Char)} {alone inside next : Reader}

/-- A name that is new alone is new inside as well, unless it has been given outside. -/
theorem Within.enrolled {tail : List Char} (within : Within outer names tail alone inside)
    (free : alone.keys.Disjoint names) (name : Option (Span × List Char))
    (found : List (List Char × Span)) (enrolled : alone.enrolled name = .ok found) :
    ((found.map Prod.fst).Disjoint names → ∃ other, inside.enrolled name = .ok other ∧
      other.map Prod.fst = found.map Prod.fst ++ names) ∧
    (¬(found.map Prod.fst).Disjoint names → ∃ fault, inside.enrolled name = .error fault) := by
  cases name with
  | none =>
    cases enrolled
    exact ⟨fun _ => ⟨_, rfl, within.keys⟩, fun clash => absurd free clash⟩
  | some given =>
    obtain ⟨span, name⟩ := given
    have new : name ∉ alone.keys := by
      intro taken
      obtain ⟨fault, failed⟩ := enrolled_of_taken alone span name taken
      rw [failed] at enrolled
      cases enrolled
    rw [enrolled_of_new _ _ _ new] at enrolled
    cases enrolled
    have kept : (alone.names.map Prod.fst).Disjoint names := free
    have outside : name ∈ inside.keys ↔ name ∈ names := by
      simp only [within.keys, List.mem_append, new, false_or]
    simp only [List.map_cons, List.disjoint_cons_left, kept, and_true, not_not, ← outside]
    constructor
    · intro unused
      refine ⟨_, enrolled_of_new _ _ _ unused, ?_⟩
      exact congrArg (List.cons name) within.keys
    · exact enrolled_of_taken inside span name

variable {rest : List Char}

theorem Within.openGroup (within : Within outer names (')' :: rest) alone inside)
    (free : alone.keys.Disjoint names) (stepped : alone.openGroup = .ok next)
    (kept : next.cursor.rest = [] → next.groups = []) :
    Joins outer names (')' :: rest) next inside.openGroup := by
  obtain ⟨⟨opening, stop⟩, opened, stepped⟩ := Result.bind_eq_ok.mp stepped
  have read := (placed_eq_ok _ _ _).mp opened
  cases opening with
  | directive span items =>
    have longer := Opening.read_extend _ rest _ _ _ read (.inl ⟨_, _, rfl⟩)
    cases stepped
    simp only [Reader.openGroup, within.ahead, within.verbose, longer, placed_ok, Result.ok_bind,
      Result.pure_eq_ok]
    refine Within.joins free ?_
    have pushed := (within.push (.flags (span.shift alone.cursor.index) items)
      (.flags (span.shift inside.cursor.index) items) rfl).goTo stop
    exact ⟨pushed.groups, pushed.level, rfl, pushed.keys, pushed.rest⟩
  | group captures items name =>
    obtain ⟨found, enrolled, same⟩ := Result.bind_eq_ok.mp stepped
    cases same
    have left : stop.rest ≠ [] := fun ended => List.cons_ne_nil _ _ (kept ended)
    have longer := Opening.read_extend _ rest _ _ _ read (.inr left)
    obtain ⟨apart, clash⟩ := within.enrolled free name found enrolled
    simp only [Reader.openGroup, within.ahead, within.verbose, longer, placed_ok, Result.ok_bind,
      Result.pure_eq_ok]
    constructor
    · intro free
      obtain ⟨other, known, keys⟩ := apart free
      rw [known]
      refine ⟨_, rfl, ?_, rfl, rfl, keys, rfl⟩
      simp [OpenGroup.unplaced, within.groups, within.level]
    · intro taken
      obtain ⟨fault, failed⟩ := clash taken
      rw [failed]
      exact ⟨fault, rfl⟩

theorem Within.closeGroup (within : Within outer names (')' :: rest) alone inside)
    (free : alone.keys.Disjoint names) (left : alone.cursor.rest ≠ [])
    (stepped : alone.closeGroup = .ok next) :
    Joins outer names (')' :: rest) next inside.closeGroup := by
  cases stack : alone.groups with
  | nil =>
    simp only [Reader.closeGroup, stack] at stepped
    cases stepped
  | cons group others =>
    simp only [Reader.closeGroup, stack] at stepped
    cases stepped
    have groups := within.groups
    rw [stack, List.map_cons, List.cons_append, List.map_eq_cons_iff] at groups
    obtain ⟨same, more, form, first, behind⟩ := groups
    simp only [Reader.closeGroup, form]
    have advanced := within.advance left
    have outer := congrArg OpenGroup.outer first
    have captures := congrArg OpenGroup.captures first
    have items := congrArg OpenGroup.items first
    have verbose := congrArg OpenGroup.verbose first
    simp only [OpenGroup.unplaced] at outer captures items verbose
    refine Within.joins free ⟨behind, ?_, verbose, within.keys, advanced.rest⟩
    simp only [Level.unplaced_push, outer, Ast.unplaced, captures, items, Level.unplaced_close,
      within.level]

theorem Within.bar (within : Within outer names (')' :: rest) alone inside)
    (left : alone.cursor.rest ≠ []) :
    Within outer names (')' :: rest)
      { alone with
        level := alone.level.bar alone.cursor.index, cursor := alone.cursor.advance }
      { inside with
        level := inside.level.bar inside.cursor.index, cursor := inside.cursor.advance } := by
  refine ⟨within.groups, ?_, within.verbose, within.keys, (within.advance left).rest⟩
  simp only [Level.unplaced_bar, within.level]

theorem Within.leaf (within : Within outer names (')' :: rest) alone inside)
    (left : alone.cursor.rest ≠ []) (leaf : Leaf) :
    Within outer names (')' :: rest) (alone.leaf leaf) (inside.leaf leaf) := by
  have pushed := within.push (.leaf alone.cursor.char leaf) (.leaf inside.cursor.char leaf) rfl
  exact pushed.advance left

theorem Within.set (within : Within outer names (')' :: rest) alone inside)
    (free : alone.keys.Disjoint names) (stepped : alone.set = .ok next) :
    Joins outer names (')' :: rest) next inside.set := by
  obtain ⟨⟨⟨span, negated, body⟩, stop⟩, read, same⟩ := Result.bind_eq_ok.mp stepped
  have longer := CharSetReader.read_extend _ rest _ _ _ ((placed_eq_ok _ _ _).mp read)
  cases same
  simp only [Reader.set, within.ahead, within.verbose, longer, placed_ok, Result.ok_bind,
    Result.pure_eq_ok]
  refine Within.joins free ((within.push _ _ ?_).goTo stop)
  simp only [Ast.unplaced, CharSet.unplaced_shift]

theorem Within.escape (within : Within outer names (')' :: rest) alone inside)
    (free : alone.keys.Disjoint names) (stepped : alone.escape = .ok next) :
    Joins outer names (')' :: rest) next inside.escape := by
  obtain ⟨⟨⟨span, leaf⟩, stop⟩, read, same⟩ := Result.bind_eq_ok.mp stepped
  obtain ⟨place, longer, -⟩ :=
    Escape.read_extend _ rest _ _ _ _ ((placed_eq_ok _ _ _).mp read)
  cases same
  simp only [Reader.escape, within.ahead, within.verbose, longer, placed_ok, Result.ok_bind,
    Result.pure_eq_ok]
  have pushed := within.push (.leaf (span.shift alone.cursor.index) leaf)
    (.leaf (place.shift inside.cursor.index) leaf) rfl
  exact Within.joins free (pushed.goTo stop)

theorem Within.repeated (within : Within outer names (')' :: rest) alone inside) (part : Ast)
    (parts : List Ast) (found : alone.repeated = .ok (part, parts)) :
    ∃ other others, inside.repeated = .ok (other, others) ∧ other.unplaced = part.unplaced ∧
      others.map Ast.unplaced = parts.map Ast.unplaced := by
  obtain ⟨known, repeatable⟩ := (repeated_eq_ok _ _ _).mp found
  have same := congrArg Level.parts within.level
  simp only [Level.unplaced, known, List.map_cons, List.map_eq_cons_iff] at same
  obtain ⟨other, others, form, first, behind⟩ := same
  refine ⟨other, others, (repeated_eq_ok _ _ _).mpr ⟨form, ?_⟩, first, behind⟩
  rw [← Ast.isRepeatable_unplaced, first, Ast.isRepeatable_unplaced, repeatable]

theorem Within.repetition (within : Within outer names (')' :: rest) alone inside)
    (free : alone.keys.Disjoint names) (counts : Repetition.Counts) (stop place : Nat)
    (cursor longer : Cursor) (behind : longer.rest = cursor.rest ++ ')' :: rest)
    (stepped : alone.repetition counts stop cursor = .ok next) :
    Joins outer names (')' :: rest) next (inside.repetition counts place longer) := by
  obtain ⟨⟨part, parts⟩, found, same⟩ := Result.bind_eq_ok.mp stepped
  cases same
  obtain ⟨other, others, known, first, more⟩ := within.repeated part parts found
  simp only [Reader.repetition, known, Result.ok_bind, Result.pure_eq_ok]
  refine Within.joins free ⟨within.groups, ?_, within.verbose, within.keys, behind⟩
  have branches := congrArg Level.branches within.level
  simp only [Level.unplaced] at branches
  simp only [Level.unplaced, List.map_cons, Ast.unplaced, first, more, branches]

theorem Within.simpleRepetition (within : Within outer names (')' :: rest) alone inside)
    (free : alone.keys.Disjoint names) (left : alone.cursor.rest ≠ [])
    (counts : Repetition.Counts) (stepped : alone.simpleRepetition counts = .ok next) :
    Joins outer names (')' :: rest) next (inside.simpleRepetition counts) := by
  refine within.repetition free counts _ _ _ _ ?_ stepped
  have advanced : inside.cursor.advance.rest = (alone.cursor.advance.extend (')' :: rest)).rest :=
    (within.advance left).rest
  rw [Repetition.dropLazy_rest _ _ advanced, Repetition.dropLazy_extend, Cursor.extend_rest]

theorem Within.countedRepetition (within : Within outer names (')' :: rest) alone inside)
    (free : alone.keys.Disjoint names) (stepped : alone.countedRepetition = .ok next)
    (quiet : next.cursor.endsInComment next.verbose = true →
      (Cursor.skipComments true 0 (')' :: rest)).rest.head? ≠ some '?') :
    Joins outer names (')' :: rest) next inside.countedRepetition := by
  obtain ⟨⟨part, parts⟩, found, stepped⟩ := Result.bind_eq_ok.mp stepped
  obtain ⟨⟨counts, span, stop⟩, read, stepped⟩ := Result.bind_eq_ok.mp stepped
  have silent : stop.endsInComment alone.verbose = true →
      (Cursor.skipComments true 0 (')' :: rest)).rest.head? ≠ some '?' := by
    intro inside
    obtain ⟨⟨part, parts⟩, -, same⟩ := Result.bind_eq_ok.mp stepped
    cases same
    exact quiet inside
  obtain ⟨place, longer⟩ :=
    Repetition.counted_extend _ rest _ _ _ _ ((placed_eq_ok _ _ _).mp read) silent
  obtain ⟨other, others, known, -⟩ := within.repeated part parts found
  simp only [Reader.countedRepetition, known, within.ahead, within.verbose, longer, placed_ok,
    Result.ok_bind]
  exact within.repetition free counts _ _ (alone.goTo stop).cursor _ rfl stepped

/-- What a step does alone it does inside. -/
theorem Within.step (within : Within outer names (')' :: rest) alone inside)
    (free : alone.keys.Disjoint names) (left : alone.cursor.rest ≠ []) (char : Char)
    (stepped : alone.step char = .ok next)
    (kept : next.cursor.rest = [] → next.groups = [])
    (quiet : next.cursor.endsInComment next.verbose = true →
      (Cursor.skipComments true 0 (')' :: rest)).rest.head? ≠ some '?') :
    Joins outer names (')' :: rest) next (inside.step char) := by
  simp only [Reader.step] at stepped ⊢
  split at stepped
  · exact within.openGroup free stepped kept
  · exact within.closeGroup free left stepped
  · cases stepped
    exact Within.joins free (within.bar left)
  · exact within.set free stepped
  · exact within.countedRepetition free stepped quiet
  · exact within.escape free stepped
  · cases stepped
    exact Within.joins free (within.leaf left _)
  · cases stepped
    exact Within.joins free (within.leaf left _)
  · cases stepped
    exact Within.joins free (within.leaf left _)
  · split at stepped
    · exact within.simpleRepetition free left _ stepped
    · cases stepped
      exact Within.joins free (within.leaf left _)

end

/-! The whole pattern -/

theorem reads_keys (reader last : Reader) (reads : Reads reader last) :
    reader.keys ⊆ last.keys := by
  induction reads with
  | ended none => exact List.Subset.refl _
  | @step reader next last char rest here stepped onward ih =>
    have first : reader.keys ⊆ next.keys := (step_forward reader.skipped next char stepped).keys
    exact List.Subset.trans first ih

/-- Nothing is read where nothing is left. -/
theorem reads_of_ended (reader last : Reader) (reads : Reads reader last)
    (ended : reader.cursor.rest = []) : last = reader := by
  have still : reader.skipped.cursor.rest = [] := by rw [skipped_of_ended _ ended, ended]
  cases reads with
  | ended none => rfl
  | step here stepped onward => simp [still] at here

theorem reads_of_endsInComment (reader last : Reader) (reads : Reads reader last)
    (inside : reader.cursor.endsInComment reader.verbose = true) : last = reader := by
  have still := Cursor.skip_of_endsInComment _ _ inside
  cases reads with
  | ended none => rfl
  | step here stepped onward => simp [skipped, still] at here

/-- A pattern that is read to its end alone is read to its end inside, unless it gives a name that
is taken outside. -/
theorem Within.readAll {outer : List OpenGroup} {names : List (List Char)} {rest : List Char}
    {alone inside last : Reader} (within : Within outer names (')' :: rest) alone inside)
    (free : alone.keys.Disjoint names) (reads : Reads alone last) (closed : last.groups = [])
    (quiet : last.cursor.endsInComment last.verbose = true →
      (Cursor.skipComments true 0 (')' :: rest)).rest.head? ≠ some '?') :
    (last.keys.Disjoint names → ∃ behind, inside.readAll = behind.readAll ∧
      Within outer names (')' :: rest) last behind) ∧
    (¬last.keys.Disjoint names → ∃ fault, inside.readAll = .error fault) := by
  induction reads generalizing inside with
  | ended none => exact ⟨fun _ => ⟨inside, rfl, within⟩, fun taken => absurd free taken⟩
  | @step alone next last char more here stepped onward ih =>
    have left : alone.skipped.cursor.rest ≠ [] := by simp [here]
    have skipped := within.skipped left
    have unfolded := readAll_of_step inside char (more ++ ')' :: rest)
      (by rw [skipped.rest, here, List.cons_append])
    have kept : next.cursor.rest = [] → next.groups = [] := by
      intro ended
      rw [← reads_of_ended _ _ onward ended, closed]
    have silent : next.cursor.endsInComment next.verbose = true →
        (Cursor.skipComments true 0 (')' :: rest)).rest.head? ≠ some '?' := by
      intro unfinished
      rw [← reads_of_endsInComment _ _ onward unfinished] at unfinished
      exact quiet unfinished
    have joins := skipped.step free left char stepped kept silent
    by_cases apart : next.keys.Disjoint names
    · obtain ⟨reached, done, after⟩ := joins.apart apart
      rw [unfolded, done, Result.ok_bind]
      exact ih after apart closed quiet
    · obtain ⟨fault, failed⟩ := joins.clash apart
      have taken : ¬last.keys.Disjoint names := fun free =>
        apart (List.disjoint_of_subset_left (reads_keys _ _ onward) free)
      rw [unfolded, failed]
      exact ⟨fun free => absurd free taken, fun _ => ⟨fault, rfl⟩⟩

/-! A group in a row of groups -/

/-- In no group, where `keys` have been given, `level` has been read and `rest` is left. -/
structure AtTop (keys : List (List Char)) (level : Level) (rest : List Char) (reader : Reader) :
    Prop where
  groups : reader.groups = []
  verbose : reader.verbose = false
  keys : reader.keys = keys
  level : reader.level.unplaced = level
  rest : reader.cursor.rest = rest

def opened (reader : Reader) (more : List Char) : Reader :=
  { reader with
    groups := ⟨reader.level, reader.cursor.index, false, [], false⟩ :: reader.groups
    level := Level.fresh (reader.cursor.index + 3)
    verbose := false
    cursor := ⟨reader.cursor.index + 3, more⟩ }

section
variable {keys : List (List Char)} {level : Level} {pattern rest : List Char} {reader last : Reader}

theorem AtTop.skipped (top : AtTop keys level rest reader) : reader.skipped = reader := by
  obtain ⟨groups, within, verbose, names, cursor⟩ := reader
  obtain rfl : verbose = false := top.verbose
  rfl

theorem AtTop.opened {more : List Char}
    (top : AtTop keys level ('(' :: '?' :: ':' :: more) reader) :
    reader.readAll = (reader.opened more).readAll := by
  have text := top.rest
  rw [readAll_of_step reader '(' ('?' :: ':' :: more) (by rw [top.skipped, text]), top.skipped]
  have opened : Opening.read false reader.ahead =
      .ok (.group false [] none, ⟨3, more⟩) := by
    simp only [ahead, text]
    rfl
  simp only [step, openGroup, top.verbose, opened, placed_ok, Result.ok_bind, enrolled,
    Result.pure_eq_ok]
  rfl

theorem AtTop.within (top : AtTop keys level rest reader) (pattern more : List Char) :
    Within [⟨level, 0, false, [], false⟩] keys (')' :: more) (Reader.start pattern)
      (reader.opened (pattern ++ ')' :: more)) := by
  refine ⟨?_, rfl, rfl, top.keys, rfl⟩
  simp [Reader.opened, Reader.start, top.groups, OpenGroup.unplaced, top.level]

theorem AtTop.bar (top : AtTop keys level ('|' :: rest) reader) :
    ∃ next, reader.readAll = next.readAll ∧
      AtTop keys ⟨0, Ast.ofParts nowhere level.parts.reverse :: level.branches, 0, []⟩ rest
        next := by
  rw [readAll_of_step reader '|' rest (by rw [top.skipped, top.rest]), top.skipped]
  refine ⟨_, rfl, top.groups, top.verbose, top.keys, ?_, ?_⟩
  · simp only [Level.unplaced_bar, top.level]
  · simp [Cursor.advance, top.rest]

/-- A pattern in a group of its own, and what is left of the text when its comments are over. A
name that has been given before is a fault. -/
theorem AtTop.grouped {after : List Char}
    (top : AtTop keys level ('(' :: '?' :: ':' :: (pattern ++ ')' :: rest)) reader)
    (reads : Reads (Reader.start pattern) last) (closed : last.groups = [])
    (behind : (Cursor.skipComments (last.cursor.endsInComment last.verbose) 0 (')' :: rest)).rest =
      ')' :: after) :
    (last.keys.Disjoint keys → ∃ next, reader.readAll = next.readAll ∧
      AtTop (last.keys ++ keys)
        (level.push (.group nowhere false [] (last.level.close last.cursor.index).unplaced)) after next) ∧
    (¬last.keys.Disjoint keys → ∃ fault, reader.readAll = .error fault) := by
  have within := top.within pattern rest
  have quiet : last.cursor.endsInComment last.verbose = true →
      (Cursor.skipComments true 0 (')' :: rest)).rest.head? ≠ some '?' := by
    intro unfinished
    rw [unfinished] at behind
    simp [behind]
  have started : (Reader.start pattern).keys.Disjoint keys := List.disjoint_nil_left _
  obtain ⟨apart, clash⟩ := within.readAll started reads closed quiet
  rw [top.opened]
  refine ⟨fun free => ?_, clash⟩
  obtain ⟨inside, same, within⟩ := apart free
  rw [same]
  have stop : inside.skipped.cursor.rest = ')' :: after := by
    rw [← behind]
    exact within.rest_skipped (reads_last _ _ reads)
  have groups := within.groups
  rw [closed, List.map_nil, List.nil_append, List.map_eq_singleton_iff] at groups
  obtain ⟨group, stack, form⟩ := groups
  have outer := congrArg OpenGroup.outer form
  have captures := congrArg OpenGroup.captures form
  have items := congrArg OpenGroup.items form
  have verbose := congrArg OpenGroup.verbose form
  simp only [OpenGroup.unplaced] at outer captures items verbose
  have shut : inside.skipped.step ')' = .ok { inside.skipped with
      groups := []
      level := group.outer.push (.group ⟨group.start, inside.skipped.cursor.index + 1⟩
        group.captures group.items (inside.level.close inside.skipped.cursor.index))
      verbose := group.verbose
      cursor := inside.skipped.cursor.advance } := by
    have still : inside.skipped.groups = [group] := stack
    simp only [step, closeGroup, still]
    rfl
  rw [readAll_of_step _ _ _ stop, shut, Result.ok_bind]
  refine ⟨_, rfl, rfl, verbose, within.keys, ?_, ?_⟩
  · simp only [Level.unplaced_push, outer, Ast.unplaced, captures, items, Level.unplaced_close,
      within.level]
  · simp only [Cursor.advance, stop]

/-- A comment that the pattern leaves open and that no newline ends hides the parenthesis. -/
theorem AtTop.unclosed
    (top : AtTop keys level ('(' :: '?' :: ':' :: (pattern ++ ')' :: rest)) reader)
    (reads : Reads (Reader.start pattern) last) (closed : last.groups = [])
    (unfinished : last.cursor.endsInComment last.verbose = true)
    (hidden : (Cursor.skipComments true 0 (')' :: rest)).rest = []) (final : Reader)
    (read : reader.readAll = .ok final) : final.groups ≠ [] := by
  have within := top.within pattern rest
  have quiet : last.cursor.endsInComment last.verbose = true →
      (Cursor.skipComments true 0 (')' :: rest)).rest.head? ≠ some '?' := by
    simp [hidden]
  have started : (Reader.start pattern).keys.Disjoint keys := List.disjoint_nil_left _
  obtain ⟨apart, clash⟩ := within.readAll started reads closed quiet
  rw [top.opened] at read
  by_cases free : last.keys.Disjoint keys
  · obtain ⟨inside, same, within⟩ := apart free
    have still : inside.skipped.cursor.rest = [] := by
      rw [within.rest_skipped (reads_last _ _ reads), unfinished, hidden]
    rw [same, readAll_of_ended _ still] at read
    cases read
    intro none
    have groups := within.groups
    simp [none, closed] at groups
  · obtain ⟨fault, failed⟩ := clash free
    rw [failed] at read
    cases read

end

end FileVerdict.Regex.Reader
