import FileVerdict.Proofs.Regex.Places
import FileVerdict.Proofs.Regex.Reading
import FileVerdict.Regex.Pattern

/-!
What there is to know of a pattern: the tree it is read as, how deep that nests and what it means;
and what can be seen of it from outside, the names of its groups and whether it ends in the middle
of a comment.
-/

namespace FileVerdict.Regex
open FileVerdict.Text

def ending (pattern : List Char) : Reader :=
  (Reader.start pattern).readAll.toOption.getD (Reader.start pattern)

/-- Whether a pattern is verbose at its end and in a comment there, which no newline has ended. -/
def leavesComment (pattern : List Char) : Bool :=
  (ending pattern).cursor.endsInComment (ending pattern).verbose

def captureNames (pattern : List Char) : List (List Char) := (ending pattern).keys

def nesting (pattern : List Char) : Nat :=
  match parse pattern with
  | .ok ast => ast.depth
  | .error _ => 0

def ReadsAs (pattern : List Char) (tree : Ast) : Prop :=
  ∃ last, (Reader.start pattern).readAll = .ok last ∧ last.groups = [] ∧
    (last.level.close last.cursor.index).unplaced = tree

theorem readsAs_unique (pattern : List Char) (tree other : Ast) (readsAs : ReadsAs pattern tree)
    (too : ReadsAs pattern other) : other = tree := by
  obtain ⟨last, read, -, same⟩ := readsAs
  obtain ⟨last', read', -, same'⟩ := too
  rw [read] at read'
  cases read'
  rw [← same, ← same']

theorem ending_of_readAll (pattern : List Char) (last : Reader)
    (read : (Reader.start pattern).readAll = .ok last) : ending pattern = last := by
  rw [ending, read]
  rfl

theorem run_eq_readAll (pattern : List Char) :
    (Reader.start pattern).run pattern.length =
      (Reader.start pattern).readAll >>= fun last => last.skipped.finish :=
  Reader.run_eq_readAll pattern.length (Reader.start pattern) (Nat.le_refl _)

theorem run_eq_ok (pattern : List Char) (ast : Ast)
    (run : (Reader.start pattern).run pattern.length = .ok ast) : ReadsAs pattern ast.unplaced := by
  rw [run_eq_readAll] at run
  obtain ⟨last, read, finished⟩ := Result.bind_eq_ok.mp run
  refine ⟨last, read, ?_⟩
  simp only [Reader.finish, Reader.skipped] at finished
  split at finished
  · next none =>
    cases finished
    exact ⟨none, by simp only [Level.unplaced_close]⟩
  · cases finished

theorem run_of_readsAs (pattern : List Char) (tree : Ast) (readsAs : ReadsAs pattern tree) :
    ∃ ast, (Reader.start pattern).run pattern.length = .ok ast ∧ ast.unplaced = tree := by
  obtain ⟨last, read, closed, same⟩ := readsAs
  rw [run_eq_readAll, read, Result.ok_bind]
  refine ⟨last.skipped.level.close last.skipped.cursor.index, ?_, ?_⟩
  · have still : last.skipped.groups = [] := closed
    simp only [Reader.finish, still]
  · rw [← same, Level.unplaced_close, Level.unplaced_close]
    rfl

theorem parse_eq_ok (pattern : List Char) (ast : Ast) :
    parse pattern = .ok ast ↔
      (Reader.start pattern).run pattern.length = .ok ast ∧ ast.depth ≤ nestLimit := by
  rw [parse, Result.bind_eq_ok]
  constructor
  · intro given
    rcases given with ⟨read, run, checked⟩
    split at checked
    · cases checked
    · next shallow =>
      cases checked
      exact ⟨run, (Ast.tooDeep?_eq_none _ _).mp shallow⟩
  · intro given
    rcases given with ⟨run, shallow⟩
    refine ⟨ast, run, ?_⟩
    rw [(Ast.tooDeep?_eq_none _ _).mpr shallow]
    rfl

/-- What a pattern means is settled by the tree that it is read as. -/
theorem interpret_eq_ok [Properties] (pattern : List Char) (expr : Expr Step) :
    interpret pattern = .ok expr ↔ ∃ tree modes, ReadsAs pattern tree ∧ tree.depth ≤ nestLimit ∧
      (tree.meaning Modes.initial).toOption = some (expr, modes) := by
  constructor
  · intro interpreted
    obtain ⟨ast, parsed, rest⟩ := Result.bind_eq_ok.mp interpreted
    obtain ⟨⟨found, modes⟩, meant, same⟩ := Result.bind_eq_ok.mp rest
    cases same
    obtain ⟨run, shallow⟩ := (parse_eq_ok _ _).mp parsed
    refine ⟨ast.unplaced, modes, run_eq_ok _ _ run, ?_, ?_⟩
    · rw [Ast.depth_unplaced]
      exact shallow
    · rw [Ast.toOption_meaning_unplaced, meant]
      rfl
  · intro given
    rcases given with ⟨tree, modes, readsAs, shallow, meant⟩
    obtain ⟨ast, run, rfl⟩ := run_of_readsAs _ _ readsAs
    rw [Ast.depth_unplaced] at shallow
    rw [Ast.toOption_meaning_unplaced] at meant
    rw [interpret, (parse_eq_ok _ _).mpr ⟨run, shallow⟩, Result.ok_bind, toOption_eq_some.mp meant]
    rfl

section
variable [Engine]

theorem compile_eq_ok (pattern : List Char) (expr : Expr Step) :
    compile pattern = .ok expr ↔
      interpret pattern = .ok expr ∧ Engine.machineSize pattern ≤ sizeLimit := by
  rw [compile, Result.bind_eq_ok]
  constructor
  · intro given
    rcases given with ⟨found, meant, checked⟩
    simp only [Result.throw_eq_error, Result.error_bind] at checked
    split_ifs at checked with large
    cases checked
    exact ⟨Result.mapError_eq_ok.mp meant, Nat.le_of_not_lt large⟩
  · intro given
    rcases given with ⟨meant, small⟩
    refine ⟨expr, Result.mapError_eq_ok.mpr meant, ?_⟩
    rw [if_neg (Nat.not_lt.mpr small)]
    rfl

theorem isValid_iff (pattern : List Char) :
    isValid pattern = true ↔ ∃ expr, compile pattern = .ok expr := by
  rw [isValid, Result.isOk_iff]

end

/-! Valid patterns -/

def body (pattern : List Char) : Ast :=
  ((ending pattern).level.close (ending pattern).cursor.index).unplaced

theorem readsAs_body (pattern : List Char) (tree : Ast) (readsAs : ReadsAs pattern tree) :
    body pattern = tree := by
  obtain ⟨last, read, closed, same⟩ := readsAs
  rw [body, ending_of_readAll _ _ read, same]

section
variable [Engine]

def expression (pattern : List Char) : Expr Step :=
  match compile pattern with
  | .ok expr => expr
  | .error _ => .empty

structure Valid (pattern : List Char) : Prop where
  compiled : compile pattern = .ok (expression pattern)
  readsAs : ReadsAs pattern (body pattern)
  shallow : (body pattern).depth ≤ nestLimit
  means : ∃ behind, ((body pattern).meaning Modes.initial).toOption =
    some (expression pattern, behind)
  small : Engine.machineSize pattern ≤ sizeLimit

theorem valid_of_isValid (pattern : List Char) (valid : isValid pattern = true) :
    Valid pattern := by
  obtain ⟨expr, compiled⟩ := (isValid_iff pattern).mp valid
  have known : expression pattern = expr := by rw [expression, compiled]
  obtain ⟨meant, small⟩ := (compile_eq_ok _ _).mp compiled
  obtain ⟨tree, behind, readsAs, shallow, means⟩ := (interpret_eq_ok _ _).mp meant
  have read := readsAs_body _ _ readsAs
  refine ⟨by rw [known, compiled], by rw [read]; exact readsAs, by rw [read]; exact shallow, ?_, ?_⟩
  · rw [read, known]
    exact ⟨behind, means⟩
  · exact small

theorem Valid.reads {pattern : List Char} (valid : Valid pattern) :
    Reader.Reads (Reader.start pattern) (ending pattern) ∧ (ending pattern).groups = [] := by
  obtain ⟨last, read, closed, same⟩ := valid.readsAs
  rw [ending_of_readAll _ _ read]
  exact ⟨Reader.reads_of_readAll _ _ read, closed⟩

theorem Valid.nesting {pattern : List Char} (valid : Valid pattern) :
    nesting pattern = (body pattern).depth := by
  obtain ⟨ast, run, same⟩ := run_of_readsAs _ _ valid.readsAs
  have shallow := valid.shallow
  rw [← same, Ast.depth_unplaced] at shallow
  rw [Regex.nesting, (parse_eq_ok _ _).mpr ⟨run, shallow⟩, ← same, Ast.depth_unplaced]

theorem Valid.matchesIn {pattern : List Char} (valid : Valid pattern) (text : List Char) :
    matchesIn pattern text = (expression pattern).matchesIn text := by
  rw [Regex.matchesIn, valid.compiled]

end

end FileVerdict.Regex
