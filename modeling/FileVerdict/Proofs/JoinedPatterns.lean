import FileVerdict.Proofs.Regex.Alternation
import FileVerdict.Proofs.Regex.Grouped
import FileVerdict.Proofs.Regex.Pattern
import FileVerdict.VendoredPaths

/-!
Many patterns as one. Where no comment runs from one into the next, and no two groups share a
name, what the joined pattern is read as is one alternative for each pattern, and each alternative
is what that pattern is read as alone.
-/

namespace FileVerdict.VendoredPaths
open FileVerdict.Regex

def CommentsStay (patterns : List String) : Prop :=
  patterns.Pairwise fun pattern later =>
    leavesComment pattern.toList = true → '\n' ∉ later.toList

instance (patterns : List String) : Decidable (CommentsStay patterns) :=
  inferInstanceAs (Decidable (patterns.Pairwise _))

/-- The names of the groups can all be given behind `keys`, and no comment is left open. -/
def Separate (keys : List (List Char)) : List String → Prop
  | [] => True
  | pattern :: patterns =>
    leavesComment pattern.toList = false ∧ (captureNames pattern.toList).Disjoint keys ∧
      Separate (captureNames pattern.toList ++ keys) patterns

theorem separate_iff (keys : List (List Char)) (patterns : List String) :
    Separate keys patterns ↔
      (∀ pattern ∈ patterns, leavesComment pattern.toList = false) ∧
      (∀ pattern ∈ patterns, (captureNames pattern.toList).Disjoint keys) ∧
      patterns.Pairwise fun pattern later =>
        (captureNames pattern.toList).Disjoint (captureNames later.toList) := by
  induction patterns generalizing keys with
  | nil => simp [Separate]
  | cons pattern patterns ih =>
    simp only [Separate, ih, List.forall_mem_cons, List.pairwise_cons, List.disjoint_append_right]
    constructor
    · intro given
      rcases given with ⟨silent, free, others, apart, pairwise⟩
      exact ⟨⟨silent, others⟩, ⟨free, fun later member => (apart later member).2⟩,
        fun later member => List.disjoint_symm (apart later member).1, pairwise⟩
    · intro given
      rcases given with ⟨⟨silent, others⟩, ⟨free, apart⟩, new, pairwise⟩
      exact ⟨silent, free, others,
        fun later member => ⟨List.disjoint_symm (new later member), apart later member⟩, pairwise⟩

def following : List String → List Char
  | [] => []
  | pattern :: patterns => '|' :: joined (pattern :: patterns)

theorem joined_cons (pattern : String) (patterns : List String) :
    joined (pattern :: patterns) =
      '(' :: '?' :: ':' :: (pattern.toList ++ ')' :: following patterns) := by
  cases patterns with
  | nil => simp [joined, grouped, following]
  | cons second patterns =>
    rw [joined, List.map_cons, List.map_cons, List.intercalate_cons_cons, following, joined,
      List.map_cons]
    simp [grouped]

theorem newline_not_mem_following (patterns : List String)
    (oneLine : ∀ pattern ∈ patterns, '\n' ∉ pattern.toList) : '\n' ∉ following patterns := by
  induction patterns with
  | nil => simp [following]
  | cons pattern patterns ih =>
    rw [List.forall_mem_cons] at oneLine
    rw [following, joined_cons]
    simp [oneLine.1, ih oneLine.2]

def alternative (pattern : String) : Ast := (body pattern.toList).enclosed

variable [Engine]

section
variable {keys : List (List Char)} {branches : List Ast} {reader : Reader}

/-- One pattern in its group. It is read to the closing parenthesis if it leaves no comment open
and gives no name again; otherwise the whole is not read to its end. -/
theorem readAll_first (pattern : String) (patterns : List String) (valid : Valid pattern.toList)
    (stays : leavesComment pattern.toList = true → ∀ later ∈ patterns, '\n' ∉ later.toList)
    (top : Reader.AtTop keys ⟨0, branches, 0, []⟩ (joined (pattern :: patterns)) reader) :
    (leavesComment pattern.toList = false → (captureNames pattern.toList).Disjoint keys →
      ∃ next, reader.readAll = next.readAll ∧
        Reader.AtTop (captureNames pattern.toList ++ keys)
          ⟨0, branches, 0, [alternative pattern]⟩ (following patterns) next) ∧
    (¬(leavesComment pattern.toList = false ∧ (captureNames pattern.toList).Disjoint keys) →
      ∀ last, reader.readAll = .ok last → last.groups ≠ []) := by
  obtain ⟨reads, closed⟩ := valid.reads
  rw [joined_cons] at top
  cases unfinished : leavesComment pattern.toList with
  | true =>
    have hidden : (Cursor.skipComments true 0 (')' :: following patterns)).rest = [] := by
      apply Cursor.skipComments_no_newline
      simp [newline_not_mem_following _ (stays unfinished)]
    have unclosed := top.unclosed reads closed unfinished hidden
    exact ⟨fun silent => by simp at silent, fun _ => unclosed⟩
  | false =>
    have behind : (Cursor.skipComments ((ending pattern.toList).cursor.endsInComment
        (ending pattern.toList).verbose) 0 (')' :: following patterns)).rest =
          ')' :: following patterns := by
      rw [leavesComment] at unfinished
      rw [unfinished]
      rfl
    obtain ⟨apart, clash⟩ := top.grouped reads closed behind
    refine ⟨fun _ free => apart free, fun taken last read => ?_⟩
    obtain ⟨fault, failed⟩ := clash fun free => taken ⟨rfl, free⟩
    rw [failed] at read
    cases read

/-- Patterns joined are read as their alternatives, or not to the end. -/
theorem readAll_joined (pattern : String) (patterns : List String)
    (valid : ∀ each ∈ pattern :: patterns, Valid each.toList)
    (stays : CommentsStay (pattern :: patterns))
    (top : Reader.AtTop keys ⟨0, branches, 0, []⟩ (joined (pattern :: patterns)) reader) :
    (Separate keys (pattern :: patterns) → ∃ last, reader.readAll = .ok last ∧ last.groups = [] ∧
      (last.level.close last.cursor.index).unplaced =
        Ast.ofBranches nowhere (branches.reverse ++ (pattern :: patterns).map alternative)) ∧
    (¬Separate keys (pattern :: patterns) →
      ∀ last, reader.readAll = .ok last → last.groups ≠ []) := by
  induction patterns generalizing pattern keys branches reader with
  | nil =>
    obtain ⟨onward, stuck⟩ := readAll_first pattern [] (valid _ List.mem_cons_self) (by simp) top
    simp only [Separate, and_true]
    refine ⟨?_, stuck⟩
    intro given
    rcases given with ⟨silent, free⟩
    obtain ⟨next, same, behind⟩ := onward silent free
    refine ⟨next, ?_, behind.groups, ?_⟩
    · rw [same, Reader.readAll_of_ended _ (by rw [behind.skipped, behind.rest]; rfl)]
    · rw [Level.unplaced_close, behind.level]
      rfl
  | cons second patterns ih =>
    obtain ⟨first, later⟩ := List.pairwise_cons.mp stays
    obtain ⟨onward, stuck⟩ := readAll_first pattern (second :: patterns)
      (valid _ List.mem_cons_self) (fun unfinished each member => first each member unfinished) top
    have others : ∀ each ∈ second :: patterns, Valid each.toList :=
      fun each member => valid each (List.mem_cons_of_mem _ member)
    rw [Separate]
    by_cases here :
        leavesComment pattern.toList = false ∧ (captureNames pattern.toList).Disjoint keys
    · obtain ⟨silent, free⟩ := here
      obtain ⟨next, same, behind⟩ := onward silent free
      obtain ⟨past, skipped, top⟩ := behind.bar
      obtain ⟨separate, clash⟩ := ih second others later top
      rw [same, skipped]
      constructor
      · intro given
        rcases given with ⟨-, -, apart⟩
        obtain ⟨last, read, closed, tree⟩ := separate apart
        refine ⟨last, read, closed, ?_⟩
        rw [tree, List.reverse_cons, List.append_assoc]
        rfl
      · intro taken
        exact clash fun apart => taken ⟨silent, free, apart⟩
    · refine ⟨?_, fun _ => stuck here⟩
      intro given
      rcases given with ⟨silent, free, -⟩
      exact absurd ⟨silent, free⟩ here

end

theorem readsAs_joined (pattern : String) (patterns : List String)
    (valid : ∀ each ∈ pattern :: patterns, Valid each.toList)
    (stays : CommentsStay (pattern :: patterns)) (tree : Ast) :
    ReadsAs (joined (pattern :: patterns)) tree ↔
      Separate [] (pattern :: patterns) ∧
        tree = Ast.ofBranches nowhere ((pattern :: patterns).map alternative) := by
  have top : Reader.AtTop [] ⟨0, [], 0, []⟩ (joined (pattern :: patterns))
      (Reader.start (joined (pattern :: patterns))) := ⟨rfl, rfl, rfl, rfl, rfl⟩
  obtain ⟨separate, clash⟩ := readAll_joined pattern patterns valid stays top
  by_cases apart : Separate [] (pattern :: patterns)
  · obtain ⟨last, read, closed, same⟩ := separate apart
    have readsAs : ReadsAs (joined (pattern :: patterns)) _ := ⟨last, read, closed, same⟩
    constructor
    · intro other
      exact ⟨apart, readsAs_unique _ _ _ readsAs other⟩
    · intro given
      rcases given with ⟨-, rfl⟩
      exact readsAs
  · constructor
    · intro given
      rcases given with ⟨last, read, closed, -⟩
      exact absurd closed (clash apart last read)
    · intro given
      rcases given with ⟨apart', -⟩
      exact absurd apart' apart

/-- Whether valid patterns can be joined. How much room the joined pattern takes is for the engine
to say. -/
structure Compatible (patterns : List String) : Prop where
  comments : ∀ pattern ∈ patterns, leavesComment pattern.toList = false
  names : patterns.Pairwise fun pattern later =>
    (captureNames pattern.toList).Disjoint (captureNames later.toList)
  depth : ∀ pattern ∈ patterns,
    nesting pattern.toList + (if patterns.length = 1 then 1 else 2) ≤ nestLimit
  size : Engine.machineSize (joined patterns) ≤ sizeLimit

theorem compile_joined (pattern : String) (patterns : List String)
    (valid : ∀ each ∈ pattern :: patterns, Valid each.toList)
    (stays : CommentsStay (pattern :: patterns)) (expr : Expr Step) :
    compile (joined (pattern :: patterns)) = .ok expr ↔
      Compatible (pattern :: patterns) ∧
        expr = Expr.eitherOf (expression pattern.toList)
          (patterns.map fun each => expression each.toList) := by
  have apart := separate_iff [] (pattern :: patterns)
  have means := Ast.toOption_meaning_ofBranches (fun each : String => body each.toList)
    (fun each => expression each.toList) Modes.initial pattern patterns
    fun each member => (valid each member).means
  have nested : (Ast.ofBranches nowhere ((pattern :: patterns).map alternative)).depth ≤ nestLimit ↔
      ∀ each ∈ pattern :: patterns,
        nesting each.toList + (if (pattern :: patterns).length = 1 then 1 else 2) ≤ nestLimit := by
    refine (Ast.depth_ofBranches (fun each : String => body each.toList) nestLimit pattern
      patterns).trans
      (forall₂_congr fun each member => ?_)
    rw [(valid each member).nesting]
    simp [List.length_eq_zero_iff]
  rw [compile_eq_ok, interpret_eq_ok]
  constructor
  · intro given
    rcases given with ⟨⟨tree, modes, readsAs, shallow, meant⟩, small⟩
    obtain ⟨separate, rfl⟩ := (readsAs_joined pattern patterns valid stays tree).mp readsAs
    obtain ⟨silent, -, names⟩ := apart.mp separate
    have same := means.symm.trans meant
    simp only [Option.some.injEq, Prod.mk.injEq] at same
    obtain ⟨rfl, -⟩ := same
    exact ⟨⟨silent, names, nested.mp shallow, small⟩, rfl⟩
  · intro given
    rcases given with ⟨compatible, rfl⟩
    have separate := apart.mpr ⟨compatible.comments, fun _ _ => List.disjoint_nil_right _,
      compatible.names⟩
    exact ⟨⟨_, _, (readsAs_joined pattern patterns valid stays _).mpr ⟨separate, rfl⟩,
      nested.mpr compatible.depth, means⟩, compatible.size⟩

end FileVerdict.VendoredPaths
