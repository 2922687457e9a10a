import FileVerdict.Proofs.Hashbang.Version
import FileVerdict.Proofs.Regex.Preference
import FileVerdict.Regex.Pattern

/-!
The version in the name of an interpreter as a pattern finds it. The pattern asks for digits and a
dot or none behind them, as often as they come. The first way to match it that a search comes to
begins at the first digit of the name and takes whole groups as long as it can, so it takes just the
version.
-/

namespace FileVerdict.Hashbang
open FileVerdict.Text
open Regex (Expr Step asOften)

def versionPattern : List Char := "(?:\\d+\\.?)+".toList

def versionDigits : Expr Step := .repeated 1 none (.step (.read (.property .digit)))

def versionDot : Expr Step := .repeated 0 (some 1) (.step (.read (.one '.')))

def versionGroup : Expr Step := .seq versionDigits versionDot

def versionExpr : Expr Step := .repeated 1 none versionGroup

theorem compile_versionPattern : Regex.compile versionPattern = .ok versionExpr := by
  decide +kernel

theorem drop_add_length {text first rest : List Char} {start : Nat}
    (ahead : text.drop start = first ++ rest) : text.drop (start + first.length) = rest := by
  rw [← List.drop_drop, ahead, List.drop_left]

theorem drop_succ_of_cons {text rest : List Char} {first : Char} {start : Nat}
    (ahead : text.drop start = first :: rest) : text.drop (start + 1) = rest := by
  rw [← List.tail_drop, ahead, List.tail_cons]

theorem length_le_of_drop {text first rest : List Char} {start : Nat}
    (ahead : text.drop start = first ++ rest) : first.length ≤ text.length := by
  have lengths := congrArg List.length ahead
  rw [List.length_drop, List.length_append] at lengths
  omega

theorem head?_asOften_digits (text digits rest : List Char) (start count : Nat)
    (ahead : text.drop start = digits ++ rest) (enough : digits.length ≤ count)
    (all : ∀ char ∈ digits, isDigit char = true)
    (stopped : ∀ char, rest.head? = some char → isDigit char = false) :
    (asOften ((Expr.step (.read (.property .digit))).tries text) count start).head? =
      some (start + digits.length) := by
  induction digits generalizing start count with
  | nil =>
    apply Regex.head?_asOften_stop
    apply Expr.tries_read_nil
    rw [ahead]
    exact stopped
  | cons first digits ih =>
    rw [List.forall_mem_cons] at all
    obtain ⟨count, rfl⟩ := Nat.exists_eq_succ_of_ne_zero (n := count) (by rintro rfl; cases enough)
    have behind : text.drop (start + 1) = digits ++ rest := drop_succ_of_cons ahead
    have next := ih (start + 1) count behind (Nat.le_of_succ_le_succ enough) all.2
    rw [Nat.add_right_comm] at next
    apply Regex.head?_asOften_step count _ (start + 1) _ _ next
    rw [Expr.tries_read_cons (.property .digit) text _ start first ahead all.1, List.head?_cons]

theorem head?_tries_versionDigits (text digits rest : List Char) (start : Nat)
    (ahead : text.drop start = digits ++ rest) (nonempty : digits ≠ [])
    (all : ∀ char ∈ digits, isDigit char = true)
    (stopped : ∀ char, rest.head? = some char → isDigit char = false) :
    (versionDigits.tries text start).head? = some (start + digits.length) := by
  have filled := List.length_pos_of_ne_nil nonempty
  have enough := length_le_of_drop ahead
  apply Expr.head?_tries_some_times text _ start _ (by omega)
  exact head?_asOften_digits text digits rest start _ ahead (by omega) all stopped

theorem contains_dot (char : Char) :
    (Regex.CharClass.one '.').contains char = decide (char = '.') := by
  rw [Bool.eq_iff_iff, decide_eq_true_iff]
  unfold Regex.CharClass.one Regex.CharClass.contains
  rw [Bool.and_eq_true, decide_eq_true_iff, decide_eq_true_iff]
  exact ⟨fun between => Char.le_antisymm between.2 between.1,
    fun same => same ▸ ⟨Char.le_refl _, Char.le_refl _⟩⟩

theorem head?_tries_versionDot (text dot rest : List Char) (start : Nat)
    (ahead : text.drop start = dot ++ rest)
    (taken : dot = ['.'] ∨ dot = [] ∧ rest.head? ≠ some '.') :
    (versionDot.tries text start).head? = some (start + dot.length) := by
  have once : versionDot.tries text start =
      asOften ((Expr.step (.read (.one '.'))).tries text) 1 start := List.append_nil _
  rw [once]
  obtain rfl | ⟨rfl, other⟩ := taken
  · apply Regex.head?_asOften_step 0 _ (start + 1) _ _ rfl
    rw [Expr.tries_read_cons _ text _ start '.' ahead (contains_dot '.'), List.head?_cons]
  · apply Regex.head?_asOften_stop
    apply Expr.tries_read_nil
    intro char head
    rw [contains_dot, decide_eq_false_iff_not]
    rintro rfl
    rw [ahead] at head
    exact other head

/-- The first try of a group takes all of it, if what stands behind does not go on with it. -/
theorem head?_tries_versionGroup (text group rest : List Char) (start : Nat)
    (ahead : text.drop start = group ++ rest) (isGroup : IsGroup group)
    (closed : group.getLast? = some '.' ∨ EndsVersion group rest) :
    (versionGroup.tries text start).head? = some (start + group.length) := by
  obtain ⟨digits, dot, rfl, nonempty, all, form⟩ := isGroup
  rw [List.append_assoc] at ahead
  have taken : dot = ['.'] ∨ dot = [] ∧ EndsVersion digits rest := by
    refine form.symm.imp_right fun undotted => ⟨undotted, ?_⟩
    rw [undotted, List.append_nil] at closed
    exact closed.resolve_left (getLast?_digits digits all)
  have stopped : ∀ char, (dot ++ rest).head? = some char → isDigit char = false := by
    intro char head
    obtain rfl | ⟨rfl, ended⟩ := taken
    · cases head
      exact not_isDigit_dot
    · exact ended.undigited char head
  have undotted : dot = ['.'] ∨ dot = [] ∧ rest.head? ≠ some '.' :=
    taken.imp_right fun ended =>
      ⟨ended.1, fun head => getLast?_digits digits all (ended.2.dotted head)⟩
  have first := head?_tries_versionDigits text digits (dot ++ rest) start ahead nonempty all stopped
  have second := head?_tries_versionDot text dot rest _ (drop_add_length ahead) undotted
  rw [List.length_append, ← Nat.add_assoc]
  exact Regex.head?_flatMap_of_head? _ _ _ _ first second

theorem tries_versionGroup_nil (text : List Char) (start : Nat)
    (plain : ∀ char, (text.drop start).head? = some char → isDigit char = false) :
    versionGroup.tries text start = [] := by
  have digits : versionDigits.tries text start = [] :=
    Expr.tries_some_times_nil text _ start (Expr.tries_read_nil _ text start plain)
  unfold versionGroup Expr.tries
  rw [digits, List.flatMap_nil]

theorem head?_asOften_scans (text version after : List Char) (start count : Nat)
    (ahead : text.drop start = version ++ after) (scans : Scans version after)
    (enough : version.length ≤ count) :
    (asOften (versionGroup.tries text) count start).head? = some (start + version.length) := by
  induction scans generalizing start count with
  | last group after isGroup ended =>
    have filled := List.length_pos_of_ne_nil isGroup.ne_nil
    obtain ⟨count, rfl⟩ := Nat.exists_eq_succ_of_ne_zero (n := count) (by omega)
    have first := head?_tries_versionGroup text group after start ahead isGroup (.inr ended)
    apply Regex.head?_asOften_step count _ _ _ first
    apply Regex.head?_asOften_stop
    apply tries_versionGroup_nil
    rw [drop_add_length ahead]
    exact ended.undigited
  | more group version after isGroup dotted rest ih =>
    have filled := List.length_pos_of_ne_nil isGroup.ne_nil
    rw [List.length_append] at enough ⊢
    rw [List.append_assoc] at ahead
    obtain ⟨count, rfl⟩ := Nat.exists_eq_succ_of_ne_zero (n := count) (by omega)
    have first := head?_tries_versionGroup text group _ start ahead isGroup (.inl dotted)
    have more := ih (start + group.length) count (drop_add_length ahead) (by omega)
    rw [Nat.add_assoc] at more
    exact Regex.head?_asOften_step count _ _ _ first more

theorem tries_versionExpr_nil (text : List Char) (start : Nat)
    (plain : ∀ char, (text.drop start).head? = some char → isDigit char = false) :
    versionExpr.tries text start = [] :=
  Expr.tries_some_times_nil text versionGroup start (tries_versionGroup_nil text start plain)

theorem head?_tries_versionExpr (text version after : List Char) (start : Nat)
    (ahead : text.drop start = version ++ after) (scans : Scans version after) :
    (versionExpr.tries text start).head? = some (start + version.length) := by
  have filled := List.length_pos_of_ne_nil scans.ne_nil
  have enough := length_le_of_drop ahead
  apply Expr.head?_tries_some_times text versionGroup start _ (by omega)
  exact head?_asOften_scans text version after start _ ahead scans (by omega)

/-- The version of a token is what its pattern finds in it, where the search begins as early as it
can and goes on as long as it can. -/
theorem Cut.found_eq {token before version after : List Char}
    (cut : Cut token before version after) : versionExpr.found token =
      if version = [] then none else some (before.length, before.length + version.length) := by
  split
  · next empty =>
    rw [Expr.found_eq_none_iff, Bool.eq_false_iff, Ne, Expr.matchesIn_iff]
    rintro ⟨start, stop, inside, spans⟩
    have plain : ∀ char, (token.drop start).head? = some char → isDigit char = false :=
      fun char head => cut.empty_iff.mp empty char (List.mem_of_mem_drop (List.mem_of_head? head))
    exact (versionExpr.tries_eq_nil_iff token start (by omega)).mp
      (tries_versionExpr_nil token start plain) stop spans
  · next filled =>
    obtain ⟨first, middle, last, other, scans⟩ := exists_cut token
    obtain ⟨rfl, same⟩ := cut.unique other
    obtain ⟨rfl, rfl⟩ := same filled
    have ahead : token.drop first.length = middle ++ last := by
      rw [cut.whole, List.append_assoc, List.drop_left]
    apply (versionExpr.found_eq_some_iff token _ _).mpr
    refine ⟨?_, head?_tries_versionExpr token middle last _ ahead (scans filled), ?_⟩
    · rw [cut.whole, List.append_assoc, List.length_append]
      exact Nat.le_add_right _ _
    · intro earlier before
      have within : earlier < token.length + 1 := by
        rw [cut.whole, List.length_append, List.length_append]
        omega
      apply (versionExpr.tries_eq_nil_iff token earlier within).mp
      apply tries_versionExpr_nil
      intro char head
      rw [List.head?_drop, cut.whole, List.append_assoc, List.getElem?_append_left before] at head
      exact cut.plain char (List.mem_of_getElem? head)

end FileVerdict.Hashbang
