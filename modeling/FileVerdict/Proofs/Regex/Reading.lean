import FileVerdict.Proofs.Regex.CharSet
import FileVerdict.Proofs.Regex.Escape
import FileVerdict.Proofs.Regex.Opening
import FileVerdict.Proofs.Regex.Repetition
import FileVerdict.Regex.Reader

/-!
Reading to the end. Every step reads a character at least, so the count of steps that the reader
is given never stops it, and what is left to say is where the last step leads.
-/

namespace FileVerdict.Regex.Reader
open FileVerdict.Text

def keys (reader : Reader) : List (List Char) := reader.names.map Prod.fst

def skipped (reader : Reader) : Reader :=
  { reader with cursor := reader.cursor.skip reader.verbose }

theorem skipped_of_ended (reader : Reader) (ended : reader.cursor.rest = []) :
    reader.skipped = reader := by
  obtain ⟨groups, level, verbose, names, index, rest⟩ := reader
  obtain rfl : rest = [] := ended
  cases verbose <;> rfl

def scan : Nat → Reader → Except Fault Reader
  | 0, reader => .ok reader
  | steps + 1, reader =>
    match reader.skipped.cursor.rest with
    | [] => .ok reader
    | char :: _ => do scan steps (← reader.skipped.step char)

def readAll (reader : Reader) : Except Fault Reader := reader.scan reader.cursor.rest.length

theorem placed_eq_ok {α : Type} (reader : Reader) (result : Except Fault α) (value : α) :
    reader.placed result = .ok value ↔ result = .ok value :=
  Result.mapError_eq_ok

/-! Names -/

theorem lookup_eq_none (reader : Reader) (name : List Char) :
    reader.names.lookup name = none ↔ name ∉ reader.keys := by
  simp only [List.lookup_eq_none_iff, keys, List.mem_map, not_exists, not_and, bne_iff_ne]
  constructor
  · intro other entry member same
    exact other entry member same.symm
  · intro other entry member same
    exact other entry member same.symm

theorem enrolled_of_new (reader : Reader) (span : Span) (name : List Char)
    (new : name ∉ reader.keys) :
    reader.enrolled (some (span, name)) =
      .ok ((name, span.shift reader.cursor.index) :: reader.names) := by
  simp only [enrolled, (lookup_eq_none reader name).mpr new]

theorem enrolled_of_taken (reader : Reader) (span : Span) (name : List Char)
    (taken : name ∈ reader.keys) :
    ∃ fault, reader.enrolled (some (span, name)) = .error fault := by
  cases known : reader.names.lookup name with
  | none => exact absurd taken ((lookup_eq_none reader name).mp known)
  | some first =>
    refine ⟨⟨.nameDuplicate, span.shift reader.cursor.index, some first⟩, ?_⟩
    simp only [enrolled, known]

theorem enrolled_keys (reader : Reader) (name : Option (Span × List Char))
    (found : List (List Char × Span)) (enrolled : reader.enrolled name = .ok found) :
    reader.keys ⊆ found.map Prod.fst := by
  cases name with
  | none =>
    cases enrolled
    exact List.Subset.refl _
  | some given =>
    simp only [Reader.enrolled] at enrolled
    split at enrolled
    · cases enrolled
    · cases enrolled
      exact List.subset_cons_self _ _

/-! One step -/

structure Forward (reader next : Reader) : Prop where
  shorter : next.cursor.rest.length ≤ reader.cursor.rest.length - 1
  keys : reader.keys ⊆ next.keys

theorem forward_of_names (reader next : Reader) (same : next.names = reader.names)
    (shorter : next.cursor.rest.length ≤ reader.cursor.rest.length - 1) : Forward reader next := by
  refine ⟨shorter, ?_⟩
  simp only [keys, same, List.Subset.refl]

theorem forward_advance (reader next : Reader) (same : next.names = reader.names)
    (advanced : next.cursor = reader.cursor.advance) : Forward reader next := by
  refine forward_of_names _ _ same ?_
  rw [advanced]
  exact Nat.le_of_eq (Cursor.advance_length _)

theorem openGroup_forward (reader next : Reader) (stepped : reader.openGroup = .ok next) :
    Forward reader next := by
  obtain ⟨⟨opening, stop⟩, opened, stepped⟩ := Result.bind_eq_ok.mp stepped
  have shorter := Opening.read_leaves _ _ _ _ ((placed_eq_ok _ _ _).mp opened)
  cases opening with
  | directive span items =>
    cases stepped
    exact forward_of_names _ _ rfl shorter
  | group captures items name =>
    obtain ⟨found, enrolled, same⟩ := Result.bind_eq_ok.mp stepped
    cases same
    exact ⟨shorter, enrolled_keys _ _ _ enrolled⟩

theorem closeGroup_forward (reader next : Reader) (stepped : reader.closeGroup = .ok next) :
    Forward reader next := by
  simp only [closeGroup] at stepped
  split at stepped
  · cases stepped
  · cases stepped
    exact forward_advance _ _ rfl rfl

theorem set_forward (reader next : Reader) (stepped : reader.set = .ok next) :
    Forward reader next := by
  obtain ⟨⟨⟨span, negated, body⟩, stop⟩, read, same⟩ := Result.bind_eq_ok.mp stepped
  have shorter := CharSetReader.read_leaves _ _ _ _ ((placed_eq_ok _ _ _).mp read)
  cases same
  exact forward_of_names _ _ rfl shorter

theorem escape_forward (reader next : Reader) (stepped : reader.escape = .ok next) :
    Forward reader next := by
  obtain ⟨⟨⟨span, leaf⟩, stop⟩, read, same⟩ := Result.bind_eq_ok.mp stepped
  have shorter := Escape.read_leaves _ _ _ _ ((placed_eq_ok _ _ _).mp read)
  cases same
  exact forward_of_names _ _ rfl shorter

theorem repetition_forward (reader next : Reader) (counts : Repetition.Counts) (stop : Nat)
    (cursor : Cursor) (shorter : cursor.rest.length ≤ reader.cursor.rest.length - 1)
    (stepped : reader.repetition counts stop cursor = .ok next) : Forward reader next := by
  obtain ⟨⟨part, parts⟩, found, same⟩ := Result.bind_eq_ok.mp stepped
  cases same
  exact forward_of_names _ _ rfl shorter

theorem simpleRepetition_forward (reader next : Reader) (counts : Repetition.Counts)
    (stepped : reader.simpleRepetition counts = .ok next) : Forward reader next := by
  have advanced := Cursor.advance_length reader.cursor
  have dropped := Repetition.dropLazy_length reader.cursor.advance
  exact repetition_forward _ _ _ _ _ (by omega) stepped

theorem countedRepetition_forward (reader next : Reader)
    (stepped : reader.countedRepetition = .ok next) : Forward reader next := by
  obtain ⟨⟨part, parts⟩, found, stepped⟩ := Result.bind_eq_ok.mp stepped
  obtain ⟨⟨counts, span, stop⟩, read, stepped⟩ := Result.bind_eq_ok.mp stepped
  have shorter := Repetition.counted_leaves _ _ _ _ _ ((placed_eq_ok _ _ _).mp read)
  exact repetition_forward _ _ _ _ (reader.goTo stop).cursor shorter stepped

theorem step_forward (reader next : Reader) (char : Char) (stepped : reader.step char = .ok next) :
    Forward reader next := by
  simp only [step] at stepped
  split at stepped
  · exact openGroup_forward _ _ stepped
  · exact closeGroup_forward _ _ stepped
  · cases stepped
    exact forward_advance _ _ rfl rfl
  · exact set_forward _ _ stepped
  · exact countedRepetition_forward _ _ stepped
  · exact escape_forward _ _ stepped
  · cases stepped
    exact forward_advance _ _ rfl rfl
  · cases stepped
    exact forward_advance _ _ rfl rfl
  · cases stepped
    exact forward_advance _ _ rfl rfl
  · split at stepped
    · exact simpleRepetition_forward _ _ _ stepped
    · cases stepped
      exact forward_advance _ _ rfl rfl

/-! To the end -/

theorem skipped_length (reader : Reader) :
    reader.skipped.cursor.rest.length ≤ reader.cursor.rest.length :=
  Cursor.skip_length _ _

theorem step_shorter (reader next : Reader) (char : Char) (rest : List Char)
    (here : reader.skipped.cursor.rest = char :: rest)
    (stepped : reader.skipped.step char = .ok next) :
    next.cursor.rest.length < reader.cursor.rest.length := by
  have skipped := skipped_length reader
  have shorter := (step_forward _ _ _ stepped).shorter
  rw [here, List.length_cons] at skipped shorter
  omega

theorem scan_enough (few many : Nat) (reader : Reader) (enough : reader.cursor.rest.length ≤ few)
    (more : few ≤ many) : reader.scan many = reader.scan few := by
  induction few generalizing many reader with
  | zero =>
    have ended := List.eq_nil_of_length_eq_zero (Nat.le_zero.mp enough)
    have still : reader.skipped.cursor.rest = [] := by rw [skipped_of_ended _ ended, ended]
    cases many with
    | zero => rfl
    | succ many => simp only [scan, still]
  | succ few ih =>
    obtain ⟨many, rfl⟩ := Nat.exists_eq_succ_of_ne_zero (n := many) (by omega)
    simp only [scan]
    split
    · rfl
    · next char rest here =>
      cases stepped : reader.skipped.step char with
      | error fault => rfl
      | ok next =>
        have shorter := step_shorter _ _ _ _ here stepped
        exact ih many next (by omega) (Nat.le_of_succ_le_succ more)

theorem readAll_of_ended (reader : Reader) (ended : reader.skipped.cursor.rest = []) :
    reader.readAll = .ok reader := by
  rw [readAll]
  cases reader.cursor.rest.length with
  | zero => rfl
  | succ steps => simp only [scan, ended]

theorem readAll_of_step (reader : Reader) (char : Char) (rest : List Char)
    (here : reader.skipped.cursor.rest = char :: rest) :
    reader.readAll = reader.skipped.step char >>= readAll := by
  have skipped := skipped_length reader
  rw [here, List.length_cons] at skipped
  obtain ⟨steps, count⟩ := Nat.exists_eq_add_of_le' skipped
  rw [readAll, count, ← Nat.add_assoc]
  simp only [scan, here]
  cases stepped : reader.skipped.step char with
  | error fault => rfl
  | ok next =>
    have shorter := step_shorter _ _ _ _ here stepped
    exact scan_enough _ _ next (Nat.le_refl _) (by omega)

/-- A run is a reading to the end and then the end. -/
theorem run_eq_readAll (steps : Nat) (reader : Reader)
    (enough : reader.cursor.rest.length ≤ steps) :
    reader.run steps = reader.readAll >>= fun last => last.skipped.finish := by
  rw [readAll, ← scan_enough _ steps reader (Nat.le_refl _) enough]
  induction steps generalizing reader with
  | zero =>
    have ended := List.eq_nil_of_length_eq_zero (Nat.le_zero.mp enough)
    simp only [run, scan, Result.ok_bind, skipped_of_ended _ ended]
  | succ steps ih =>
    simp only [run, scan]
    change (match reader.skipped.cursor.rest with
      | [] => reader.skipped.finish
      | char :: _ => reader.skipped.step char >>= run steps) = _
    split
    · rfl
    · next char rest here =>
      cases stepped : reader.skipped.step char with
      | error fault => rfl
      | ok next =>
        have shorter := step_shorter _ _ _ _ here stepped
        exact ih next (by omega)

inductive Reads : Reader → Reader → Prop where
  | ended {reader : Reader} (none : reader.skipped.cursor.rest = []) : Reads reader reader
  | step {reader next last : Reader} {char : Char} {rest : List Char}
    (here : reader.skipped.cursor.rest = char :: rest)
    (stepped : reader.skipped.step char = .ok next) (onward : Reads next last) : Reads reader last

theorem reads_of_readAll (reader last : Reader) (read : reader.readAll = .ok last) :
    Reads reader last := by
  generalize count : reader.cursor.rest.length = bound
  induction bound using Nat.strongRecOn generalizing reader with
  | ind bound ih =>
    cases here : reader.skipped.cursor.rest with
    | nil =>
      rw [readAll_of_ended _ here] at read
      cases read
      exact .ended here
    | cons char rest =>
      rw [readAll_of_step _ _ _ here] at read
      obtain ⟨next, stepped, read⟩ := Result.bind_eq_ok.mp read
      have shorter := step_shorter _ _ _ _ here stepped
      exact .step here stepped (ih _ (by omega) next read rfl)

theorem reads_last (reader last : Reader) (reads : Reads reader last) :
    last.skipped.cursor.rest = [] := by
  induction reads with
  | ended none => exact none
  | step here stepped onward ih => exact ih

end FileVerdict.Regex.Reader
