import FileVerdict.Proofs.Regex.Search

/-!
Which match is found where there are several. A search begins as early in the text as it can. From
there it tries a branch before the branches behind it, and in a repetition it tries to go on before
it stops. Whatever is matched is among the tries, so something is found if and only if the text is
matched.
-/

namespace FileVerdict.Regex

def inTurn (once : Nat → List Nat) : Nat → Nat → List Nat
  | 0, start => [start]
  | count + 1, start => (once start).flatMap (inTurn once count)

/-- Where so many times in a row or fewer end; one more is tried before none. -/
def asOften (once : Nat → List Nat) : Nat → Nat → List Nat
  | 0, start => [start]
  | count + 1, start => (once start).flatMap (asOften once count) ++ [start]

def Expr.tries (text : List Char) : Expr Step → Nat → List Nat
  | .empty, start => [start]
  | .step (.read chars), start => if text[start]?.any chars.contains then [start + 1] else []
  | .step (.look condition), start =>
    if start ≤ text.length ∧ condition.holds (charBefore none text start) text[start]? then [start]
    else []
  | .seq first second, start => (first.tries text start).flatMap (second.tries text)
  | .either first second, start => first.tries text start ++ second.tries text start
  | .repeated least most body, start =>
    let more := most.elim (text.length + 1) fun most => most - least
    (inTurn (body.tries text) least start).flatMap (asOften (body.tries text) more)

def Expr.found (expr : Expr Step) (text : List Char) : Option (Nat × Nat) := do
  let starts := List.range (text.length + 1)
  let start ← starts.find? fun start => !(expr.tries text start).isEmpty
  let stop ← (expr.tries text start).head?
  return (start, stop)

/-! Nothing is left untried -/

section
variable {size : Nat} {once : Nat → List Nat} {related : Nat → Nat → Prop}
variable (leads : ∀ start stop, start < size → (stop ∈ once start ↔ related start stop))
variable (below : ∀ start stop, start < size → related start stop → stop < size)
include leads below

theorem mem_inTurn (count start stop : Nat) (inside : start < size) :
    stop ∈ inTurn once count start ↔ Times related count start stop := by
  induction count generalizing start with
  | zero => simp [inTurn, Times, eq_comm]
  | succ count ih =>
    rw [inTurn, List.mem_flatMap, Times]
    refine exists_congr fun middle => ?_
    rw [leads start middle inside]
    exact and_congr_right fun step => ih middle (below start middle inside step)

theorem mem_asOften (count start stop : Nat) (inside : start < size) :
    stop ∈ asOften once count start ↔ ∃ many, many ≤ count ∧ Times related many start stop := by
  induction count generalizing start with
  | zero => simp [asOften, Times, eq_comm]
  | succ count ih =>
    have later : ∀ middle, middle ∈ once start ∧ stop ∈ asOften once count middle ↔
        related start middle ∧ ∃ many, many ≤ count ∧ Times related many middle stop := by
      intro middle
      rw [leads start middle inside]
      exact and_congr_right fun step => ih middle (below start middle inside step)
    rw [asOften, List.mem_append, List.mem_flatMap, List.mem_singleton]
    simp only [later]
    constructor
    · rintro (⟨middle, step, many, few, times⟩ | rfl)
      · exact ⟨many + 1, Nat.succ_le_succ few, middle, step, times⟩
      · exact ⟨0, Nat.zero_le _, rfl⟩
    · rintro ⟨many, few, times⟩
      cases many with
      | zero => exact .inr times.symm
      | succ many =>
        obtain ⟨middle, step, rest⟩ := times
        exact .inl ⟨middle, step, many, Nat.le_of_succ_le_succ few, rest⟩

end

/-- Everything that is matched from a place of the text is tried from there, and nothing else. -/
theorem Expr.mem_tries (text : List Char) (expr : Expr Step) (start stop : Nat)
    (inside : start < text.length + 1) :
    stop ∈ expr.tries text start ↔ expr.Spans text start stop := by
  induction expr generalizing start stop with
  | empty => simp [tries, Spans, eq_comm]
  | step taken =>
    cases taken with
    | read chars =>
      unfold tries Spans
      cases text[start]? with
      | none => simp
      | some char => by_cases held : chars.contains char = true <;> simp [held]
    | look condition =>
      unfold tries Spans
      split
      · next here => simp [here]
      · next elsewhere => simp [elsewhere]
  | seq first second first_ih second_ih =>
    rw [tries, Spans, List.mem_flatMap]
    refine exists_congr fun middle => ?_
    rw [first_ih start middle inside]
    exact and_congr_right fun spans =>
      second_ih middle stop ((follows_ends text first).below start middle inside spans)
  | either first second first_ih second_ih =>
    rw [tries, Spans, List.mem_append, first_ih start stop inside, second_ih start stop inside]
  | repeated least most body ih =>
    have below := (follows_ends text body).below
    have tried : stop ∈ (Expr.repeated least most body).tries text start ↔
        ∃ middle, Times (body.Spans text) least start middle ∧
          ∃ many, many ≤ most.elim (text.length + 1) (fun most => most - least) ∧
            Times (body.Spans text) many middle stop := by
      rw [tries, List.mem_flatMap]
      refine exists_congr fun middle => ?_
      rw [mem_inTurn ih below least start middle inside]
      exact and_congr_right fun times => mem_asOften ih below _ middle stop
        (times_below below least start middle inside times)
    rw [tried]
    cases most with
    | none =>
      refine (times_then_size below least start stop inside).trans ?_
      simp [Spans]
    | some most =>
      have limit : least + (most - least) = max least most := by omega
      refine (times_then_more least (most - least) start stop).trans ?_
      simp [Spans, limit]

theorem Expr.tries_eq_nil_iff (text : List Char) (expr : Expr Step) (start : Nat)
    (inside : start < text.length + 1) :
    expr.tries text start = [] ↔ ∀ stop, ¬expr.Spans text start stop := by
  simp only [List.eq_nil_iff_forall_not_mem, expr.mem_tries text start _ inside]

/-- No match begins before the one that is found, and none that begins there is tried before it. -/
theorem Expr.found_eq_some_iff (expr : Expr Step) (text : List Char) (start stop : Nat) :
    expr.found text = some (start, stop) ↔
      start ≤ text.length ∧ (expr.tries text start).head? = some stop ∧
        ∀ earlier, earlier < start → ∀ other, ¬expr.Spans text earlier other := by
  simp only [found, Option.bind_eq_bind, Option.bind_eq_some_iff, List.find?_range_eq_some,
    List.mem_range, Option.pure_def, Option.some.injEq, Prod.mk.injEq, Bool.not_not]
  constructor
  · rintro ⟨place, ⟨-, inside, none⟩, other, first, rfl, rfl⟩
    refine ⟨Nat.le_of_lt_succ inside, first, fun earlier before => ?_⟩
    apply (expr.tries_eq_nil_iff text earlier (Nat.lt_trans before inside)).mp
    exact List.isEmpty_iff.mp (none earlier before)
  · intro given
    obtain ⟨inside, first, none⟩ := given
    have tried : expr.tries text start ≠ [] := by
      intro empty
      rw [empty] at first
      cases first
    refine ⟨start, ⟨by simpa using tried, Nat.lt_succ_of_le inside, ?_⟩, stop, first, rfl, rfl⟩
    intro earlier before
    apply List.isEmpty_iff.mpr
    exact (expr.tries_eq_nil_iff text earlier (by omega)).mpr (none earlier before)

/-- Something is found in a text if and only if the text is matched. -/
theorem Expr.found_eq_none_iff (expr : Expr Step) (text : List Char) :
    expr.found text = none ↔ expr.matchesIn text = false := by
  rw [← Bool.not_eq_true, matchesIn_iff]
  constructor
  · intro nothing spans
    obtain ⟨start, stop, inside, spans⟩ := spans
    have member := (expr.mem_tries text start stop (by omega)).mpr spans
    simp only [found, Option.bind_eq_bind, Option.pure_def] at nothing
    cases least : (List.range (text.length + 1)).find? fun start =>
        !(expr.tries text start).isEmpty with
    | none =>
      have untried := List.find?_range_eq_none.mp least start (by omega)
      rw [Bool.not_not, List.isEmpty_iff] at untried
      exact List.ne_nil_of_mem member untried
    | some place =>
      have tried := (List.find?_range_eq_some.mp least).1
      obtain ⟨first, others, tries⟩ := List.exists_cons_of_ne_nil (by simpa using tried)
      rw [least, Option.bind_some, tries] at nothing
      cases nothing
  · intro none
    apply Option.eq_none_iff_forall_ne_some.mpr
    rintro ⟨start, stop⟩ found
    obtain ⟨inside, first, -⟩ := (expr.found_eq_some_iff text start stop).mp found
    have member := List.mem_of_mem_head? first
    exact none ⟨start, stop, inside, (expr.mem_tries text start stop (by omega)).mp member⟩

/-! The first try -/

theorem Expr.tries_read (chars : CharClass) (text : List Char) (start : Nat) :
    (Expr.step (.read chars)).tries text start =
      if (text.drop start).head?.any chars.contains then [start + 1] else [] := by
  rw [tries, List.head?_drop]

theorem Expr.tries_read_cons (chars : CharClass) (text rest : List Char) (start : Nat) (char : Char)
    (ahead : text.drop start = char :: rest) (held : chars.contains char = true) :
    (Expr.step (.read chars)).tries text start = [start + 1] := by
  rw [tries_read, ahead, List.head?_cons, Option.any_some, if_pos held]

theorem Expr.tries_read_nil (chars : CharClass) (text : List Char) (start : Nat)
    (other : ∀ char, (text.drop start).head? = some char → chars.contains char = false) :
    (Expr.step (.read chars)).tries text start = [] := by
  rw [tries_read, if_neg]
  intro held
  obtain ⟨char, head, contained⟩ := (Option.any_eq_true _ _).mp held
  rw [other char head] at contained
  cases contained

theorem head?_flatMap_of_head? (middles : List Nat) (next : Nat → List Nat) (middle stop : Nat)
    (first : middles.head? = some middle) (second : (next middle).head? = some stop) :
    (middles.flatMap next).head? = some stop := by
  obtain ⟨others, rfl⟩ := List.head?_eq_some_iff.mp first
  rw [List.flatMap_cons, List.head?_append, second, Option.some_or]

section
variable {once : Nat → List Nat} (count start : Nat)

theorem head?_asOften_stop (stopped : once start = []) :
    (asOften once count start).head? = some start := by
  cases count with
  | zero => rfl
  | succ count =>
    rw [asOften, stopped]
    rfl

theorem head?_asOften_step (middle stop : Nat) (first : (once start).head? = some middle)
    (more : (asOften once count middle).head? = some stop) :
    (asOften once (count + 1) start).head? = some stop := by
  rw [asOften, List.head?_append, head?_flatMap_of_head? _ _ middle stop first more, Option.some_or]

end

theorem Expr.tries_some_times (text : List Char) (body : Expr Step) (start : Nat) :
    (Expr.repeated 1 none body).tries text start =
      (body.tries text start).flatMap (asOften (body.tries text) (text.length + 1)) := by
  have once : inTurn (body.tries text) 1 start = body.tries text start := List.flatMap_singleton' _
  change (inTurn (body.tries text) 1 start).flatMap
    (asOften (body.tries text) (text.length + 1)) = _
  rw [once]

theorem Expr.tries_some_times_nil (text : List Char) (body : Expr Step) (start : Nat)
    (untried : body.tries text start = []) : (Expr.repeated 1 none body).tries text start = [] := by
  rw [tries_some_times, untried, List.flatMap_nil]

/-- Once or more is tried as any number of times is, except that it does not stop where it began. -/
theorem Expr.head?_tries_some_times (text : List Char) (body : Expr Step) (start stop : Nat)
    (moved : stop ≠ start)
    (often : (asOften (body.tries text) (text.length + 2) start).head? = some stop) :
    ((Expr.repeated 1 none body).tries text start).head? = some stop := by
  rw [asOften, ← tries_some_times, List.head?_append] at often
  cases first : ((Expr.repeated 1 none body).tries text start).head? with
  | none =>
    rw [first, Option.none_or] at often
    exact absurd (Option.some.inj often).symm moved
  | some other =>
    rw [first, Option.some_or] at often
    exact often

end FileVerdict.Regex
