import FileVerdict.Regex.Search
import Mathlib.Data.Finset.Card

/-!
What it means to match a part of a text, and that the search finds out. A set of places is the set
of the bits of a number; the search moves the whole set at once, and where a part may be repeated
without end, it stops when no place is new, of which there cannot be more than the text has.
-/

namespace FileVerdict.Regex

def Times (once : Nat → Nat → Prop) : Nat → Nat → Nat → Prop
  | 0, start, stop => start = stop
  | count + 1, start, stop => ∃ middle, once start middle ∧ Times once count middle stop

def charBefore (before : Option Char) (text : List Char) : Nat → Option Char
  | 0 => before
  | place + 1 => text[place]?

def Expr.Spans (text : List Char) : Expr Step → Nat → Nat → Prop
  | .empty, start, stop => start = stop
  | .step (.read chars), start, stop =>
    stop = start + 1 ∧ ∃ char, text[start]? = some char ∧ chars.contains char = true
  | .step (.look condition), start, stop =>
    stop = start ∧ start ≤ text.length ∧
      condition.holds (charBefore none text start) text[start]? = true
  | .seq first second, start, stop =>
    ∃ middle, first.Spans text start middle ∧ second.Spans text middle stop
  | .either first second, start, stop => first.Spans text start stop ∨ second.Spans text start stop
  | .repeated least most body, start, stop =>
    ∃ count, least ≤ count ∧ (∀ limit, most = some limit → count ≤ max least limit) ∧
      Times (body.Spans text) count start stop

/-! Sets of places -/

def Below (size places : Nat) : Prop := ∀ place, places.testBit place = true → place < size

/-- `move` sends a set of places to those that one of them is related to. -/
structure Follows (size : Nat) (move : Nat → Nat) (related : Nat → Nat → Prop) : Prop where
  below : ∀ start stop, start < size → related start stop → stop < size
  leads : ∀ places, Below size places → ∀ stop,
    (move places).testBit stop = true ↔ ∃ start, places.testBit start = true ∧ related start stop

section
variable {size : Nat} {move second : Nat → Nat} {related also : Nat → Nat → Prop}

theorem Follows.below_move (follows : Follows size move related) (places : Nat)
    (below : Below size places) : Below size (move places) := by
  intro stop reached
  obtain ⟨start, member, leads⟩ := (follows.leads places below stop).mp reached
  exact follows.below start stop (below start member) leads

/-- Only what is related to a place of the text matters. -/
theorem Follows.congr (follows : Follows size move related)
    (same : ∀ start stop, start < size → (related start stop ↔ also start stop)) :
    Follows size move also := by
  constructor
  · intro start stop below leads
    exact follows.below start stop below ((same start stop below).mpr leads)
  · intro places below stop
    rw [follows.leads places below]
    refine exists_congr fun start => and_congr_right fun member => ?_
    exact same start stop (below start member)

theorem follows_id : Follows size id fun start stop => start = stop := by
  constructor
  · intro start stop below same
    exact same ▸ below
  · intro places below stop
    simp

theorem Follows.then (follows : Follows size move related) (next : Follows size second also) :
    Follows size (fun places => second (move places))
      fun start stop => ∃ middle, related start middle ∧ also middle stop := by
  constructor
  · intro start stop below both
    obtain ⟨middle, first, later⟩ := both
    exact next.below middle stop (follows.below start middle below first) later
  · intro places below stop
    rw [next.leads _ (follows.below_move places below)]
    constructor
    · intro given
      obtain ⟨middle, reached, later⟩ := given
      obtain ⟨start, member, first⟩ := (follows.leads places below middle).mp reached
      exact ⟨start, member, middle, first, later⟩
    · intro given
      obtain ⟨start, member, middle, first, later⟩ := given
      exact ⟨middle, (follows.leads places below middle).mpr ⟨start, member, first⟩, later⟩

theorem Follows.or (follows : Follows size move related) (other : Follows size second also) :
    Follows size (fun places => move places ||| second places)
      fun start stop => related start stop ∨ also start stop := by
  constructor
  · intro start stop below either
    rcases either with first | later
    · exact follows.below start stop below first
    · exact other.below start stop below later
  · intro places below stop
    rw [Nat.testBit_or, Bool.or_eq_true, follows.leads places below, other.leads places below,
      ← exists_or]
    simp only [← and_or_left]

end

/-! Repetition -/

section
variable {size : Nat} {once : Nat → Nat} {related : Nat → Nat → Prop}

theorem exactly_of_fixed (count places : Nat) (fixed : once places = places) :
    exactly once count places = places := by
  cases count with
  | zero => rfl
  | succ count => simp only [exactly, fixed, if_true]

theorem exactly_succ (count places : Nat) :
    exactly once (count + 1) places = exactly once count (once places) := by
  by_cases fixed : once places = places
  · rw [exactly_of_fixed _ _ fixed, fixed, exactly_of_fixed _ _ fixed]
  · simp only [exactly, fixed, if_false]

theorem Follows.exactly (follows : Follows size once related) (count : Nat) :
    Follows size (exactly once count) (Times related count) := by
  induction count with
  | zero => exact follows_id
  | succ count ih =>
    have unfolded : Regex.exactly once (count + 1) =
        fun places => Regex.exactly once count (once places) := by
      funext places
      exact exactly_succ count places
    rw [unfolded]
    exact follows.then ih

theorem upTo_of_fixed (count places : Nat) (fixed : (places ||| once places) = places) :
    upTo once count places = places := by
  cases count with
  | zero => rfl
  | succ count => simp only [upTo, fixed, if_true]

theorem upTo_succ (count places : Nat) :
    upTo once (count + 1) places = upTo once count (places ||| once places) := by
  by_cases fixed : (places ||| once places) = places
  · rw [upTo_of_fixed _ _ fixed, fixed, upTo_of_fixed _ _ fixed]
  · simp only [upTo, fixed, if_false]

theorem times_at_most_succ (count start stop : Nat) :
    (∃ many, many ≤ count + 1 ∧ Times related many start stop) ↔
      ∃ middle, (start = middle ∨ related start middle) ∧
        ∃ many, many ≤ count ∧ Times related many middle stop := by
  constructor
  · intro given
    obtain ⟨many, few, times⟩ := given
    cases many with
    | zero => exact ⟨start, .inl rfl, 0, Nat.zero_le _, times⟩
    | succ many =>
      obtain ⟨middle, first, later⟩ := times
      exact ⟨middle, .inr first, many, Nat.le_of_succ_le_succ few, later⟩
  · intro given
    obtain ⟨middle, first, many, few, times⟩ := given
    rcases first with rfl | first
    · exact ⟨many, Nat.le_succ_of_le few, times⟩
    · exact ⟨many + 1, Nat.succ_le_succ few, middle, first, times⟩

theorem Follows.upTo (follows : Follows size once related) (count : Nat) :
    Follows size (upTo once count)
      fun start stop => ∃ many, many ≤ count ∧ Times related many start stop := by
  induction count with
  | zero =>
    refine follows_id.congr fun start stop below => ?_
    simp [Times]
  | succ count ih =>
    have unfolded : Regex.upTo once (count + 1) =
        fun places => Regex.upTo once count (places ||| once places) := by
      funext places
      exact upTo_succ count places
    rw [unfolded]
    exact ((follows_id.or follows).then ih).congr fun start stop below =>
      (times_at_most_succ count start stop).symm

theorem times_add (first later start stop : Nat) :
    Times related (first + later) start stop ↔
      ∃ middle, Times related first start middle ∧ Times related later middle stop := by
  induction first generalizing start with
  | zero => simp [Times]
  | succ first ih =>
    rw [Nat.succ_add]
    constructor
    · intro times
      obtain ⟨place, step, rest⟩ := times
      obtain ⟨middle, before, behind⟩ := (ih place).mp rest
      exact ⟨middle, ⟨place, step, before⟩, behind⟩
    · intro times
      obtain ⟨middle, ⟨place, step, before⟩, behind⟩ := times
      exact ⟨place, step, (ih place).mpr ⟨middle, before, behind⟩⟩

/-- The places that a repetition comes by. -/
theorem path_of_times (count start stop : Nat) (times : Times related count start stop) :
    ∃ path : Nat → Nat, path 0 = start ∧ path count = stop ∧
      ∀ index, index < count → related (path index) (path (index + 1)) := by
  induction count generalizing start with
  | zero => exact ⟨fun _ => start, rfl, times, fun index below => absurd below (Nat.not_lt_zero _)⟩
  | succ count ih =>
    obtain ⟨middle, step, rest⟩ := times
    obtain ⟨path, begun, ended, steps⟩ := ih middle rest
    refine ⟨fun | 0 => start | index + 1 => path index, rfl, ended, ?_⟩
    intro index below
    cases index with
    | zero =>
      change related start (path 0)
      rw [begun]
      exact step
    | succ index => exact steps index (Nat.lt_of_succ_lt_succ below)

theorem times_of_path (path : Nat → Nat) (start count : Nat)
    (steps : ∀ index, start ≤ index → index < start + count →
      related (path index) (path (index + 1))) :
    Times related count (path start) (path (start + count)) := by
  induction count generalizing start with
  | zero => rfl
  | succ count ih =>
    refine ⟨path (start + 1), steps start (Nat.le_refl _) (by omega), ?_⟩
    rw [← Nat.add_assoc, Nat.add_right_comm]
    exact ih (start + 1) fun index above below => steps index (by omega) (by omega)

/-- What lies between two visits of one place can be left out. -/
theorem times_of_loop (path : Nat → Nat) (count first second : Nat) (order : first < second)
    (within : second ≤ count) (same : path first = path second)
    (steps : ∀ index, index < count → related (path index) (path (index + 1))) :
    ∃ fewer, fewer < count ∧ Times related fewer (path 0) (path count) := by
  have before : Times related first (path 0) (path (0 + first)) :=
    times_of_path path 0 first fun index above below => steps index (by omega)
  have behind : Times related (count - second) (path second) (path (second + (count - second))) :=
    times_of_path path second (count - second) fun index above below => steps index (by omega)
  rw [Nat.zero_add, same] at before
  rw [Nat.add_sub_cancel' within] at behind
  exact ⟨first + (count - second), by omega, (times_add _ _ _ _).mpr ⟨path second, before, behind⟩⟩

/-- A repetition that comes by more places than there are comes by one of them twice. -/
theorem times_shorten (below : ∀ start stop, start < size → related start stop → stop < size)
    (count start stop : Nat) (inside : start < size) (long : size ≤ count)
    (times : Times related count start stop) :
    ∃ fewer, fewer < count ∧ Times related fewer start stop := by
  obtain ⟨path, rfl, rfl, steps⟩ := path_of_times _ _ _ times
  have bounded : ∀ index, index ≤ count → path index < size := by
    intro index
    induction index with
    | zero => exact fun _ => inside
    | succ index ih =>
      intro within
      exact below _ _ (ih (Nat.le_of_succ_le within)) (steps index within)
  have crowded : (Finset.range size).card < (Finset.range (count + 1)).card := by
    rw [Finset.card_range, Finset.card_range]
    omega
  obtain ⟨first, firstIn, second, secondIn, different, same⟩ :=
    Finset.exists_ne_map_eq_of_card_lt_of_maps_to crowded fun index member =>
      Finset.mem_coe.mpr (Finset.mem_range.mpr
        (bounded index (Nat.le_of_lt_succ (Finset.mem_range.mp member))))
  rw [Finset.mem_range] at firstIn secondIn
  rcases Nat.lt_or_gt_of_ne different with order | order
  · exact times_of_loop path count first second order (Nat.le_of_lt_succ secondIn) same steps
  · exact times_of_loop path count second first order (Nat.le_of_lt_succ firstIn) same.symm steps

theorem times_at_most_size (below : ∀ start stop, start < size → related start stop → stop < size)
    (count start stop : Nat) (inside : start < size) (times : Times related count start stop) :
    ∃ many, many ≤ size ∧ Times related many start stop := by
  induction count using Nat.strong_induction_on with
  | _ count ih =>
    by_cases few : count ≤ size
    · exact ⟨count, few, times⟩
    · obtain ⟨fewer, less, shortened⟩ :=
        times_shorten below count start stop inside (by omega) times
      exact ih fewer less shortened

theorem times_below (below : ∀ start stop, start < size → related start stop → stop < size)
    (count start stop : Nat) (inside : start < size) (times : Times related count start stop) :
    stop < size := by
  induction count generalizing start with
  | zero => exact times ▸ inside
  | succ count ih =>
    obtain ⟨middle, step, rest⟩ := times
    exact ih middle (below start middle inside step) rest

/-- So many times, and then some more of which there may be no more than a given number. -/
theorem times_then_more (least more start stop : Nat) :
    (∃ middle, Times related least start middle ∧
        ∃ many, many ≤ more ∧ Times related many middle stop) ↔
      ∃ count, least ≤ count ∧ count ≤ least + more ∧ Times related count start stop := by
  constructor
  · intro given
    obtain ⟨middle, before, many, few, behind⟩ := given
    exact ⟨least + many, Nat.le_add_right _ _, Nat.add_le_add_left few _,
      (times_add _ _ _ _).mpr ⟨middle, before, behind⟩⟩
  · intro given
    obtain ⟨count, above, few, times⟩ := given
    rw [← Nat.add_sub_cancel' above, times_add] at times
    obtain ⟨middle, before, behind⟩ := times
    exact ⟨middle, before, count - least, by omega, behind⟩

/-- As many more as there are places are as good as any number. -/
theorem times_then_size (below : ∀ start stop, start < size → related start stop → stop < size)
    (least start stop : Nat) (inside : start < size) :
    (∃ middle, Times related least start middle ∧
        ∃ many, many ≤ size ∧ Times related many middle stop) ↔
      ∃ count, least ≤ count ∧ Times related count start stop := by
  rw [times_then_more]
  constructor
  · intro given
    obtain ⟨count, above, few, times⟩ := given
    exact ⟨count, above, times⟩
  · intro given
    obtain ⟨count, above, times⟩ := given
    rw [← Nat.add_sub_cancel' above, times_add] at times
    obtain ⟨middle, before, behind⟩ := times
    obtain ⟨many, few, shortened⟩ := times_at_most_size below _ middle stop
      (times_below below least start middle inside before) behind
    exact ⟨least + many, Nat.le_add_right _ _, Nat.add_le_add_left few _,
      (times_add _ _ _ _).mpr ⟨middle, before, shortened⟩⟩

theorem Follows.exactly_upTo (follows : Follows size once related) (least most : Nat) :
    Follows size (fun places => Regex.upTo once most (Regex.exactly once least places))
      fun start stop => ∃ count, least ≤ count ∧ count ≤ least + most ∧
        Times related count start stop :=
  ((follows.exactly least).then (follows.upTo most)).congr fun start stop _ =>
    times_then_more least most start stop

theorem Follows.exactly_saturate (follows : Follows size once related) (least : Nat) :
    Follows size (fun places => Regex.upTo once size (Regex.exactly once least places))
      fun start stop => ∃ count, least ≤ count ∧ Times related count start stop :=
  ((follows.exactly least).then (follows.upTo size)).congr fun start stop inside =>
    times_then_size follows.below least start stop inside

end

/-! Steps -/

theorem testBit_readable (chars : CharClass) (text : List Char) (place : Nat) :
    (readable chars text).testBit place = true ↔
      ∃ char, text[place]? = some char ∧ chars.contains char = true := by
  induction text generalizing place with
  | nil => simp [readable]
  | cons char text ih =>
    rw [readable, List.foldr_cons, ← readable]
    cases place with
    | zero =>
      rw [Nat.testBit_zero]
      cases holds : chars.contains char <;> simp [holds]
    | succ place =>
      rw [Nat.testBit_succ, List.getElem?_cons_succ, ← ih]
      cases chars.contains char <;> simp [Nat.mul_add_div]

theorem charBefore_cons (before : Option Char) (char : Char) (text : List Char) (place : Nat) :
    charBefore before (char :: text) (place + 1) = charBefore (some char) text place := by
  cases place <;> rfl

theorem testBit_lookable (condition : Look) (before : Option Char) (text : List Char)
    (place : Nat) :
    (lookable condition before text).testBit place = true ↔ place ≤ text.length ∧
      condition.holds (charBefore before text place) text[place]? = true := by
  induction text generalizing before place with
  | nil =>
    rw [lookable]
    cases place with
    | zero => cases holds : condition.holds before none <;> simp [charBefore, holds]
    | succ place => cases condition.holds before none <;> simp [Nat.testBit_succ]
  | cons char text ih =>
    rw [lookable]
    cases place with
    | zero =>
      rw [Nat.testBit_zero]
      cases holds : condition.holds before (some char) <;> simp [charBefore, holds]
    | succ place =>
      rw [Nat.testBit_succ, charBefore_cons, List.getElem?_cons_succ, List.length_cons,
        Nat.succ_le_succ_iff, ← ih]
      cases condition.holds before (some char) <;> simp [Nat.mul_add_div]

theorem follows_read (chars : CharClass) (text : List Char) :
    Follows (text.length + 1) (fun places => 2 * (places &&& readable chars text))
      ((Expr.step (.read chars)).Spans text) := by
  constructor
  · intro start stop below spans
    obtain ⟨rfl, char, here, -⟩ := spans
    obtain ⟨inside, -⟩ := List.getElem?_eq_some_iff.mp here
    exact Nat.succ_lt_succ inside
  · intro places below stop
    cases stop with
    | zero => simp [Expr.Spans]
    | succ stop =>
      rw [Nat.testBit_succ, Nat.mul_div_cancel_left _ Nat.two_pos, Nat.testBit_and,
        Bool.and_eq_true, testBit_readable]
      simp [Expr.Spans]

theorem follows_look (condition : Look) (text : List Char) :
    Follows (text.length + 1) (fun places => places &&& lookable condition none text)
      ((Expr.step (.look condition)).Spans text) := by
  constructor
  · intro start stop below spans
    exact spans.1 ▸ below
  · intro places below stop
    rw [Nat.testBit_and, Bool.and_eq_true, testBit_lookable]
    simp [Expr.Spans]

/-! Expressions -/

theorem follows_ends (text : List Char) (expr : Expr Step) :
    Follows (text.length + 1) ((expr.map (Step.on text)).ends (text.length + 1))
      (expr.Spans text) := by
  induction expr with
  | empty => exact follows_id
  | step taken =>
    cases taken with
    | read chars => exact follows_read chars text
    | look condition => exact follows_look condition text
  | seq first second first_ih second_ih => exact first_ih.then second_ih
  | either first second first_ih second_ih => exact first_ih.or second_ih
  | repeated least most body ih =>
    cases most with
    | none =>
      refine (ih.exactly_saturate least).congr fun start stop below => ?_
      simp [Expr.Spans]
    | some most =>
      refine (ih.exactly_upTo least (most - least)).congr fun start stop below => ?_
      have limit : least + (most - least) = max least most := by omega
      simp [Expr.Spans, limit]

/-- A text is matched if and only if a part of it is. -/
theorem Expr.matchesIn_iff (expr : Expr Step) (text : List Char) :
    expr.matchesIn text = true ↔
      ∃ start stop, start ≤ text.length ∧ expr.Spans text start stop := by
  have leads := (follows_ends text expr).leads (1 <<< (text.length + 1) - 1)
  have member : ∀ place, (1 <<< (text.length + 1) - 1).testBit place = true ↔
      place < text.length + 1 := by
    intro place
    rw [Nat.one_shiftLeft, Nat.testBit_two_pow_sub_one, decide_eq_true_iff]
  have reaches := leads fun place => (member place).mp
  rw [Expr.matchesIn, bne_iff_ne]
  constructor
  · intro some
    obtain ⟨stop, reached⟩ := Nat.exists_testBit_of_ne_zero some
    obtain ⟨start, within, spans⟩ := (reaches stop).mp reached
    exact ⟨start, stop, Nat.le_of_lt_succ ((member start).mp within), spans⟩
  · intro given none
    obtain ⟨start, stop, within, spans⟩ := given
    have reached := (reaches stop).mpr ⟨start, (member start).mpr (Nat.lt_succ_of_le within), spans⟩
    rw [none, Nat.zero_testBit] at reached
    cases reached

end FileVerdict.Regex
