import FileVerdict.Proofs.Regex.Search

/-!
Matches in longer texts. What is put behind a text leaves its places where they are, and what is put
in front moves them all on by as much. An expression that matches a part of the text still matches
it there if every condition it looks at still holds. The form of an expression tells whether that is
so: whether it looks at the character before a place only, or at the one behind; whether it can end
at the end of a text with a given last character; whether the start of a text is as good to it as
the place behind a mark; and with what a text begins that it matches from the start.
-/

namespace FileVerdict.Regex

def Look.HoldsAt (condition : Look) (text : List Char) (place : Nat) : Prop :=
  place ≤ text.length ∧ condition.holds (charBefore none text place) text[place]? = true

def Expr.looks : Expr Step → List Look
  | .empty => []
  | .step (.read _) => []
  | .step (.look condition) => [condition]
  | .seq first second | .either first second => first.looks ++ second.looks
  | .repeated _ _ body => body.looks

theorem Expr.Spans.stop_le {expr : Expr Step} {text : List Char} {start stop : Nat}
    (spans : expr.Spans text start stop) (inside : start ≤ text.length) : stop ≤ text.length :=
  Nat.le_of_lt_succ ((follows_ends text expr).below start stop (Nat.lt_succ_of_le inside) spans)

theorem times_moved {related moved : Nat → Nat → Prop} {last offset : Nat}
    (below : ∀ start stop, start ≤ last → related start stop → stop ≤ last)
    (moves : ∀ start stop, start ≤ last → related start stop → moved (offset + start) (offset + stop))
    (count start stop : Nat) (inside : start ≤ last) (times : Times related count start stop) :
    Times moved count (offset + start) (offset + stop) := by
  induction count generalizing start with
  | zero => exact congrArg (offset + ·) times
  | succ count ih =>
    obtain ⟨middle, step, rest⟩ := times
    exact ⟨offset + middle, moves start middle inside step,
      ih middle (below start middle inside step) rest⟩

/-- What is matched in a text is matched in a longer one if the conditions still hold. -/
theorem Expr.Spans.within (before text after : List Char) (expr : Expr Step)
    (kept : ∀ condition ∈ expr.looks, ∀ place, condition.HoldsAt text place →
      condition.HoldsAt (before ++ text ++ after) (before.length + place))
    (start stop : Nat) (inside : start ≤ text.length) (spans : expr.Spans text start stop) :
    expr.Spans (before ++ text ++ after) (before.length + start) (before.length + stop) := by
  induction expr generalizing start stop with
  | empty => exact congrArg (before.length + ·) spans
  | step taken =>
    cases taken with
    | read chars =>
      obtain ⟨rfl, char, here, held⟩ := spans
      obtain ⟨short, -⟩ := List.getElem?_eq_some_iff.mp here
      refine ⟨rfl, char, ?_, held⟩
      rw [List.append_assoc, List.getElem?_append_right (Nat.le_add_right _ _),
        Nat.add_sub_cancel_left, List.getElem?_append_left short]
      exact here
    | look condition =>
      obtain ⟨rfl, holds⟩ := spans
      exact ⟨rfl, kept condition (List.mem_singleton_self condition) stop holds⟩
  | seq first second first_ih second_ih =>
    obtain ⟨middle, front, back⟩ := spans
    have reached := front.stop_le inside
    exact ⟨before.length + middle,
      first_ih (fun condition member => kept condition (List.mem_append_left _ member))
        start middle inside front,
      second_ih (fun condition member => kept condition (List.mem_append_right _ member))
        middle stop reached back⟩
  | either first second first_ih second_ih =>
    rcases spans with left | right
    · exact .inl (first_ih (fun condition member => kept condition (List.mem_append_left _ member))
        start stop inside left)
    · exact .inr (second_ih
        (fun condition member => kept condition (List.mem_append_right _ member))
        start stop inside right)
  | repeated least most body ih =>
    obtain ⟨count, above, limited, times⟩ := spans
    exact ⟨count, above, limited, times_moved (fun start stop inside spans => spans.stop_le inside)
      (ih kept) count start stop inside times⟩

/-! More text behind -/

def Look.looksBack : Look → Bool
  | .textStart | .lineStart => true
  | _ => false

theorem Look.holds_of_looksBack (condition : Look) (back : condition.looksBack = true)
    (before after other : Option Char) :
    condition.holds before after = condition.holds before other := by
  cases condition with
  | textStart => rfl
  | lineStart => rfl
  | _ => cases back

theorem Look.holdsAt_append (condition : Look) (back : condition.looksBack = true)
    (text after : List Char) (place : Nat) (holds : condition.HoldsAt text place) :
    condition.HoldsAt (text ++ after) place := by
  obtain ⟨inside, held⟩ := holds
  have before : charBefore none (text ++ after) place = charBefore none text place := by
    cases place with
    | zero => rfl
    | succ place => exact List.getElem?_append_left inside
  refine ⟨?_, ?_⟩
  · rw [List.length_append]
    omega
  · rw [before, condition.holds_of_looksBack back _ _ text[place]?]
    exact held

theorem Expr.matchesIn_append (expr : Expr Step)
    (back : ∀ condition ∈ expr.looks, condition.looksBack = true) (text after : List Char)
    (found : expr.matchesIn text = true) : expr.matchesIn (text ++ after) = true := by
  obtain ⟨start, stop, inside, spans⟩ := (expr.matchesIn_iff text).mp found
  have longer := spans.within [] text after expr (by
    intro condition member place holds
    rw [List.nil_append, List.length_nil, Nat.zero_add]
    exact condition.holdsAt_append (back condition member) text after place holds) start stop inside
  rw [List.nil_append, List.length_nil, Nat.zero_add, Nat.zero_add] at longer
  refine (expr.matchesIn_iff _).mpr ⟨start, stop, ?_, longer⟩
  rw [List.length_append]
  omega

/-- Whether all that is matched has a last character, and that is not the mark. -/
def Expr.endsOff (mark : Char) : Expr Step → Bool
  | .step (.read chars) => !chars.contains mark
  | .seq _ second => second.endsOff mark
  | .either first second => first.endsOff mark && second.endsOff mark
  | _ => false

theorem Expr.Spans.ends_off {mark : Char} {expr : Expr Step} (off : expr.endsOff mark = true)
    {text : List Char} {start stop : Nat} (spans : expr.Spans text start stop) :
    ∃ place char, stop = place + 1 ∧ text[place]? = some char ∧ char ≠ mark := by
  induction expr generalizing start with
  | empty => cases off
  | step taken =>
    cases taken with
    | read chars =>
      obtain ⟨rfl, char, here, held⟩ := spans
      refine ⟨start, char, rfl, here, ?_⟩
      rintro rfl
      rw [endsOff, held] at off
      cases off
    | look condition => cases off
  | seq first second first_ih second_ih =>
    obtain ⟨middle, -, back⟩ := spans
    exact second_ih off back
  | either first second first_ih second_ih =>
    rw [endsOff, Bool.and_eq_true] at off
    rcases spans with left | right
    · exact first_ih off.1 left
    · exact second_ih off.2 right
  | repeated least most body ih => cases off

/-- Whether all that is matched ends with the text, and not with the mark. -/
def Expr.closesOff (mark : Char) : Expr Step → Bool
  | .seq first (.step (.look .textEnd)) => first.endsOff mark
  | .seq _ second => second.closesOff mark
  | .either first second => first.closesOff mark && second.closesOff mark
  | _ => false

theorem getLast?_of_ends {text : List Char} {place : Nat} {char : Char}
    (here : text[place]? = some char) (ended : text[place + 1]? = none) :
    text.getLast? = some char := by
  obtain ⟨short, -⟩ := List.getElem?_eq_some_iff.mp here
  have long := List.getElem?_eq_none_iff.mp ended
  have last : text.length - 1 = place := by omega
  rw [List.getLast?_eq_getElem?, last, here]

theorem Expr.Spans.closes_off {mark : Char} {expr : Expr Step} (off : expr.closesOff mark = true)
    {text : List Char} {start stop : Nat} (spans : expr.Spans text start stop) :
    text.getLast? ≠ some mark := by
  fun_induction expr.closesOff mark generalizing start with
  | case1 first =>
    obtain ⟨middle, front, rfl, -, ended⟩ := spans
    obtain ⟨place, char, rfl, here, other⟩ := front.ends_off off
    rw [getLast?_of_ends here (Option.isNone_iff_eq_none.mp ended)]
    intro same
    exact other (Option.some_inj.mp same)
  | case2 first second _ ih =>
    obtain ⟨middle, -, back⟩ := spans
    exact ih off back
  | case3 first second first_ih second_ih =>
    rw [Bool.and_eq_true] at off
    rcases spans with left | right
    · exact first_ih off.1 left
    · exact second_ih off.2 right
  | case4 => cases off

def Expr.descends (mark : Char) (expr : Expr Step) : Bool :=
  expr.looks.all Look.looksBack || expr.closesOff mark

theorem Expr.matchesIn_of_descends {mark : Char} {expr : Expr Step}
    (descends : expr.descends mark = true) (text after : List Char)
    (marked : text.getLast? = some mark) (found : expr.matchesIn text = true) :
    expr.matchesIn (text ++ after) = true := by
  rw [Expr.descends, Bool.or_eq_true, List.all_eq_true] at descends
  rcases descends with back | off
  · exact expr.matchesIn_append back text after found
  · obtain ⟨start, stop, -, spans⟩ := (expr.matchesIn_iff text).mp found
    exact absurd marked (spans.closes_off off)

/-! More text in front -/

def Look.looksAhead : Look → Bool
  | .textEnd | .lineEnd => true
  | _ => false

theorem Look.holds_of_looksAhead (condition : Look) (ahead : condition.looksAhead = true)
    (before other after : Option Char) :
    condition.holds before after = condition.holds other after := by
  cases condition with
  | textEnd => rfl
  | lineEnd => rfl
  | _ => cases ahead

theorem Look.holdsAt_prepend (condition : Look) (ahead : condition.looksAhead = true)
    (before text : List Char) (place : Nat) (holds : condition.HoldsAt text place) :
    condition.HoldsAt (before ++ text) (before.length + place) := by
  obtain ⟨inside, held⟩ := holds
  have behind : (before ++ text)[before.length + place]? = text[place]? := by
    rw [List.getElem?_append_right (Nat.le_add_right _ _), Nat.add_sub_cancel_left]
  refine ⟨?_, ?_⟩
  · rw [List.length_append]
    omega
  · rw [behind, condition.holds_of_looksAhead ahead _ (charBefore none text place)]
    exact held

theorem Expr.Spans.behind (before : List Char) {text : List Char} {expr : Expr Step}
    (ahead : ∀ condition ∈ expr.looks, condition.looksAhead = true) {start stop : Nat}
    (inside : start ≤ text.length) (spans : expr.Spans text start stop) :
    expr.Spans (before ++ text) (before.length + start) (before.length + stop) := by
  have longer := spans.within before text [] expr (by
    intro condition member place holds
    rw [List.append_nil]
    exact condition.holdsAt_prepend (ahead condition member) before text place holds)
    start stop inside
  rwa [List.append_nil] at longer

/-- Whether the start of a text, where that is asked for, may as well be a place with the mark. -/
def Expr.opensAt (mark : Char) : Expr Step → Bool
  | .either (.step (.look .textStart)) (.step (.read chars)) => chars.contains mark
  | .seq first second => first.opensAt mark && second.looks.all Look.looksAhead
  | expr => expr.looks.all Look.looksAhead

theorem Look.eq_zero_of_textStart {text : List Char} {place : Nat}
    (holds : Look.textStart.HoldsAt text place) : place = 0 := by
  obtain ⟨inside, first⟩ := holds
  cases place with
  | zero => rfl
  | succ place =>
    rw [Look.holds, charBefore, Option.isNone_iff_eq_none, List.getElem?_eq_none_iff] at first
    omega

theorem Expr.Spans.reopened {mark : Char} {expr : Expr Step} (opens : expr.opensAt mark = true)
    (before : List Char) {text : List Char} {start stop : Nat} (inside : start ≤ text.length)
    (spans : expr.Spans text start stop) :
    ∃ other, other ≤ (before ++ [mark] ++ text).length ∧
      expr.Spans (before ++ [mark] ++ text) other ((before ++ [mark]).length + stop) := by
  have moved : (before ++ [mark]).length + start ≤ (before ++ [mark] ++ text).length := by
    have joined : (before ++ [mark] ++ text).length = (before ++ [mark]).length + text.length :=
      List.length_append
    omega
  fun_induction expr.opensAt mark generalizing stop with
  | case1 chars =>
    rcases spans with ⟨rfl, first⟩ | read
    · obtain rfl := Look.eq_zero_of_textStart first
      refine ⟨before.length, by simp, .inr ⟨by simp, mark, ?_, opens⟩⟩
      rw [List.append_assoc, List.getElem?_append_right (Nat.le_refl _), Nat.sub_self]
      rfl
    · have blind : ∀ condition ∈ (Expr.step (.read chars)).looks, condition.looksAhead = true := by
        simp [looks]
      exact ⟨_, moved, .inr (Spans.behind (before ++ [mark]) blind inside read)⟩
  | case2 first second ih =>
    rw [Bool.and_eq_true, List.all_eq_true] at opens
    obtain ⟨middle, front, back⟩ := spans
    obtain ⟨other, short, reopened⟩ := ih opens.1 front
    exact ⟨other, short, _, reopened, back.behind _ opens.2 (front.stop_le inside)⟩
  | case3 expr _ _ =>
    rw [List.all_eq_true] at opens
    exact ⟨_, moved, spans.behind _ opens inside⟩

theorem Expr.matchesIn_of_opensAt {mark : Char} {expr : Expr Step}
    (opens : expr.opensAt mark = true) (before text : List Char)
    (found : expr.matchesIn text = true) :
    expr.matchesIn (before ++ [mark] ++ text) = true := by
  obtain ⟨start, stop, inside, spans⟩ := (expr.matchesIn_iff text).mp found
  obtain ⟨other, short, reopened⟩ := spans.reopened opens before inside
  exact (expr.matchesIn_iff _).mpr ⟨other, _, short, reopened⟩

/-! What stands at the start -/

def CharClass.members? : CharClass → Option (List Char)
  | .none => some []
  | .range first last => if first = last then some [first] else Option.none
  | .union left right => do return (← left.members?) ++ (← right.members?)
  | _ => Option.none

theorem CharClass.mem_of_contains {chars : CharClass} {members : List Char}
    (known : chars.members? = some members) (char : Char) (held : chars.contains char = true) :
    char ∈ members := by
  fun_induction CharClass.members? chars generalizing members with
  | case1 => cases held
  | case2 first =>
    cases known
    rw [contains, Bool.and_eq_true, decide_eq_true_iff, decide_eq_true_iff] at held
    exact List.mem_singleton.mpr (Char.le_antisymm held.2 held.1)
  | case3 => cases known
  | case4 left right left_ih right_ih =>
    obtain ⟨first, leftKnown, rest⟩ := Option.bind_eq_some_iff.mp known
    obtain ⟨second, rightKnown, same⟩ := Option.bind_eq_some_iff.mp rest
    cases same
    rw [contains, Bool.or_eq_true] at held
    rcases held with inLeft | inRight
    · exact List.mem_append_left _ (left_ih leftKnown inLeft)
    · exact List.mem_append_right _ (right_ih rightKnown inRight)
  | case5 => cases known

def Expr.texts? : Expr Step → Option (List (List Char))
  | .empty => some [[]]
  | .step (.read chars) => chars.members?.map fun members => members.map fun char => [char]
  | .step (.look _) => some [[]]
  | .seq first second => do
    let fronts ← first.texts?
    let backs ← second.texts?
    return fronts.flatMap fun front => backs.map fun back => front ++ back
  | .either first second => do return (← first.texts?) ++ (← second.texts?)
  | .repeated .. => none

theorem Expr.Spans.reads {expr : Expr Step} {texts : List (List Char)}
    (known : expr.texts? = some texts) {text : List Char} {start stop : Nat}
    (spans : expr.Spans text start stop) :
    ∃ read ∈ texts, stop = start + read.length ∧ read <+: text.drop start := by
  induction expr generalizing texts start stop with
  | empty =>
    cases known
    exact ⟨[], List.mem_singleton_self [], spans.symm, List.nil_prefix⟩
  | step taken =>
    cases taken with
    | read chars =>
      obtain ⟨members, listed, rfl⟩ := Option.map_eq_some_iff.mp known
      obtain ⟨rfl, char, here, held⟩ := spans
      refine ⟨[char], List.mem_map_of_mem (CharClass.mem_of_contains listed char held), rfl, ?_⟩
      obtain ⟨short, same⟩ := List.getElem?_eq_some_iff.mp here
      rw [List.drop_eq_getElem_cons short, same]
      exact List.prefix_append [char] _
    | look condition =>
      cases known
      exact ⟨[], List.mem_singleton_self [], spans.1, List.nil_prefix⟩
  | seq first second first_ih second_ih =>
    obtain ⟨fronts, firstKnown, rest⟩ := Option.bind_eq_some_iff.mp known
    obtain ⟨backs, secondKnown, same⟩ := Option.bind_eq_some_iff.mp rest
    cases same
    obtain ⟨middle, front, back⟩ := spans
    obtain ⟨read, frontMember, rfl, ahead⟩ := first_ih firstKnown front
    obtain ⟨later, backMember, rfl, behind⟩ := second_ih secondKnown back
    refine ⟨read ++ later, ?_, ?_, ?_⟩
    · exact List.mem_flatMap.mpr ⟨read, frontMember, List.mem_map_of_mem backMember⟩
    · rw [List.length_append, Nat.add_assoc]
    · obtain ⟨remaining, whole⟩ := ahead
      rw [← List.drop_drop, ← whole, List.drop_left] at behind
      rw [← whole]
      exact (List.prefix_append_right_inj read).mpr behind
  | either first second first_ih second_ih =>
    obtain ⟨lefts, firstKnown, rest⟩ := Option.bind_eq_some_iff.mp known
    obtain ⟨rights, secondKnown, same⟩ := Option.bind_eq_some_iff.mp rest
    cases same
    rcases spans with left | right
    · obtain ⟨read, member, reads⟩ := first_ih firstKnown left
      exact ⟨read, List.mem_append_left _ member, reads⟩
    · obtain ⟨read, member, reads⟩ := second_ih secondKnown right
      exact ⟨read, List.mem_append_right _ member, reads⟩
  | repeated least most body ih => cases known

def Expr.startsAmong (listed : List (List Char)) : Expr Step → Bool
  | .seq (.step (.look .textStart)) rest => rest.texts?.any fun texts => texts.all listed.contains
  | _ => false

theorem Expr.prefix_of_startsAmong {listed : List (List Char)} {expr : Expr Step}
    (starts : expr.startsAmong listed = true) (text : List Char)
    (found : expr.matchesIn text = true) : ∃ start ∈ listed, start <+: text := by
  obtain ⟨start, stop, inside, spans⟩ := (expr.matchesIn_iff text).mp found
  unfold startsAmong at starts
  split at starts
  · next rest =>
    obtain ⟨texts, known, all⟩ := (Option.any_eq_true _ _).mp starts
    obtain ⟨middle, ⟨rfl, first⟩, back⟩ := spans
    obtain rfl := Look.eq_zero_of_textStart first
    obtain ⟨read, member, -, ahead⟩ := back.reads known
    exact ⟨read, List.contains_iff_mem.mp (List.all_eq_true.mp all read member), ahead⟩
  · cases starts

end FileVerdict.Regex
