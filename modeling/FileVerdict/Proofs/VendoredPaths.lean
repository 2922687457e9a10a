import FileVerdict.Proofs.JoinedPatterns

/-!
What is built from a list of patterns. One that is not valid is named, with what is wrong with it,
and the first of them comes first. Where all are valid and keep to themselves, names are searched
for each of them. Besides the limits that the joined pattern may exceed, a check of one pattern by
itself does not see two things: names that two patterns give to their groups, and a comment that a
verbose pattern leaves open. The first makes the joined pattern fail, the second hides the
parenthesis behind the comment, up to the next newline.
-/

namespace FileVerdict.VendoredPaths
open FileVerdict.Regex

section
variable [Engine]

theorem checked_eq_ok (pattern : String) :
    ((compiled pattern.toList).map fun _ => ()) = .ok () ↔ isValid pattern.toList = true := by
  rw [isValid_iff, compiled]
  cases compile pattern.toList with
  | error refusal => simp [Except.mapError, Except.map]
  | ok expr => simp [Except.mapError, Except.map]

theorem checked_eq_error (pattern : String) (fault : PatternFault) :
    ((compiled pattern.toList).map fun _ => ()) = .error fault ↔
      fault.pattern = pattern ∧ compile pattern.toList = .error fault.refusal := by
  obtain ⟨named, refusal⟩ := fault
  rw [compiled]
  cases compile pattern.toList with
  | error found => simp [Except.mapError, Except.map, eq_comm]
  | ok expr => simp [Except.mapError, Except.map]

theorem ofPatterns_nil : ofPatterns [] = .ok ⟨[], none⟩ := rfl

theorem ofPatterns_cons (pattern : String) (patterns : List String)
    (valid : ∀ each ∈ pattern :: patterns, isValid each.toList = true) :
    ofPatterns (pattern :: patterns) =
      (compiled (joined (pattern :: patterns))).map fun expr =>
        ⟨pattern :: patterns, some expr⟩ := by
  have checked : ((pattern :: patterns).forM fun each =>
      (compiled each.toList).map fun _ => ()) = .ok () :=
    Result.forM_eq_ok.mpr fun each member => (checked_eq_ok each).mpr (valid each member)
  rw [ofPatterns, checked, Result.ok_bind]
  cases compiled (joined (pattern :: patterns)) with
  | error fault => rfl
  | ok expr => rfl

/-- Nothing is built before all the patterns are valid. -/
theorem valid_of_ofPatterns (patterns : List String) (vendored : VendoredPaths)
    (built : ofPatterns patterns = .ok vendored) :
    ∀ each ∈ patterns, isValid each.toList = true := by
  obtain ⟨⟨⟩, checked, -⟩ := Result.bind_eq_ok.mp built
  intro each member
  exact (checked_eq_ok each).mp (Result.forM_eq_ok.mp checked each member)

theorem ofPatterns_eq_ok (pattern : String) (patterns : List String) (vendored : VendoredPaths) :
    ofPatterns (pattern :: patterns) = .ok vendored ↔
      (∀ each ∈ pattern :: patterns, isValid each.toList = true) ∧
        ∃ expr, compile (joined (pattern :: patterns)) = .ok expr ∧
          vendored = ⟨pattern :: patterns, some expr⟩ := by
  constructor
  · intro built
    have valid := valid_of_ofPatterns _ _ built
    rw [ofPatterns_cons _ _ valid, Result.map_eq_ok] at built
    obtain ⟨expr, compiled, same⟩ := built
    exact ⟨valid, expr, Result.mapError_eq_ok.mp compiled, same.symm⟩
  · intro given
    rcases given with ⟨valid, expr, compiled, rfl⟩
    rw [ofPatterns_cons _ _ valid, Result.map_eq_ok]
    exact ⟨expr, Result.mapError_eq_ok.mpr compiled, rfl⟩

/-- A comment stays open only in what cannot be built. -/
theorem compatible_of_ofPatterns (pattern : String) (patterns : List String)
    (stays : CommentsStay (pattern :: patterns)) (vendored : VendoredPaths)
    (built : ofPatterns (pattern :: patterns) = .ok vendored) :
    Compatible (pattern :: patterns) ∧ vendored = ⟨pattern :: patterns,
      some (Expr.eitherOf (expression pattern.toList)
        (patterns.map fun each => expression each.toList))⟩ := by
  obtain ⟨valid, expr, compiled, rfl⟩ := (ofPatterns_eq_ok _ _ _).mp built
  obtain ⟨compatible, rfl⟩ := (compile_joined pattern patterns
    (fun each member => valid_of_isValid _ (valid each member)) stays expr).mp compiled
  exact ⟨compatible, rfl⟩

/-! Which paths are matched -/

def Faithful (patterns : List String) : Prop :=
  ∀ vendored, ofPatterns patterns = .ok vendored → ∀ path : String,
    vendored.matchesPath path = true ↔
      ∃ pattern ∈ patterns, matchesIn pattern.toList path.toList = true

theorem faithful_of_commentsStay (patterns : List String) (stays : CommentsStay patterns) :
    Faithful patterns := by
  intro vendored built path
  cases patterns with
  | nil =>
    cases built
    simp [matchesPath]
  | cons pattern patterns =>
    have valid := valid_of_ofPatterns _ _ built
    obtain ⟨-, rfl⟩ := compatible_of_ofPatterns _ _ stays _ built
    have alone : ∀ each ∈ pattern :: patterns, matchesIn each.toList path.toList =
        (expression each.toList).matchesIn path.toList :=
      fun each member => (valid_of_isValid _ (valid each member)).matchesIn _
    rw [matchesPath, Option.any_some, Expr.matchesIn_eitherOf, List.any_eq_true]
    constructor
    · intro given
      rcases given with ⟨expr, member, found⟩
      rw [← List.map_cons (f := fun each : String => expression each.toList),
        List.mem_map] at member
      obtain ⟨each, member, rfl⟩ := member
      exact ⟨each, member, (alone each member).trans found⟩
    · intro given
      rcases given with ⟨each, member, found⟩
      refine ⟨expression each.toList, ?_, (alone each member).symm.trans found⟩
      rw [← List.map_cons (f := fun each : String => expression each.toList)]
      exact List.mem_map_of_mem member

/-- A pattern that matches alone, and whose newline ends the comments of what stands before it. What
is left behind the newline closes one group and opens another. -/
def probe : String := "[\n)(?:]"

/-- What is left of the probe, a bracket, has to follow what the pattern before it matches. -/
theorem readsAs_probed (pattern : String) (valid : Valid pattern.toList)
    (unfinished : leavesComment pattern.toList = true) :
    ReadsAs (joined [pattern, probe]) (.concat nowhere
      (.beside (body pattern.toList).enclosed (body [']']).enclosed)) := by
  obtain ⟨reads, closed⟩ := valid.reads
  have bracketReads : Reader.Reads (Reader.start [']']) (ending [']']) :=
    Reader.reads_of_readAll _ _ (by decide)
  have bracketClosed : (ending [']']).groups = [] := by decide
  have top : Reader.AtTop [] ⟨0, [], 0, []⟩
      ('(' :: '?' :: ':' :: (pattern.toList ++ ')' :: following [probe]))
      (Reader.start (joined [pattern, probe])) :=
    ⟨rfl, rfl, rfl, rfl, joined_cons pattern [probe]⟩
  have behind : (Cursor.skipComments ((ending pattern.toList).cursor.endsInComment
      (ending pattern.toList).verbose) 0 (')' :: following [probe])).rest =
        ')' :: '(' :: '?' :: ':' :: ([']'] ++ [')']) := by
    rw [leavesComment] at unfinished
    rw [unfinished]
    decide
  obtain ⟨next, same, top⟩ := (top.grouped reads closed behind).1 (List.disjoint_nil_right _)
  have bracketBehind : (Cursor.skipComments ((ending [']']).cursor.endsInComment
      (ending [']']).verbose) 0 [')']).rest = ')' :: [] := by
    decide
  have unnamed : (ending [']']).keys.Disjoint ((ending pattern.toList).keys ++ []) := by
    have none : (ending [']']).keys = [] := by decide
    rw [none]
    exact List.disjoint_nil_left _
  obtain ⟨last, again, top⟩ :=
    (top.grouped bracketReads bracketClosed bracketBehind).1 unnamed
  refine ⟨last, ?_, top.groups, ?_⟩
  · rw [same, again, Reader.readAll_of_ended _ (by rw [top.skipped, top.rest])]
  · rw [Level.unplaced_close, top.level]
    rfl

theorem compile_probed (pattern : String) (valid : Valid pattern.toList)
    (unfinished : leavesComment pattern.toList = true)
    (shallow : nesting pattern.toList + 2 ≤ nestLimit)
    (small : Engine.machineSize (joined [pattern, probe]) ≤ sizeLimit) :
    compile (joined [pattern, probe]) =
      .ok (.seq (expression pattern.toList) (.step (.read (.one ']')))) := by
  obtain ⟨behind, means⟩ := valid.means
  have first := Ast.toOption_meaning_enclosed _ _ _ _ means
  have second : ((body [']']).enclosed.meaning Modes.initial).toOption =
      some (.step (.read (.one ']')), Modes.initial) := rfl
  rw [valid.nesting] at shallow
  refine (compile_eq_ok _ _).mpr ⟨(interpret_eq_ok _ _).mpr
    ⟨_, Modes.initial, readsAs_probed pattern valid unfinished, ?_, ?_⟩, small⟩
  · have level : (body [']']).depth = 0 := by decide
    simp only [Ast.depth, Ast.enclosed, level]
    omega
  · simp only [Ast.meaning, toOption_bind, first, second, Option.bind_some]
    rfl

theorem compile_probe (small : Engine.machineSize probe.toList ≤ sizeLimit) :
    ∃ expr, compile probe.toList = .ok expr ∧ expr.matchesIn ['\n'] = true :=
  ⟨_, (compile_eq_ok _ _).mpr ⟨rfl, small⟩, by decide⟩

/-- A pattern that leaves a comment open is not searched for next to the probe. -/
theorem not_faithful_probed (pattern : String) (valid : isValid pattern.toList = true)
    (unfinished : leavesComment pattern.toList = true)
    (shallow : nesting pattern.toList + 2 ≤ nestLimit)
    (smallProbe : Engine.machineSize probe.toList ≤ sizeLimit)
    (small : Engine.machineSize (joined [pattern, probe]) ≤ sizeLimit) :
    ¬Faithful [pattern, probe] := by
  intro faithful
  have compiled := compile_probed pattern (valid_of_isValid _ valid) unfinished shallow small
  obtain ⟨expr, probed, alone⟩ := compile_probe smallProbe
  have both : ∀ each ∈ [pattern, probe], isValid each.toList = true := by
    simp only [List.forall_mem_cons, valid, List.not_mem_nil, false_implies, implies_true, and_true,
      true_and]
    exact (isValid_iff _).mpr ⟨_, probed⟩
  have built := (ofPatterns_eq_ok pattern [probe] _).mpr ⟨both, _, compiled, rfl⟩
  have newline : matchesIn probe.toList ['\n'] = true := by
    rw [matchesIn, probed]
    exact alone
  have found := (faithful _ built "\n").mpr ⟨probe, by simp, newline⟩
  rw [matchesPath, Option.any_some, Expr.matchesIn_iff] at found
  -- The text has no place at which the bracket could be read.
  obtain ⟨start, stop, -, middle, -, -, char, here, bracket⟩ := found
  have other : char = '\n' := List.mem_singleton.mp (List.mem_of_getElem? here)
  rw [other] at bracket
  cases bracket

/-- Names are searched for each pattern as they are for that pattern alone, whatever stands next to
it, as long as no pattern ends in a comment that a later one ends. A pattern that ends in a comment
is not safe next to every other, if there is room for the probe and for the two together. -/
theorem faithful_without_open_comment (patterns : List String) :
    (CommentsStay patterns → Faithful patterns) ∧
    ∀ pattern ∈ patterns, isValid pattern.toList = true →
      nesting pattern.toList + 2 ≤ nestLimit →
      Engine.machineSize probe.toList ≤ sizeLimit →
      Engine.machineSize (joined [pattern, probe]) ≤ sizeLimit →
      ((∀ later, Faithful [pattern, later]) ↔ leavesComment pattern.toList = false) := by
  refine ⟨faithful_of_commentsStay patterns, fun pattern _ valid shallow smallProbe small => ?_⟩
  constructor
  · intro faithful
    cases unfinished : leavesComment pattern.toList with
    | false => rfl
    | true =>
      exact absurd (faithful probe)
        (not_faithful_probed pattern valid unfinished shallow smallProbe small)
  · intro silent later
    apply faithful_of_commentsStay
    simp [CommentsStay, silent]

end

theorem faithful_extension_and_folder :
    Faithful ["(?i)\\.js$", "(?x) ^ old / # folder\n | ^ new /"] ∧
    ¬∀ later, Faithful ["(?x)a #", later] := by
  constructor
  · exact (faithful_without_open_comment ["(?i)\\.js$", "(?x) ^ old / # folder\n | ^ new /"]).1
      (by decide)
  · intro faithful
    have closed := ((faithful_without_open_comment ["(?x)a #"]).2 "(?x)a #" (by decide) (by decide)
      (by decide) (by decide) (by decide)).mp faithful
    exact absurd closed (by decide)

/-- The comment behind `a` goes on to the newline, so that only an `a` before a `y` is matched. -/
theorem open_comment_hides_pattern :
    ∃ vendored, ofPatterns ["(?x)a #", "x\ny"] = .ok vendored ∧
      vendored.matchesPath "a" = false ∧ matchesIn "(?x)a #".toList "a".toList = true :=
  ⟨⟨["(?x)a #", "x\ny"],
      some (.seq .empty (.seq (.step (.read (.one 'a'))) (.step (.read (.one 'y')))))⟩,
    by decide, by decide, by decide⟩

/-! Which lists are built -/

section
variable [Engine]

def NamesFirst (patterns : List String) (fault : PatternFault) : Prop :=
  ∃ before after, patterns = before ++ fault.pattern :: after ∧
    (∀ earlier ∈ before, isValid earlier.toList = true) ∧
    compile fault.pattern.toList = .error fault.refusal

def BuildsOrNames (patterns : List String) : Prop :=
  ((∃ vendored, ofPatterns patterns = .ok vendored) ↔
      ∀ each ∈ patterns, isValid each.toList = true) ∧
    ∀ fault, ofPatterns patterns = .error fault → NamesFirst patterns fault

theorem ofPatterns_of_invalid (patterns : List String)
    (invalid : ∃ each ∈ patterns, isValid each.toList = false) :
    ∃ fault, ofPatterns patterns = .error fault ∧ NamesFirst patterns fault := by
  cases checked : patterns.forM fun each => (compiled each.toList).map fun _ => () with
  | ok done =>
    obtain ⟨each, member, refused⟩ := invalid
    have valid := (checked_eq_ok each).mp (Result.forM_eq_ok.mp checked each member)
    rw [refused] at valid
    cases valid
  | error fault =>
    refine ⟨fault, ?_, ?_⟩
    · rw [ofPatterns, checked]
      rfl
    · obtain ⟨before, item, after, split, passed, failed⟩ := Result.forM_eq_error.mp checked
      obtain ⟨rfl, refused⟩ := (checked_eq_error _ _).mp failed
      exact ⟨before, after, split, fun earlier member => (checked_eq_ok _).mp (passed _ member),
        refused⟩

theorem ofPatterns_of_valid (patterns : List String) (nonempty : patterns ≠ [])
    (valid : ∀ each ∈ patterns, isValid each.toList = true) :
    ((∃ vendored, ofPatterns patterns = .ok vendored) ↔ isValid (joined patterns) = true) ∧
    ∀ fault, ofPatterns patterns = .error fault ↔
      fault.pattern = String.ofList (joined patterns) ∧
        compile (joined patterns) = .error fault.refusal := by
  obtain ⟨pattern, patterns, rfl⟩ := List.exists_cons_of_ne_nil nonempty
  rw [ofPatterns_cons _ _ valid, isValid_iff, compiled]
  cases compile (joined (pattern :: patterns)) with
  | error refusal =>
    simp only [Except.mapError, Except.map, reduceCtorEq, exists_false, true_and,
      Except.error.injEq]
    intro given
    rcases given with ⟨named, found⟩
    simp [eq_comm]
  | ok expr => simp [Except.mapError, Except.map]

theorem buildsOrNames_iff (patterns : List String) :
    BuildsOrNames patterns ↔
      (∃ each ∈ patterns, isValid each.toList = false) ∨ patterns = [] ∨
        isValid (joined patterns) = true := by
  by_cases invalid : ∃ each ∈ patterns, isValid each.toList = false
  · obtain ⟨fault, failed, names⟩ := ofPatterns_of_invalid patterns invalid
    refine ⟨fun _ => .inl invalid, fun _ => ⟨⟨?_, fun valid => ?_⟩, fun other same => ?_⟩⟩
    · intro given
      rcases given with ⟨vendored, built⟩
      rw [failed] at built
      cases built
    · obtain ⟨each, member, refused⟩ := invalid
      rw [valid each member] at refused
      cases refused
    · rw [failed] at same
      cases same
      exact names
  have valid : ∀ each ∈ patterns, isValid each.toList = true := by simpa using invalid
  by_cases empty : patterns = []
  · subst empty
    refine ⟨fun _ => .inr (.inl rfl), fun _ => ⟨⟨fun _ => valid, fun _ => ⟨_, ofPatterns_nil⟩⟩, ?_⟩⟩
    intro fault failed
    cases failed
  obtain ⟨built, failed⟩ := ofPatterns_of_valid patterns empty valid
  constructor
  · intro promise
    exact .inr (.inr (built.mp (promise.1.mpr valid)))
  · intro given
    rcases given with refused | none | joins
    · exact absurd refused invalid
    · exact absurd none empty
    · obtain ⟨vendored, done⟩ := built.mpr joins
      refine ⟨⟨fun _ => valid, fun _ => ⟨vendored, done⟩⟩, fun fault same => ?_⟩
      rw [done] at same
      cases same

/-- A list in which some pattern is not valid is refused for the first of them. One in which all are
valid is built if the patterns joined are valid, which comes down to what they have to share: no
comment may be left open, no name may be given twice, and there has to be room. Otherwise it is the
joined pattern that is named, which nobody has written. -/
theorem buildsOrNames_when_joined_isValid (patterns : List String) :
    (BuildsOrNames patterns ↔
      (∃ each ∈ patterns, isValid each.toList = false) ∨ patterns = [] ∨
        isValid (joined patterns) = true) ∧
    (patterns ≠ [] → (∀ each ∈ patterns, isValid each.toList = true) →
      (CommentsStay patterns → (isValid (joined patterns) = true ↔ Compatible patterns)) ∧
      ∀ fault, ofPatterns patterns = .error fault ↔
        fault.pattern = String.ofList (joined patterns) ∧
          compile (joined patterns) = .error fault.refusal) := by
  refine ⟨buildsOrNames_iff patterns, fun nonempty valid => ⟨fun stays => ?_,
    (ofPatterns_of_valid patterns nonempty valid).2⟩⟩
  obtain ⟨pattern, patterns, rfl⟩ := List.exists_cons_of_ne_nil nonempty
  have joins := compile_joined pattern patterns
    (fun each member => valid_of_isValid _ (valid each member)) stays
  rw [isValid_iff]
  constructor
  · intro given
    rcases given with ⟨expr, compiled⟩
    exact ((joins expr).mp compiled).1
  · intro compatible
    exact ⟨_, (joins _).mpr ⟨compatible, rfl⟩⟩

end

theorem compatible_named_and_plain :
    Compatible ["(?P<n>a)", "b|c"] ∧ BuildsOrNames ["(?P<n>a)", "b|c"] ∧
    ¬BuildsOrNames ["(?P<n>a)", "(?P<n>b)"] ∧
    ofPatterns ["(?x)a # open"] = .error
      ⟨"(?:(?x)a # open)", .faulty ⟨.groupUnclosed, ⟨0, 1⟩, none⟩⟩ ∧
    ofPatterns ["(a){100000}", "(b){100000}"] = .error
      ⟨"(?:(a){100000})|(?:(b){100000})", .tooLarge⟩ := by
  refine ⟨?_, ?_, ?_, ?_, ?_⟩
  · exact (((buildsOrNames_when_joined_isValid ["(?P<n>a)", "b|c"]).2 (by decide) (by decide)).1
      (by decide)).mp (by decide)
  · exact (buildsOrNames_when_joined_isValid _).1.mpr (.inr (.inr (by decide)))
  · intro builds
    exact absurd ((buildsOrNames_when_joined_isValid _).1.mp builds) (by decide)
  · exact (((buildsOrNames_when_joined_isValid ["(?x)a # open"]).2 (by decide) (by decide)).2 _).mpr
      (by decide)
  · exact (((buildsOrNames_when_joined_isValid ["(a){100000}", "(b){100000}"]).2 (by decide)
      (by decide)).2 _).mpr (by decide)

/-- Both patterns are valid, and the name that they share is found in neither of them. -/
theorem shared_name_blames_joined :
    (∀ each ∈ ["(?P<n>a)", "(?P<n>b)"], isValid each.toList = true) ∧
    ∃ fault, ofPatterns ["(?P<n>a)", "(?P<n>b)"] = .error fault ∧
      fault.pattern ∉ ["(?P<n>a)", "(?P<n>b)"] :=
  ⟨by decide, ⟨"(?:(?P<n>a))|(?:(?P<n>b))", .faulty ⟨.nameDuplicate, ⟨20, 21⟩, some ⟨7, 8⟩⟩⟩,
    by decide, by decide⟩

/-! The built-in patterns. As lists of characters they are read without decoding a string. -/

theorem spelled_cons {patterns : List String} {spellings : List (List Char)} (spelling : List Char)
    (rest : patterns = spellings.map String.ofList) :
    String.ofList spelling :: patterns = (spelling :: spellings).map String.ofList :=
  congrArg (String.ofList spelling :: ·) rest

noncomputable def spelledPatterns :
    { spellings : List (List Char) // defaultPatterns = spellings.map String.ofList } :=
  ⟨_, by
    unfold defaultPatterns
    repeat apply spelled_cons
    exact List.map_nil.symm⟩

theorem toList_mem_spelledPatterns (pattern : String) (member : pattern ∈ defaultPatterns) :
    pattern.toList ∈ spelledPatterns.1 := by
  rw [spelledPatterns.2] at member
  obtain ⟨spelling, known, rfl⟩ := List.mem_map.mp member
  rwa [String.toList_ofList]

theorem joined_map_ofList (spellings : List (List Char)) :
    joined (spellings.map String.ofList) =
      ['|'].intercalate (spellings.map fun spelling => ['(', '?', ':'] ++ spelling ++ [')']) := by
  rw [joined, List.map_map]
  congr 2
  funext spelling
  rw [Function.comp_apply, grouped, String.toList_ofList]

def builtOrNothing (patterns : List String) : VendoredPaths :=
  match ofPatterns patterns with
  | .ok vendored => vendored
  | .error _ => ⟨[], none⟩

-- Otherwise `rfl` would compile every pattern only to see that both sides say the same.
attribute [local irreducible] ofPatterns in
theorem builtin_eq : builtin = builtOrNothing defaultPatterns := rfl

/-- The built-in patterns are valid, and so is what they are joined to. -/
theorem ofPatterns_defaultPatterns : ofPatterns defaultPatterns = .ok builtin := by
  have each : ∀ spelling ∈ spelledPatterns.1, isValid spelling = true := by decide +kernel
  have valid : ∀ pattern ∈ defaultPatterns, isValid pattern.toList = true :=
    fun pattern member => each _ (toList_mem_spelledPatterns pattern member)
  have joins : isValid (joined defaultPatterns) = true := by
    rw [spelledPatterns.2, joined_map_ofList]
    decide +kernel
  obtain ⟨vendored, built⟩ :=
    (ofPatterns_of_valid defaultPatterns (List.cons_ne_nil _ _) valid).1.mpr joins
  rw [builtin_eq, builtOrNothing, built]

end FileVerdict.VendoredPaths
