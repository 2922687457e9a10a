import FileVerdict.Proofs.Options
import FileVerdict.Proofs.Text.Lines
import FileVerdict.Proofs.VendoredPaths

/-!
Rules made from a file of patterns. A line holds no newline, so no comment that one of them leaves
open is ended by another: either the lines keep to themselves or no rules are made.
-/

namespace FileVerdict
open FileVerdict.Text FileVerdict.Regex

def IsPatternLine (line : List Char) : Prop :=
  trim line ≠ [] ∧ (trim line).head? ≠ some '#'

theorem mem_patternLines (text : List Char) (pattern : String) :
    pattern ∈ patternLines (String.ofList text) ↔
      ∃ line ∈ lines text, IsPatternLine line ∧ String.ofList (trim line) = pattern := by
  simp only [patternLines, String.toList_ofList, List.mem_map, List.mem_filter, Bool.and_eq_true,
    Bool.not_eq_true', List.isEmpty_eq_false_iff, bne_iff_ne, IsPatternLine]
  constructor
  · intro given
    rcases given with ⟨trimmed, ⟨⟨line, member, rfl⟩, kept⟩, rfl⟩
    exact ⟨line, member, kept, rfl⟩
  · intro given
    rcases given with ⟨line, member, kept, rfl⟩
    exact ⟨trim line, ⟨⟨line, member, rfl⟩, kept⟩, rfl⟩

theorem commentsStay_patternLines (text : List Char) :
    VendoredPaths.CommentsStay (patternLines (String.ofList text)) := by
  apply List.pairwise_of_forall_mem_list
  intro pattern member later laterMember unfinished inside
  obtain ⟨line, known, kept, rfl⟩ := (mem_patternLines text later).mp laterMember
  rw [String.toList_ofList] at inside
  exact newline_not_mem_lines text line known (mem_of_mem_trim line _ inside)

section
variable [Engine]

/-- The rules made from a file of patterns, all but the patterns being built in. -/
theorem rules_of_patternFile (files : Files) (path : String) (bytes : List UInt8)
    (text : List Char) (read : files.read path = .ok bytes) (utf8 : decode? bytes = some text)
    (rules : Rules) :
    (Options.unset.withPatternFile path).rules files = .ok rules ↔
      ∃ vendored, VendoredPaths.ofPatterns (patternLines (String.ofList text)) = .ok vendored ∧
        rules = ⟨Language.catalogue, Media.byExtension, vendored⟩ := by
  have patterns : readPatterns files path = .ok (patternLines (String.ofList text)) := by
    simp only [readPatterns, read, Result.ok_bind, utf8]
    rfl
  rw [Options.rules_of_file _ files path rfl rfl, patterns, Result.ok_bind, Options.rulesWith,
    Result.bind_eq_ok]
  constructor
  · intro given
    rcases given with ⟨vendored, built, same⟩
    cases same
    exact ⟨vendored, Result.mapError_eq_ok.mp built, rfl⟩
  · intro given
    rcases given with ⟨vendored, built, rfl⟩
    exact ⟨vendored, Result.mapError_eq_ok.mpr built, rfl⟩

/-- Rules made from a file of patterns count a file as vendored exactly where a line of the file of
patterns, which is not empty and no comment, matches its name. Where there is no such line there
always are rules, and nothing is vendored. -/
theorem isVendored_of_patternFile (files : Files) (path : String) (bytes : List UInt8)
    (text : List Char) (read : files.read path = .ok bytes) (utf8 : decode? bytes = some text) :
    (∀ rules, (Options.unset.withPatternFile path).rules files = .ok rules →
      ∀ subject, rules.isVendored subject = true ↔ ∃ line ∈ lines text,
        IsPatternLine line ∧ matchesIn (trim line) subject.name.toList = true) ∧
    ((∀ line ∈ lines text, ¬IsPatternLine line) →
      ∃ rules, (Options.unset.withPatternFile path).rules files = .ok rules ∧
        ∀ subject, rules.isVendored subject = false) := by
  constructor
  · intro rules made subject
    obtain ⟨vendored, built, rfl⟩ := (rules_of_patternFile _ _ _ _ read utf8 _).mp made
    have faithful :=
      VendoredPaths.faithful_of_commentsStay _ (commentsStay_patternLines text) vendored built
    rw [Rules.isVendored, faithful]
    constructor
    · intro given
      rcases given with ⟨pattern, member, found⟩
      obtain ⟨line, known, kept, rfl⟩ := (mem_patternLines text pattern).mp member
      rw [String.toList_ofList] at found
      exact ⟨line, known, kept, found⟩
    · intro given
      rcases given with ⟨line, known, kept, found⟩
      refine ⟨String.ofList (trim line), (mem_patternLines text _).mpr ⟨line, known, kept, rfl⟩, ?_⟩
      rw [String.toList_ofList]
      exact found
  · intro none
    have empty : patternLines (String.ofList text) = [] := by
      rw [List.eq_nil_iff_forall_not_mem]
      intro pattern member
      obtain ⟨line, known, kept, -⟩ := (mem_patternLines text pattern).mp member
      exact none line known kept
    refine ⟨⟨Language.catalogue, Media.byExtension, ⟨[], Option.none⟩⟩,
      (rules_of_patternFile _ _ _ _ read utf8 _).mpr ⟨_, ?_, rfl⟩, fun subject => rfl⟩
    rw [empty]
    exact VendoredPaths.ofPatterns_nil

end

def ownPatterns : Tree :=
  Tree.empty.write "own" (.file (encode "# ours\n (^|/)lib/ \n".toList))

theorem isVendored_below_lib :
    ∃ rules, (Options.unset.withPatternFile "own").rules ownPatterns.files = .ok rules ∧
      rules.isVendored (Subject.unloaded "a/lib/b.c" 0) = true := by
  have read : ownPatterns.files.read "own" = .ok (encode "# ours\n (^|/)lib/ \n".toList) := by
    decide
  have utf8 : decode? (encode "# ours\n (^|/)lib/ \n".toList) =
      some "# ours\n (^|/)lib/ \n".toList := by
    decide
  have built : ∃ vendored, VendoredPaths.ofPatterns
      (patternLines (String.ofList "# ours\n (^|/)lib/ \n".toList)) = .ok vendored :=
    ⟨_, rfl⟩
  obtain ⟨vendored, built⟩ := built
  have made := (rules_of_patternFile _ "own" _ _ read utf8 _).mpr ⟨vendored, built, rfl⟩
  refine ⟨_, made, ((isVendored_of_patternFile _ "own" _ _ read utf8).1 _ made _).mpr ?_⟩
  exact ⟨" (^|/)lib/ ".toList, by decide, ⟨by decide, by decide⟩, by decide⟩

end FileVerdict
