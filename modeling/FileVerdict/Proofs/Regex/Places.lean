import FileVerdict.Proofs.Result
import FileVerdict.Regex.Meaning
import FileVerdict.Regex.Reader
import Mathlib.Tactic.SplitIfs

/-!
Patterns without their places. The place of a node matters to the faults that name it and to
nothing else: what a pattern means and how deep it nests are the same without.
-/

namespace FileVerdict.Regex

def nowhere : Span := ⟨0, 0⟩

namespace CharSet

def unplaced : CharSet → CharSet
  | .empty _ => .empty nowhere
  | .leaf _ what => .leaf nowhere what
  | .range _ first last _ _ firstByte lastByte =>
    .range nowhere first last nowhere nowhere firstByte lastByte
  | .ascii _ kind negated => .ascii nowhere kind negated
  | .bracket _ negated body => .bracket nowhere negated body.unplaced
  | .union _ items => .union nowhere items.unplaced
  | .beside first rest => .beside first.unplaced rest.unplaced
  | .combine _ operator left right => .combine nowhere operator left.unplaced right.unplaced

@[simp] theorem unplaced_shift (offset : Nat) (set : CharSet) :
    (set.shift offset).unplaced = set.unplaced := by
  induction set with
  | bracket span negated body ih => simp [shift, unplaced, ih]
  | union span items ih => simp [shift, unplaced, ih]
  | beside first rest firstSame restSame => simp [shift, unplaced, firstSame, restSame]
  | combine span operator left right leftSame rightSame =>
    simp [shift, unplaced, leftSame, rightSame]
  | _ => rfl

/-- How many sets lie within each other at most. -/
def depth : CharSet → Nat
  | .bracket _ _ body => body.depth + 1
  | .union _ items => items.depth + 1
  | .combine _ _ left right => max left.depth right.depth + 1
  | .beside first rest => max first.depth rest.depth
  | _ => 0

theorem depth_unplaced (set : CharSet) : set.unplaced.depth = set.depth := by
  induction set with
  | bracket span negated body ih => simp [unplaced, depth, ih]
  | union span items ih => simp [unplaced, depth, ih]
  | beside first rest firstSame restSame => simp [unplaced, depth, firstSame, restSame]
  | combine span operator left right leftSame rightSame =>
    simp [unplaced, depth, leftSame, rightSame]
  | _ => rfl

theorem tooDeep?_eq_none (room : Nat) (set : CharSet) :
    set.tooDeep? room = none ↔ set.depth ≤ room := by
  induction set generalizing room with
  | bracket span negated body ih =>
    cases room with
    | zero => simp [tooDeep?, depth]
    | succ room => simp [tooDeep?, depth, ih]
  | union span items ih =>
    cases room with
    | zero => simp [tooDeep?, depth]
    | succ room => simp [tooDeep?, depth, ih]
  | beside first rest firstDeep restDeep =>
    simp only [tooDeep?, depth, Option.or_eq_none_iff, firstDeep, restDeep]
    omega
  | combine span operator left right leftDeep rightDeep =>
    cases room with
    | zero => simp [tooDeep?, depth]
    | succ room =>
      simp only [tooDeep?, depth, Option.or_eq_none_iff, leftDeep, rightDeep]
      omega
  | _ => simp [tooDeep?, depth]

end CharSet

namespace Ast

def unplaced : Ast → Ast
  | .empty _ => .empty nowhere
  | .leaf _ what => .leaf nowhere what
  | .bracket _ negated set => .bracket nowhere negated set.unplaced
  | .flags _ items => .flags nowhere items
  | .group _ captures items body => .group nowhere captures items body.unplaced
  | .repetition _ least most body => .repetition nowhere least most body.unplaced
  | .concat _ parts => .concat nowhere parts.unplaced
  | .alternation _ branches => .alternation nowhere branches.unplaced
  | .beside first rest => .beside first.unplaced rest.unplaced
  | .orElse first rest => .orElse first.unplaced rest.unplaced

theorem unplaced_partsChain (first : Ast) (parts : List Ast) :
    (ofParts.chain first parts).unplaced =
      ofParts.chain first.unplaced (parts.map unplaced) := by
  induction parts generalizing first with
  | nil => rfl
  | cons second parts ih => simp [ofParts.chain, unplaced, ih]

theorem unplaced_ofParts (span : Span) (parts : List Ast) :
    (ofParts span parts).unplaced = ofParts nowhere (parts.map unplaced) := by
  match parts with
  | [] => rfl
  | [part] => rfl
  | part :: second :: parts =>
    exact congrArg (Ast.concat nowhere) (unplaced_partsChain part (second :: parts))

theorem unplaced_branchesChain (first : Ast) (branches : List Ast) :
    (ofBranches.chain first branches).unplaced =
      ofBranches.chain first.unplaced (branches.map unplaced) := by
  induction branches generalizing first with
  | nil => rfl
  | cons second branches ih => simp [ofBranches.chain, unplaced, ih]

theorem unplaced_ofBranches (span : Span) (branches : List Ast) :
    (ofBranches span branches).unplaced = ofBranches nowhere (branches.map unplaced) := by
  match branches with
  | [] => rfl
  | [branch] => rfl
  | branch :: second :: branches =>
    exact congrArg (Ast.alternation nowhere) (unplaced_branchesChain branch (second :: branches))

/-- How many nodes lie within each other at most, as the limit on nesting counts them. -/
def depth : Ast → Nat
  | .bracket _ _ set => set.depth + 1
  | .group _ _ _ body => body.depth + 1
  | .repetition _ _ _ body => body.depth + 1
  | .concat _ parts => parts.depth + 1
  | .alternation _ branches => branches.depth + 1
  | .beside first rest => max first.depth rest.depth
  | .orElse first rest => max first.depth rest.depth
  | _ => 0

theorem depth_unplaced (ast : Ast) : ast.unplaced.depth = ast.depth := by
  induction ast with
  | bracket span negated set => simp [unplaced, depth, CharSet.depth_unplaced]
  | beside first rest firstSame restSame => simp [unplaced, depth, firstSame, restSame]
  | orElse first rest firstSame restSame => simp [unplaced, depth, firstSame, restSame]
  | group span captures items body ih => simp [unplaced, depth, ih]
  | repetition span least most body ih => simp [unplaced, depth, ih]
  | concat span parts ih => simp [unplaced, depth, ih]
  | alternation span branches ih => simp [unplaced, depth, ih]
  | _ => rfl

theorem tooDeep?_eq_none (room : Nat) (ast : Ast) :
    ast.tooDeep? room = none ↔ ast.depth ≤ room := by
  induction ast generalizing room with
  | beside first rest firstDeep restDeep | orElse first rest firstDeep restDeep =>
    simp only [tooDeep?, depth, Option.or_eq_none_iff, firstDeep, restDeep]
    omega
  | bracket span negated set =>
    cases room with
    | zero => simp [tooDeep?, depth]
    | succ room => simp [tooDeep?, depth, CharSet.tooDeep?_eq_none]
  | group span captures items body ih | repetition span least most body ih | concat span body ih
  | alternation span body ih =>
    cases room with
    | zero => simp [tooDeep?, depth]
    | succ room => simp [tooDeep?, depth, ih]
  | _ => simp [tooDeep?, depth]

def isRepeatable : Ast → Bool
  | .empty _ | .flags _ _ => false
  | _ => true

theorem isRepeatable_unplaced (ast : Ast) : ast.unplaced.isRepeatable = ast.isRepeatable := by
  cases ast <;> rfl

end Ast

/-! What a reader has read so far -/

namespace Level

def unplaced (level : Level) : Level :=
  ⟨0, level.branches.map Ast.unplaced, 0, level.parts.map Ast.unplaced⟩

theorem unplaced_push (level : Level) (part : Ast) :
    (level.push part).unplaced = level.unplaced.push part.unplaced := rfl

theorem unplaced_branch (level : Level) (stop : Nat) :
    (level.branch stop).unplaced = Ast.ofParts nowhere level.unplaced.parts.reverse := by
  simp only [branch, Ast.unplaced_ofParts, unplaced, List.map_reverse]

theorem unplaced_bar (level : Level) (place : Nat) :
    (level.bar place).unplaced =
      ⟨0, Ast.ofParts nowhere level.unplaced.parts.reverse :: level.unplaced.branches, 0, []⟩ := by
  rw [← unplaced_branch level place]
  rfl

theorem unplaced_close (level : Level) (stop : Nat) :
    (level.close stop).unplaced =
      Ast.ofBranches nowhere (level.unplaced.branches.reverse ++
        [Ast.ofParts nowhere level.unplaced.parts.reverse]) := by
  rw [close, Ast.unplaced_ofBranches, List.map_append, List.map_reverse,
    ← unplaced_branch level stop]
  rfl

end Level

def OpenGroup.unplaced (group : OpenGroup) : OpenGroup :=
  ⟨group.outer.unplaced, 0, group.captures, group.items, group.verbose⟩

/-! Meanings, as long as there is one -/

theorem toOption_bind {α β : Type} (first : Meaning α) (next : α → Meaning β) :
    (first >>= next).toOption = first.toOption.bind fun value => (next value).toOption := by
  cases first <;> rfl

theorem toOption_eq_some {α : Type} {first : Meaning α} {value : α} :
    first.toOption = some value ↔ first = .ok value := by
  cases first with
  | error fault => simp [Except.toOption]
  | ok found => simp [Except.toOption]

theorem toOption_signed (modes : Modes) (span : Span) (negated : Bool) (chars : CharClass) :
    (signed modes span negated chars).toOption =
      (signed modes nowhere negated chars).toOption := by
  simp only [signed]
  split_ifs <;> rfl

theorem toOption_literalChar (modes : Modes) (span : Span) (char : Char) (isByte : Bool) :
    (literalChar modes span char isByte).toOption =
      (literalChar modes nowhere char isByte).toOption := by
  simp only [literalChar]
  split_ifs <;> rfl

theorem toOption_memberChar (modes : Modes) (span : Span) (char : Char) (isByte : Bool) :
    (memberChar modes span char isByte).toOption =
      (memberChar modes nowhere char isByte).toOption := by
  simp only [memberChar, toOption_bind, toOption_literalChar modes span]
  congr 1
  funext char
  split_ifs <;> rfl

theorem toOption_perlClass (modes : Modes) (span : Span) (kind : PerlClass) (negated : Bool) :
    (perlClass modes span kind negated).toOption =
      (perlClass modes nowhere kind negated).toOption :=
  toOption_signed _ _ _ _

theorem toOption_dotClass (modes : Modes) (span : Span) :
    (dotClass modes span).toOption = (dotClass modes nowhere).toOption := by
  simp only [dotClass]
  split_ifs <;> rfl

section
variable [Properties]

theorem toOption_propertyClass (modes : Modes) (span : Span) (query : PropertyQuery)
    (negated : Bool) :
    (propertyClass modes span query negated).toOption =
      (propertyClass modes nowhere query negated).toOption := by
  simp only [propertyClass]
  split_ifs
  · rfl
  · split
    · rfl
    · rfl
    · exact toOption_signed _ _ _ _

theorem CharSet.toOption_meaning_unplaced (modes : Modes) (set : CharSet) :
    (set.unplaced.meaning modes).toOption = (set.meaning modes).toOption := by
  induction set with
  | empty span => rfl
  | leaf span what =>
    cases what with
    | literal char isByte =>
      simp only [unplaced, meaning, toOption_bind, toOption_memberChar modes span]
    | perl kind negated => exact (toOption_perlClass _ _ _ _).symm
    | property query negated => exact (toOption_propertyClass _ _ _ _).symm
    | dot => rfl
    | assertion kind => rfl
  | range span first last firstSpan lastSpan firstByte lastByte =>
    simp only [unplaced, meaning, toOption_bind, toOption_memberChar modes firstSpan,
      toOption_memberChar modes lastSpan]
  | ascii span kind negated => exact (toOption_signed _ _ _ _).symm
  | bracket span negated body ih =>
    simp only [unplaced, meaning, toOption_bind, ih, toOption_signed modes span]
  | union span items ih => exact ih
  | beside first rest firstSame restSame =>
    simp only [unplaced, meaning, toOption_bind, firstSame, restSame]
  | combine span operator left right leftSame rightSame =>
    simp only [unplaced, meaning, toOption_bind, leftSame, rightSame]

theorem Leaf.toOption_meaning (modes : Modes) (span : Span) (what : Leaf) :
    (what.meaning modes span).toOption = (what.meaning modes nowhere).toOption := by
  cases what with
  | literal char isByte =>
    simp only [meaning, toOption_bind, toOption_literalChar modes span]
  | dot => simp only [meaning, toOption_bind, toOption_dotClass modes span]
  | assertion kind => rfl
  | perl kind negated => simp only [meaning, toOption_bind, toOption_perlClass modes span]
  | property query negated =>
    simp only [meaning, toOption_bind, toOption_propertyClass modes span]

theorem Ast.toOption_meaning_unplaced (modes : Modes) (ast : Ast) :
    (ast.unplaced.meaning modes).toOption = (ast.meaning modes).toOption := by
  induction ast generalizing modes with
  | empty span => rfl
  | leaf span what => simp only [unplaced, meaning, toOption_bind, what.toOption_meaning modes span]
  | bracket span negated set =>
    simp only [unplaced, meaning, toOption_bind, CharSet.toOption_meaning_unplaced,
      toOption_signed modes span]
  | flags span items => rfl
  | group span captures items body ih => simp only [unplaced, meaning, toOption_bind, ih]
  | repetition span least most body ih => simp only [unplaced, meaning, toOption_bind, ih]
  | concat span parts ih => exact ih modes
  | alternation span branches ih => exact ih modes
  | beside first rest firstSame restSame =>
    simp only [unplaced, meaning, toOption_bind, firstSame, restSame]
  | orElse first rest firstSame restSame =>
    simp only [unplaced, meaning, toOption_bind, firstSame, restSame]

end

end FileVerdict.Regex
