import FileVerdict.Proofs.Regex.Places
import FileVerdict.Proofs.Regex.Search
import Mathlib.Algebra.GroupWithZero.Nat

/-!
Alternatives, each in a group of its own. A group gives back the flags that were in force before
it, so every alternative means what it means alone; and a text that one of them matches is a text
that all of them together match.
-/

namespace FileVerdict.Regex

namespace Expr

variable {α : Type}

def eitherOf (first : Expr α) : List (Expr α) → Expr α
  | [] => first
  | second :: rest => .either first (eitherOf second rest)

theorem matchesIn_either (first second : Expr Step) (text : List Char) :
    (Expr.either first second).matchesIn text =
      (first.matchesIn text || second.matchesIn text) := by
  rw [Bool.eq_iff_iff, Bool.or_eq_true]
  simp only [matchesIn_iff, Spans, and_or_left, exists_or]

theorem matchesIn_eitherOf (first : Expr Step) (rest : List (Expr Step)) (text : List Char) :
    (eitherOf first rest).matchesIn text =
      (first :: rest).any fun expr => expr.matchesIn text := by
  induction rest generalizing first with
  | nil => simp [eitherOf]
  | cons second rest ih => simp [eitherOf, matchesIn_either, ih]

end Expr

namespace Ast

def enclosed (tree : Ast) : Ast := .group nowhere false [] tree

theorem toOption_meaning_enclosed [Properties] (modes behind : Modes) (tree : Ast)
    (expr : Expr Step) (meant : (tree.meaning modes).toOption = some (expr, behind)) :
    (tree.enclosed.meaning modes).toOption = some (expr, modes) := by
  have plain : modes.set [] = modes := rfl
  simp only [enclosed, meaning, toOption_bind, plain, meant]
  rfl

section
variable {ι : Type} (trees : ι → Ast) (exprs : ι → Expr Step)

theorem toOption_meaning_chain [Properties] (modes : Modes) (first : ι) (rest : List ι)
    (meant : ∀ index ∈ first :: rest, ∃ behind,
      ((trees index).meaning modes).toOption = some (exprs index, behind)) :
    ((ofBranches.chain (trees first).enclosed
      (rest.map fun index => (trees index).enclosed)).meaning modes).toOption =
        some (Expr.eitherOf (exprs first) (rest.map exprs), modes) := by
  induction rest generalizing first with
  | nil =>
    obtain ⟨behind, known⟩ := meant first List.mem_cons_self
    exact toOption_meaning_enclosed _ _ _ _ known
  | cons second rest ih =>
    obtain ⟨behind, known⟩ := meant first List.mem_cons_self
    have others := ih second fun index member => meant index (List.mem_cons_of_mem _ member)
    simp only [List.map_cons, ofBranches.chain, meaning, toOption_bind,
      toOption_meaning_enclosed _ _ _ _ known, others, Option.bind_some]
    rfl

/-- Alternatives mean one of what they mean alone. -/
theorem toOption_meaning_ofBranches [Properties] (modes : Modes) (first : ι) (rest : List ι)
    (meant : ∀ index ∈ first :: rest, ∃ behind,
      ((trees index).meaning modes).toOption = some (exprs index, behind)) :
    ((ofBranches nowhere ((first :: rest).map fun index => (trees index).enclosed)).meaning
      modes).toOption = some (Expr.eitherOf (exprs first) (rest.map exprs), modes) := by
  have chain := toOption_meaning_chain trees exprs modes first rest meant
  cases rest with
  | nil => exact chain
  | cons second rest => exact chain

theorem depth_chain (limit : Nat) (first : ι) (rest : List ι) :
    (ofBranches.chain (trees first).enclosed
      (rest.map fun index => (trees index).enclosed)).depth ≤ limit ↔
        ∀ index ∈ first :: rest, (trees index).depth + 1 ≤ limit := by
  induction rest generalizing first with
  | nil => simp [ofBranches.chain, enclosed, depth]
  | cons second rest ih =>
    rw [List.map_cons, ofBranches.chain, depth, Nat.max_le, ih, List.forall_mem_cons (a := first)]
    rfl

/-- A single pattern lies in its group, several lie in an alternation besides. -/
theorem depth_ofBranches (limit : Nat) (first : ι) (rest : List ι) :
    (ofBranches nowhere ((first :: rest).map fun index => (trees index).enclosed)).depth ≤ limit ↔
      ∀ index ∈ first :: rest, (trees index).depth + (if rest = [] then 1 else 2) ≤ limit := by
  cases rest with
  | nil => simp [ofBranches, enclosed, depth]
  | cons second rest =>
    rw [if_neg (List.cons_ne_nil _ _)]
    change (ofBranches.chain _ _).depth + 1 ≤ limit ↔ _
    cases limit with
    | zero =>
      constructor
      · intro absurdly
        exact absurd absurdly (Nat.not_succ_le_zero _)
      · intro bounded
        exact absurd (bounded first List.mem_cons_self) (Nat.not_succ_le_zero _)
    | succ limit =>
      rw [Nat.succ_le_succ_iff]
      exact (depth_chain trees limit first (second :: rest)).trans (by simp)

end

end Ast

end FileVerdict.Regex
