import FileVerdict.Regex.Engine
import FileVerdict.Regex.Search

/-!
Patterns from text to search. A pattern that can be read and given a meaning, and that does not
become too large, matches a text where its meaning matches some part of it.
-/

namespace FileVerdict.Regex

inductive Refusal where
  | faulty (fault : Fault)
  | tooLarge
  deriving Repr, DecidableEq

def Refusal.render (pattern : List Char) : Refusal → String
  | .faulty fault => fault.render pattern
  | .tooLarge => "Compiled regex exceeds size limit of " ++ toString sizeLimit ++ " bytes."

/-- What a pattern means, whatever its size. -/
def interpret [Properties] (pattern : List Char) : Except Fault (Expr Step) := do
  return (← (← parse pattern).meaning Modes.initial).1

variable [Engine]

def compile (pattern : List Char) : Except Refusal (Expr Step) := do
  let expr ← (interpret pattern).mapError Refusal.faulty
  if sizeLimit < Engine.machineSize pattern then throw .tooLarge
  return expr

def isValid (pattern : List Char) : Bool := (compile pattern).isOk

/-- Whether the pattern, which has to be valid, matches somewhere in the text. -/
def matchesIn (pattern text : List Char) : Bool :=
  match compile pattern with
  | .ok expr => expr.matchesIn text
  | .error _ => false

end FileVerdict.Regex
