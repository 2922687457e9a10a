import FileVerdict.Regex.Expr

/-!
Searching a text. A set of places is a number whose bit `i` tells whether place `i` is in it, where
the place before the first character is 0. An expression sends the places at which it may begin to
those at which it may end; the steps are worked out for the text once, before that.
-/

namespace FileVerdict.Regex

inductive Move where
  | forward (places : Nat)
  | stay (places : Nat)
  deriving Repr, DecidableEq

def readable (chars : CharClass) (text : List Char) : Nat :=
  text.foldr (fun char places => 2 * places + if chars.contains char then 1 else 0) 0

def lookable (look : Look) (before : Option Char) : List Char → Nat
  | [] => if look.holds before none then 1 else 0
  | char :: rest =>
    2 * lookable look (some char) rest + if look.holds before (some char) then 1 else 0

def Step.on (text : List Char) : Step → Move
  | .read chars => .forward (readable chars text)
  | .look condition => .stay (lookable condition none text)

/-- Exactly so many times, or fewer where more change nothing. -/
def exactly (once : Nat → Nat) : Nat → Nat → Nat
  | 0, places => places
  | count + 1, places =>
    let next := once places
    if next = places then places else exactly once count next

def upTo (once : Nat → Nat) : Nat → Nat → Nat
  | 0, places => places
  | count + 1, places =>
    let next := places ||| once places
    if next = places then places else upTo once count next

/-- The places at which an expression may end if it begins at one of `places`. A text with so many
places gives any set time to stop growing. -/
def Expr.ends (size : Nat) : Expr Move → Nat → Nat
  | .empty, places => places
  | .step (.forward crossed), places => 2 * (places &&& crossed)
  | .step (.stay here), places => places &&& here
  | .seq first second, places => second.ends size (first.ends size places)
  | .either first second, places => first.ends size places ||| second.ends size places
  | .repeated least most body, places =>
    let begun := exactly (body.ends size) least places
    match most with
    | none => upTo (body.ends size) size begun
    | some most => upTo (body.ends size) (most - least) begun

def Expr.matchesIn (expr : Expr Step) (text : List Char) : Bool :=
  let size := text.length + 1
  (expr.map (Step.on text)).ends size ((1 <<< size) - 1) != 0

end FileVerdict.Regex
