import FileVerdict.Regex.Meaning
import FileVerdict.Regex.Reader

/-!
What patterns leave to the engine that compiles them: which properties of characters it knows, and
how large the machine is that it makes of a pattern. The engine of this library has its own tables
and makes no machine, so it estimates the size, in bytes, of one that reads the bytes of UTF-8. A
state takes 32, a way out of a state 8, a captured group a state at either end, and each copy of a
repeated part as much as the part. What a class beyond ASCII takes is reckoned from the number of
its ranges.
-/

namespace FileVerdict.Regex
open FileVerdict.Text

def stateSize : Nat := 32

def exitSize : Nat := 8

/-- Room for what the classes beyond ASCII have in common: the ways in which bytes follow bytes. -/
def sequenceSize : Nat := 16 * stateSize

/-- Room for one range beyond ASCII, most of whose states are shared with other ranges. -/
def rangeSize : Nat := stateSize + exitSize

def runCount (runs : List (Nat × String)) (labels : List String) : Nat :=
  (runs.filter fun run => labels.contains run.2).length

def wordCategories : List String := ["Lu", "Ll", "Lt", "Lm", "Lo", "Mn", "Mc", "Nd", "Nl", "Pc"]

def propertyRanges : Unicode.Property → Nat
  | .any | .ascii => 1
  | .assigned => runCount Unicode.categoryRuns ["Cn"]
  | .category names => runCount Unicode.categoryRuns names
  | .script code | .scriptExtension code => runCount Unicode.scriptRuns [code]
  | .binary name =>
    match Unicode.binaryProperties.find? fun property => property.name == name with
    | some property =>
      runCount Unicode.categoryRuns property.categories + property.exceptions.length
    | none => 0
  | .listed categories exceptions =>
    runCount Unicode.categoryRuns categories + exceptions.length
  | .word => runCount Unicode.categoryRuns wordCategories / 2
  | .digit => decimalDigits.length
  | .blank => blanks.length

namespace CharClass

def ranges : CharClass → Nat
  | .none => 0
  | .range _ _ => 1
  | .property held => propertyRanges held
  | .union left right | .intersection left right | .difference left right =>
    left.ranges + right.ranges
  | .complement body => body.ranges + 1
  | .ignoringCase body | .ignoringAsciiCase body => 2 * body.ranges

def isAscii : CharClass → Bool
  | .none => true
  | .range _ last => last.toNat < 128
  | .property held => held == .ascii
  | .union left right => left.isAscii && right.isAscii
  | .intersection left right => left.isAscii || right.isAscii
  | .difference left _ => left.isAscii
  | .complement _ => false
  | .ignoringCase body | .ignoringAsciiCase body => body.isAscii

def setSize (chars : CharClass) : Nat :=
  if chars.isAscii then 2 * stateSize + exitSize * chars.ranges
  else sequenceSize + rangeSize * chars.ranges

/-- A single character takes a state for each of its bytes. -/
def size : CharClass → Nat
  | .range first last =>
    if first = last then stateSize * first.utf8Size else (range first last).setSize
  | chars => chars.setSize

end CharClass

def Step.size : Step → Nat
  | .read chars => chars.size
  | .look _ => stateSize

def Step.isRead : Step → Bool
  | .read _ => true
  | .look _ => false

/-- How many copies of a repeated part are laid out. One that reads nothing is laid out once at
most, however often it is to be repeated. -/
def copies (reads : Bool) (least : Nat) : Option Nat → Nat
  | none => if reads then max 1 least else 1
  | some most => if reads then most else min 1 most

namespace Expr

def reads : Expr Step → Bool
  | .empty => false
  | .step taken => taken.isRead
  | .seq first second | .either first second => first.reads || second.reads
  | .repeated _ most body => most != some 0 && body.reads

def size : Expr Step → Nat
  | .empty => stateSize
  | .step taken => taken.size
  | .seq first second => first.size + second.size
  | .either first second => first.size + second.size + stateSize
  | .repeated least most body => stateSize + copies body.reads least most * body.size

end Expr

namespace Ast

def reads : Ast → Bool
  | .empty _ | .flags _ _ | .leaf _ (.assertion _) => false
  | .leaf _ _ | .bracket _ _ _ => true
  | .group _ _ _ body | .concat _ body | .alternation _ body => body.reads
  | .repetition _ _ most body => most != some 0 && body.reads
  | .beside first rest | .orElse first rest => first.reads || rest.reads

/-- Room for the ends of the captured groups, which the meaning does not tell from others. -/
def captureSize : Ast → Nat
  | .empty _ | .flags _ _ | .leaf _ _ | .bracket _ _ _ => 0
  | .group _ captures _ body => (if captures then 2 * stateSize else 0) + body.captureSize
  | .concat _ body | .alternation _ body => body.captureSize
  | .repetition _ least most body => copies body.reads least most * body.captureSize
  | .beside first rest | .orElse first rest => first.captureSize + rest.captureSize

end Ast

def estimatedSize [Properties] (pattern : List Char) : Nat :=
  let meant := do
    let ast ← parse pattern
    return (ast, ← ast.meaning Modes.initial)
  match meant with
  | .ok (ast, expr, _) => expr.size + ast.captureSize
  | .error _ => 0

class Engine extends Properties where
  machineSize : List Char → Nat

abbrev Properties.tabled : Properties where
  find
    | .named name => Unicode.named name
    | .valued name value => Unicode.valued name value

instance : Engine := { Properties.tabled with machineSize := @estimatedSize Properties.tabled }

def sizeLimit : Nat := 10 * 1024 * 1024

end FileVerdict.Regex
