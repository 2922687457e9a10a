import FileVerdict.Text.CaseTable

/-!
Letter case. `lower` writes a text in lower-case letters, character by character. A capital sigma
becomes the same letter everywhere, also where Greek writes another at the end of a word; no key of
the tables that are looked up in holds either letter. Two texts are the same but for case when their
`fold`s are equal; `variants` lists the characters that stand for a character when case is ignored
one character at a time.
-/

namespace FileVerdict.Text

def CaseRun.image? (run : CaseRun) (code : Nat) : Option Nat :=
  if run.first ≤ code ∧ code ≤ run.last ∧ (code - run.first) % run.step = 0 then
    some (run.target + (code - run.first))
  else none

def CaseRun.preimage? (run : CaseRun) (code : Nat) : Option Nat :=
  if run.target ≤ code then
    let origin := run.first + (code - run.target)
    if (run.image? origin).isSome then some origin else none
  else none

/-- Where the runs, which ascend, send a code point; one outside all of them stays as it is. -/
def mapCode (code : Nat) : List CaseRun → Nat
  | [] => code
  | run :: runs => if code < run.first then code else (run.image? code).getD (mapCode code runs)

/-- One character goes to one, except for the capital I with a dot, whose dot is kept. -/
def lowerChar (char : Char) : List Char :=
  if char.toNat = 0x130 then ['i', Char.ofNat 0x307]
  else [Char.ofNat (mapCode char.toNat lowerRuns)]

def lower (text : List Char) : List Char := text.flatMap lowerChar

/-- The code point that stands for `code` where one has to do. -/
def foldCode (code : Nat) : Nat := mapCode code foldRuns

/-- No ASCII character needs more than one to stand for it. -/
def foldChar (char : Char) : List Char :=
  if char.toNat < 128 then [Char.ofNat (foldCode char.toNat)]
  else match fullFolds.lookup char.toNat with
    | some codes => codes.map Char.ofNat
    | none => [Char.ofNat (foldCode char.toNat)]

def fold (text : List Char) : List Char := text.flatMap foldChar

def variants (code : Nat) : List Nat :=
  let folded := foldCode code
  code :: folded :: foldRuns.filterMap fun run => run.preimage? folded

end FileVerdict.Text
