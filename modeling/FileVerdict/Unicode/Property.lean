import FileVerdict.Text.Basic
import FileVerdict.Unicode.AgeTable
import FileVerdict.Unicode.BreakTable
import FileVerdict.Unicode.CategoryTable
import FileVerdict.Unicode.ScriptTable

/-!
Properties of characters and their names. A name is compared without regard to case, blanks,
hyphens and underscores, and a leading "is" counts for nothing. A property without a value is a
yes-or-no property, a general category or a script, in this order of preference.
-/

namespace FileVerdict.Unicode
open FileVerdict.Text

/-- `listed` holds for the characters of some categories, except that in the ranges it holds for
those of the other categories. -/
inductive Property where
  | any
  | ascii
  | assigned
  | category (names : List String)
  | script (code : String)
  | scriptExtension (code : String)
  | binary (name : String)
  | listed (categories : List String) (exceptions : List (Nat × Nat))
  | word
  | digit
  | blank
  deriving Repr, DecidableEq

/-! Tables -/

def runsOf : List (List Char) → List (Nat × String)
  | first :: label :: rest => (hexNumber first, String.ofList label) :: runsOf rest
  | _ => []

def rangeOf (text : List Char) : Nat × Nat :=
  match split '-' text with
  | [first, last] => (hexNumber first, hexNumber last)
  | _ => (hexNumber text, hexNumber text)

def extensionsOf : List (List Char) → List ((Nat × Nat) × List String)
  | range :: codes :: rest =>
    (rangeOf range, (split ',' codes).map String.ofList) :: extensionsOf rest
  | _ => []

def categoryRuns : List (Nat × String) := runsOf (words categoryText.toList)

def scriptRuns : List (Nat × String) := runsOf (words scriptText.toList)

def ageRuns : List (Nat × String) := runsOf (words ageText.toList)

def scriptExtensions : List ((Nat × Nat) × List String) :=
  extensionsOf (words scriptExtensionText.toList)

def categoryOf (code : Nat) : String := (labelOf code none categoryRuns).getD "Cn"

def scriptOf (code : Nat) : String := (labelOf code none scriptRuns).getD "Zzzz"

def scriptsOf (code : Nat) : List String :=
  match scriptExtensions.find? fun entry => covers [entry.1] code with
  | some (_, codes) => codes
  | none => [scriptOf code]

/-- The ranges of the runs under the labels; the last run goes on to the last code point. -/
def rangesUnder (labels : List String) : List (Nat × String) → List (Nat × Nat)
  | [] => []
  | (first, label) :: runs =>
    let last := match runs with
      | [] => 0x10FFFF
      | (next, _) :: _ => next - 1
    if labels.contains label then (first, last) :: rangesUnder labels runs
    else rangesUnder labels runs

structure BinaryProperty where
  name : String
  categories : List String
  exceptions : List (Nat × Nat)
  deriving Repr, DecidableEq

def PropertyEntry.exceptionRanges (entry : PropertyEntry) : List (Nat × Nat) :=
  (words entry.exceptions.toList).map rangeOf

def binaryProperties : List BinaryProperty :=
  propertyEntries.map fun entry =>
    ⟨entry.names.headD "", entry.categories, entry.exceptionRanges⟩

def BinaryProperty.holds (property : BinaryProperty) (code : Nat) : Bool :=
  property.categories.contains (categoryOf code) != covers property.exceptions code

def hasBinary (name : String) (code : Nat) : Bool :=
  (binaryProperties.find? fun property => property.name == name).any fun property =>
    property.holds code

def isAlphabetic (char : Char) : Bool := hasBinary "Alphabetic" char.toNat

def isAlphanumeric (char : Char) : Bool :=
  isAlphabetic char || ["Nd", "Nl", "No"].contains (categoryOf char.toNat)

def isWordChar (char : Char) : Bool :=
  if char.toNat < 128 then char.isAlphanum || char = '_'
  else
    isAlphabetic char || ["Mn", "Mc", "Me", "Nd", "Pc"].contains (categoryOf char.toNat) ||
      hasBinary "Join_Control" char.toNat

def Property.holds (property : Property) (char : Char) : Bool :=
  match property with
  | any => true
  | ascii => char.toNat < 128
  | assigned => categoryOf char.toNat != "Cn"
  | category names => names.contains (categoryOf char.toNat)
  | script code => scriptOf char.toNat == code
  | scriptExtension code => (scriptsOf char.toNat).contains code
  | binary name => hasBinary name char.toNat
  | listed categories exceptions =>
    categories.contains (categoryOf char.toNat) != covers exceptions char.toNat
  | word => isWordChar char
  | digit => isDigit char
  | blank => isBlank char

/-! Names -/

/-- A name as it is compared. What is left of "isc" is the abbreviation of a property of its own,
and not of a category. -/
def normalize (name : List Char) : List Char :=
  let lowered := name.map Char.toLower
  let hasIs := ['i', 's'].isPrefixOf lowered
  let body := if hasIs then lowered.drop 2 else lowered
  let kept := body.filter fun char =>
    char.toNat < 128 && char != ' ' && char != '_' && char != '-'
  if hasIs && kept == ['c'] then ['i', 's', 'c'] else kept

def isNamed (wanted : List Char) (names : List String) : Bool :=
  names.any fun name => decide (normalize name.toList = wanted)

inductive LookupFailure where
  | unknownProperty
  | unknownValue
  deriving Repr, DecidableEq

abbrev Answer := Except LookupFailure Property

def categoriesOf (label : String) : List String :=
  if label = "LC" then ["Lu", "Ll", "Lt"]
  else if label.toList.length = 1 then
    (categoryNames.map fun names => names.headD "").filter fun one =>
      decide (one.toList.length = 2) && one != "LC" && label.toList.isPrefixOf one.toList
  else [label]

/-- Surrogates are no characters, so their category cannot be asked for. -/
def category? (wanted : List Char) : Option Answer :=
  match String.ofList wanted with
  | "any" => some (.ok .any)
  | "ascii" => some (.ok .ascii)
  | "assigned" => some (.ok .assigned)
  | _ => (categoryNames.find? (isNamed wanted)).map fun names =>
    match names.headD "" with
    | "Cs" => .error .unknownValue
    | label => .ok (.category (categoriesOf label))

/-- Two codes name no script that a character could have. -/
def script? (make : String → Property) (wanted : List Char) : Option Answer :=
  (scriptNames.find? (isNamed wanted)).map fun names =>
    match names.headD "" with
    | "Zzzz" | "Hrkt" => .error .unknownValue
    | code => .ok (make code)

def binary? (wanted : List Char) : Option Answer :=
  (propertyEntries.find? fun entry => isNamed wanted entry.names).map fun entry =>
    .ok (.binary (entry.names.headD ""))

/-- A version stands for all that it and the versions before it brought in. -/
def age? (wanted : List Char) : Option Answer :=
  (ages.find? fun version =>
    decide (wanted = version.toList) ||
      decide (wanted = 'v' :: version.toList.filter fun char => char != '.')).map fun version =>
    .ok (.listed [] (rangesUnder (version :: ages.takeWhile fun one => one != version) ageRuns))

def part? (entries : List PropertyEntry) (wanted : List Char) : Option Answer :=
  (entries.find? fun entry => isNamed wanted entry.names).map fun entry =>
    .ok (.listed entry.categories entry.exceptionRanges)

/-- The syllables of Hangul come in blocks of 28, the first of which ends in its vowel. -/
def hangulBlocks : List Nat := (List.range 399).map fun block => 0xAC00 + 28 * block

def clusterPart? (wanted : List Char) : Option Answer :=
  match String.ofList wanted with
  | "lv" => some (.ok (.listed [] (hangulBlocks.map fun first => (first, first))))
  | "lvt" => some (.ok (.listed [] (hangulBlocks.map fun first => (first + 1, first + 27))))
  | _ => part? clusterParts wanted

def named (name : List Char) : Answer :=
  let wanted := normalize name
  ((binary? wanted).or ((category? wanted).or (script? .script wanted))).getD
    (.error .unknownProperty)

def valued (name value : List Char) : Answer :=
  let wanted := normalize name
  let value := normalize value
  let known := isNamed wanted otherPropertyNames || (binary? wanted).isSome
  match String.ofList wanted with
  | "gc" | "generalcategory" => (category? value).getD (.error .unknownValue)
  | "sc" | "script" => (script? .script value).getD (.error .unknownValue)
  | "scx" | "scriptextensions" => (script? .scriptExtension value).getD (.error .unknownValue)
  | "age" => (age? value).getD (.error .unknownValue)
  | "gcb" | "graphemeclusterbreak" => (clusterPart? value).getD (.error .unknownValue)
  | "wb" | "wordbreak" => (part? wordParts value).getD (.error .unknownValue)
  | "sb" | "sentencebreak" => (part? sentenceParts value).getD (.error .unknownValue)
  | _ => .error (if known then .unknownValue else .unknownProperty)

end FileVerdict.Unicode
