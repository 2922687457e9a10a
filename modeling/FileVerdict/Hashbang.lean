import FileVerdict.Language.Index
import FileVerdict.Text.Basic
import FileVerdict.Traits

/-!
The interpreter that a script names on its first line, after `#!`. One space after the mark is
passed over. Of the first word, what stands behind its last slash is the interpreter; `env` hands
over to the second word. The first run of version digits is taken out of the answer.
-/

namespace FileVerdict.Hashbang
open FileVerdict.Text

def mark : List Char := ['#', '!']

def behindMark? : List Char → Option (List Char)
  | '#' :: '!' :: ' ' :: rest => some rest
  | '#' :: '!' :: rest => some rest
  | _ => none

/-- Behind the last slash, where slashes at the end do not count. A word without any other slash
loses its mark. -/
def segment (word : List Char) : List Char :=
  match (split '/' word).reverse.dropWhile List.isEmpty with
  | [] => []
  | [only] => if mark.isPrefixOf only then only.drop mark.length else only
  | last :: _ => last

/-- What is left behind the digits and dots of a version: groups of digits, at most one dot
behind each. `dotted` tells that the last character passed over was such a dot. -/
def dropVersion (dotted : Bool) : List Char → List Char
  | [] => []
  | char :: rest =>
    if isDigit char then dropVersion false rest
    else if char = '.' && !dotted then dropVersion true rest
    else char :: rest

def withoutVersion (word : List Char) : List Char :=
  word.takeWhile (fun char => !isDigit char) ++
    match word.dropWhile fun char => !isDigit char with
    | [] => []
    | _ :: rest => dropVersion false rest

/-- The interpreter of a first line; nothing where the line has no mark, or where `env` is given
no word. -/
def interpreter? (line : List Char) : Option (List Char) := do
  let rest ← behindMark? line
  let tokens := words (mark ++ rest)
  let first ← tokens.head?
  if segment first = ['e', 'n', 'v'] then
    withoutVersion <$> tokens[1]?
  else
    some (withoutVersion (segment first))

def parse (line : String) : Option String :=
  (interpreter? line.toList).map String.ofList

def firstLine (data : List UInt8) : String :=
  String.ofList (decodeLossy (data.takeWhile fun byte => byte != 0x0A))

def ofSubject (subject : Subject) (traits : Traits) : Option String :=
  if traits.isText && !traits.isLarge then
    subject.data.bind fun bytes => parse (firstLine bytes)
  else none

/-- Interpreters whose language goes by another name than their lexer. -/
def aliases : List (String × String) := [
  ("bash", "Shell"), ("sh", "Shell"), ("zsh", "Shell"), ("groovy", "Java"), ("macruby", "Ruby"),
  ("rake", "Ruby"), ("node", "JavaScript")]

/-- The language of an interpreter. One of the aliases is looked up by the name it stands for;
any other is looked up as a lexer, and a lexer for plain text tells nothing. -/
def languageOf (interpreter : String) (languages : Language.Lookup) : Option Language :=
  match aliases.lookup interpreter with
  | some name => languages.byName name
  | none => (languages.byLexer interpreter).filter fun language => !language.isText

def language? (subject : Subject) (traits : Traits) (languages : Language.Lookup) :
    Option Language :=
  (ofSubject subject traits).bind fun interpreter => languageOf interpreter languages

end FileVerdict.Hashbang
