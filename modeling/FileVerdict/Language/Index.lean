import FileVerdict.Text.Case
import Std.Data.TreeMap.Basic

/-!
Languages, where they are looked up, and an index of a table of them. A language is known by its
name: two that share a name are the same language, whatever lexer they go with. The index has a map
for names, for lexers, for extensions and for file names. It is made in one run through the table:
an entry takes those of its keys that are still free, so a key leads to the first entry that has it.
Names and lexers are entered in lower case.
-/

namespace FileVerdict

structure Language where
  name : String
  lexer : String
  deriving Repr, DecidableEq

namespace Language

/-- Plain text, and whatever nothing more particular is known of. -/
def text : Language := ⟨"Text", "text"⟩

def isText (language : Language) : Bool := language.name == text.name

def sameAs (first second : Language) : Bool := first.name == second.name

/-- The tables that languages are looked up in; each is any function of its key. A lookup by path
always answers. -/
structure Lookup where
  byExtension : String → Option Language
  byLexer : String → Option Language
  byName : String → Option Language
  byPath : String → Language

end Language

end FileVerdict

namespace FileVerdict.Language
open FileVerdict.Text

/-- One language: the other names that its lexer answers to, its extensions with their dots, and
the file names that belong to it. -/
structure Entry where
  name : String
  lexer : String
  aliases : List String
  extensions : List String
  filenames : List String
  deriving Repr, DecidableEq

def Entry.language (entry : Entry) : Language := ⟨entry.name, entry.lexer⟩

def lowerKey (key : String) : String := String.ofList (lower key.toList)

abbrev Places (table : List Entry) : Type := Std.TreeMap String (Fin table.length)

structure Index (table : List Entry) where
  byName : Places table
  byLexer : Places table
  byExtension : Places table
  byFilename : Places table

variable {table : List Entry}

/-- Puts a place under those of the keys that nothing stands under. -/
def Places.enter (places : Places table) (place : Fin table.length) (keys : List String) :
    Places table :=
  keys.foldl (fun places key => places.insertIfNew key place) places

namespace Index

def empty : Index table := ⟨∅, ∅, ∅, ∅⟩

def add (index : Index table) (place : Fin table.length) : Index table :=
  let entry := table[place]
  { byName := index.byName.enter place [lowerKey entry.name]
    byLexer := index.byLexer.enter place ((entry.lexer :: entry.aliases).map lowerKey)
    byExtension := index.byExtension.enter place entry.extensions
    byFilename := index.byFilename.enter place entry.filenames }

def build (table : List Entry) : Index table := (List.finRange table.length).foldl add empty

end Index

end FileVerdict.Language
