import FileVerdict.Text.Encoding

/-!
The report on one file, everything the rules have to say about it, and how reports are written: as
one line of four columns each, with tabs between them, or as one JSON object a line. A tab in a name
is written as a space, so that it cannot start a column.
-/

namespace FileVerdict
open FileVerdict.Text

structure Report where
  name : String
  mimeType : String
  disposition : String
  isText : Bool
  isImage : Bool
  isBinary : Bool
  isLarge : Bool
  isViewable : Bool
  isForbidden : Bool
  isVendored : Bool
  isGenerated : Bool
  isIndexable : Bool
  language : String
  lexer : String
  interpreter : Option String
  lineCount : Nat
  sourceLineCount : Nat
  deriving Repr, DecidableEq

namespace Report

def flags (report : Report) : List String :=
  [(report.isText, "text"), (report.isBinary, "binary"), (report.isImage, "image"),
    (report.isLarge, "large"), (report.isViewable, "viewable"),
    (report.isForbidden, "forbidden"), (report.isVendored, "vendored"),
    (report.isGenerated, "generated"), (report.isIndexable, "indexable")].filterMap
    fun (holds, flag) => if holds then some flag else none

def flagText (report : Report) : String :=
  if report.flags.isEmpty then "-" else ",".intercalate report.flags

def columns (report : Report) : List String :=
  [String.ofList (report.name.toList.map fun char => if char = '\t' then ' ' else char),
    report.language, report.mimeType, report.flagText]

def textLine (report : Report) : String := "\t".intercalate report.columns

/-- An absent interpreter has no member at all. -/
def members (report : Report) : List (String × Json.Value) :=
  [("name", .text report.name), ("mime_type", .text report.mimeType),
    ("disposition", .text report.disposition), ("is_text", .truth report.isText),
    ("is_image", .truth report.isImage), ("is_binary", .truth report.isBinary),
    ("is_large", .truth report.isLarge), ("is_viewable", .truth report.isViewable),
    ("is_forbidden", .truth report.isForbidden), ("is_vendored", .truth report.isVendored),
    ("is_generated", .truth report.isGenerated), ("is_indexable", .truth report.isIndexable),
    ("language", .text report.language), ("lexer", .text report.lexer)] ++
  (match report.interpreter with
    | some script => [("shebang_script", .text script)]
    | none => []) ++
  [("loc", .count report.lineCount), ("sloc", .count report.sourceLineCount)]

def jsonLine (report : Report) : String := String.ofList (Json.writeObject report.members)

inductive Format where
  | text
  | json
  deriving Repr, DecidableEq

def Format.default : Format := .text

def line (format : Format) (report : Report) : String :=
  match format with
  | .text => report.textLine
  | .json => report.jsonLine

abbrev Writer := StateM String

def write (format : Format) (reports : List Report) : Writer Unit :=
  reports.forM fun report => modify fun written => written ++ (report.line format ++ "\n")

def writeAll (format : Format) (reports : List Report) : String :=
  ((write format reports).run "").2

end Report

end FileVerdict
