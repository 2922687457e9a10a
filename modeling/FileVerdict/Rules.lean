import FileVerdict.Hashbang
import FileVerdict.Language.Catalogue
import FileVerdict.Media.Lookup
import FileVerdict.Report
import FileVerdict.VendoredPaths

/-!
What files are judged by: where languages and media types are looked up and which paths are
vendored, and every verdict on a file that follows from these. The language comes from the extension
if it is registered, else from the first line, else from the path; a file that is not text is always
`Language.text`. The index trusts the extension alone. A verdict never fails; a report gives them
all.
-/

namespace FileVerdict.Verdict

def isGenerated (name : String) : Bool :=
  [".xib", ".nib", ".pbxproj"].contains (Path.extension name)

/-- Text that is never indexed, although its extension is registered. -/
def isUnindexable (name : String) : Bool :=
  [".po", ".sql"].contains (Path.extension name)

def language (subject : Subject) (traits : Traits) (languages : Language.Lookup) : Language :=
  if traits.isText then
    match languages.byExtension (Path.extension subject.name) with
    | some language => language
    | none =>
      match Hashbang.language? subject traits languages with
      | some language => language
      | none => languages.byPath subject.name
  else Language.text

def isIndexable (subject : Subject) (traits : Traits) (languages : Language.Lookup) : Bool :=
  traits.isText && !isGenerated subject.name && !isUnindexable subject.name &&
    (languages.byExtension (Path.extension subject.name)).isSome

end FileVerdict.Verdict

namespace FileVerdict

structure Rules where
  languages : Language.Lookup
  media : Media.Lookup
  vendored : VendoredPaths

namespace Rules

def builtin [Regex.Engine] : Rules := ⟨Language.catalogue, Media.byExtension, VendoredPaths.builtin⟩

variable (rules : Rules) (subject : Subject)

def mimeType : String := rules.media.mimeType subject.name

/-- The type to serve a file with. Text is plain text, so that no browser runs it. -/
def contentType : String :=
  if Traits.isTextType (rules.mimeType subject) then Media.plainText else rules.mimeType subject

def traits : Traits := Traits.inspect subject (rules.mimeType subject)

def isText : Bool := (rules.traits subject).isText

def isBinary : Bool := (rules.traits subject).isBinary

def isViewable : Bool := (rules.traits subject).isViewable

def isVendored : Bool := rules.vendored.matchesPath subject.name

def attachmentTypes : List String := ["application/octet-stream", "application/java-archive"]

def attachmentName (name : String) : String :=
  String.ofList (Text.FormUrl.encode (Text.encode (Path.basename name).toList))

def disposition : String :=
  if attachmentTypes.contains (rules.contentType subject) then
    "attachment; filename=" ++ attachmentName subject.name
  else "inline"

def interpreter : Option String := Hashbang.ofSubject subject (rules.traits subject)

def interpreterLanguage : Option Language :=
  Hashbang.language? subject (rules.traits subject) rules.languages

def language : Language :=
  Verdict.language subject (rules.traits subject) rules.languages

def lexer : String := (rules.language subject).lexer

def isIndexable : Bool :=
  Verdict.isIndexable subject (rules.traits subject) rules.languages

/-! These ask nothing of the rules, and inspect no more of a file than they need. -/

def isImage (_ : Rules) (subject : Subject) : Bool := Traits.isImageName subject.name

def isLarge (_ : Rules) (subject : Subject) : Bool := Traits.isLargeSize subject.size

def isForbidden (_ : Rules) (subject : Subject) : Bool := Traits.isFlash subject.data

def isGenerated (_ : Rules) (subject : Subject) : Bool := Verdict.isGenerated subject.name

/-- Every verdict at once. The content is inspected once and the language settled once; only the
disposition goes back to the tables of media types. -/
def report : Report :=
  let mime := rules.mimeType subject
  let traits := Traits.inspect subject mime
  let language := Verdict.language subject traits rules.languages
  { name := subject.name
    mimeType := mime
    disposition := rules.disposition subject
    isText := traits.isText
    isImage := traits.isImage
    isBinary := traits.isBinary
    isLarge := traits.isLarge
    isViewable := traits.isViewable
    isForbidden := traits.isForbidden
    isVendored := rules.isVendored subject
    isGenerated := Verdict.isGenerated subject.name
    isIndexable := Verdict.isIndexable subject traits rules.languages
    language := language.name
    lexer := language.lexer
    interpreter := Hashbang.ofSubject subject traits
    lineCount := subject.lineCount
    sourceLineCount := subject.sourceLineCount }

end Rules

end FileVerdict
