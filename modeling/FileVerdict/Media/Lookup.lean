import FileVerdict.Media.Table
import FileVerdict.Path
import FileVerdict.Text.Case

/-!
The media type of a file, which depends on its name alone. A small table for source files is
asked first, for the extension in lower case; the general table is asked next and ignores case as
`Text.fold` does. A name that neither table knows is plain text, so that a script without an
extension is still read for its first line.
-/

namespace FileVerdict.Media
open FileVerdict.Text

structure Lookup where
  mimeType : String → String

def plainText : String := "text/plain"

/-- Extensions, in lower case, that the general table would take for something else than source
text. -/
def sourceTypes : List (String × String) := [
  ("sh", "text/x-shellscript"), ("bash", "text/x-shellscript"), ("zsh", "text/x-shellscript"),
  ("ksh", "text/x-shellscript"), ("csh", "text/x-shellscript"),
  ("rb", "text/x-ruby"), ("rake", "text/x-ruby"), ("gemspec", "text/x-ruby"),
  ("py", "text/x-python"), ("pl", "text/x-perl"), ("pm", "text/x-perl"), ("t", "text/x-perl"),
  ("php", "text/x-php"), ("phtml", "text/x-php"), ("lua", "text/x-lua"), ("tcl", "text/x-tcl"),
  ("js", "text/javascript"), ("mjs", "text/javascript"), ("cjs", "text/javascript"),
  ("ts", "text/x-typescript"), ("tsx", "text/x-typescript"),
  ("rs", "text/x-rust"), ("go", "text/x-go"), ("swift", "text/x-swift"),
  ("m", "text/x-objcsrc"), ("java", "text/x-java"),
  ("sql", "text/x-sql"), ("po", "text/x-gettext-translation"),
  ("pot", "text/x-gettext-translation-template"), ("xib", "text/xml"), ("xsd", "text/xml"),
  ("plist", "text/xml"), ("xhtml", "text/html"), ("bat", "text/x-bat"), ("cmd", "text/x-bat"),
  ("pbxproj", "text/plain"), ("gradle", "text/x-groovy")]

/-- What the general table has for an extension without its dot, however it is capitalised. The
table lists extensions as `fold` leaves them. -/
def generalType? (extension : List Char) : Option String :=
  let folded := String.ofList (fold extension)
  (mediaTypes.find? fun entry => entry.extensions.contains folded).map MediaEntry.mime

def typeOfExtension (extension : List Char) : String :=
  if extension.isEmpty then plainText
  else match sourceTypes.lookup (String.ofList extension) with
    | some mime => mime
    | none => (generalType? extension).getD plainText

def byExtension : Lookup where
  mimeType name := typeOfExtension (lower ((Path.extension name).toList.drop 1))

end FileVerdict.Media
