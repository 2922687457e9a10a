import FileVerdict.Files.Tree
import FileVerdict.Main
import FileVerdict.Proofs.Language.Catalogue
import FileVerdict.Proofs.Language.Index
import FileVerdict.Proofs.Media.Tables
import FileVerdict.Proofs.PatternFile
import FileVerdict.Proofs.Program
import FileVerdict.Proofs.Report.TextLines
import FileVerdict.Proofs.Report.Consistency
import FileVerdict.Proofs.Text.JsonReader
import FileVerdict.Proofs.Text.JsonRoundTrip
import FileVerdict.Proofs.Report.JsonLines
import FileVerdict.Proofs.Path
import FileVerdict.Proofs.Path.Extension
import FileVerdict.Proofs.Report.Content
import FileVerdict.Proofs.Report.Place
import FileVerdict.Proofs.Report.Registered
import FileVerdict.Proofs.Options
import FileVerdict.Proofs.Language.Interpreter
import FileVerdict.Proofs.Hashbang.Spelling
import FileVerdict.Proofs.Hashbang.Selection
import FileVerdict.Proofs.Subject
import FileVerdict.Proofs.LineEnds
import FileVerdict.Proofs.Report.Disposition
import FileVerdict.Proofs.PatternLines
import FileVerdict.Proofs.VendoredFolders
import FileVerdict.Proofs.Text.Case
import FileVerdict.Proofs.Media.Case
import FileVerdict.Proofs.Report.Textual
