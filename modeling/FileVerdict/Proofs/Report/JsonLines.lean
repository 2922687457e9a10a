import FileVerdict.Proofs.Report.TextLines
import FileVerdict.Proofs.Text.JsonRoundTrip

/-!
Reports as JSON lines, read back one by one. Strings are escaped, so no line breaks off early,
and each line is an object that holds the fields of its report and nothing else. Two lists of
reports that are not the same are never written the same.
-/

namespace FileVerdict.Report
open FileVerdict.Text
open FileVerdict.Text.Json (Document)

def memberNames : List String :=
  ["name", "mime_type", "disposition", "is_text", "is_image", "is_binary", "is_large",
    "is_viewable", "is_forbidden", "is_vendored", "is_generated", "is_indexable", "language",
    "lexer", "shebang_script", "loc", "sloc"]

/-- The members of an object that stands for a report: each field under its name, the interpreter
only where there is one, no other member, and none twice. -/
structure Describes (members : List (String × Document)) (report : Report) : Prop where
  name : members.lookup "name" = some (.text report.name)
  mimeType : members.lookup "mime_type" = some (.text report.mimeType)
  disposition : members.lookup "disposition" = some (.text report.disposition)
  isText : members.lookup "is_text" = some (.truth report.isText)
  isImage : members.lookup "is_image" = some (.truth report.isImage)
  isBinary : members.lookup "is_binary" = some (.truth report.isBinary)
  isLarge : members.lookup "is_large" = some (.truth report.isLarge)
  isViewable : members.lookup "is_viewable" = some (.truth report.isViewable)
  isForbidden : members.lookup "is_forbidden" = some (.truth report.isForbidden)
  isVendored : members.lookup "is_vendored" = some (.truth report.isVendored)
  isGenerated : members.lookup "is_generated" = some (.truth report.isGenerated)
  isIndexable : members.lookup "is_indexable" = some (.truth report.isIndexable)
  language : members.lookup "language" = some (.text report.language)
  lexer : members.lookup "lexer" = some (.text report.lexer)
  interpreter : members.lookup "shebang_script" = report.interpreter.map .text
  lineCount : members.lookup "loc" = some (.number report.lineCount 0)
  sourceLineCount : members.lookup "sloc" = some (.number report.sourceLineCount 0)
  known : ∀ member ∈ members, member.1 ∈ memberNames
  once : (members.map Prod.fst).Nodup

/-- The names of the members that are written: all of them, or all but that of the interpreter. -/
theorem names_members (report : Report) :
    (Json.documents report.members).map Prod.fst =
      memberNames.filter fun name => report.interpreter.isSome || name != "shebang_script" := by
  rw [Json.documents, List.map_map, members]
  cases report.interpreter with
  | none => rfl
  | some script => rfl

theorem describes_members (report : Report) :
    Describes (Json.documents report.members) report := by
  have names := names_members report
  constructor
  case known =>
    intro member inside
    have listed := List.mem_map_of_mem (f := Prod.fst) inside
    rw [names] at listed
    exact (List.mem_filter.mp listed).1
  case once =>
    have all : memberNames.Nodup := by decide +kernel
    rw [names]
    exact all.filter _
  case interpreter | lineCount | sourceLineCount =>
    rw [members]
    cases report.interpreter with
    | none => rfl
    | some script => rfl
  all_goals rfl

/-- The fields that members hold are those of one report. -/
theorem Describes.unique {members : List (String × Document)} {first second : Report}
    (one : Describes members first) (other : Describes members second) : first = second := by
  have text : ∀ {name left right}, members.lookup name = some (.text left) →
      members.lookup name = some (.text right) → left = right := by
    intro name left right found again
    rw [found] at again
    cases again
    rfl
  have truth : ∀ {name left right}, members.lookup name = some (.truth left) →
      members.lookup name = some (.truth right) → left = right := by
    intro name left right found again
    rw [found] at again
    cases again
    rfl
  have count : ∀ {name} {left right : Nat}, members.lookup name = some (.number left 0) →
      members.lookup name = some (.number right 0) → left = right := by
    intro name left right found again
    rw [found, Option.some_inj, Document.number.injEq, Int.ofNat_inj] at again
    exact again.1
  have script : first.interpreter = second.interpreter := by
    have spelled : Function.Injective Document.text := fun _ _ => Document.text.inj
    apply Option.map_injective spelled
    rw [← one.interpreter, ← other.interpreter]
  cases first
  cases second
  rw [Report.mk.injEq]
  exact ⟨text one.name other.name, text one.mimeType other.mimeType,
    text one.disposition other.disposition, truth one.isText other.isText,
    truth one.isImage other.isImage, truth one.isBinary other.isBinary,
    truth one.isLarge other.isLarge, truth one.isViewable other.isViewable,
    truth one.isForbidden other.isForbidden, truth one.isVendored other.isVendored,
    truth one.isGenerated other.isGenerated, truth one.isIndexable other.isIndexable,
    text one.language other.language, text one.lexer other.lexer, script,
    count one.lineCount other.lineCount, count one.sourceLineCount other.sourceLineCount⟩

theorem read_jsonLine (report : Report) :
    Json.read report.jsonLine.toList = some (.object (Json.documents report.members)) := by
  rw [jsonLine, String.toList_ofList]
  exact Json.read_writeObject report.members

theorem printable_jsonLine (report : Report) : Printable report.jsonLine.toList := by
  rw [jsonLine, String.toList_ofList]
  exact Json.printable_writeObject report.members

def ReadsAs (line : List Char) (report : Report) : Prop :=
  Printable line ∧
    ∃ members, Json.read line = some (.object members) ∧ Describes members report

theorem readsAs_jsonLine (report : Report) : ReadsAs report.jsonLine.toList report :=
  ⟨printable_jsonLine report, _, read_jsonLine report, describes_members report⟩

theorem ReadsAs.unique {line : List Char} {first second : Report} (one : ReadsAs line first)
    (other : ReadsAs line second) : first = second := by
  obtain ⟨-, members, read, fields⟩ := one
  obtain ⟨-, others, again, same⟩ := other
  rw [read] at again
  cases again
  exact fields.unique same

theorem split_writeAll_json (reports : List Report) :
    split '\n' (writeAll .json reports).toList =
      (reports.map fun report => report.jsonLine.toList) ++ [[]] := by
  rw [toList_writeAll]
  apply split_ended
  rw [List.forall_mem_map]
  exact fun report _ => (printable_jsonLine report).not_mem '\n' (by decide)

theorem writeAll_json_injective : Function.Injective (writeAll .json) := by
  intro first second same
  have lines : (first.map fun report => report.jsonLine.toList) =
      second.map fun report => report.jsonLine.toList := by
    apply List.append_cancel_right
    rw [← split_writeAll_json, ← split_writeAll_json, same]
  have line : Function.Injective fun report : Report => report.jsonLine.toList := by
    intro report other equal
    have read : ReadsAs report.jsonLine.toList other := by
      rw [show report.jsonLine.toList = other.jsonLine.toList from equal]
      exact readsAs_jsonLine other
    exact (readsAs_jsonLine report).unique read
  exact List.map_injective_iff.mpr line lines

/-- The output is one line for each report, ended by a newline and free of controls, that reads as
that report; so reports are told from their output. -/
theorem json_lines_read_back :
    (∀ reports, ∃ lines, split '\n' (writeAll .json reports).toList = lines ++ [[]] ∧
      List.Forall₂ ReadsAs lines reports) ∧ Function.Injective (writeAll .json) := by
  refine ⟨?_, writeAll_json_injective⟩
  intro reports
  refine ⟨_, split_writeAll_json reports, ?_⟩
  rw [List.forall₂_map_left_iff, List.forall₂_same]
  exact fun report _ => readsAs_jsonLine report

end FileVerdict.Report
