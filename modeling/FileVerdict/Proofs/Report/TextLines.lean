import FileVerdict.Proofs.Language.Catalogue
import FileVerdict.Proofs.Media.Tables
import FileVerdict.Report
import FileVerdict.Rules

/-!
Reports as text, read back as a table: the output is cut at newlines and each line at tabs. No
language, media type or flag holds a newline or a tab, and tabs are taken out of names. Newlines
are not, so the table comes back exactly where no name holds one.
-/

namespace FileVerdict.Report
open FileVerdict.Text

/-- The cells of a text of lines. What stands behind the last newline counts as a line too. -/
def rows (output : String) : List (List String) :=
  (split '\n' output.toList).map fun line => (split '\t' line).map String.ofList

theorem newline_not_mem_rows (output : String) :
    ∀ row ∈ rows output, ∀ cell ∈ row, '\n' ∉ cell.toList := by
  intro row member cell inside
  obtain ⟨line, cut, rfl⟩ := List.mem_map.mp member
  obtain ⟨piece, part, rfl⟩ := List.mem_map.mp inside
  rw [String.toList_ofList]
  intro newline
  exact not_mem_of_mem_split _ _ line cut (mem_of_mem_splitWhere _ _ piece part _ newline)

/-- What is written is added, line by line, to what has been written before. -/
theorem run_write (format : Format) (reports : List Report) (written : String) :
    (write format reports).run written =
      ((), written ++ String.join (reports.map fun report => report.line format ++ "\n")) := by
  induction reports generalizing written with
  | nil =>
    rw [List.map_nil, String.join_nil, String.append_empty]
    rfl
  | cons first rest ih =>
    rw [List.map_cons, String.join_cons, ← String.append_assoc]
    exact ih (written ++ (first.line format ++ "\n"))

theorem toList_writeAll (format : Format) (reports : List Report) :
    (writeAll format reports).toList =
      (reports.map fun report => (report.line format).toList).flatMap (· ++ ['\n']) := by
  rw [writeAll, run_write, String.empty_append, String.toList_join, List.flatMap_map,
    List.flatMap_map]
  simp only [String.toList_append]
  rfl

/-! The columns of a line -/

def flagNames : List String :=
  ["text", "binary", "image", "large", "viewable", "forbidden", "vendored", "generated", "indexable"]

theorem flags_subset (report : Report) : ∀ flag ∈ report.flags, flag ∈ flagNames := by
  intro flag member
  obtain ⟨⟨holds, named⟩, listed, same⟩ := List.mem_filterMap.mp member
  cases holds with
  | false => cases same
  | true =>
    cases same
    exact List.mem_map_of_mem (f := Prod.snd) listed

theorem printable_flagText (report : Report) : Printable report.flagText.toList := by
  have known : ∀ flag ∈ flagNames, Printable flag.toList := by decide
  rw [flagText]
  split
  · decide
  · rw [String.toList_intercalate]
    apply printable_intercalate
    · decide
    · rw [List.forall_mem_map]
      exact fun flag member => known flag (flags_subset report flag member)

def spaced (name : String) : String :=
  String.ofList (name.toList.map fun char => if char = '\t' then ' ' else char)

theorem tab_not_mem_spaced (name : String) : '\t' ∉ (spaced name).toList := by
  rw [spaced, String.toList_ofList, List.mem_map]
  intro given
  rcases given with ⟨char, -, same⟩
  split at same
  · cases same
  · next other => exact other same

theorem newline_mem_spaced (name : String) :
    '\n' ∈ (spaced name).toList ↔ '\n' ∈ name.toList := by
  rw [spaced, String.toList_ofList, List.mem_map]
  constructor
  · intro given
    rcases given with ⟨char, inside, same⟩
    split at same
    · cases same
    · rwa [← same]
  · intro inside
    exact ⟨'\n', inside, rfl⟩

/-! Lines and their columns -/

theorem toList_textLine (report : Report) :
    report.textLine.toList = ['\t'].intercalate (report.columns.map String.toList) :=
  String.toList_intercalate

/-- What the rules say about languages and media types, as far as the columns depend on it. -/
structure Plain (report : Report) : Prop where
  language : Printable report.language.toList
  mimeType : Printable report.mimeType.toList

theorem columns_free (report : Report) (plain : report.Plain) (char : Char)
    (control : char.toNat < 0x20) (name : char ∉ (spaced report.name).toList) :
    ∀ column ∈ report.columns.map String.toList, char ∉ column := by
  simp only [columns, List.map_cons, List.map_nil, List.forall_mem_cons]
  exact ⟨name, plain.language.not_mem char control, plain.mimeType.not_mem char control,
    (printable_flagText report).not_mem char control, by simp⟩

theorem split_textLine (report : Report) (plain : report.Plain) :
    split '\t' report.textLine.toList = report.columns.map String.toList := by
  rw [toList_textLine]
  apply split_intercalate
  · simp [columns]
  · exact columns_free report plain '\t' (by decide) (tab_not_mem_spaced _)

theorem newline_not_mem_textLine (report : Report) (plain : report.Plain)
    (name : '\n' ∉ report.name.toList) : '\n' ∉ report.textLine.toList := by
  rw [toList_textLine]
  have columns := columns_free report plain '\n' (by decide) (by rwa [newline_mem_spaced])
  intro newline
  refine forall_mem_intercalate (· ≠ '\n') ['\t'] _ (by simp) ?_ '\n' newline rfl
  intro column member char inside same
  exact columns column member (same ▸ inside)

theorem rows_writeAll (reports : List Report) (plain : ∀ report ∈ reports, report.Plain)
    (names : ∀ report ∈ reports, '\n' ∉ report.name.toList) :
    rows (writeAll .text reports) = reports.map columns ++ [[""]] := by
  have ended : split '\n' (writeAll .text reports).toList =
      (reports.map fun report => (report.line .text).toList) ++ [[]] := by
    rw [toList_writeAll, split_ended]
    rw [List.forall_mem_map]
    exact fun report member => newline_not_mem_textLine report (plain report member)
      (names report member)
  have cells : (reports.map fun report =>
      (split '\t' (report.line .text).toList).map String.ofList) = reports.map columns := by
    apply List.map_congr_left
    intro report member
    rw [line, split_textLine report (plain report member), List.map_map]
    simp
  rw [rows, ended, List.map_append, List.map_map, Function.comp_def, cells]
  rfl

/-! The table of what rules say -/

def row (rules : Rules) (subject : Subject) : List String :=
  [spaced subject.name, (rules.language subject).name, rules.mimeType subject,
    (rules.report subject).flagText]

theorem columns_report (rules : Rules) (subject : Subject) :
    (rules.report subject).columns = row rules subject := rfl

theorem plain_report (rules : Rules) (languages : rules.languages = Language.catalogue)
    (media : rules.media = Media.byExtension) (subject : Subject) :
    (rules.report subject).Plain where
  language := by
    show Printable (Verdict.language subject (rules.traits subject) rules.languages).name.toList
    rw [languages]
    exact Language.printable_name _ (Language.listed_language _ _)
  mimeType := by
    show Printable (rules.media.mimeType subject.name).toList
    rw [media]
    exact Media.printable_mimeType subject.name

theorem rows_of_rules (rules : Rules) (languages : rules.languages = Language.catalogue)
    (media : rules.media = Media.byExtension) (subjects : List Subject)
    (names : ∀ subject ∈ subjects, '\n' ∉ subject.name.toList) :
    rows (writeAll .text (subjects.map rules.report)) = subjects.map (row rules) ++ [[""]] := by
  have cells : columns ∘ rules.report = row rules := by
    funext subject
    exact columns_report rules subject
  rw [rows_writeAll, List.map_map, cells]
  · rw [List.forall_mem_map]
    exact fun subject _ => plain_report rules languages media subject
  · rw [List.forall_mem_map]
    exact names

theorem newline_not_mem_of_rows (output : String) (rules : Rules) (subjects : List Subject)
    (same : rows output = subjects.map (row rules) ++ [[""]]) :
    ∀ subject ∈ subjects, '\n' ∉ subject.name.toList := by
  intro subject member newline
  have listed : row rules subject ∈ rows output := by
    rw [same]
    exact List.mem_append_left _ (List.mem_map_of_mem member)
  exact newline_not_mem_rows output _ listed _ List.mem_cons_self
    ((newline_mem_spaced _).mpr newline)

/-- Cut at newlines and then at tabs, the output gives back one row of four columns for each file,
in order, and nothing behind them, just when no name holds a newline. -/
theorem rows_eq_iff_no_newline (subjects : List Subject) :
    rows (writeAll .text (subjects.map Rules.builtin.report)) =
        subjects.map (row Rules.builtin) ++ [[""]] ↔
      ∀ subject ∈ subjects, '\n' ∉ subject.name.toList :=
  ⟨newline_not_mem_of_rows _ Rules.builtin subjects, rows_of_rules Rules.builtin rfl rfl subjects⟩

theorem rows_of_tab_and_return :
    rows (writeAll .text
        ([Subject.unloaded "a\tb" 0, Subject.loaded "c\r.sh" [35]].map Rules.builtin.report)) =
      [Subject.unloaded "a\tb" 0, Subject.loaded "c\r.sh" [35]].map (row Rules.builtin) ++ [[""]] :=
  (rows_eq_iff_no_newline _).mpr (by decide)

/-- A newline in a name ends the line before its columns are told. -/
theorem rows_broken_by_newline :
    rows (writeAll .text ([Subject.unloaded "a\nb" 0].map Rules.builtin.report)) ≠
      [Subject.unloaded "a\nb" 0].map (row Rules.builtin) ++ [[""]] := by
  intro same
  exact newline_not_mem_of_rows _ _ _ same _ List.mem_cons_self (by decide)

end FileVerdict.Report
