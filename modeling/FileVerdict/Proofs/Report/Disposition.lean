import FileVerdict.Proofs.Text.FormUrl
import FileVerdict.Proofs.Text.Utf8
import FileVerdict.Rules

/-!
The type that a file is served with and the header that goes with it. The name of the file reaches
the header through its form encoding alone, so whatever the name is made of it cannot end the header
or add to it, and it is read back whole. All that makes a type text is served as plain text.
-/

namespace FileVerdict
open FileVerdict.Text

/-! Parts of a type -/

theorem Traits.occurs_iff (part text : List Char) : occurs part text = true ↔ part <:+: text := by
  induction text with
  | nil => rw [occurs, List.isEmpty_iff, List.infix_nil]
  | cons char rest ih =>
    rw [occurs, Bool.or_eq_true, List.isPrefixOf_iff_prefix, ih, List.infix_cons_iff]

theorem Traits.isTextType_iff (mime : String) :
    isTextType mime = true ↔ "text".toList <:+: mime.toList ∨ "json".toList <:+: mime.toList := by
  rw [isTextType, Bool.or_eq_true, mentions, mentions, occurs_iff, occurs_iff]

namespace Rules
variable (rules : Rules) (subject : Subject)

theorem contentType_of_text (text : Traits.isTextType (rules.contentType subject) = true) :
    rules.contentType subject = "text/plain" := by
  unfold contentType at text ⊢
  split at text
  · next plain =>
    rw [if_pos plain]
    rfl
  · next other => exact absurd text other

/-! The header -/

def attachment (file : String) : String := "attachment; filename=" ++ file

theorem attachment_injective : Function.Injective attachment := by
  intro first second same
  have texts := congrArg String.toList same
  unfold attachment at texts
  rw [String.toList_append, String.toList_append] at texts
  exact String.toList_injective (List.append_cancel_left texts)

theorem attachment_ne_inline (file : String) : attachment file ≠ "inline" := by
  intro same
  have sizes := congrArg String.length same
  have long : "inline".length < "attachment; filename=".length := by decide
  unfold attachment at sizes
  rw [String.length_append] at sizes
  omega

theorem attachmentTypes_contains (mime : String) :
    attachmentTypes.contains mime = true ↔
      mime = "application/octet-stream" ∨ mime = "application/java-archive" := by
  rw [List.contains_iff_mem, attachmentTypes, List.mem_cons, List.mem_singleton]

theorem disposition_eq : rules.disposition subject =
    if attachmentTypes.contains (rules.contentType subject) then
      attachment (attachmentName subject.name)
    else "inline" := rfl

theorem disposition_eq_attachment_iff (file : String) :
    rules.disposition subject = attachment file ↔
      (rules.contentType subject = "application/octet-stream" ∨
        rules.contentType subject = "application/java-archive") ∧
      file = attachmentName subject.name := by
  rw [← attachmentTypes_contains, disposition_eq]
  split
  · next offered =>
    rw [attachment_injective.eq_iff, and_iff_right offered]
    exact eq_comm
  · next other =>
    exact iff_of_false (attachment_ne_inline file).symm fun offered => other offered.1

theorem attachmentName_written (name : String) :
    ∀ char ∈ (attachmentName name).toList, FormUrl.isWritten char = true := by
  rw [attachmentName, String.toList_ofList]
  exact FormUrl.isWritten_encode _

theorem decode_attachmentName (name : String) :
    FormUrl.decode (attachmentName name).toList = Text.encode (Path.basename name).toList := by
  rw [attachmentName, String.toList_ofList]
  exact FormUrl.decode_encode _

theorem basename_of_attachmentName (first second : String)
    (same : attachmentName first = attachmentName second) :
    Path.basename first = Path.basename second := by
  unfold attachmentName at same
  have bytes := FormUrl.encode_injective (String.ofList_injective same)
  exact String.toList_injective (Text.encode_injective bytes)

/-- Whatever the look-ups and the name, a file is shown inline or offered for saving; it is offered
just when its type is one of two, under its basename and in harmless characters, so files that are
offered alike have one basename. A type that mentions text or JSON is that of plain text. -/
theorem disposition_faithful (rules others : Rules) (subject other : Subject) :
    (rules.disposition subject = "inline" ∨
        ∃ file, rules.disposition subject = attachment file) ∧
      ((∃ file, rules.disposition subject = attachment file) ↔
        rules.contentType subject = "application/octet-stream" ∨
          rules.contentType subject = "application/java-archive") ∧
      (∀ file, rules.disposition subject = attachment file →
        (∀ char ∈ file.toList, FormUrl.isWritten char = true) ∧
          FormUrl.decode file.toList = Text.encode (Path.basename subject.name).toList) ∧
      (∀ file, rules.disposition subject = attachment file →
        others.disposition other = attachment file →
          Path.basename subject.name = Path.basename other.name) ∧
      ("text".toList <:+: (rules.contentType subject).toList ∨
          "json".toList <:+: (rules.contentType subject).toList →
        rules.contentType subject = "text/plain") := by
  refine ⟨?_, ?_, ?_, ?_, ?_⟩
  · rw [disposition_eq]
    split
    · exact .inr ⟨_, rfl⟩
    · exact .inl rfl
  · constructor
    · rintro ⟨file, offered⟩
      exact ((rules.disposition_eq_attachment_iff subject file).mp offered).1
    · intro type
      exact ⟨_, (rules.disposition_eq_attachment_iff subject _).mpr ⟨type, rfl⟩⟩
  · intro file offered
    obtain ⟨-, rfl⟩ := (rules.disposition_eq_attachment_iff subject file).mp offered
    exact ⟨attachmentName_written subject.name, decode_attachmentName subject.name⟩
  · intro file offered again
    obtain ⟨-, first⟩ := (rules.disposition_eq_attachment_iff subject file).mp offered
    obtain ⟨-, second⟩ := (others.disposition_eq_attachment_iff other file).mp again
    exact basename_of_attachmentName subject.name other.name (first.symm.trans second)
  · intro mentioned
    exact rules.contentType_of_text subject ((Traits.isTextType_iff _).mpr mentioned)

/-- A library is offered under its name, whose space is read back, and JSON is served as plain
text. -/
theorem disposition_of_library :
    builtin.disposition (.unloaded "dist/my app.jar" 4096) = attachment "my+app.jar" ∧
      (∀ char ∈ "my+app.jar".toList, FormUrl.isWritten char = true) ∧
      FormUrl.decode "my+app.jar".toList = Text.encode "my app.jar".toList ∧
      Path.basename "dist/my app.jar" = Path.basename "lib/my app.jar" ∧
      builtin.contentType (.unloaded "values.json" 10) = "text/plain" := by
  have offered : builtin.disposition (.unloaded "dist/my app.jar" 4096) =
      attachment "my+app.jar" := by decide +kernel
  have again : builtin.disposition (.unloaded "lib/my app.jar" 9) =
      attachment "my+app.jar" := by decide +kernel
  have served : "text".toList <:+: (builtin.contentType (.unloaded "values.json" 10)).toList := by
    decide +kernel
  obtain ⟨-, -, harmless, alike, -⟩ :=
    disposition_faithful builtin builtin (.unloaded "dist/my app.jar" 4096)
      (.unloaded "lib/my app.jar" 9)
  obtain ⟨written, back⟩ := harmless _ offered
  obtain ⟨-, -, -, -, plain⟩ :=
    disposition_faithful builtin builtin (.unloaded "values.json" 10) (.unloaded "values.json" 10)
  exact ⟨offered, written, back, alike _ offered again, plain (.inl served)⟩

end Rules
end FileVerdict
