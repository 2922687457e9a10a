import FileVerdict.Path
import FileVerdict.Proofs.Text.Lines
import Mathlib.Data.List.Basic

/-!
Where a name lies in the tree of names. What stands behind a slash brings its parts behind those
before it, so the final part of a name is found below any directory, and nothing that has no parts
hides it. The basename and the extension look at nothing but the final part; as a name of its own
that part is its own final part.
-/

namespace FileVerdict.Path
open FileVerdict.Text

theorem parts_append_slash (above below : List Char) :
    parts (above ++ '/' :: below) = parts above ++ parts below := by
  rw [parts, split_append_cons, List.filter_append]
  rfl

theorem finalPart?_append_slash (above below : List Char) :
    finalPart? (above ++ '/' :: below) =
      if parts below = [] then finalPart? above else finalPart? below := by
  rw [finalPart?, parts_append_slash]
  split
  · next idle => rw [idle, List.append_nil, finalPart?]
  · next named => rw [List.getLast?_append_of_ne_nil _ named, finalPart?]

theorem parts_ne_nil_of_finalPart? {name : List Char} (named : (finalPart? name).isSome) :
    parts name ≠ [] := by
  intro empty
  rw [finalPart?, empty] at named
  cases named

theorem finalPart?_below (above : List Char) {name : List Char}
    (named : (finalPart? name).isSome) :
    finalPart? (above ++ '/' :: name) = finalPart? name := by
  rw [finalPart?_append_slash, if_neg (parts_ne_nil_of_finalPart? named)]

theorem finalPart?_above (above : List Char) {idle : List Char} (nothing : parts idle = []) :
    finalPart? (above ++ '/' :: idle) = finalPart? above := by
  rw [finalPart?_append_slash, if_pos nothing]

/-! The final part as a name -/

def Counts (part : List Char) : Prop := '/' ∉ part ∧ part ≠ [] ∧ part ≠ ['.']

theorem counts_of_mem_parts {name part : List Char} (member : part ∈ parts name) :
    Counts part := by
  obtain ⟨piece, counts⟩ := List.mem_filter.mp member
  exact ⟨not_mem_of_mem_split '/' name part piece, by simpa using counts⟩

theorem parts_of_counts {part : List Char} (counts : Counts part) : parts part = [part] := by
  obtain ⟨whole, nonempty, other⟩ := counts
  rw [parts, split_of_not_mem '/' part whole]
  simp [nonempty, other]

theorem counts_of_finalPart? {name part : List Char} (final : finalPart? name = some part) :
    Counts part :=
  counts_of_mem_parts (List.mem_of_getLast? (Option.filter_eq_some_iff.mp final).1)

theorem finalPart?_of_finalPart? {name part : List Char} (final : finalPart? name = some part) :
    finalPart? part = some part := by
  rw [finalPart?, parts_of_counts (counts_of_finalPart? final)]
  exact Option.filter_eq_some_iff.mpr ⟨rfl, (Option.filter_eq_some_iff.mp final).2⟩

/-! What looks at the final part only -/

section
variable {first second : String} (same : finalPart? first.toList = finalPart? second.toList)
include same

theorem extension_congr : extension first = extension second := by
  rw [extension, extension, same]

theorem basename_congr (named : (finalPart? second.toList).isSome) :
    basename first = basename second := by
  obtain ⟨part, final⟩ := Option.isSome_iff_exists.mp named
  rw [basename, basename, same, final]

end

end FileVerdict.Path
