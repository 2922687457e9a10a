import FileVerdict.Proofs.Regex.Surroundings
import FileVerdict.Proofs.VendoredPaths

/-!
Folders that the built-in patterns count as vendored. Whatever is in such a folder is vendored too:
a pattern that asks for the end of a name asks for a letter before it, so none of these matches a
folder, and the others go on matching what stands below. A path that is vendored stays so wherever
it is put: the patterns take a slash for the start of a name, all but three, which are for folders
at the top alone.
-/

namespace FileVerdict.VendoredPaths
open FileVerdict.Regex

def topFolders : List String := ["deps/", "tools/", "dependencies/", "Dependencies/"]

/-- What the form of an expression tells of the folders it matches: it goes on matching what is
below, and either also what is put into another folder, or only folders at the top. -/
def closedUnderFolders (expr : Expr Step) : Bool :=
  expr.descends '/' && (expr.opensAt '/' || expr.startsAmong (topFolders.map String.toList))

theorem closedUnderFolders_defaultPatterns (pattern : String) (member : pattern ∈ defaultPatterns) :
    closedUnderFolders (expression pattern.toList) = true := by
  have all : ∀ spelling ∈ spelledPatterns.1,
      closedUnderFolders (expression spelling) = true := by
    decide +kernel
  exact all _ (toList_mem_spelledPatterns pattern member)

theorem commentsStay_defaultPatterns : CommentsStay defaultPatterns := by
  have single : ∀ spelling ∈ spelledPatterns.1, '\n' ∉ spelling := by decide +kernel
  apply List.pairwise_of_forall_mem_list
  intro pattern _ later member _
  exact single _ (toList_mem_spelledPatterns later member)

/-- The built-in patterns match what one of them matches alone. -/
theorem matchesPath_builtin_iff (path : String) :
    builtin.matchesPath path = true ↔
      ∃ pattern ∈ defaultPatterns, (expression pattern.toList).matchesIn path.toList = true := by
  rw [faithful_of_commentsStay _ commentsStay_defaultPatterns _ ofPatterns_defaultPatterns path]
  have valid := valid_of_ofPatterns _ _ ofPatterns_defaultPatterns
  refine exists_congr fun pattern => and_congr_right fun member => ?_
  rw [(valid_of_isValid _ (valid pattern member)).matchesIn]

theorem matchesPath_below (folder rest : String) (slash : folder.toList.getLast? = some '/')
    (vendored : builtin.matchesPath folder = true) :
    builtin.matchesPath (folder ++ rest) = true := by
  obtain ⟨pattern, member, found⟩ := (matchesPath_builtin_iff folder).mp vendored
  have closed := closedUnderFolders_defaultPatterns pattern member
  rw [closedUnderFolders, Bool.and_eq_true] at closed
  refine (matchesPath_builtin_iff _).mpr ⟨pattern, member, ?_⟩
  rw [String.toList_append]
  exact Expr.matchesIn_of_descends closed.1 folder.toList rest.toList slash found

theorem matchesPath_above (above path : String)
    (nested : ∀ folder ∈ topFolders, ¬folder.toList <+: path.toList)
    (vendored : builtin.matchesPath path = true) :
    builtin.matchesPath (above ++ "/" ++ path) = true := by
  obtain ⟨pattern, member, found⟩ := (matchesPath_builtin_iff path).mp vendored
  have closed := closedUnderFolders_defaultPatterns pattern member
  rw [closedUnderFolders, Bool.and_eq_true, Bool.or_eq_true] at closed
  refine (matchesPath_builtin_iff _).mpr ⟨pattern, member, ?_⟩
  rw [String.toList_append, String.toList_append]
  rcases closed.2 with opens | top
  · exact Expr.matchesIn_of_opensAt opens above.toList path.toList found
  · obtain ⟨start, listed, leads⟩ := Expr.prefix_of_startsAmong top path.toList found
    obtain ⟨folder, known, rfl⟩ := List.mem_map.mp listed
    exact absurd leads (nested folder known)

/-- What the built-in patterns count as vendored is closed under going down into a vendored folder,
and under going up from a vendored path that is not in one of the folders at the top. -/
theorem matchesPath_of_nested :
    (∀ folder rest : String, folder.toList.getLast? = some '/' →
      builtin.matchesPath folder = true → builtin.matchesPath (folder ++ rest) = true) ∧
    ∀ above path : String, builtin.matchesPath path = true →
      (∀ folder ∈ topFolders, ¬folder.toList <+: path.toList) →
        builtin.matchesPath (above ++ "/" ++ path) = true := by
  refine ⟨matchesPath_below, ?_⟩
  intro above path vendored nested
  exact matchesPath_above above path nested vendored

theorem matchesPath_of_plugin :
    builtin.matchesPath "vendor/plugins/a.rb" = true ∧
      builtin.matchesPath "lib/vendor/plugins/a.rb" = true := by
  have folder : builtin.matchesPath "vendor/" = true :=
    (matchesPath_builtin_iff _).mpr ⟨"(^|/)vendor/", by decide, by decide +kernel⟩
  have plugin := matchesPath_of_nested.1 "vendor/" "plugins/a.rb" (by decide) folder
  exact ⟨plugin, matchesPath_of_nested.2 "lib" "vendor/plugins/a.rb" plugin (by decide)⟩

end FileVerdict.VendoredPaths
