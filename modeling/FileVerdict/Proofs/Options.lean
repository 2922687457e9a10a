import FileVerdict.Files.Tree
import FileVerdict.Options
import FileVerdict.Proofs.VendoredPaths

/-!
Options that are set one after another. A setting replaces one option and leaves the others alone,
so of each option the value given last is all that is left of any row of settings. Where both
sources of patterns have ever been given there are no rules, whatever else has been or will be set.
-/

namespace FileVerdict

inductive Setting where
  | patterns (patterns : List String)
  | patternFile (path : String)
  | languages (languages : Language.Lookup)
  | media (media : Media.Lookup)

namespace Setting

inductive Target where
  | patterns
  | patternFile
  | languages
  | media
  deriving Repr, DecidableEq

def target : Setting → Target
  | patterns _ => .patterns
  | patternFile _ => .patternFile
  | languages _ => .languages
  | media _ => .media

def patterns? : Setting → Option (List String)
  | patterns value => some value
  | _ => none

def patternFile? : Setting → Option String
  | patternFile value => some value
  | _ => none

def languages? : Setting → Option Language.Lookup
  | languages value => some value
  | _ => none

def media? : Setting → Option Media.Lookup
  | media value => some value
  | _ => none

def last {α : Type} (value? : Setting → Option α) (settings : List Setting) : Option α :=
  settings.reverse.findSome? value?

theorem last_cons {α : Type} (value? : Setting → Option α) (first : Setting)
    (rest : List Setting) : last value? (first :: rest) = (last value? rest).or (value? first) := by
  rw [last, last, List.reverse_cons, List.findSome?_append, List.findSome?_singleton]

theorem last_eq_none {α : Type} (value? : Setting → Option α) (settings : List Setting) :
    last value? settings = none ↔ ∀ setting ∈ settings, value? setting = none := by
  simp only [last, List.findSome?_eq_none_iff, List.mem_reverse]

theorem last_patterns_eq_none (settings : List Setting) :
    last patterns? settings = none ↔ ∀ value, patterns value ∉ settings := by
  rw [last_eq_none]
  constructor
  · intro absent value member
    cases absent _ member
  · intro absent setting member
    cases setting with
    | patterns value => exact absurd member (absent value)
    | patternFile value => rfl
    | languages value => rfl
    | media value => rfl

theorem last_patternFile_eq_none (settings : List Setting) :
    last patternFile? settings = none ↔ ∀ value, patternFile value ∉ settings := by
  rw [last_eq_none]
  constructor
  · intro absent value member
    cases absent _ member
  · intro absent setting member
    cases setting with
    | patterns value => rfl
    | patternFile value => exact absurd member (absent value)
    | languages value => rfl
    | media value => rfl

end Setting

namespace Options

def set (options : Options) : Setting → Options
  | .patterns value => options.withPatterns value
  | .patternFile value => options.withPatternFile value
  | .languages value => options.withLanguages value
  | .media value => options.withMedia value

def ofSettings (settings : List Setting) : Options := settings.foldl set unset

def lastOf (settings : List Setting) : Options :=
  ⟨Setting.last Setting.patterns? settings, Setting.last Setting.patternFile? settings,
    Setting.last Setting.languages? settings, Setting.last Setting.media? settings⟩

/-- Of two values for an option the later one holds. -/
def overriddenBy (options later : Options) : Options :=
  ⟨later.patterns.or options.patterns, later.patternFile.or options.patternFile,
    later.languages.or options.languages, later.media.or options.media⟩

theorem set_eq (options : Options) (setting : Setting) :
    options.set setting = options.overriddenBy
      ⟨setting.patterns?, setting.patternFile?, setting.languages?, setting.media?⟩ := by
  cases setting with
  | patterns value => rfl
  | patternFile value => rfl
  | languages value => rfl
  | media value => rfl

theorem set_comm (options : Options) (first second : Setting)
    (apart : first.target ≠ second.target) :
    (options.set first).set second = (options.set second).set first := by
  cases first <;> cases second <;> first | rfl | exact absurd rfl apart

theorem foldl_set (options : Options) (settings : List Setting) :
    settings.foldl set options = options.overriddenBy (lastOf settings) := by
  induction settings generalizing options with
  | nil => rfl
  | cons first rest ih =>
    rw [List.foldl_cons, ih, set_eq]
    simp only [overriddenBy, lastOf, Setting.last_cons, Option.or_assoc]

theorem ofSettings_eq (settings : List Setting) : ofSettings settings = lastOf settings := by
  rw [ofSettings, foldl_set]
  simp only [overriddenBy, unset, Option.or_none]

/-! Rules made from options -/

def rulesWith [Regex.Engine] (options : Options) (patterns : List String) :
    Except Failure Rules := do
  return { languages := options.languages.getD Language.catalogue
           media := options.media.getD Media.byExtension
           vendored := ← (VendoredPaths.ofPatterns patterns).mapError Failure.invalidPattern }

theorem rulesWith_ne_conflict [Regex.Engine] (options : Options) (patterns : List String) :
    options.rulesWith patterns ≠ .error .conflict := by
  intro failed
  obtain failed | ⟨vendored, -, failed⟩ := Result.bind_eq_error.mp failed
  · obtain ⟨fault, -, impossible⟩ := Result.mapError_eq_error.mp failed
    cases impossible
  · cases failed

theorem readPatterns_ne_conflict (files : Files) (path : String) :
    readPatterns files path ≠ .error .conflict := by
  intro failed
  obtain ⟨fault, -, impossible⟩ := Result.mapError_eq_error.mp failed
  cases impossible

section
variable (options : Options) (files : Files)

theorem rules_of_list [Regex.Engine] (patterns : List String)
    (listed : options.patterns = some patterns) (fileless : options.patternFile = none) :
    options.rules files = options.rulesWith patterns := by
  rw [rules, vendored, listed, fileless]
  rfl

theorem rules_of_file [Regex.Engine] (path : String) (named : options.patternFile = some path)
    (unlisted : options.patterns = none) :
    options.rules files = readPatterns files path >>= options.rulesWith := by
  simp only [rules, vendored, unlisted, named]
  cases readPatterns files path with
  | error failure => rfl
  | ok patterns => rfl

theorem rules_of_neither (unlisted : options.patterns = none)
    (fileless : options.patternFile = none) :
    options.rules files = options.rulesWith VendoredPaths.defaultPatterns := by
  rw [rules, vendored, unlisted, fileless, rulesWith, VendoredPaths.ofPatterns_defaultPatterns]
  rfl

/-- Two sources of patterns are the only conflict, and come before anything is read. -/
theorem rules_eq_conflict_iff :
    options.rules files = .error .conflict ↔ options.patterns ≠ none ∧ options.patternFile ≠ none := by
  cases listed : options.patterns with
  | none =>
    cases named : options.patternFile with
    | none =>
      rw [rules_of_neither options files listed named]
      simp [rulesWith_ne_conflict]
    | some path =>
      rw [rules_of_file options files path named listed]
      simp [Result.bind_eq_error, rulesWith_ne_conflict, readPatterns_ne_conflict]
  | some patterns =>
    cases named : options.patternFile with
    | none =>
      rw [rules_of_list options files patterns listed named]
      simp [rulesWith_ne_conflict]
    | some path =>
      rw [rules, vendored, listed, named]
      simp

end

/-! Rules made from a row of settings -/

theorem conflict_iff_both_set (files : Files) (settings : List Setting) :
    (ofSettings settings).rules files = .error .conflict ↔
      (∃ value, .patterns value ∈ settings) ∧ ∃ value, .patternFile value ∈ settings := by
  rw [ofSettings_eq, rules_eq_conflict_iff]
  simp only [lastOf, ne_eq, Setting.last_patterns_eq_none, Setting.last_patternFile_eq_none,
    not_forall, not_not]

/-- The rules that any row of settings leads to, whatever files there are. Only the value given last
to each option counts, and settings of different options may change places. Where a list and a file
of patterns have both been given the two are in conflict, before either is looked at and whatever is
set later; with one of them given, or none, the patterns are those of the last list, of the last
file or the built-in ones, and the two look-ups are the last ones or the built-in ones. -/
theorem rules_of_settings (files : Files) (settings : List Setting) :
    ofSettings settings = lastOf settings ∧
    (∀ before first second after, settings = before ++ first :: second :: after →
      first.target ≠ second.target →
      ofSettings (before ++ second :: first :: after) = ofSettings settings) ∧
    ((ofSettings settings).rules files = .error .conflict ↔
      (∃ value, .patterns value ∈ settings) ∧ ∃ value, .patternFile value ∈ settings) ∧
    (∀ later, (ofSettings settings).rules files = .error .conflict →
      (ofSettings (settings ++ later)).rules files = .error .conflict) ∧
    (∀ patterns, Setting.last Setting.patterns? settings = some patterns →
      (∀ value, .patternFile value ∉ settings) →
      (ofSettings settings).rules files = (lastOf settings).rulesWith patterns) ∧
    (∀ path, Setting.last Setting.patternFile? settings = some path →
      (∀ value, .patterns value ∉ settings) →
      (ofSettings settings).rules files =
        readPatterns files path >>= (lastOf settings).rulesWith) ∧
    ((∀ value, .patterns value ∉ settings) → (∀ value, .patternFile value ∉ settings) →
      (ofSettings settings).rules files =
        (lastOf settings).rulesWith VendoredPaths.defaultPatterns) := by
  refine ⟨ofSettings_eq settings, ?_, conflict_iff_both_set files settings, ?_, ?_, ?_, ?_⟩
  · rintro before first second after rfl apart
    simp only [ofSettings, List.foldl_append, List.foldl_cons]
    rw [set_comm _ second first apart.symm]
  · intro later conflict
    rw [conflict_iff_both_set] at conflict ⊢
    obtain ⟨⟨patterns, listed⟩, path, named⟩ := conflict
    exact ⟨⟨patterns, List.mem_append_left later listed⟩, path, List.mem_append_left later named⟩
  · intro patterns listed fileless
    rw [ofSettings_eq]
    exact rules_of_list _ files patterns listed
      ((Setting.last_patternFile_eq_none settings).mpr fileless)
  · intro path named unlisted
    rw [ofSettings_eq]
    exact rules_of_file _ files path named
      ((Setting.last_patterns_eq_none settings).mpr unlisted)
  · intro unlisted fileless
    rw [ofSettings_eq]
    exact rules_of_neither _ files ((Setting.last_patterns_eq_none settings).mpr unlisted)
      ((Setting.last_patternFile_eq_none settings).mpr fileless)

def octets : Media.Lookup := ⟨fun _ => "application/octet-stream"⟩

def faultySettings : List Setting :=
  [.patterns ["a("], .media octets, .patternFile "none", .patterns []]

theorem rules_of_faultySettings :
    (ofSettings faultySettings).rules Tree.empty.files = .error .conflict ∧
      (ofSettings (faultySettings ++ [.media Media.byExtension])).rules Tree.empty.files =
        .error .conflict ∧
      ofSettings [.patterns ["a("], .patternFile "none", .media octets, .patterns []] =
        ofSettings faultySettings ∧
      (ofSettings [.patterns ["a("], .media octets, .patterns []]).rules Tree.empty.files =
        .ok ⟨Language.catalogue, octets, ⟨[], none⟩⟩ ∧
      (ofSettings [.patternFile "gone", .media octets, .patternFile "none"]).rules
        Tree.empty.files = .error (.unreadable "none" .notFound) ∧
      (ofSettings [.media octets]).rules Tree.empty.files =
        .ok ⟨Language.catalogue, octets, VendoredPaths.builtin⟩ := by
  obtain ⟨-, swap, conflict, stays, -⟩ := rules_of_settings Tree.empty.files faultySettings
  obtain ⟨-, -, -, -, list, -⟩ := rules_of_settings Tree.empty.files
    [.patterns ["a("], .media octets, .patterns []]
  obtain ⟨-, -, -, -, -, file, -⟩ := rules_of_settings Tree.empty.files
    [.patternFile "gone", .media octets, .patternFile "none"]
  obtain ⟨-, -, -, -, -, -, neither⟩ := rules_of_settings Tree.empty.files [.media octets]
  have both := conflict.mpr ⟨⟨["a("], by simp [faultySettings]⟩, "none", by simp [faultySettings]⟩
  refine ⟨both, stays _ both, swap [_] _ _ [_] rfl (by decide), ?_, ?_, ?_⟩
  · rw [list [] rfl (by simp)]
    rfl
  · rw [file "none" rfl (by simp)]
    rfl
  · rw [neither (by simp) (by simp), rulesWith, VendoredPaths.ofPatterns_defaultPatterns]
    rfl

end Options

end FileVerdict
