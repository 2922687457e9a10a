import FileVerdict.Proofs.Result
import FileVerdict.Text.Case

/-!
Texts that fold to ASCII. Besides ASCII itself only eleven characters fold to nothing else, and
whatever is foreign to these stays foreign in lower case. So a key of ASCII is met by a text just
where it is met by the lower case of the text. Lower case alone does not always meet it: three
characters, the long s and two ligatures that end in t, are left as they are by lower case, and folding
makes one or two ASCII letters of each.
-/

namespace FileVerdict.Text

/-- The long s, and the two ligatures of an s with a t. -/
def longLetters : List Char := ['\u017F', '\uFB05', '\uFB06']

/-- The sharp s, small and capital, and the ligatures that begin with an f. -/
def doubleLetters : List Char :=
  ['\u00DF', '\u1E9E', '\uFB00', '\uFB01', '\uFB02', '\uFB03', '\uFB04']

/-- The characters beyond ASCII that fold to ASCII, the first of which is the sign for Kelvin. -/
def letterForms : List Char := '\u212A' :: longLetters ++ doubleLetters

-- Put before the instance that tries every character there is.
instance decidableForallChars (good : Char → Prop) [DecidablePred good] (chars : List Char) :
    Decidable (∀ char ∈ chars, good char) :=
  List.decidableBAll good chars

def Ascii (text : List Char) : Prop := ∀ char ∈ text, char.toNat < 128

instance (text : List Char) : Decidable (Ascii text) :=
  inferInstanceAs (Decidable (∀ char ∈ text, _))

def Foreign (char : Char) : Prop := 128 ≤ char.toNat ∧ char ∉ letterForms

instance (char : Char) : Decidable (Foreign char) := inferInstanceAs (Decidable (_ ∧ _))

/-! What the tables do to foreign characters -/

theorem mapCode_eq (code : Nat) (runs : List CaseRun) :
    mapCode code runs = code ∨ ∃ run ∈ runs, run.image? code = some (mapCode code runs) := by
  induction runs with
  | nil => exact .inl rfl
  | cons run runs ih =>
    rw [mapCode]
    split
    · exact .inl rfl
    · cases image : run.image? code with
      | some value => exact .inr ⟨run, List.mem_cons_self, image⟩
      | none =>
        rcases ih with same | ⟨other, member, found⟩
        · exact .inl same
        · exact .inr ⟨other, List.mem_cons_of_mem _ member, found⟩

/-- A run that sends only foreign characters to foreign ones: it is of ASCII, or about one of the
forms of an ASCII letter, or none of these is where it leads. -/
def CaseRun.KeepsForeign (run : CaseRun) : Prop :=
  run.last < 128 ∨ (run.first = run.last ∧ Char.ofNat run.first ∈ letterForms) ∨
    (128 ≤ run.target ∧ (run.target + (run.last - run.first) < 0xD800 ∨
        0xE000 ≤ run.target ∧ run.target + (run.last - run.first) < 0x110000) ∧
      ∀ form ∈ letterForms.map Char.toNat,
        form < run.target ∨ run.target + (run.last - run.first) < form)

instance (run : CaseRun) : Decidable run.KeepsForeign := inferInstanceAs (Decidable (_ ∨ _))

theorem CaseRun.foreign_image (run : CaseRun) (keeps : run.KeepsForeign) (char : Char)
    (foreign : Foreign char) (value : Nat) (image : run.image? char.toNat = some value) :
    Foreign (Char.ofNat value) := by
  obtain ⟨beyond, other⟩ := foreign
  rw [CaseRun.image?] at image
  split at image
  · next within =>
    obtain ⟨above, below, -⟩ := within
    cases image
    rcases keeps with ascii | ⟨single, form⟩ | ⟨high, valid, apart⟩
    · omega
    · have same : run.first = char.toNat := by omega
      rw [same, Char.ofNat_toNat] at form
      exact absurd form other
    · have scalar : (run.target + (char.toNat - run.first)).isValidChar := by
        unfold Nat.isValidChar
        omega
      have known : (Char.ofNat (run.target + (char.toNat - run.first))).toNat =
          run.target + (char.toNat - run.first) := by
        rw [Char.ofNat, dif_pos scalar]
        rfl
      refine ⟨by rw [known]; omega, ?_⟩
      intro listed
      have away := apart _ (List.mem_map_of_mem listed)
      rw [known] at away
      omega
  · cases image

theorem foreign_mapCode (runs : List CaseRun) (keep : ∀ run ∈ runs, run.KeepsForeign) (char : Char)
    (foreign : Foreign char) : Foreign (Char.ofNat (mapCode char.toNat runs)) := by
  rcases mapCode_eq char.toNat runs with same | ⟨run, member, image⟩
  · rwa [same, Char.ofNat_toNat]
  · exact run.foreign_image (keep run member) char foreign _ image

theorem exists_foreign_lowerChar (char : Char) (foreign : Foreign char) :
    ∃ lowered ∈ lowerChar char, Foreign lowered := by
  have keep : ∀ run ∈ lowerRuns, run.KeepsForeign := by decide +kernel
  rw [lowerChar]
  split
  · exact ⟨Char.ofNat 0x307, by decide, by decide⟩
  · exact ⟨_, List.mem_singleton_self _, foreign_mapCode lowerRuns keep char foreign⟩

theorem exists_beyond_foldChar (char : Char) (foreign : Foreign char) :
    ∃ folded ∈ foldChar char, 128 ≤ folded.toNat := by
  have keep : ∀ run ∈ foldRuns, run.KeepsForeign := by decide +kernel
  have full : ∀ entry ∈ fullFolds, Char.ofNat entry.1 ∈ letterForms ∨
      ∃ code ∈ entry.2, 128 ≤ (Char.ofNat code).toNat := by decide +kernel
  rw [foldChar, if_neg (Nat.not_lt.mpr foreign.1)]
  split
  · next codes listed =>
    rcases full _ (Result.mem_of_lookup listed) with form | ⟨code, member, beyond⟩
    · rw [Char.ofNat_toNat] at form
      exact absurd form foreign.2
    · exact ⟨Char.ofNat code, List.mem_map_of_mem member, beyond⟩
  · exact ⟨_, List.mem_singleton_self _, (foreign_mapCode foldRuns keep char foreign).1⟩

theorem not_foreign_of_fold (text : List Char) (ascii : Ascii (fold text)) :
    ∀ char ∈ text, ¬Foreign char := by
  intro char member foreign
  obtain ⟨folded, inside, beyond⟩ := exists_beyond_foldChar char foreign
  have below := ascii folded (List.mem_flatMap.mpr ⟨char, member, inside⟩)
  omega

theorem not_foreign_of_fold_lower (text : List Char) (ascii : Ascii (fold (lower text))) :
    ∀ char ∈ text, ¬Foreign char := by
  intro char member foreign
  obtain ⟨lowered, inside, stays⟩ := exists_foreign_lowerChar char foreign
  exact not_foreign_of_fold (lower text) ascii lowered
    (List.mem_flatMap.mpr ⟨char, member, inside⟩) stays

/-! Characters that are not foreign -/

theorem of_not_foreign (good : Char → Prop) (ascii : ∀ code, code < 128 → good (Char.ofNat code))
    (forms : ∀ form ∈ letterForms, good form) (char : Char) (native : ¬Foreign char) :
    good char := by
  by_cases small : char.toNat < 128
  · have known := ascii char.toNat small
    rwa [Char.ofNat_toNat] at known
  · exact forms char (by_contra fun other => native ⟨Nat.le_of_not_lt small, other⟩)

theorem fold_lowerChar (char : Char) (native : ¬Foreign char) :
    fold (lowerChar char) = foldChar char :=
  of_not_foreign (fun char => fold (lowerChar char) = foldChar char) (by decide +kernel)
    (by decide +kernel) char native

theorem lowerChar_eq_foldChar (char : Char) (native : ¬Foreign char) :
    char ∉ longLetters → char ∉ doubleLetters → lowerChar char = foldChar char :=
  of_not_foreign
    (fun char => char ∉ longLetters → char ∉ doubleLetters → lowerChar char = foldChar char)
    (by decide +kernel) (by decide +kernel) char native

theorem fold_lower_of_not_foreign (text : List Char) (native : ∀ char ∈ text, ¬Foreign char) :
    fold (lower text) = fold text := by
  unfold lower fold
  rw [List.flatMap_assoc]
  exact List.flatMap_congr fun char member => fold_lowerChar char (native char member)

/-- A text and its lower case fold to the same texts of ASCII. -/
theorem fold_lower_eq_iff (text key : List Char) (ascii : Ascii key) :
    fold (lower text) = key ↔ fold text = key := by
  constructor
  · rintro rfl
    exact (fold_lower_of_not_foreign text (not_foreign_of_fold_lower text ascii)).symm
  · rintro rfl
    exact fold_lower_of_not_foreign text (not_foreign_of_fold text ascii)

/-- Lower case does what folding does where no letter is long or double. -/
theorem lower_eq_fold (text : List Char) (ascii : Ascii (fold text))
    (short : ∀ char ∈ text, char ∉ longLetters) (single : ∀ char ∈ text, char ∉ doubleLetters) :
    lower text = fold text :=
  List.flatMap_congr fun char member => lowerChar_eq_foldChar char
    (not_foreign_of_fold text ascii char member) (short char member) (single char member)

/-- A long letter stays what it is in lower case. -/
theorem not_ascii_lower (text : List Char) (char : Char) (member : char ∈ text)
    (long : char ∈ longLetters) : ¬Ascii (lower text) := by
  have stays : ∀ char ∈ longLetters, char ∈ lowerChar char ∧ 128 ≤ char.toNat := by
    decide +kernel
  intro ascii
  obtain ⟨inside, beyond⟩ := stays char long
  have below := ascii char (List.mem_flatMap.mpr ⟨char, member, inside⟩)
  omega

theorem infix_fold (text : List Char) (char : Char) (member : char ∈ text) :
    foldChar char <:+: fold text := by
  obtain ⟨before, after, rfl⟩ := List.append_of_mem member
  refine ⟨fold before, fold after, ?_⟩
  unfold fold
  rw [List.flatMap_append, List.flatMap_cons, List.append_assoc]

end FileVerdict.Text
