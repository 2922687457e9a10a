import FileVerdict.Traits

/-!
Functions of lists by the recursor alone, each equal to the library function it stands for. What is
decided of a whole table goes through long lists in the kernel, where the recursor itself takes a
fraction of the time that a definition by structural recursion does.
-/

namespace FileVerdict.Text

noncomputable def allByRec (test : Char → Bool) (text : List Char) : Bool :=
  List.rec true (fun char _ others => Bool.rec false others (test char)) text

theorem allByRec_eq (test : Char → Bool) (text : List Char) :
    allByRec test text = text.all test := by
  induction text with
  | nil => rfl
  | cons char others ih =>
    change Bool.rec false (allByRec test others) (test char) = (test char && others.all test)
    rw [ih]
    cases test char <;> rfl

noncomputable def leadsByRec (part text : List Char) : Bool :=
  List.rec (fun _ => true) (fun first _ leads text =>
    List.rec false (fun char others _ =>
      Bool.rec false (leads others) (Nat.beq first.toNat char.toNat)) text) part text

theorem leadsByRec_eq (part text : List Char) : leadsByRec part text = part.isPrefixOf text := by
  induction part generalizing text with
  | nil => rfl
  | cons first rest ih =>
    cases text with
    | nil => rfl
    | cons char others =>
      have same : Nat.beq first.toNat char.toNat = (first == char) := by
        rw [Bool.eq_iff_iff, Nat.beq_eq, beq_iff_eq, Char.toNat_inj]
      change Bool.rec false (leadsByRec rest others) (Nat.beq first.toNat char.toNat) =
        (first == char && rest.isPrefixOf others)
      rw [same, ih]
      cases first == char <;> rfl

noncomputable def occursByRec (part text : List Char) : Bool :=
  List.rec part.isEmpty (fun char rest found =>
    Bool.rec found true (leadsByRec part (char :: rest))) text

theorem occursByRec_eq (part text : List Char) :
    occursByRec part text = Traits.occurs part text := by
  induction text with
  | nil => rfl
  | cons char rest ih =>
    change Bool.rec (occursByRec part rest) true (leadsByRec part (char :: rest)) =
      (part.isPrefixOf (char :: rest) || Traits.occurs part rest)
    rw [leadsByRec_eq, ih]
    cases part.isPrefixOf (char :: rest) <;> rfl

noncomputable def sameByRec (first second : List Char) : Bool :=
  Bool.rec false (leadsByRec second first) (leadsByRec first second)

theorem sameByRec_eq (first second : List Char) : sameByRec first second = (first == second) := by
  have both : sameByRec first second =
      (leadsByRec first second && leadsByRec second first) := by
    rw [sameByRec]
    cases leadsByRec first second <;> rfl
  rw [both, leadsByRec_eq, leadsByRec_eq, Bool.eq_iff_iff, Bool.and_eq_true,
    List.isPrefixOf_iff_prefix, List.isPrefixOf_iff_prefix, beq_iff_eq]
  constructor
  · rintro ⟨leads, led⟩
    exact leads.eq_of_length_le led.length_le
  · rintro rfl
    exact ⟨List.prefix_rfl, List.prefix_rfl⟩

noncomputable def containsByRec (texts : List (List Char)) (text : List Char) : Bool :=
  List.rec false (fun first _ found => Bool.rec found true (sameByRec first text)) texts

theorem containsByRec_eq (texts : List (List Char)) (text : List Char) :
    containsByRec texts text = texts.contains text := by
  induction texts with
  | nil => rfl
  | cons first others ih =>
    change Bool.rec (containsByRec others text) true (sameByRec first text) =
      (first :: others).contains text
    rw [ih, sameByRec_eq, List.contains_cons, Bool.beq_comm]
    cases text == first <;> rfl

end FileVerdict.Text
