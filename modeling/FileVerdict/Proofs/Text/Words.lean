import FileVerdict.Proofs.Text.Lines

/-!
Words and the blanks between them. A blank parts what stands before it from what stands behind it,
so a run of other characters that ends with a blank, or with the text, is a word of its own.
-/

namespace FileVerdict.Text

-- Not left to inference, which may find the instance that tries every character there is.
instance decidableForallMem (test : Char → Bool) (text : List Char) (answer : Bool) :
    Decidable (∀ char ∈ text, test char = answer) :=
  List.decidableBAll (fun char : Char => test char = answer) text

def EndsWord (text : List Char) : Prop := ∀ char, text.head? = some char → isBlank char = true

theorem words_append_blank (blank : Char) (parts : isBlank blank = true)
    (first rest : List Char) : words (first ++ blank :: rest) = words first ++ words rest := by
  simp only [words, splitWhere_eq_splitOnP]
  rw [List.splitOnP_append_cons first rest parts, List.filter_append]

theorem words_blanks_append (blanks rest : List Char)
    (blank : ∀ char ∈ blanks, isBlank char = true) : words (blanks ++ rest) = words rest := by
  induction blanks with
  | nil => rfl
  | cons first blanks ih =>
    rw [List.forall_mem_cons] at blank
    have parted := words_append_blank first blank.1 [] (blanks ++ rest)
    rw [List.cons_append]
    exact parted.trans (ih blank.2)

theorem words_of_unblank (word : List Char) (nonempty : word ≠ [])
    (unblank : ∀ char ∈ word, isBlank char = false) : words word = [word] := by
  rw [words, splitWhere_eq_splitOnP, List.splitOnP_eq_singleton unblank]
  simp [nonempty]

theorem words_append (word rest : List Char) (nonempty : word ≠ [])
    (unblank : ∀ char ∈ word, isBlank char = false) (ended : EndsWord rest) :
    words (word ++ rest) = word :: words rest := by
  cases rest with
  | nil =>
    rw [List.append_nil, words_of_unblank word nonempty unblank]
    rfl
  | cons blank rest =>
    have parts : isBlank blank = true := ended blank rfl
    rw [words_append_blank blank parts, words_of_unblank word nonempty unblank,
      ← words_blanks_append [blank] rest (by simpa using parts)]
    rfl

end FileVerdict.Text
