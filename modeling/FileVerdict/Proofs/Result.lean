import Mathlib.Data.List.Forall2

/-!
Results that may be faults: what it takes for a chain of steps to succeed. And answers that may be
missing: what a look-up answers stands in the list that it was made in.
-/

namespace FileVerdict.Result

variable {ε α β : Type}

theorem bind_eq_ok {first : Except ε α} {next : α → Except ε β} {result : β} :
    first >>= next = .ok result ↔ ∃ value, first = .ok value ∧ next value = .ok result := by
  constructor
  · intro both
    cases first with
    | error fault => cases both
    | ok value => exact ⟨value, rfl, both⟩
  · intro given
    rcases given with ⟨value, rfl, rest⟩
    exact rest

theorem bind_eq_error {first : Except ε α} {next : α → Except ε β} {fault : ε} :
    first >>= next = .error fault ↔
      first = .error fault ∨ ∃ value, first = .ok value ∧ next value = .error fault := by
  cases first with
  | error found =>
    constructor
    · intro same
      cases same
      exact .inl rfl
    · intro given
      obtain same | ⟨value, impossible, -⟩ := given
      · cases same
        rfl
      · cases impossible
  | ok value =>
    constructor
    · intro failed
      exact .inr ⟨value, rfl, failed⟩
    · intro given
      obtain impossible | ⟨value, same, failed⟩ := given
      · cases impossible
      · cases same
        exact failed

@[simp] theorem error_bind (fault : ε) (next : α → Except ε β) :
    (.error fault >>= next : Except ε β) = .error fault := rfl

@[simp] theorem ok_bind (value : α) (next : α → Except ε β) :
    (.ok value >>= next : Except ε β) = next value := rfl

@[simp] theorem throw_eq_error (fault : ε) : (throw fault : Except ε α) = .error fault := rfl

@[simp] theorem pure_eq_ok (value : α) : (pure value : Except ε α) = .ok value := rfl

theorem isOk_iff {result : Except ε α} : result.isOk = true ↔ ∃ value, result = .ok value := by
  cases result with
  | error fault => simp [Except.isOk, Except.toBool]
  | ok value => simp [Except.isOk, Except.toBool]

theorem map_eq_ok {change : α → β} {first : Except ε α} {result : β} :
    first.map change = .ok result ↔ ∃ value, first = .ok value ∧ change value = result := by
  cases first with
  | error fault => simp [Except.map]
  | ok value => simp [Except.map]

theorem mapError_eq_ok {δ : Type} {change : ε → δ} {first : Except ε α} {result : α} :
    first.mapError change = .ok result ↔ first = .ok result := by
  cases first with
  | error fault => simp [Except.mapError]
  | ok value => simp [Except.mapError]

theorem mapError_eq_error {δ : Type} {change : ε → δ} {first : Except ε α} {fault : δ} :
    first.mapError change = .error fault ↔ ∃ found, first = .error found ∧ change found = fault := by
  cases first with
  | error found => simp [Except.mapError]
  | ok value => simp [Except.mapError]

/-! Checks in a row, the first failure of which is the failure of all -/

theorem forM_eq_ok {check : α → Except ε Unit} {items : List α} :
    items.forM check = .ok () ↔ ∀ item ∈ items, check item = .ok () := by
  induction items with
  | nil => simp
  | cons first rest ih =>
    change (check first >>= fun _ => rest.forM check) = .ok () ↔ _
    rw [bind_eq_ok, List.forall_mem_cons, ← ih]
    constructor
    · intro given
      rcases given with ⟨⟨⟩, passed, others⟩
      exact ⟨passed, others⟩
    · intro given
      rcases given with ⟨passed, others⟩
      exact ⟨(), passed, others⟩

theorem forM_eq_error {check : α → Except ε Unit} {items : List α} {fault : ε} :
    items.forM check = .error fault ↔ ∃ before item after, items = before ++ item :: after ∧
      (∀ earlier ∈ before, check earlier = .ok ()) ∧ check item = .error fault := by
  induction items with
  | nil => simp
  | cons first rest ih =>
    change (check first >>= fun _ => rest.forM check) = .error fault ↔ _
    cases checked : check first with
    | error found =>
      rw [error_bind]
      constructor
      · intro same
        cases same
        exact ⟨[], first, rest, rfl, by simp, checked⟩
      · intro given
        rcases given with ⟨before, item, after, split, passed, failed⟩
        cases before with
        | nil =>
          cases split
          rw [← checked, failed]
        | cons earlier before =>
          cases split
          have impossible := passed first List.mem_cons_self
          rw [checked] at impossible
          cases impossible
    | ok done =>
      rw [ok_bind, ih]
      constructor
      · intro given
        rcases given with ⟨before, item, after, rfl, passed, failed⟩
        exact ⟨first :: before, item, after, rfl, List.forall_mem_cons.mpr ⟨checked, passed⟩,
          failed⟩
      · intro given
        rcases given with ⟨before, item, after, split, passed, failed⟩
        cases before with
        | nil =>
          cases split
          rw [checked] at failed
          cases failed
        | cons earlier before =>
          cases split
          exact ⟨before, item, after, rfl, fun each member =>
            passed each (List.mem_cons_of_mem _ member), failed⟩

/-! Results in a row -/

theorem mapM_eq_ok {change : α → Except ε β} {items : List α} {results : List β} :
    items.mapM change = .ok results ↔
      List.Forall₂ (fun item result => change item = .ok result) items results := by
  induction items generalizing results with
  | nil =>
    rw [List.mapM_nil, List.forall₂_nil_left_iff]
    exact ⟨fun same => by cases same; rfl, fun same => by rw [same]; rfl⟩
  | cons first rest ih =>
    rw [List.mapM_cons, bind_eq_ok, List.forall₂_cons_left_iff]
    constructor
    · intro given
      rcases given with ⟨value, changed, others⟩
      obtain ⟨values, known, same⟩ := bind_eq_ok.mp others
      cases same
      exact ⟨value, values, changed, ih.mp known, rfl⟩
    · intro given
      rcases given with ⟨value, values, changed, known, rfl⟩
      exact ⟨value, changed, bind_eq_ok.mpr ⟨values, ih.mpr known, rfl⟩⟩

theorem exists_of_forall₂ {related : α → β → Prop} {items : List α} {results : List β}
    (all : List.Forall₂ related items results) :
    ∀ item ∈ items, ∃ result ∈ results, related item result := by
  induction all with
  | nil => simp
  | cons first rest ih =>
    rw [List.forall_mem_cons]
    refine ⟨⟨_, List.mem_cons_self, first⟩, fun item member => ?_⟩
    obtain ⟨result, found, same⟩ := ih item member
    exact ⟨result, List.mem_cons_of_mem _ found, same⟩

theorem mapM_eq_error {change : α → Except ε β} {items : List α} {fault : ε}
    (failed : items.mapM change = .error fault) : ∃ item ∈ items, change item = .error fault := by
  induction items with
  | nil => cases failed
  | cons first rest ih =>
    rw [List.mapM_cons] at failed
    cases changed : change first with
    | error found =>
      rw [changed] at failed
      cases failed
      exact ⟨first, List.mem_cons_self, changed⟩
    | ok value =>
      rw [changed, ok_bind] at failed
      cases others : rest.mapM change with
      | error found =>
        rw [others] at failed
        cases failed
        obtain ⟨item, member, same⟩ := ih others
        exact ⟨item, List.mem_cons_of_mem _ member, same⟩
      | ok values =>
        rw [others] at failed
        cases failed

theorem mem_of_lookup [BEq α] [LawfulBEq α] {entries : List (α × β)} {key : α}
    {value : β} (found : entries.lookup key = some value) : (key, value) ∈ entries := by
  obtain ⟨before, after, split, -⟩ := List.lookup_eq_some_iff.mp found
  rw [split]
  simp

end FileVerdict.Result
