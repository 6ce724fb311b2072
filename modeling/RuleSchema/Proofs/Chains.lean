import RuleSchema.Reference.TypeReference

/-!
# Chains of computations that may fail

When a chain of computations succeeds, each of its parts did, and what it gives is what the
last part gives.
-/

namespace RuleSchema

/-- A chain of two computations succeeds when both do. -/
theorem except_bind_eq_ok {ε α β : Type} {first : Except ε α} {next : α → Except ε β}
    {result : β} :
    first >>= next = .ok result ↔ ∃ value, first = .ok value ∧ next value = .ok result := by
  cases first with
  | error error =>
      constructor
      · intro equal
        cases equal
      · rintro ⟨value, equal, -⟩
        cases equal
  | ok value =>
      constructor
      · intro equal
        exact ⟨value, rfl, equal⟩
      · rintro ⟨other, equal, rest⟩
        cases equal
        exact rest

@[simp]
theorem except_ok_bind {ε α β : Type} {value : α} {next : α → Except ε β} :
    (.ok value : Except ε α) >>= next = next value := rfl

theorem except_map_eq_ok {ε α β : Type} {first : Except ε α} {function : α → β}
    {result : β} :
    first.map function = .ok result ↔ ∃ value, first = .ok value ∧ function value = result := by
  cases first <;> simp [Except.map]

/-- A chain of two computations fails when the first does, or the second after it. -/
theorem except_bind_eq_error {ε α β : Type} {first : Except ε α} {next : α → Except ε β}
    {error : ε} :
    first >>= next = .error error ↔
      first = .error error ∨ ∃ value, first = .ok value ∧ next value = .error error := by
  cases first with
  | error other =>
      constructor
      · intro equal
        cases equal
        exact .inl rfl
      · rintro (equal | ⟨value, equal, -⟩)
        · cases equal
          rfl
        · cases equal
  | ok value =>
      constructor
      · intro equal
        exact .inr ⟨value, rfl, equal⟩
      · rintro (equal | ⟨other, equal, rest⟩)
        · cases equal
        · cases equal
          exact rest

theorem except_map_eq_error {ε α β : Type} {first : Except ε α} {function : α → β} {error : ε} :
    first.map function = .error error ↔ first = .error error := by
  cases first <;> simp [Except.map]

theorem exists_of_isOk {ε α : Type} {computation : Except ε α}
    (succeeds : computation.isOk = true) : ∃ value, computation = .ok value := by
  cases computation with
  | error error => cases succeeds
  | ok value => exact ⟨value, rfl⟩

/-- A computation whose result passes a test has a result. -/
theorem exists_of_any {ε α : Type} {computation : Except ε α} {test : α → Bool}
    (passes : computation.toOption.any test = true) :
    ∃ value, computation = .ok value ∧ test value = true := by
  cases computation with
  | error error => cases passes
  | ok value => exact ⟨value, rfl, passes⟩

namespace Warned

theorem andThen_result_eq_ok {α β : Type} {first : Warned α} {next : α → Warned β}
    {result : β} :
    (first.andThen next).result = .ok result ↔
      ∃ value, first.result = .ok value ∧ (next value).result = .ok result := by
  cases given : first.result <;> simp [andThen, given]

end Warned

end RuleSchema
