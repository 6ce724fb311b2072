import RuleSchema.Types.Constraints

/-!
# What constraints allow

The check of constraints walks through them in a fixed order.  A number or a text that it
accepts meets every one of them.
-/

namespace RuleSchema

/-- A word meets bounds and divisibility, as an integer. -/
structure IntConstraints.Allows (constraints : IntConstraints) (word : Int64) : Prop where
  above : ∀ bound, constraints.above = some bound → bound.toInt < word.toInt
  atLeast : ∀ bound, constraints.atLeast = some bound → bound.toInt ≤ word.toInt
  below : ∀ bound, constraints.below = some bound → word.toInt < bound.toInt
  atMost : ∀ bound, constraints.atMost = some bound → word.toInt ≤ bound.toInt
  multipleOf : ∀ factor, constraints.multipleOf = some factor → factor.toInt ∣ word.toInt

/-- A text meets the bounds of its length and its pattern. -/
structure TextConstraints.Allows (constraints : TextConstraints) (text : String) : Prop where
  minLength : ∀ size, constraints.minLength = some size → size ≤ text.length
  maxLength : ∀ size, constraints.maxLength = some size → text.length ≤ size
  pattern : ∀ pattern, constraints.pattern = some pattern → pattern.isMatch text = true

theorem Remainder.dvd_of_ofWords? {dividend divisor : Int64}
    (divides : Remainder.ofWords? dividend divisor = some 0) :
    divisor.toInt ∣ dividend.toInt := by
  rw [ofWords?] at divides
  split at divides
  · cases divides
  · rw [Option.some.injEq] at divides
    apply Int.dvd_of_tmod_eq_zero
    rw [← Int64.toInt_mod, divides, Int64.toInt_zero]

namespace NumberConstraints

variable {α : Type} {kind : NumberKind α} {constraints : NumberConstraints α} {value : α}

/-- A number fails none of the bounds. -/
structure MeetsBounds (kind : NumberKind α) (constraints : NumberConstraints α) (value : α) :
    Prop where
  above : ∀ bound, constraints.above = some bound → kind.le value bound = false
  atLeast : ∀ bound, constraints.atLeast = some bound → kind.lt value bound = false
  below : ∀ bound, constraints.below = some bound → kind.le bound value = false
  atMost : ∀ bound, constraints.atMost = some bound → kind.lt bound value = false

/-- A check is that of the factor alone if the bounds are met, and rejects the number else. -/
theorem check_cases (kind : NumberKind α) (constraints : NumberConstraints α) (value : α) :
    (constraints.MeetsBounds kind value ∧
        constraints.check kind value =
          check kind { multipleOf := constraints.multipleOf } value) ∨
      ¬constraints.MeetsBounds kind value ∧
        ∃ message, constraints.check kind value = .rejected message := by
  have fails (bound : Option α) (test : α → Bool) :
      bound.any test = true ↔ ¬∀ limit, bound = some limit → test limit = false := by
    cases bound <;> simp
  rw [check]
  split
  · next above => exact .inr ⟨fun meets => (fails _ _).mp above meets.above, _, rfl⟩
  · next above =>
    split
    · next atLeast => exact .inr ⟨fun meets => (fails _ _).mp atLeast meets.atLeast, _, rfl⟩
    · next atLeast =>
      split
      · next below => exact .inr ⟨fun meets => (fails _ _).mp below meets.below, _, rfl⟩
      · next below =>
        split
        · next atMost => exact .inr ⟨fun meets => (fails _ _).mp atMost meets.atMost, _, rfl⟩
        · next atMost =>
          simp only [fails, Classical.not_not] at above atLeast below atMost
          exact .inl ⟨⟨above, atLeast, below, atMost⟩, rfl⟩

/-- A number is accepted when it fails no bound and is a multiple of the factor. -/
theorem check_eq_accepted_iff :
    constraints.check kind value = .accepted ↔
      constraints.MeetsBounds kind value ∧
        ∀ factor, constraints.multipleOf = some factor →
          kind.isMultiple? value factor = some true := by
  rcases check_cases kind constraints value with ⟨meets, same⟩ | ⟨fails, message, rejected⟩
  · rw [same]
    cases constraints.multipleOf with
    | none => simp [check, meets]
    | some factor =>
        cases multiple : kind.isMultiple? value factor with
        | none => simp [check, multiple]
        | some answer => cases answer <;> simp [check, multiple, meets]
  · simp [rejected, fails]

/-- A check is broken off when the bounds are met and the factor has no answer. -/
theorem check_eq_overflow_iff :
    constraints.check kind value = .overflow ↔
      constraints.MeetsBounds kind value ∧
        ∃ factor, constraints.multipleOf = some factor ∧ kind.isMultiple? value factor = none := by
  rcases check_cases kind constraints value with ⟨meets, same⟩ | ⟨fails, message, rejected⟩
  · rw [same]
    cases constraints.multipleOf with
    | none => simp [check]
    | some factor =>
        cases multiple : kind.isMultiple? value factor with
        | none => simp [check, multiple, meets]
        | some answer => cases answer <;> simp [check, multiple]
  · simp [rejected, fails]

end NumberConstraints

theorem IntConstraints.allows_of_check {constraints : IntConstraints} {word : Int64}
    (accepted : NumberConstraints.check .int constraints word = .accepted) :
    IntConstraints.Allows constraints word := by
  rcases NumberConstraints.check_eq_accepted_iff.mp accepted with ⟨bounds, multipleOf⟩
  constructor
  · intro bound stated
    have inOrder := bounds.above bound stated
    simpa [NumberKind.int, Int64.lt_iff_toInt_lt] using inOrder
  · intro bound stated
    have inOrder := bounds.atLeast bound stated
    simpa [NumberKind.int, Int64.le_iff_toInt_le] using inOrder
  · intro bound stated
    have inOrder := bounds.below bound stated
    simpa [NumberKind.int, Int64.lt_iff_toInt_lt] using inOrder
  · intro bound stated
    have inOrder := bounds.atMost bound stated
    simpa [NumberKind.int, Int64.le_iff_toInt_le] using inOrder
  · intro factor stated
    have divides := multipleOf factor stated
    simp only [NumberKind.int, Option.map_eq_some_iff, beq_iff_eq] at divides
    rcases divides with ⟨remainder, taken, rfl⟩
    exact Remainder.dvd_of_ofWords? taken

theorem TextConstraints.allows_of_check {constraints : TextConstraints} {text : String}
    (accepted : constraints.check text = .accepted) : constraints.Allows text := by
  rw [check] at accepted
  split at accepted
  · cases accepted
  · next longEnough =>
    split at accepted
    · cases accepted
    · next shortEnough =>
      constructor
      · intro size stated
        simpa [stated] using longEnough
      · intro size stated
        simpa [stated] using shortEnough
      · intro pattern stated
        rw [stated] at accepted
        apply Classical.byContradiction
        intro noMatch
        simp only [Bool.not_eq_true] at noMatch
        simp [noMatch] at accepted

end RuleSchema
