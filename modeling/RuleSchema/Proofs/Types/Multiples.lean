import RuleSchema.Proofs.Chains
import RuleSchema.Proofs.Types.Constraints
import RuleSchema.Registry.BuiltinValidators
import RuleSchema.Types.Coercion

/-!
# Multiples of words

Options do not take zero as a factor, and the validator of multiples refuses it.  What is left
without a remainder is the least word by `-1`, whose quotient is no word: there checking is
broken off, for an integer type and for the validator alike.
-/

namespace RuleSchema

/-! ## Factors that options leave -/

/-- What reading one option keeps, reading them all keeps. -/
theorem Options.fold_invariant {α : Type} {read : α → String → Document → Except String α}
    (Holds : α → Prop)
    (step : ∀ built name document next, Holds built → read built name document = .ok next →
      Holds next)
    {start result : α} {options : List (Document × Document)} (first : Holds start)
    (done : fold read start options = .ok result) : Holds result := by
  induction options generalizing start with
  | nil =>
      cases done
      exact first
  | cons option rest ih =>
      rcases option with ⟨key, document⟩
      rw [fold] at done
      split at done
      · cases done
      · next name named =>
        split at done
        · cases done
        · next next taken => exact ih (step start name document next first taken) done

namespace NumberConstraints

variable {α : Type} {kind : NumberKind α} {constraints next : NumberConstraints α}

/-- The factor, if there is one, is not zero. -/
def HasProperFactor (kind : NumberKind α) (constraints : NumberConstraints α) : Prop :=
  ∀ factor, constraints.multipleOf = some factor → kind.eq factor kind.zero = false

/-- Only the option of the factor changes it, and it does not take zero. -/
theorem HasProperFactor.withOption {name : String} {document : Document}
    (proper : constraints.HasProperFactor kind)
    (taken : withOption kind constraints name document = .ok next) :
    next.HasProperFactor kind := by
  rw [NumberConstraints.withOption.eq_def] at taken
  dsimp only at taken
  -- Of the arms by name, the fifth is that of the factor and the last that of unknown options.
  split at taken
  case h_5 =>
    split at taken
    · cases taken
    · split at taken
      · cases taken
      · next factor given notZero =>
        cases taken
        intro other same
        cases same
        exact Bool.eq_false_iff.mpr notZero
  case h_7 => cases taken
  all_goals
    rcases except_map_eq_ok.mp taken with ⟨option, -, rfl⟩
    exact proper

/-- Options that are taken leave no factor zero. -/
theorem hasProperFactor_of_ofOptions {options : Mapping}
    (accepted : ofOptions kind options = .ok constraints) : constraints.HasProperFactor kind := by
  have atFirst : HasProperFactor kind {} := by
    intro factor stated
    cases stated
  exact Options.fold_invariant (HasProperFactor kind)
    (fun _ _ _ _ proper taken => proper.withOption taken) atFirst accepted

end NumberConstraints

/-! ## Remainders -/

theorem Remainder.ofWords?_eq_none_iff {dividend divisor : Int64} :
    ofWords? dividend divisor = none ↔
      divisor = 0 ∨ dividend = Int64.minValue ∧ divisor = -1 := by
  rw [ofWords?]
  split
  · next missing => simp [missing]
  · next present => simp [present]

/-- Of the factors that are left, only `-1` is without an answer, and only for the least word. -/
theorem IntConstraints.check_eq_overflow_iff {constraints : IntConstraints} {word : Int64}
    (proper : constraints.HasProperFactor .int) :
    NumberConstraints.check .int constraints word = .overflow ↔
      constraints.multipleOf = some (-1) ∧ word = Int64.minValue ∧
        constraints.MeetsBounds .int word := by
  rw [NumberConstraints.check_eq_overflow_iff]
  constructor
  · rintro ⟨meets, factor, stated, unanswered⟩
    have notZero : ¬factor = 0 := by simpa [NumberKind.int] using proper factor stated
    rcases Remainder.ofWords?_eq_none_iff.mp (Option.map_eq_none_iff.mp unanswered) with
      zero | ⟨least, rfl⟩
    · exact absurd zero notZero
    · exact ⟨stated, least, meets⟩
  · rintro ⟨stated, rfl, meets⟩
    exact ⟨meets, -1, stated, rfl⟩

/-! ## Words that are read -/

namespace Scalar

theorem word?_eq_least_iff {value : Int} : word? value = some Int64.minValue ↔ value = -2 ^ 63 := by
  rw [word?]
  constructor
  · intro read
    split at read
    · next inRange =>
      have same := congrArg Int64.toInt (Option.some.inj read)
      rwa [Int64.toInt_ofInt_of_le inRange.1 inRange.2, Int64.toInt_minValue] at same
    · cases read
  · rintro rfl
    rfl

/-- A whole float is a word if its size is below `2 ^ 63`, which leaves out the least word. -/
theorem wordOfFloat?_ne_least (value : Float) : wordOfFloat? value ≠ some Int64.minValue := by
  intro read
  rw [wordOfFloat?] at read
  split at read
  · next whole isWhole =>
    split at read
    · next small =>
      have same := congrArg Int64.toInt (Option.some.inj read)
      rw [Int64.toInt_ofInt_of_le (by omega) (by omega), Int64.toInt_minValue] at same
      omega
    · cases read
  · cases read

theorem spokenInt?_eq_least_iff {document : Document} :
    spokenInt? document = some Int64.minValue ↔
      ∃ text, document = .string text ∧
        Decimal.Reading.parseInt? (Text.Blank.trim text) = some (-2 ^ 63) := by
  cases document with
  | number value => simpa [spokenInt?] using wordOfFloat?_ne_least value.toFloat
  | string text => simp [spokenInt?, Option.bind_eq_some_iff, word?_eq_least_iff]
  | _ => simp [spokenInt?]

/-- The least word is read from its number or, unless strict, from its text, but from no float. -/
theorem int_eq_least_iff {strict : Bool} {document : Document} :
    int strict document = .ok Int64.minValue ↔
      document.asInt64? = some Int64.minValue ∨
        strict = false ∧ ∃ text, document = .string text ∧
          Decimal.Reading.parseInt? (Text.Blank.trim text) = some (-2 ^ 63) := by
  rw [int, ← spokenInt?_eq_least_iff]
  cases number : document.asInt64? with
  | some word =>
      have notText : spokenInt? document ≠ some Int64.minValue := by
        rw [ne_eq, spokenInt?_eq_least_iff]
        rintro ⟨text, rfl, -⟩
        cases number
      simp [notText]
  | none =>
      cases strict with
      | true => simp
      | false => cases spokenInt? document <;> simp

end Scalar

/-! ## Where checking is broken off -/

/-- No word is read from null. -/
theorem Scalar.isNull_of_int {strict : Bool} {document : Document} {word : Int64}
    (read : int strict document = .ok word) : document.isNull = false := by
  apply Bool.eq_false_iff.mpr
  intro null
  have untagged : document.untagged = .null := by
    rw [Document.isNull] at null
    split at null
    · next same => exact same
    · cases null
  have noNumber : document.asInt64? = none := by rw [Document.asInt64?, untagged]
  have notSpoken : spokenInt? document = none := by
    cases document with
    | number value => cases untagged
    | string text => cases untagged
    | _ => rfl
  rw [int, noNumber, notSpoken] at read
  cases strict <;> cases read

/-- An integer type breaks off where the check of the word that was read does. -/
theorem ValueType.overflow_coerce_int {constraints : IntConstraints} {store : FileStore}
    {document : Document} {path : DocPath} :
    ((int constraints).coerce store document path).overflow = true ↔
      ∃ word, Scalar.int constraints.strict document.untagOnce = .ok word ∧
        NumberConstraints.check .int constraints word = .overflow := by
  rw [coerce]
  cases read : Scalar.int constraints.strict document.untagOnce with
  | error message =>
      split <;> simp [Outcome.mismatch, Outcome.violated, Outcome.ofExcept, Outcome.andThen]
  | ok word =>
      have notNull := Scalar.isNull_of_int read
      simp only [notNull, Bool.false_and, Bool.false_eq_true, if_false]
      cases checked : NumberConstraints.check .int constraints word <;>
        simp [checked, Outcome.ofExcept, Outcome.andThen, Outcome.found, Outcome.ofVerdict,
          Outcome.mismatch, Outcome.violated, Outcome.brokenOff]

theorem Value.asInt?_eq_some_iff {value : Value} {word : Int64} :
    value.asInt? = some word ↔ value = .int word := by
  cases value <;> simp [asInt?]

theorem ValidatorCall.fieldValue_eq_ok_iff {call : ValidatorCall} {value : Value} :
    call.fieldValue = .ok value ↔ call.value = some value := by
  rw [fieldValue]
  cases call.value <;> simp

namespace Builtin

variable {call : ValidatorCall} {value : Value} {factor : Document}

/-- Of two words the validator takes the remainder, unless the factor is zero. -/
theorem multipleOf_words_eq_overflow_iff {word divisor : Int64}
    (subject : call.fieldValue = .ok (.int word)) (given : call.param "factor" = .ok factor)
    (read : factor.asInt64? = some divisor) :
    multipleOf call = .overflow ↔ word = Int64.minValue ∧ divisor = -1 := by
  rw [multipleOf, subject, given]
  simp only [Value.asInt?, read]
  split
  · next zero => simp [zero]
  · next notZero =>
    cases taken : Remainder.ofWords? word divisor with
    | none =>
        have undefined := Remainder.ofWords?_eq_none_iff.mp taken
        simp [undefined.resolve_left notZero]
    | some remainder =>
        have defined : Remainder.ofWords? word divisor ≠ none := by simp [taken]
        rw [ne_eq, Remainder.ofWords?_eq_none_iff, not_or] at defined
        dsimp only
        split <;> simpa [notMultiple] using defined.2

/-- Other numbers are compared as floats, which always has an answer. -/
theorem multipleOf_ne_overflow (subject : call.fieldValue = .ok value)
    (given : call.param "factor" = .ok factor)
    (noWords : value.asInt? = none ∨ factor.asInt64? = none) : multipleOf call ≠ .overflow := by
  rw [multipleOf, subject, given]
  dsimp only
  split
  · next isWord isDivisor => simp [isWord, isDivisor] at noWords
  · split
    · simp
    · simp
    · split <;> simp [notMultiple]

/-- The validator of multiples breaks off for the least word and the factor `-1` alone. -/
theorem multipleOf_eq_overflow_iff :
    multipleOf call = .overflow ↔
      call.value = some (.int Int64.minValue) ∧
        ∃ factor, call.param "factor" = .ok factor ∧ factor.asInt64? = some (-1) := by
  rw [← ValidatorCall.fieldValue_eq_ok_iff]
  constructor
  · intro brokenOff
    cases subject : call.fieldValue with
    | error message =>
        rw [multipleOf, subject] at brokenOff
        cases brokenOff
    | ok value =>
        cases given : call.param "factor" with
        | error message =>
            rw [multipleOf, subject, given] at brokenOff
            cases brokenOff
        | ok factor =>
            cases isWord : value.asInt? with
            | none => exact absurd brokenOff (multipleOf_ne_overflow subject given (.inl isWord))
            | some word =>
                cases isDivisor : factor.asInt64? with
                | none =>
                    exact absurd brokenOff (multipleOf_ne_overflow subject given (.inr isDivisor))
                | some divisor =>
                    rw [Value.asInt?_eq_some_iff.mp isWord] at subject ⊢
                    rcases (multipleOf_words_eq_overflow_iff subject given isDivisor).mp brokenOff
                      with ⟨rfl, rfl⟩
                    exact ⟨rfl, factor, rfl, isDivisor⟩
  · rintro ⟨subject, factor, given, isDivisor⟩
    exact (multipleOf_words_eq_overflow_iff subject given isDivisor).mpr ⟨rfl, rfl⟩

end Builtin

/--
Options never leave zero as a factor, and an integer type that they make is broken off exactly
if the factor is `-1` and the document is read as the least word, which the other bounds allow.
The least word is read from its number or, unless strict, from its text.  The validator of
multiples is broken off exactly for the field that is the least word and the factor `-1`.
-/
theorem multiples_break_off_iff (store : FileStore) (path : DocPath) :
    (∀ (options : Mapping) (constraints : IntConstraints),
        NumberConstraints.ofOptions .int options = .ok constraints →
          constraints.multipleOf ≠ some 0 ∧
            ∀ document : Document,
              (((ValueType.int constraints).coerce store document path).overflow = true ↔
                constraints.multipleOf = some (-1) ∧
                  Scalar.int constraints.strict document.untagOnce = .ok Int64.minValue ∧
                  constraints.MeetsBounds .int Int64.minValue)) ∧
      (∀ (strict : Bool) (document : Document),
        Scalar.int strict document = .ok Int64.minValue ↔
          document.asInt64? = some Int64.minValue ∨
            strict = false ∧ ∃ text, document = .string text ∧
              Decimal.Reading.parseInt? (Text.Blank.trim text) = some (-2 ^ 63)) ∧
      ∀ call : ValidatorCall,
        Builtin.multipleOf call = .overflow ↔
          call.value = some (.int Int64.minValue) ∧
            ∃ factor, call.param "factor" = .ok factor ∧ factor.asInt64? = some (-1) := by
  refine ⟨fun options constraints accepted => ?types, fun _ _ => Scalar.int_eq_least_iff,
    fun _ => Builtin.multipleOf_eq_overflow_iff⟩
  case types =>
    have proper := NumberConstraints.hasProperFactor_of_ofOptions accepted
    refine ⟨fun zero => absurd (proper 0 zero) (by decide), fun document => ?_⟩
    rw [ValueType.overflow_coerce_int]
    simp only [IntConstraints.check_eq_overflow_iff proper]
    constructor
    · rintro ⟨word, read, stated, rfl, meets⟩
      exact ⟨stated, read, meets⟩
    · rintro ⟨stated, read, meets⟩
      exact ⟨_, read, stated, rfl, meets⟩

/-- Multiples of `-1` up to zero, which are all the words there. -/
def negativeOptions : Mapping :=
  [(.string "le", .ofInt64 0), (.string "multiple_of", .ofInt64 (-1))]

theorem multiples_break_off_iff_negative :
    NumberConstraints.ofOptions .int negativeOptions =
        .ok { atMost := some 0, multipleOf := some (-1) } ∧
      ((ValueType.int { atMost := some 0, multipleOf := some (-1) }).coerce .empty
        (.string " -9223372036854775808") []).overflow = true := by
  have accepted : NumberConstraints.ofOptions .int negativeOptions =
      .ok { atMost := some 0, multipleOf := some (-1) } := rfl
  have read : Scalar.int false (.string " -9223372036854775808") = .ok Int64.minValue := rfl
  have meets : NumberConstraints.MeetsBounds .int { atMost := some 0, multipleOf := some (-1) }
      Int64.minValue := by
    refine ⟨nofun, nofun, nofun, ?_⟩
    rintro bound ⟨⟩
    rfl
  rcases (multiples_break_off_iff .empty []).1 negativeOptions _ accepted with ⟨-, breaksOff⟩
  exact ⟨accepted, (breaksOff _).mpr ⟨rfl, read, meets⟩⟩

/-- The least word by `-1` breaks off an integer type that was accepted, and the validator. -/
theorem least_by_minus_one_breaks_off :
    NumberConstraints.ofOptions .int [(.string "multiple_of", .ofInt64 (-1))] =
        .ok { multipleOf := some (-1) } ∧
      ((ValueType.int { multipleOf := some (-1) }).coerce .empty (.ofInt64 Int64.minValue)
        []).overflow = true ∧
      Builtin.multipleOf
        ⟨some (.int Int64.minValue), some "shift", [], [(.string "factor", .ofInt64 (-1))]⟩ =
        .overflow := by
  refine ⟨?accepted, ?type, ?validator⟩
  case accepted => rfl
  case type => rfl
  case validator => rfl

end RuleSchema
