import RuleSchema.Proofs.Decimal.FloatOrder
import RuleSchema.Proofs.Types.Constraints
import RuleSchema.Proofs.Validation.Outcomes
import RuleSchema.Types.Coercion

/-!
# Bounds of floats

A float type refuses a value that is on the wrong side of a bound, which is not to say that it
takes only values on the right side: NaN is on neither.  Every other value that it gives lies
within its bounds.  NaN passes all of them, and is what a document number or a text that names
it is read as.
-/

namespace RuleSchema

open Decimal Decimal.Rounding
open Float.Model Float.Model.UnpackedFloat

namespace NumberKind

theorem isNaN_div {value : Float} (factor : Float) (isNaN : value.isNaN = true) :
    (value / factor).isNaN = true := by
  have quotient (divisor : UnpackedFloat) :
      UnpackedFloat.div Format.binary64 .notANumber divisor = .notANumber := by
    cases divisor <;> rfl
  have divided : (value / factor).toModel =
      Float.Model.pack
        (UnpackedFloat.div Format.binary64 value.toModel.unpack factor.toModel.unpack) := rfl
  rw [isNaN_iff_unpack, divided, isNaN_iff_unpack.mp isNaN, quotient]
  exact unpack_packedNaN

/-- NaN counts as a multiple of every factor. -/
theorem isNearlyMultiple_of_isNaN {value : Float} (factor : Float) (isNaN : value.isNaN = true) :
    isNearlyMultiple value factor = true := by
  have noParts : Exact.parts? (value / factor) = none := by
    rw [Exact.parts?]
    exact if_pos (Nat.le_of_lt (isNaN_iff_toBits.mp (isNaN_div factor isNaN)))
  rw [isNearlyMultiple, Exact.fraction, noParts]
  decide

end NumberKind

namespace FloatConstraints

variable {constraints : FloatConstraints} {value : Float}

/-- A float is on the right side of every bound that is set. -/
structure Encloses (constraints : FloatConstraints) (value : Float) : Prop where
  above : ∀ bound, constraints.above = some bound → value > bound
  atLeast : ∀ bound, constraints.atLeast = some bound → value ≥ bound
  below : ∀ bound, constraints.below = some bound → value < bound
  atMost : ∀ bound, constraints.atMost = some bound → value ≤ bound

/-- The bounds that are set. -/
def bounds (constraints : FloatConstraints) : List Float :=
  constraints.above.toList ++ constraints.atLeast.toList ++ constraints.below.toList ++
    constraints.atMost.toList

/-- A number is on the right side of the bounds exactly if it is not on the wrong one. -/
theorem meetsBounds_iff_encloses (numbers : ∀ bound ∈ bounds constraints, bound.isNaN = false)
    (number : value.isNaN = false) :
    constraints.MeetsBounds .float value ↔ Encloses constraints value := by
  have above (bound : Float) (stated : constraints.above = some bound) :
      NumberKind.float.le value bound = false ↔ value > bound :=
    decide_eq_false_iff_not.trans
      (not_le_iff_lt number (numbers bound (by simp [bounds, stated])))
  have atLeast (bound : Float) (stated : constraints.atLeast = some bound) :
      NumberKind.float.lt value bound = false ↔ value ≥ bound :=
    decide_eq_false_iff_not.trans
      (not_lt_iff_le number (numbers bound (by simp [bounds, stated])))
  have below (bound : Float) (stated : constraints.below = some bound) :
      NumberKind.float.le bound value = false ↔ value < bound :=
    decide_eq_false_iff_not.trans
      (not_le_iff_lt (numbers bound (by simp [bounds, stated])) number)
  have atMost (bound : Float) (stated : constraints.atMost = some bound) :
      NumberKind.float.lt bound value = false ↔ value ≤ bound :=
    decide_eq_false_iff_not.trans
      (not_lt_iff_le (numbers bound (by simp [bounds, stated])) number)
  constructor
  · intro meets
    exact
      { above := fun bound stated => (above bound stated).mp (meets.above bound stated)
        atLeast := fun bound stated => (atLeast bound stated).mp (meets.atLeast bound stated)
        below := fun bound stated => (below bound stated).mp (meets.below bound stated)
        atMost := fun bound stated => (atMost bound stated).mp (meets.atMost bound stated) }
  · intro encloses
    exact
      { above := fun bound stated => (above bound stated).mpr (encloses.above bound stated)
        atLeast := fun bound stated => (atLeast bound stated).mpr (encloses.atLeast bound stated)
        below := fun bound stated => (below bound stated).mpr (encloses.below bound stated)
        atMost := fun bound stated => (atMost bound stated).mpr (encloses.atMost bound stated) }

/-- NaN fails no check. -/
theorem check_of_isNaN (constraints : FloatConstraints) (isNaN : value.isNaN = true) :
    constraints.check .float value = .accepted := by
  have notLe {left right : Float} (either : left = value ∨ right = value) : ¬left ≤ right := by
    intro inOrder
    rcases isNaN_eq_false_of_le inOrder with ⟨leftNumber, rightNumber⟩
    rcases either with rfl | rfl
    · exact Bool.false_ne_true (leftNumber.symm.trans isNaN)
    · exact Bool.false_ne_true (rightNumber.symm.trans isNaN)
  have notLt {left right : Float} (either : left = value ∨ right = value) : ¬left < right := by
    intro less
    exact notLe either (le_iff_compare.mpr (.inl (lt_iff_compare.mp less)))
  rw [NumberConstraints.check_eq_accepted_iff]
  constructor
  · exact
      { above := fun _ _ => decide_eq_false (notLe (.inl rfl))
        atLeast := fun _ _ => decide_eq_false (notLt (.inl rfl))
        below := fun _ _ => decide_eq_false (notLe (.inr rfl))
        atMost := fun _ _ => decide_eq_false (notLt (.inr rfl)) }
  · intro factor _
    exact congrArg some (NumberKind.isNearlyMultiple_of_isNaN factor isNaN)

/-- NaN is on the right side of no bound. -/
theorem encloses_iff_of_isNaN (isNaN : value.isNaN = true) :
    Encloses constraints value ↔ bounds constraints = [] := by
  constructor
  · intro encloses
    apply List.eq_nil_iff_forall_not_mem.mpr
    intro bound member
    have number : value.isNaN = false := by
      simp only [bounds, List.mem_append, Option.mem_toList] at member
      rcases member with ((stated | stated) | stated) | stated
      · exact (isNaN_eq_false_of_lt (encloses.above bound stated)).2
      · exact (isNaN_eq_false_of_le (encloses.atLeast bound stated)).2
      · exact (isNaN_eq_false_of_lt (encloses.below bound stated)).1
      · exact (isNaN_eq_false_of_le (encloses.atMost bound stated)).1
    exact Bool.false_ne_true (number.symm.trans isNaN)
  · intro none
    simp only [bounds, List.append_eq_nil_iff, Option.toList_eq_nil_iff] at none
    constructor <;> simp [none]

end FloatConstraints

/-! ## Coercion -/

/-- Whether a float type reads a document as NaN. -/
def Scalar.meansNaN (strict : Bool) : Document → Bool
  | .number value => value.toFloat.isNaN
  | .string text => !strict && namesNaN (Text.Blank.trim text)
  | _ => false

theorem Scalar.meansNaN_eq {strict : Bool} {document : Document} {value : Float}
    (read : Scalar.float strict document = .ok value) :
    meansNaN strict document = value.isNaN := by
  rw [float] at read
  split at read
  · next number found =>
    cases read
    cases document with
    | number numeral =>
        cases found
        rfl
    | string text =>
        rw [float?] at found
        split at found
        · cases found
        · next lenient =>
          rw [meansNaN, Reading.isNaN_parse? found]
          simp [lenient]
    | _ => cases found
  · cases read

/-- What means NaN is read as NaN. -/
theorem Scalar.exists_read_of_meansNaN {strict : Bool} {document : Document}
    (means : meansNaN strict document = true) :
    ∃ value, Scalar.float strict document = .ok value ∧ value.isNaN = true := by
  cases document with
  | number numeral => exact ⟨numeral.toFloat, rfl, means⟩
  | string text =>
      rw [meansNaN, Bool.and_eq_true, Bool.not_eq_true'] at means
      rcases means with ⟨lenient, names⟩
      rcases Reading.exists_parse?_of_namesNaN names with ⟨value, found⟩
      refine ⟨value, ?_, (Reading.isNaN_parse? found).trans names⟩
      rw [float, float?, lenient, if_neg Bool.false_ne_true, found]
  | _ => cases means

/-- A float type gives what it reads and its constraints accept. -/
theorem ValueType.gives_coerce_float {store : FileStore} {constraints : FloatConstraints}
    {document : Document} {path : DocPath} {value : Float} :
    ((ValueType.float constraints).coerce store document path).Gives (.float value) ↔
      Scalar.float constraints.strict document.untagOnce = .ok value ∧
        constraints.check .float value = .accepted := by
  rw [coerce]
  split
  · next absent =>
    have unread : ∀ number, Scalar.float constraints.strict document.untagOnce ≠ .ok number := by
      intro number
      generalize document.untagOnce = inner at absent
      cases inner with
      | number numeral => cases absent
      | string text => cases absent
      | _ => simp [Scalar.float, Scalar.float?]
    simp [unread value]
  · rw [Outcome.gives_andThen]
    simp only [Outcome.gives_ofExcept, Outcome.gives_ofVerdict, Value.float.injEq]
    constructor
    · rintro ⟨number, read, accepted, rfl⟩
      exact ⟨read, accepted⟩
    · rintro ⟨read, accepted⟩
      exact ⟨value, read, accepted, rfl⟩

/--
A float type whose bounds are numbers gives no number outside of them.  It gives something
outside of its bounds exactly if there are any and the document means NaN.
-/
theorem ValueType.float_outside_bounds_iff (store : FileStore) (constraints : FloatConstraints)
    (document : Document) (path : DocPath)
    (numbers : ∀ bound ∈ FloatConstraints.bounds constraints, bound.isNaN = false) :
    (∀ value, ((ValueType.float constraints).coerce store document path).Gives (.float value) →
        value.isNaN = false → FloatConstraints.Encloses constraints value) ∧
      ((∃ value, ((ValueType.float constraints).coerce store document path).Gives (.float value) ∧
          ¬FloatConstraints.Encloses constraints value) ↔
        Scalar.meansNaN constraints.strict document.untagOnce = true ∧
          FloatConstraints.bounds constraints ≠ []) := by
  have enclosed : ∀ value,
      ((ValueType.float constraints).coerce store document path).Gives (.float value) →
        value.isNaN = false → FloatConstraints.Encloses constraints value := by
    intro value given number
    have accepted := (gives_coerce_float.mp given).2
    exact
      (FloatConstraints.meetsBounds_iff_encloses numbers number).mp
        (NumberConstraints.check_eq_accepted_iff.mp accepted).1
  refine ⟨enclosed, ?_⟩
  constructor
  · rintro ⟨value, given, outside⟩
    have isNaN : value.isNaN = true := by
      rw [← Bool.not_eq_false]
      exact fun number => outside (enclosed value given number)
    refine ⟨(Scalar.meansNaN_eq (gives_coerce_float.mp given).1).trans isNaN, ?_⟩
    exact fun none => outside ((FloatConstraints.encloses_iff_of_isNaN isNaN).mpr none)
  · rintro ⟨means, bounded⟩
    rcases Scalar.exists_read_of_meansNaN means with ⟨value, read, isNaN⟩
    refine ⟨value, gives_coerce_float.mpr ⟨read, ?_⟩, ?_⟩
    · exact FloatConstraints.check_of_isNaN constraints isNaN
    · exact fun encloses =>
        bounded ((FloatConstraints.encloses_iff_of_isNaN isNaN).mp encloses)

/-- Floats above zero. -/
def positiveFloats : FloatConstraints := { above := some 0.0 }

theorem ValueType.float_outside_bounds_iff_positive :
    (((ValueType.float positiveFloats).coerce .empty (.string "1.5") []).Gives (.float 1.5) →
        Float.isNaN 1.5 = false → FloatConstraints.Encloses positiveFloats 1.5) ∧
      ∃ value,
        ((ValueType.float positiveFloats).coerce .empty (.string " -NaN ") []).Gives
            (.float value) ∧
          ¬FloatConstraints.Encloses positiveFloats value := by
  have numbers : ∀ bound ∈ FloatConstraints.bounds positiveFloats, bound.isNaN = false := by
    intro bound member
    rw [List.mem_singleton.mp member]
    decide
  refine
    ⟨(float_outside_bounds_iff .empty positiveFloats (.string "1.5") [] numbers).1 1.5,
      (float_outside_bounds_iff .empty positiveFloats (.string " -NaN ") [] numbers).2.mpr ?_⟩
  exact ⟨by decide +kernel, by simp [FloatConstraints.bounds, positiveFloats]⟩

/-- A type of floats above zero takes NaN, from a number and from a text. -/
theorem ValueType.positive_float_takes_nan :
    (ValueType.float positiveFloats).coerce .empty (.ofFloat Float.nan) [] =
        .found (.float Float.nan) ∧
      (ValueType.float positiveFloats).coerce .empty (.string "nan") [] =
        .found (.float Float.nan) ∧
      ¬Float.nan > 0.0 := by
  refine ⟨?number, ?text, by decide⟩
  case number => rfl
  case text => rfl

end RuleSchema
