import Mathlib.Logic.Basic
import RuleSchema.Proofs.Chains
import RuleSchema.Proofs.Decimal.WholeFloats
import RuleSchema.Types.Coercion

/-!
# Comparisons of whole numbers

A threshold, a range check and a literal compare numbers as floats, of whole numbers too.  So
they see of a word what is left of it in fifty-three digits: what is in order passes, but so
does a word that is out of order and becomes the same float.
-/

namespace RuleSchema

open Decimal.Rounding

theorem Whole.natAbs_lt (whole : Whole) : whole.value.natAbs < 2 ^ 64 := by
  have bounds := whole.inRange
  omega

theorem natAbs_toInt_lt (word : Int64) : word.toInt.natAbs < 2 ^ 64 :=
  (Whole.ofInt64 word).natAbs_lt

namespace Builtin

variable {call : ValidatorCall}

/-- A threshold rejects what is greater than it, as a float. -/
theorem threshold_eq_accepted_iff {value : Value} {limit : Document} {amount bound : Float}
    (subject : call.fieldValue = .ok value) (given : call.param "threshold" = .ok limit)
    (read : limit.asFloat? = some bound) (counted : value.asFloat? = some amount) :
    threshold call = .accepted ↔ ¬bound < amount := by
  have limitNumber : numberParam "threshold" limit = .ok bound := by rw [numberParam, read]
  have valueNumber : number value = .ok amount := by rw [number, counted]
  rw [threshold, subject, given]
  simp only [except_ok_bind, limitNumber, valueNumber, gt_iff_lt]
  split
  · next greater => simp [verdict, greater]
  · next notGreater => simp [verdict, notGreater, pure, Except.pure]

/-- A range check rejects what is less than the sibling, as a float. -/
theorem rangeCheck_eq_accepted_iff {value sibling : Value} {key : Document} {name : String}
    {amount least : Float} (subject : call.fieldValue = .ok value)
    (given : call.param "min_key" = .ok key) (text : key.asString? = some name)
    (present : call.values.get? name = some sibling) (counted : value.asFloat? = some amount)
    (siblingCounted : sibling.asFloat? = some least) :
    rangeCheck call = .accepted ↔ ¬amount < least := by
  have siblingNumber : number sibling = .ok least := by rw [number, siblingCounted]
  have valueNumber : number value = .ok amount := by rw [number, counted]
  rw [rangeCheck, subject, given]
  simp only [except_ok_bind, text, present, siblingNumber, valueNumber, gt_iff_lt]
  split
  · next greater => simp [verdict, greater]
  · next notGreater => simp [verdict, notGreater, pure, Except.pure]

end Builtin

theorem Document.asFloat?_of_whole {document : Document} {whole : Whole}
    (number : document.untagged = .number (.whole whole)) :
    document.asFloat? = some (ofInt whole.value) := by
  rw [asFloat?, number]
  rfl

/-- A number is a value of a literal if it is one of the options as a float. -/
theorem ValueType.coerce_literal_number {store : FileStore} {options : List Document}
    {document : Document} {number : Number} {path : DocPath}
    (untagged : document.untagOnce = .number number) :
    (literal options).coerce store document path = .found (.ofDocument (.number number)) ↔
      ∃ option ∈ options, Scalar.isOption (.number number) option = true := by
  have notNull : (Document.number number).isNull = false := rfl
  rw [coerce, untagged, ← List.any_eq_true]
  simp only [notNull, Bool.false_and, Bool.false_eq_true, if_false]
  split
  · next chosen => simp [chosen]
  · next refused => simp [refused, Outcome.mismatch, Outcome.violated, Outcome.found]

/--
Whole numbers are compared as floats.  A threshold lets pass what does not exceed it, a range
check what is not below the sibling, and a literal its options, and each of them also a number
of which the same is left in fifty-three digits.  Such words are at most `1024` apart, and up
to `2 ^ 53` there are no two of them.
-/
theorem comparisons_iff_rounded (store : FileStore) (path : DocPath) :
    (∀ (call : ValidatorCall) (word : Int64) (limit : Document) (bound : Whole),
        call.fieldValue = .ok (.int word) → call.param "threshold" = .ok limit →
        limit.untagged = .number (.whole bound) →
          (Builtin.threshold call = .accepted ↔
            word.toInt ≤ bound.value ∨ rounded word.toInt = rounded bound.value)) ∧
      (∀ (call : ValidatorCall) (word least : Int64) (key : Document) (name : String),
        call.fieldValue = .ok (.int word) → call.param "min_key" = .ok key →
        key.asString? = some name → call.values.get? name = some (.int least) →
          (Builtin.rangeCheck call = .accepted ↔
            least.toInt ≤ word.toInt ∨ rounded least.toInt = rounded word.toInt)) ∧
      (∀ (options : List Whole) (document : Document) (whole : Whole),
        document.untagOnce = .number (.whole whole) →
          ((ValueType.literal (options.map fun option => .number (.whole option))).coerce store
              document path = .found (.ofDocument (.number (.whole whole))) ↔
            ∃ option ∈ options, rounded option.value = rounded whole.value)) ∧
      ∀ left right : Int64, rounded left.toInt = rounded right.toInt →
        left.toInt ≤ right.toInt + 1024 ∧
          (left.toInt.natAbs ≤ 2 ^ 53 → right.toInt.natAbs ≤ 2 ^ 53 → left = right) := by
  refine ⟨?threshold, ?rangeCheck, ?literal, fun left right => near_of_rounded_eq⟩
  case threshold =>
    intro call word limit bound subject given number
    rw [Builtin.threshold_eq_accepted_iff subject given (Document.asFloat?_of_whole number) rfl]
    exact not_ofInt_lt_ofInt_iff bound.natAbs_lt (natAbs_toInt_lt word)
  case rangeCheck =>
    intro call word least key name subject given text present
    rw [Builtin.rangeCheck_eq_accepted_iff subject given text present rfl rfl]
    exact not_ofInt_lt_ofInt_iff (natAbs_toInt_lt word) (natAbs_toInt_lt least)
  case literal =>
    intro options document whole untagged
    rw [ValueType.coerce_literal_number untagged]
    simp only [List.mem_map, exists_exists_and_eq_and]
    exact exists_congr fun option => and_congr_right fun _ =>
      ofInt_beq_ofInt_iff option.natAbs_lt whole.natAbs_lt

/-- A call of a validator on a field that is a word, beside another. -/
def wordCall (word sibling : Int64) (params : Mapping) : ValidatorCall :=
  ⟨some (.int word), some "most", [("least", .int sibling)], params⟩

theorem comparisons_iff_rounded_neighbours :
    (Builtin.threshold
          (wordCall 9007199254740993 0 [(.string "threshold", .ofInt64 9007199254740992)]) =
        .accepted ↔
      (9007199254740993 : Int64).toInt ≤ (Whole.ofInt64 9007199254740992).value ∨
        rounded (9007199254740993 : Int64).toInt =
          rounded (Whole.ofInt64 9007199254740992).value) ∧
      (Builtin.rangeCheck (wordCall 5 9 [(.string "min_key", .string "least")]) = .accepted ↔
        (9 : Int64).toInt ≤ (5 : Int64).toInt ∨
          rounded (9 : Int64).toInt = rounded (5 : Int64).toInt) ∧
      ((ValueType.literal [.ofInt64 1, .ofInt64 9007199254740992]).coerce .empty
            (.ofInt64 9007199254740993) [] = .found (.int 9007199254740993) ↔
          ∃ option ∈ [Whole.ofInt64 1, Whole.ofInt64 9007199254740992],
            rounded option.value = rounded (Whole.ofInt64 9007199254740993).value) ∧
      (9007199254740993 : Int64).toInt ≤ (9007199254740992 : Int64).toInt + 1024 := by
  rcases comparisons_iff_rounded .empty [] with ⟨threshold, rangeCheck, literal, near⟩
  exact
    ⟨threshold _ _ _ _ rfl rfl rfl, rangeCheck _ _ _ _ _ rfl rfl rfl rfl,
      literal [.ofInt64 1, .ofInt64 9007199254740992] (.ofInt64 9007199254740993)
        (.ofInt64 9007199254740993) rfl,
      (near _ _ (by decide)).1⟩

/-- A threshold, a range check and a literal take a word for the one before it. -/
theorem comparisons_accept_neighbours :
    Builtin.threshold
        (wordCall 9007199254740993 0 [(.string "threshold", .ofInt64 9007199254740992)]) =
        .accepted ∧
      Builtin.rangeCheck
        (wordCall 9007199254740992 9007199254740993 [(.string "min_key", .string "least")]) =
        .accepted ∧
      (ValueType.literal [.ofInt64 9007199254740992]).coerce .empty (.ofInt64 9007199254740993)
        [] = .found (.int 9007199254740993) ∧
      ¬(9007199254740993 : Int64).toInt ≤ (9007199254740992 : Int64).toInt := by
  refine ⟨?threshold, ?rangeCheck, ?literal, by decide⟩
  case threshold => rfl
  case rangeCheck => rfl
  case literal => rfl

end RuleSchema
