import RuleSchema.Decimal.Layout
import RuleSchema.Proofs.Decimal.FloatOrder
import RuleSchema.Proofs.Decimal.ShortestDigits

/-!
# Number texts tell numbers apart

The JSON text of a finite float is read back as the value of its shortest digits, whatever
notation is chosen for them.  Therefore different finite floats have different texts.  The text
of a float has a point or an exponent, which the text of a whole number never has.
-/

namespace RuleSchema.Decimal

/-! ## Reading -/

namespace Reading

/-- The rational that an unsigned decimal text stands for. -/
def size? (text : List Char) : Option ℚ :=
  (magnitude? text).map fun decimal => decimal.1 * 10 ^ decimal.2

theorem size?_minus (rest : List Char) : size? ('-' :: rest) = none := rfl

theorem natOfDigits_eq (digits : List Char) : natOfDigits digits = Nat.ofDigitChars 10 digits 0 := by
  have step : (fun (total : Nat) (c : Char) => total * 10 + (c.toNat - 48)) =
      fun total c => 10 * total + (c.toNat - '0'.toNat) := by
    funext total c
    rw [Nat.mul_comm]
    rfl
  rw [natOfDigits, step, Nat.ofDigitChars_eq_foldl]

@[simp]
theorem natOfDigits_toDigits (number : Nat) : natOfDigits (Nat.toDigits 10 number) = number := by
  rw [natOfDigits_eq, Nat.ofDigitChars_ten_toDigits]

theorem natOfDigits_append_zeros (digits : List Char) (count : Nat) :
    natOfDigits (digits ++ List.replicate count '0') = natOfDigits digits * 10 ^ count := by
  rw [natOfDigits_eq, natOfDigits_eq, Nat.ofDigitChars_append, Nat.ofDigitChars_replicate_zero,
    Nat.mul_comm]

theorem natOfDigits_zeros_append (count : Nat) (digits : List Char) :
    natOfDigits (List.replicate count '0' ++ digits) = natOfDigits digits := by
  rw [natOfDigits_eq, natOfDigits_eq, Nat.ofDigitChars_append, Nat.ofDigitChars_replicate_zero,
    Nat.mul_zero]

/-- What is read as an exponent is nothing, or starts with its letter. -/
theorem exponent?_cases {rest : List Char} {exponent : Int}
    (read : exponent? rest = some exponent) : rest = [] ∨ ∃ c tail, rest = c :: tail ∧
      c.isDigit = false ∧ c ≠ '.' := by
  cases rest with
  | nil => exact .inl rfl
  | cons c tail =>
      right
      rw [exponent?] at read
      split at read
      · next letter => rcases letter with rfl | rfl <;> exact ⟨_, tail, rfl, by decide, by decide⟩
      · cases read

section Pieces

variable {whole fraction rest : List Char} (nonempty : whole ≠ [])
  (wholeDigits : ∀ c ∈ whole, c.isDigit = true) {exponent : Int}
  (exponentRead : exponent? rest = some exponent)

include nonempty wholeDigits exponentRead

/-- Digits around a point, and an exponent or nothing after them. -/
theorem size?_point (fractionDigits : ∀ c ∈ fraction, c.isDigit = true) :
    size? (whole ++ '.' :: (fraction ++ rest)) =
      some ((natOfDigits (whole ++ fraction) : ℚ) * 10 ^ (exponent - fraction.length)) := by
  have digitsEnd : rest.takeWhile Char.isDigit = [] ∧ rest.dropWhile Char.isDigit = rest := by
    rcases exponent?_cases exponentRead with rfl | ⟨c, tail, rfl, noDigit, _⟩
    · exact ⟨rfl, rfl⟩
    · rw [List.takeWhile_cons, List.dropWhile_cons, noDigit]
      exact ⟨rfl, rfl⟩
  have pointEnds (after : List Char) : ('.' :: after).takeWhile Char.isDigit = [] ∧
      ('.' :: after).dropWhile Char.isDigit = '.' :: after := ⟨rfl, rfl⟩
  rw [size?, magnitude?, List.takeWhile_append_of_pos wholeDigits,
    List.dropWhile_append_of_pos wholeDigits, (pointEnds _).1, (pointEnds _).2]
  simp [List.takeWhile_append_of_pos fractionDigits, List.dropWhile_append_of_pos fractionDigits,
    digitsEnd, nonempty, exponentRead]

/-- Digits without a point, and an exponent or nothing after them. -/
theorem size?_noPoint :
    size? (whole ++ rest) = some ((natOfDigits whole : ℚ) * 10 ^ exponent) := by
  have wholeEnd : (whole ++ rest).takeWhile Char.isDigit = whole ∧
      (whole ++ rest).dropWhile Char.isDigit = rest := by
    rw [List.takeWhile_append_of_pos wholeDigits, List.dropWhile_append_of_pos wholeDigits]
    rcases exponent?_cases exponentRead with rfl | ⟨c, tail, rfl, noDigit, _⟩
    · simp
    · simp [noDigit]
  rw [size?, magnitude?, wholeEnd.1, wholeEnd.2]
  rcases exponent?_cases exponentRead with rfl | ⟨c, tail, rfl, _, noPoint⟩
  · simp [nonempty, exponentRead]
  · simp [nonempty, exponentRead, noPoint]

end Pieces

end Reading

/-! ## Notations -/

namespace Layout

open Reading

theorem isDigit_of_mem_toDigits {number : Nat} {c : Char} (member : c ∈ Nat.toDigits 10 number) :
    c.isDigit = true :=
  Nat.isDigit_of_mem_toDigits (by decide) (by decide) member

theorem isDigit_of_mem_replicate {count : Nat} {c : Char}
    (member : c ∈ List.replicate count '0') : c.isDigit = true := by
  rw [List.eq_of_mem_replicate member]
  rfl

theorem toList_toString_ofNat (size : Nat) :
    (toString (Int.ofNat size)).toList = Nat.toDigits 10 size :=
  Nat.toList_repr

theorem toList_toString_negSucc (size : Nat) :
    (toString (Int.negSucc size)).toList = '-' :: Nat.toDigits 10 (size + 1) := by
  change ("-" ++ (size + 1).repr).toList = _
  rw [String.toList_append, Nat.toList_repr]
  rfl

/-- Digits around a point, with no exponent after them. -/
theorem size?_fixed {whole fraction : List Char} (nonempty : whole ≠ [])
    (wholeDigits : ∀ c ∈ whole, c.isDigit = true)
    (fractionDigits : ∀ c ∈ fraction, c.isDigit = true) :
    size? (whole ++ '.' :: fraction) =
      some ((natOfDigits (whole ++ fraction) : ℚ) * 10 ^ (-(fraction.length : ℤ))) := by
  have noRest : exponent? [] = some 0 := rfl
  have read := size?_point nonempty wholeDigits noRest fractionDigits
  rw [List.append_nil, zero_sub] at read
  exact read

section Digits

variable (digits count : Nat)

theorem size?_zerosBefore :
    size? ('0' :: '.' :: (List.replicate count '0' ++ Nat.toDigits 10 digits)) =
      some ((digits : ℚ) * 10 ^ (-((count : ℤ) + (Nat.toDigits 10 digits).length))) := by
  have fractionDigits : ∀ c ∈ List.replicate count '0' ++ Nat.toDigits 10 digits,
      c.isDigit = true := by
    intro c member
    rcases List.mem_append.mp member with zero | digit
    · exact isDigit_of_mem_replicate zero
    · exact isDigit_of_mem_toDigits digit
  have read := size?_fixed (List.cons_ne_nil '0' []) (by simp) fractionDigits
  rw [show ['0'] = List.replicate 1 '0' from rfl, natOfDigits_zeros_append,
    natOfDigits_zeros_append, natOfDigits_toDigits, List.length_append, List.length_replicate,
    Nat.cast_add] at read
  exact read

theorem size?_zerosAfter :
    size? (Nat.toDigits 10 digits ++ List.replicate count '0' ++ ['.', '0']) =
      some ((digits : ℚ) * 10 ^ (count : ℤ)) := by
  have wholeDigits : ∀ c ∈ Nat.toDigits 10 digits ++ List.replicate count '0',
      c.isDigit = true := by
    intro c member
    rcases List.mem_append.mp member with digit | zero
    · exact isDigit_of_mem_toDigits digit
    · exact isDigit_of_mem_replicate zero
  rw [size?_fixed (by simp [Nat.toDigits_ne_nil]) wholeDigits (by simp), List.append_assoc,
    ← List.replicate_succ', natOfDigits_append_zeros, natOfDigits_toDigits, Nat.cast_mul,
    Nat.cast_pow, mul_assoc, ← zpow_natCast, Nat.cast_ofNat, ← zpow_add₀ (by norm_num)]
  simp

/-- The point among the digits, with an exponent or nothing after them. -/
theorem size?_pointAmong {rest : List Char} {exponent : Int}
    (exponentRead : exponent? rest = some exponent) (positive : 0 < count)
    (inside : count ≤ (Nat.toDigits 10 digits).length) :
    size? ((Nat.toDigits 10 digits).take count ++ '.' ::
        ((Nat.toDigits 10 digits).drop count ++ rest)) =
      some ((digits : ℚ) * 10 ^ (exponent + count - (Nat.toDigits 10 digits).length)) := by
  have nonempty : (Nat.toDigits 10 digits).take count ≠ [] := by
    simp [Nat.toDigits_ne_nil, positive.ne']
  rw [size?_point nonempty (fun c member => isDigit_of_mem_toDigits (List.mem_of_mem_take member))
    exponentRead (fun c member => isDigit_of_mem_toDigits (List.mem_of_mem_drop member)),
    List.take_append_drop, natOfDigits_toDigits, List.length_drop, Nat.cast_sub inside,
    sub_sub_eq_add_sub]

end Digits

/-- Digits are read back from positional notation, wherever the point is put among them. -/
theorem size?_positional (digits : Nat) (point : Int) :
    size? (positional ".0" (toString digits) point).toList =
      some ((digits : ℚ) * 10 ^ (point - (toString digits).length)) := by
  have width : (toString digits).length = (Nat.toDigits 10 digits).length := by
    simp [← String.length_toList]
  rw [positional, width]
  split
  · next before =>
    have read := size?_zerosBefore digits (-point).toNat
    rw [Int.toNat_of_nonneg (by omega), neg_add, neg_neg, ← sub_eq_add_neg] at read
    simpa using read
  · split
    · next after =>
      have read := size?_zerosAfter digits (point.toNat - (Nat.toDigits 10 digits).length)
      have zeros : ((point.toNat - (Nat.toDigits 10 digits).length : ℕ) : ℤ) =
          point - (Nat.toDigits 10 digits).length := by omega
      rw [zeros] at read
      simpa using read
    · next inside =>
      have noExponent : exponent? [] = some 0 := rfl
      have read := size?_pointAmong digits point.toNat noExponent (by omega) (by omega)
      rw [Int.toNat_of_nonneg (by omega), zero_add] at read
      simpa using read

theorem exponent?_toString (exponent : Int) :
    exponent? ("e" ++ if exponent < 0 then toString exponent
      else "+" ++ toString exponent).toList = some exponent := by
  have digits (number : Nat) : (Nat.toDigits 10 number).isEmpty = false ∧
      (Nat.toDigits 10 number).all Char.isDigit = true := by
    rw [List.isEmpty_eq_false_iff, List.all_eq_true]
    exact ⟨Nat.toDigits_ne_nil, fun c => isDigit_of_mem_toDigits⟩
  cases exponent with
  | ofNat size =>
      have notNegative : ¬Int.ofNat size < 0 := not_lt.mpr (Int.natCast_nonneg size)
      rw [if_neg notNegative, String.toList_append, String.toList_append, toList_toString_ofNat]
      simp [exponent?, splitSign, digits size]
  | negSucc size =>
      have negative : Int.negSucc size < 0 := by omega
      rw [if_pos negative, String.toList_append, toList_toString_negSucc]
      simp [exponent?, splitSign, digits (size + 1)]
      omega

/-- Digits are read back from scientific notation. -/
theorem size?_scientific (digits : Nat) (point : Int) :
    size? (scientific "+" (toString digits) point).toList =
      some ((digits : ℚ) * 10 ^ (point - (toString digits).length)) := by
  have width : (toString digits).length = (Nat.toDigits 10 digits).length := by
    simp [← String.length_toList]
  have nonempty : Nat.toDigits 10 digits ≠ [] := Nat.toDigits_ne_nil
  have exponentRead := exponent?_toString (point - 1)
  rw [scientific, width, String.append_assoc, String.toList_append]
  generalize ("e" ++ if point - 1 < 0 then toString (point - 1)
    else "+" ++ toString (point - 1)).toList = rest at exponentRead ⊢
  split
  · next short =>
    have one : (Nat.toDigits 10 digits).length = 1 := by
      have := List.length_pos_of_ne_nil nonempty
      omega
    have read := size?_noPoint nonempty (fun c => isDigit_of_mem_toDigits) exponentRead
    rw [one]
    simpa using read
  · next long =>
    have read := size?_pointAmong digits 1 exponentRead (by decide) (by omega)
    rw [Nat.cast_one, sub_add_cancel] at read
    simpa using read

/-- The two notations of a finite float, its sign removed. -/
theorem json_magnitude_cases (bits : Nat) :
    json.magnitude bits = positional ".0" (toString (Shortest.ofBits bits).digits)
        ((Shortest.ofBits bits).exponent + (toString (Shortest.ofBits bits).digits).length) ∨
      json.magnitude bits = scientific "+" (toString (Shortest.ofBits bits).digits)
        ((Shortest.ofBits bits).exponent + (toString (Shortest.ofBits bits).digits).length) :=
  ite_eq_or_eq _ _ _

/-- The text of a finite float without its sign is read as the value of its digits. -/
theorem size?_magnitude (bits : Nat) :
    size? (json.magnitude bits).toList = some (Shortest.ofBits bits).value := by
  rw [Shortest.Digits.value]
  rcases json_magnitude_cases bits with text | text
  · rw [text, size?_positional, add_sub_cancel_right]
  · rw [text, size?_scientific, add_sub_cancel_right]

/-! ## Floats -/

/-- The text of a finite float after its sign; the argument are its bits without the sign. -/
def unsigned (size : Nat) : String := if size = 0 then "0.0" else json.magnitude size

theorem render_of_isFinite {value : Float} (finite : value.isFinite = true) :
    json.render value = (if value.toBits.toNat ≥ 2 ^ 63 then "-" else "") ++
      unsigned (value.toBits.toNat % 2 ^ 63) := by
  rw [isFinite_iff_toBits, Rounding.infinityBits] at finite
  rw [render, if_neg (by omega), if_neg (by omega)]
  congr 1

/-- Infinities and NaN are null in JSON. -/
theorem render_of_not_isFinite {value : Float} (infinite : ¬value.isFinite = true) :
    json.render value = "null" := by
  rw [isFinite_iff_toBits, Rounding.infinityBits] at infinite
  rw [render]
  split
  · rfl
  · rw [if_pos (by omega)]
    split <;> rfl

theorem size?_unsigned (size : Nat) : size? (unsigned size).toList =
    some (if size = 0 then 0 else (Shortest.ofBits size).value) := by
  rw [unsigned]
  split
  · have read := size?_zerosBefore 0 0
    rw [Nat.cast_zero, zero_mul] at read
    exact read
  · exact size?_magnitude size

theorem unsigned_inj {size other : Nat} (finite : size < Rounding.infinityBits)
    (otherFinite : other < Rounding.infinityBits) :
    unsigned size = unsigned other ↔ size = other := by
  constructor
  · intro same
    have values := size?_unsigned other
    rw [← same, size?_unsigned, Option.some_inj] at values
    rcases Nat.eq_zero_or_pos size with rfl | positive
    · rcases Nat.eq_zero_or_pos other with rfl | otherPositive
      · rfl
      · rw [if_pos rfl, if_neg otherPositive.ne'] at values
        exact absurd values (Shortest.value_ofBits_pos otherPositive otherFinite).ne
    · rcases Nat.eq_zero_or_pos other with rfl | otherPositive
      · rw [if_pos rfl, if_neg positive.ne'] at values
        exact absurd values (Shortest.value_ofBits_pos positive finite).ne'
      · rw [if_neg positive.ne', if_neg otherPositive.ne'] at values
        exact (Shortest.value_ofBits_inj positive finite otherPositive otherFinite).mp values
  · exact congrArg unsigned

/-- No unsigned text starts with a sign. -/
theorem minus_unsigned_ne (size other : Nat) : "-" ++ unsigned size ≠ unsigned other := by
  intro same
  have text : ("-" ++ unsigned size).toList = '-' :: (unsigned size).toList :=
    String.toList_append
  have read := size?_unsigned other
  rw [← same, text, size?_minus] at read
  cases read

/-- Different finite floats have different JSON texts. -/
theorem render_inj {left right : Float} (leftFinite : left.isFinite = true)
    (rightFinite : right.isFinite = true) : json.render left = json.render right ↔ left = right := by
  constructor
  · intro same
    rw [render_of_isFinite leftFinite, render_of_isFinite rightFinite] at same
    rw [isFinite_iff_toBits] at leftFinite rightFinite
    rw [← Float.toBits_inj, ← UInt64.toNat_inj]
    have leftRange := left.toBits.toNat_lt
    have rightRange := right.toBits.toNat_lt
    split_ifs at same with leftNegative rightNegative rightNegative
    · have sizes := (unsigned_inj leftFinite rightFinite).mp (String.append_right_inj _ |>.mp same)
      omega
    · exact absurd same (minus_unsigned_ne _ _)
    · exact absurd same.symm (minus_unsigned_ne _ _)
    · have sizes := (unsigned_inj leftFinite rightFinite).mp (String.append_right_inj _ |>.mp same)
      omega
  · exact congrArg json.render

/-! ## Characters -/

/-- A character that no text of a whole number has. -/
def isFloatMark (c : Char) : Bool := c == '.' || c == 'e'

/-- The characters that numbers are written with. -/
def isNumberCharacter (c : Char) : Bool := c.isDigit || c == '-' || c == '+' || isFloatMark c

section Characters

variable (digits : Nat)

theorem characters_toDigits :
    (Nat.toDigits 10 digits).all isNumberCharacter = true ∧
      (Nat.toDigits 10 digits).any isFloatMark = false := by
  rw [List.all_eq_true, List.any_eq_false]
  constructor
  · intro c member
    rw [isNumberCharacter, isDigit_of_mem_toDigits member]
    rfl
  · intro c member isMark
    rcases Bool.or_eq_true_iff.mp isMark with point | letter
    · have digit := isDigit_of_mem_toDigits member
      rw [eq_of_beq point] at digit
      cases digit
    · have digit := isDigit_of_mem_toDigits member
      rw [eq_of_beq letter] at digit
      cases digit

theorem characters_toString (number : Int) :
    (toString number).toList.all isNumberCharacter = true ∧
      (toString number).toList.any isFloatMark = false := by
  cases number with
  | ofNat size =>
      rw [toList_toString_ofNat]
      exact characters_toDigits size
  | negSucc size =>
      rw [toList_toString_negSucc, List.all_cons, List.any_cons, (characters_toDigits _).1,
        (characters_toDigits _).2]
      decide

/-- Parts of digits are made of characters of numbers. -/
theorem all_toDigits_split (count : Nat) :
    ((Nat.toDigits 10 digits).take count).all isNumberCharacter = true ∧
      ((Nat.toDigits 10 digits).drop count).all isNumberCharacter = true := by
  rw [← Bool.and_eq_true, ← List.all_append, List.take_append_drop]
  exact (characters_toDigits digits).1

theorem marks_of_numbers : isNumberCharacter '0' = true ∧ isNumberCharacter '.' = true ∧
    isNumberCharacter 'e' = true ∧ isNumberCharacter '+' = true ∧ isFloatMark '.' = true ∧
      isFloatMark 'e' = true := by
  decide

theorem characters_positional (point : Int) :
    (positional ".0" (toString digits) point).toList.all isNumberCharacter = true ∧
      (positional ".0" (toString digits) point).toList.any isFloatMark = true := by
  have all := (characters_toDigits digits).1
  have split := all_toDigits_split digits
  have marks := marks_of_numbers
  rw [positional]
  split_ifs <;> simp [all, split, marks]

theorem characters_scientific (point : Int) :
    (scientific "+" (toString digits) point).toList.all isNumberCharacter = true ∧
      (scientific "+" (toString digits) point).toList.any isFloatMark = true := by
  have all := List.all_eq_true.mp (characters_toDigits digits).1
  have others : ∀ c ∈ (Nat.toDigits 10 digits).tail, isNumberCharacter c = true :=
    fun c member => all c (List.mem_of_mem_tail member)
  have exponent : ∀ c ∈ (point - 1).repr.toList, isNumberCharacter c = true :=
    List.all_eq_true.mp (characters_toString (point - 1)).1
  have marks := marks_of_numbers
  rw [scientific]
  split_ifs <;> simp [marks]
  all_goals grind

theorem characters_unsigned (size : Nat) :
    (unsigned size).toList.all isNumberCharacter = true ∧
      (unsigned size).toList.any isFloatMark = true := by
  rw [unsigned]
  split
  · decide
  · rcases json_magnitude_cases size with text | text
    · rw [text]
      exact characters_positional _ _
    · rw [text]
      exact characters_scientific _ _

end Characters

/-- The text of a finite float is never one of a whole number. -/
theorem toString_ne_render (number : Int) {value : Float} (finite : value.isFinite = true) :
    toString number ≠ json.render value := by
  intro same
  have noMark := (characters_toString number).2
  rw [same, render_of_isFinite finite, String.toList_append, List.any_append,
    (characters_unsigned _).2, Bool.or_true] at noMark
  cases noMark

theorem all_isNumberCharacter_render {value : Float} (finite : value.isFinite = true) :
    (json.render value).toList.all isNumberCharacter = true := by
  rw [render_of_isFinite finite, String.toList_append, List.all_append,
    (characters_unsigned _).1, Bool.and_true]
  split <;> decide

theorem render_ne_empty {value : Float} (finite : value.isFinite = true) :
    (json.render value).toList ≠ [] := by
  intro empty
  have mark := (characters_unsigned (value.toBits.toNat % 2 ^ 63)).2
  rw [render_of_isFinite finite, String.toList_append, List.append_eq_nil_iff] at empty
  rw [empty.2] at mark
  cases mark

end Layout

end RuleSchema.Decimal
