import Mathlib.Data.List.DropRight
import RuleSchema.Types.Constraints

/-!
# Normalized texts

Lower case is settled: what it gives has no other lower case, and it makes no blank out of
a character that was none.  So a text that was normalized is normalized to itself.

That no image of a shift is moved again concerns some 1400 code points against as many.  Sets
of code points are compared as binary numbers, in which a code point is the place of a digit.
-/

namespace RuleSchema.Text

namespace Ranges

/-- The code points that a shift moves. -/
def Shift.codes (shift : Shift) : List Nat :=
  (List.range ((shift.last - shift.first) / shift.stride + 1)).map fun count =>
    shift.first + count * shift.stride

/-- The places to which a shift moves code points. -/
def Shift.images (shift : Shift) : List Nat :=
  shift.codes.map fun code : Nat => ((code : Int) + shift.distance).toNat

/-- The number whose binary digits are set at the given places. -/
def digits (places : List Nat) : Nat :=
  places.foldr (fun place number => 1 <<< place ||| number) 0

theorem testBit_digits {places : List Nat} {place : Nat} :
    (digits places).testBit place = true ↔ place ∈ places := by
  induction places with
  | nil => simp [digits]
  | cons head rest ih =>
      have unfolded : digits (head :: rest) = 1 <<< head ||| digits rest := rfl
      rw [unfolded, Nat.testBit_or, Nat.one_shiftLeft, Nat.testBit_two_pow, Bool.or_eq_true, ih,
        decide_eq_true_eq, List.mem_cons]
      exact or_congr eq_comm Iff.rfl

/-- Sets of places are disjoint when their numbers have no common digit. -/
theorem not_mem_of_digits {left right : List Nat} (disjoint : digits left &&& digits right = 0)
    {place : Nat} (member : place ∈ left) : place ∉ right := by
  intro common
  have both : (digits left &&& digits right).testBit place = true := by
    rw [Nat.testBit_and, testBit_digits.mpr member, testBit_digits.mpr common]
    rfl
  rw [disjoint, Nat.zero_testBit] at both
  cases both

theorem Shift.mem_codes_of_moves {shift : Shift} {code : Nat} (moves : shift.moves code = true) :
    code ∈ shift.codes := by
  simp only [Shift.moves, Bool.and_eq_true, decide_eq_true_eq, beq_iff_eq] at moves
  rcases moves with ⟨⟨low, high⟩, whole⟩
  have parts := Nat.div_add_mod (code - shift.first) shift.stride
  rw [whole, Nat.add_zero, Nat.mul_comm] at parts
  refine List.mem_map.mpr ⟨(code - shift.first) / shift.stride, List.mem_range.mpr ?_, by omega⟩
  exact Nat.lt_succ_of_le (Nat.div_le_div_right (by omega))

/-- A character stays where no shift moves it, or goes to the image of one that does. -/
theorem shifted_cases (shifts : List Shift) (c : Char) :
    shifted shifts c = c ∧ (∀ shift ∈ shifts, shift.moves c.toNat = false) ∨
      ∃ code ∈ shifts.flatMap Shift.images, shifted shifts c = Char.ofNat code := by
  cases found : shifts.find? fun shift => shift.moves c.toNat with
  | none =>
      left
      refine ⟨by rw [shifted, found], ?_⟩
      intro shift member
      simpa using List.find?_eq_none.mp found shift member
  | some shift =>
      right
      have code : c.toNat ∈ shift.codes :=
        Shift.mem_codes_of_moves (by simpa using List.find?_some found)
      refine ⟨_, List.mem_flatMap.mpr ⟨shift, List.mem_of_find?_eq_some found, ?_⟩,
        by rw [shifted, found]⟩
      exact List.mem_map_of_mem code

end Ranges

namespace Lowercase

open Ranges

/-- The code points that have another lower case. -/
def movedCodes : List Nat := shifts.flatMap Shift.codes

/-- The lower cases of those code points. -/
def imageCodes : List Nat := shifts.flatMap Shift.images

/-- The code points of blank characters. -/
def blankCodes : List Nat :=
  List.range' 9 5 ++ [0x20, 0x85, 0xa0, 0x1680] ++ List.range' 0x2000 11 ++
    [0x2028, 0x2029, 0x202f, 0x205f, 0x3000]

theorem mem_blankCodes_of_isBlank {c : Char} (blank : Blank.isBlank c = true) :
    c.toNat ∈ blankCodes := by
  simp only [Blank.isBlank, Bool.or_eq_true, Bool.and_eq_true, decide_eq_true_eq,
    beq_iff_eq] at blank
  simp only [blankCodes, List.mem_append, List.mem_range'_1, List.mem_cons, List.not_mem_nil,
    or_false]
  omega

/-- No lower case is moved, is blank, or is the capital I with dot above. -/
theorem imageCodes_settled :
    digits imageCodes &&& digits (0x130 :: blankCodes ++ movedCodes) = 0 := by
  decide +kernel

/-- A character whose lower case is itself wherever it stands. -/
def Settled (c : Char) : Prop := ∀ before after, ofChar before c after = [c]

theorem settled_of_unmoved {c : Char} (unmoved : ∀ shift ∈ shifts, shift.moves c.toNat = false)
    (noDot : c.toNat ≠ 0x130) : Settled c := by
  intro before after
  have noSigma : c ≠ 'Σ' := by
    rintro rfl
    have moved : shifts.any (fun shift => shift.moves 'Σ'.toNat) = true := by decide
    rcases List.any_eq_true.mp moved with ⟨shift, member, moves⟩
    rw [unmoved shift member] at moves
    cases moves
  have noDotted : c ≠ 'İ' := by
    rintro rfl
    exact noDot rfl
  rw [ofChar, if_neg noSigma, if_neg noDotted]
  split
  · -- A capital letter of ASCII would be moved by the first shift.
    have first := unmoved ⟨0x41, 0x5A, 1, 32⟩ List.mem_cons_self
    have noCapital : ¬(65 ≤ c.toNat ∧ c.toNat ≤ 90) := by
      simpa [Shift.moves, Nat.mod_one] using first
    have noCapitalWord : ¬(c.val ≥ 'A'.val ∧ c.val ≤ 'Z'.val) := by
      simpa [UInt32.le_iff_toNat_le] using noCapital
    have unchanged : c.toLower = c := dif_neg noCapitalWord
    rw [unchanged]
  · have none : (shifts.find? fun shift => shift.moves c.toNat) = none :=
      List.find?_eq_none.mpr fun shift member => by simp [unmoved shift member]
    rw [shifted, none]

theorem settled_of_image {code : Nat} (image : code ∈ imageCodes) :
    Settled (Char.ofNat code) ∧ Blank.isBlank (Char.ofNat code) = false := by
  have settled (c : Char) (elsewhere : c.toNat ∉ 0x130 :: blankCodes ++ movedCodes) :
      Settled c ∧ Blank.isBlank c = false := by
    simp only [List.cons_append, List.mem_cons, List.mem_append, not_or] at elsewhere
    rcases elsewhere with ⟨noDot, notBlank, notMoved⟩
    refine ⟨settled_of_unmoved ?_ noDot, ?_⟩
    · intro shift member
      rw [Bool.eq_false_iff]
      intro moves
      exact notMoved (List.mem_flatMap.mpr ⟨shift, member, Shift.mem_codes_of_moves moves⟩)
    · rw [Bool.eq_false_iff]
      exact fun blank => notBlank (mem_blankCodes_of_isBlank blank)
  apply settled
  by_cases valid : code.isValidChar
  · rw [Char.ofNat, dif_pos valid]
    exact not_mem_of_digits imageCodes_settled image
  · rw [Char.ofNat, dif_neg valid]
    have nowhere : 0 ∉ 0x130 :: blankCodes ++ movedCodes := by decide +kernel
    exact nowhere

/-- The lower cases of ASCII characters are not moved, and are blank only where those were. -/
theorem toLower_ascii : ∀ code < 128,
    (shifts.any fun shift => shift.moves (Char.ofNat code).toLower.toNat) = false ∧
      (Char.ofNat code).toLower.toNat ≠ 0x130 ∧
      (Blank.isBlank (Char.ofNat code).toLower = true →
        Blank.isBlank (Char.ofNat code) = true) := by
  decide +kernel

/-- What stands for a character in lower case is settled, and blank only if it was. -/
theorem settled_of_mem_ofChar {before after : List Char} {c lowered : Char}
    (member : lowered ∈ ofChar before c after) :
    Settled lowered ∧ (Blank.isBlank lowered = true → Blank.isBlank c = true) := by
  have special (d : Char) (unmoved : (shifts.any fun shift => shift.moves d.toNat) = false)
      (noDot : d.toNat ≠ 0x130) (notBlank : Blank.isBlank d = false) :
      Settled d ∧ (Blank.isBlank d = true → Blank.isBlank c = true) := by
    refine ⟨settled_of_unmoved (fun shift inShifts => ?_) noDot, fun blank => ?_⟩
    · simpa using List.any_eq_false.mp unmoved shift inShifts
    · rw [notBlank] at blank
      cases blank
  rw [ofChar] at member
  split at member
  · split at member
    · rw [List.mem_singleton.mp member]
      exact special 'ς' (by decide) (by decide) rfl
    · rw [List.mem_singleton.mp member]
      exact special 'σ' (by decide) (by decide) rfl
  · split at member
    · simp only [List.mem_cons, List.not_mem_nil, or_false] at member
      rcases member with rfl | rfl
      · exact special 'i' (by decide) (by decide) rfl
      · exact special '\u0307' (by decide) (by decide) rfl
    · split at member
      · next ascii =>
        rcases toLower_ascii c.toNat ascii with ⟨unmoved, noDot, blank⟩
        rw [Char.ofNat_toNat] at unmoved noDot blank
        rw [List.mem_singleton.mp member]
        refine ⟨settled_of_unmoved (fun shift inShifts => ?_) noDot, blank⟩
        simpa using List.any_eq_false.mp unmoved shift inShifts
      · next noSigma noDotted notAscii =>
        rw [List.mem_singleton.mp member]
        rcases shifted_cases shifts c with ⟨same, unmoved⟩ | ⟨code, image, moved⟩
        · rw [same]
          refine ⟨settled_of_unmoved unmoved fun code => noDotted ?_, fun blank => blank⟩
          exact Char.toNat_inj.mp code
        · rw [moved]
          rcases settled_of_image image with ⟨settled, notBlank⟩
          refine ⟨settled, fun blank => ?_⟩
          rw [notBlank] at blank
          cases blank

theorem settled_of_mem_ofChars {before text : List Char} {lowered : Char}
    (member : lowered ∈ ofChars before text) : Settled lowered := by
  induction text generalizing before with
  | nil => cases member
  | cons c rest ih =>
      rcases List.mem_append.mp member with here | later
      · exact (settled_of_mem_ofChar here).1
      · exact ih later

theorem ofChars_of_settled {before text : List Char} (settled : ∀ c ∈ text, Settled c) :
    ofChars before text = text := by
  induction text generalizing before with
  | nil => rfl
  | cons c rest ih =>
      rw [ofChars, settled c List.mem_cons_self,
        ih fun other member => settled other (List.mem_cons_of_mem c member)]
      rfl

/-- Lower case has no other lower case. -/
theorem lower_lower (text : String) : lower (lower text) = lower text := by
  rw [lower, lower, String.toList_ofList, ofChars_of_settled fun c => settled_of_mem_ofChars]

theorem ofChar_ne_nil (before : List Char) (c : Char) (after : List Char) :
    ofChar before c after ≠ [] := by
  rw [ofChar]
  split_ifs <;> simp

/-- The last character has its lower case at the end. -/
theorem ofChars_concat (before text : List Char) (c : Char) :
    ∃ front, ofChars before (text ++ [c]) = front ++ ofChar (text.reverse ++ before) c [] := by
  induction text generalizing before with
  | nil => exact ⟨[], by simp [ofChars]⟩
  | cons first rest ih =>
      rcases ih (first :: before) with ⟨front, same⟩
      refine ⟨ofChar before first (rest ++ [c]) ++ front, ?_⟩
      rw [List.cons_append, ofChars, same, List.append_assoc, List.reverse_cons,
        List.append_assoc]
      rfl

end Lowercase

namespace Blank

/-- A text that neither starts nor ends with a blank. -/
structure Trimmed (text : List Char) : Prop where
  first : ∀ c ∈ text.head?, isBlank c = false
  last : ∀ c ∈ text.getLast?, isBlank c = false

theorem dropEnd_eq_rdropWhile (text : List Char) : dropEnd text = text.rdropWhile isBlank := rfl

theorem trimmed_trim (text : String) : Trimmed (trim text).toList := by
  rw [trim, String.toList_ofList, dropEnd_eq_rdropWhile]
  constructor
  · intro c first
    have kept : (text.toList.dropWhile isBlank).head? = some c := by
      rcases List.rdropWhile_prefix isBlank (text.toList.dropWhile isBlank) with ⟨after, whole⟩
      rw [← whole, List.head?_append, first, Option.some_or]
    have notBlank := List.head?_dropWhile_not isBlank text.toList
    rw [kept] at notBlank
    exact notBlank
  · intro c last
    rcases List.mem_getLast?_eq_getLast last with ⟨nonempty, rfl⟩
    simpa using List.rdropWhile_last_not isBlank _ nonempty

theorem trim_of_trimmed {text : String} (trimmed : Trimmed text.toList) : trim text = text := by
  have start : text.toList.dropWhile isBlank = text.toList := by
    rw [List.dropWhile_eq_self_iff]
    intro nonempty
    rw [trimmed.first _ (by simp [List.head?_eq_getElem?])]
    simp
  have finish : text.toList.rdropWhile isBlank = text.toList := by
    rw [List.rdropWhile_eq_self_iff]
    intro nonempty
    rw [trimmed.last _ (List.getLast_mem_getLast? nonempty)]
    simp
  rw [trim, start, dropEnd_eq_rdropWhile, finish, String.ofList_toList]

/-- Lower case keeps the ends of a text from being blank. -/
theorem Trimmed.ofChars {text : List Char} (trimmed : Trimmed text) (before : List Char) :
    Trimmed (Lowercase.ofChars before text) := by
  have notBlank {before after : List Char} {c lowered : Char} (solid : isBlank c = false)
      (member : lowered ∈ Lowercase.ofChar before c after) : isBlank lowered = false := by
    rw [Bool.eq_false_iff]
    intro blank
    rw [(Lowercase.settled_of_mem_ofChar member).2 blank] at solid
    cases solid
  constructor
  · intro lowered first
    cases text with
    | nil => cases first
    | cons c rest =>
        rw [Lowercase.ofChars,
          List.head?_append_of_ne_nil _ (Lowercase.ofChar_ne_nil _ _ _)] at first
        exact notBlank (trimmed.first c rfl) (List.mem_of_mem_head? first)
  · intro lowered last
    rcases text.eq_nil_or_concat' with rfl | ⟨init, c, rfl⟩
    · cases last
    · rcases Lowercase.ofChars_concat before init c with ⟨front, same⟩
      rw [same, List.getLast?_append_of_ne_nil _ (Lowercase.ofChar_ne_nil _ _ _)] at last
      exact notBlank (trimmed.last c (by simp)) (List.mem_of_mem_getLast? last)

end Blank

end RuleSchema.Text

namespace RuleSchema.TextConstraints

open Text

/-- A normalized text is normalized to itself. -/
theorem normalize_normalize (constraints : TextConstraints) (text : String) :
    constraints.normalize (constraints.normalize text) = constraints.normalize text := by
  have trimmed : Blank.trim (Blank.trim text) = Blank.trim text :=
    Blank.trim_of_trimmed (Blank.trimmed_trim text)
  have trimmedLower : Blank.trim (Lowercase.lower (Blank.trim text)) =
      Lowercase.lower (Blank.trim text) := by
    apply Blank.trim_of_trimmed
    rw [Lowercase.lower, String.toList_ofList]
    exact (Blank.trimmed_trim text).ofChars []
  unfold normalize
  cases constraints.stripBlanks <;> cases constraints.toLower <;>
    simp only [Bool.false_eq_true, if_true, if_false]
  · exact Lowercase.lower_lower text
  · exact trimmed
  · rw [trimmedLower, Lowercase.lower_lower]

end RuleSchema.TextConstraints
