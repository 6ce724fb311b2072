/-!
# Remainders of words

The remainder of a division of signed sixty-four-bit words has the sign of the
dividend.  There is none for the divisor zero, and none for the least word divided by
`-1`, whose quotient does not fit in a word.
-/

namespace RuleSchema.Remainder

/-- The remainder of words, with the sign of the dividend; `none` where the division breaks off. -/
def ofWords? (dividend divisor : Int64) : Option Int64 :=
  if divisor = 0 ∨ (dividend = Int64.minValue ∧ divisor = -1) then none
  else some (dividend % divisor)

end RuleSchema.Remainder
