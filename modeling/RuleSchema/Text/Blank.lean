/-!
# Blank characters

White space in the Unicode sense: what trimming removes and what the pattern
class for space matches.
-/

namespace RuleSchema.Text.Blank

/-- A character with the Unicode property White_Space. -/
def isBlank (c : Char) : Bool :=
  let code := c.toNat
  (9 ≤ code && code ≤ 13) || code == 0x20 || code == 0x85 || code == 0xa0 ||
    code == 0x1680 || (0x2000 ≤ code && code ≤ 0x200a) || code == 0x2028 ||
    code == 0x2029 || code == 0x202f || code == 0x205f || code == 0x3000

/-- The characters up to the last that is not blank. -/
def dropEnd (text : List Char) : List Char :=
  (text.reverse.dropWhile isBlank).reverse

/-- The text without white space at its end. -/
def trimEnd (text : String) : String :=
  String.ofList (dropEnd text.toList)

/-- The text without white space at its start and end. -/
def trim (text : String) : String :=
  String.ofList (dropEnd (text.toList.dropWhile isBlank))

end RuleSchema.Text.Blank
