import RuleSchema.Yaml.Scalar

/-!
# Scalar styles

How a string is written in YAML: plain where it reads back as that string, in
single quotes where it would be taken for something else, as a literal block when
it has several lines, and in double quotes with escapes when it holds characters
that no other style can show.
-/

namespace RuleSchema.Yaml

/-- The four ways to write a string. -/
inductive Style where
  | plain
  | singleQuoted
  | doubleQuoted
  | literal
  deriving DecidableEq, Repr

namespace Style

/-- Line ends: line feed, carriage return and the three Unicode separators. -/
def isBreak (c : Char) : Bool :=
  c == '\n' || c == '\r' || c == '\u0085' || c == '\u2028' || c == '\u2029'

/-- A space or a tab. -/
def isBlank (c : Char) : Bool := c == ' ' || c == '\t'

/-- A blank, a line end, or the null character. -/
def isBlankOrBreak (c : Char) : Bool := isBlank c || isBreak c || c == '\x00'

/-- Characters that need no escape: the rest of the text ends like a blank does. -/
def isPrintable (c : Char) : Bool :=
  let code := c.toNat
  c == '\n' || (0x20 ≤ code && code ≤ 0x7e) || (0xa0 ≤ code && code ≤ 0xd7ff) ||
    (0xe000 ≤ code && code ≤ 0xfffd && code != 0xfeff)

/-- Whether a text starts with a blank or is at its end. -/
def startsBlank : List Char → Bool
  | [] => true
  | c :: _ => isBlankOrBreak c

/-- A colon before a blank, or a number sign after one. -/
def hasInnerIndicator (afterBlank : Bool) : List Char → Bool
  | [] => false
  | c :: rest =>
      (c == ':' && startsBlank rest) || (c == '#' && afterBlank) ||
        hasInnerIndicator (isBlankOrBreak c) rest

/-- Characters with which no plain scalar starts. -/
def leadingIndicators : List Char :=
  ['#', ',', '[', ']', '{', '}', '&', '*', '!', '|', '>', '\'', '"', '%', '@', '`']

/-- Whether the text would be taken for YAML structure. -/
def hasIndicator (text : List Char) : Bool :=
  match text with
  | '-' :: '-' :: '-' :: _ => true
  | '.' :: '.' :: '.' :: _ => true
  | [] => false
  | c :: rest =>
      leadingIndicators.contains c ||
        ((c == '?' || c == ':' || c == '-') && startsBlank rest) ||
        hasInnerIndicator (isBlankOrBreak c) rest

/-- Whether two characters satisfying the tests stand side by side. -/
def hasPair (first second : Char → Bool) : List Char → Bool
  | left :: right :: rest =>
      (first left && second right) || hasPair first second (right :: rest)
  | _ => false

/-- Whether the first or the last character is a space or a line end. -/
def hasLooseEnd (text : List Char) : Bool :=
  let loose (c : Char) : Bool := c == ' ' || isBreak c
  text.head?.any loose || text.getLast?.any loose

/-- A space before a line end, or a character that has to be escaped. -/
def needsEscapes (text : List Char) : Bool :=
  text.any (fun c => !isPrintable c) || hasPair (· == ' ') isBreak text

/-- Whether a text can be written plain. -/
def allowsPlain (text : List Char) : Bool :=
  !text.isEmpty && !hasLooseEnd text && !needsEscapes text && !text.any isBreak &&
    !hasIndicator text

/-- Whether a text can be written in single quotes. -/
def allowsSingleQuotes (text : List Char) : Bool :=
  !needsEscapes text && !hasPair isBreak (· == ' ') text

/-- Whether a text can be written as a literal block. -/
def allowsLiteral (text : List Char) : Bool :=
  !text.isEmpty && !needsEscapes text && text.getLast? != some ' '

/-- The style in which a string is written. -/
def ofText (text : String) : Style :=
  let characters := text.toList
  if characters.contains '\n' then
    if allowsLiteral characters then .literal else .doubleQuoted
  else if !Scalar.needsQuotes text && allowsPlain characters then .plain
  else if allowsSingleQuotes characters then .singleQuoted
  else .doubleQuoted

end Style

end RuleSchema.Yaml
