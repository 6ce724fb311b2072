import RuleSchema.Yaml.Style

/-!
# YAML source text

The characters still to be read, with the line and column of the next one.
Characters that YAML admits nowhere are refused before reading starts, and the
end of the text counts as a blank wherever a blank is asked for.
-/

namespace RuleSchema.Yaml

open RuleSchema.Yaml.Style

/-- The rest of a text and the position of its first character. -/
structure Source where
  rest : List Char
  index : Nat
  line : Nat
  column : Nat

namespace Source

/-- The start of a text. -/
def ofText (text : String) : Source := ⟨text.toList, 0, 0, 0⟩

/-- Characters that may stand in a YAML text. -/
def isAllowed (c : Char) : Bool :=
  let code := c.toNat
  code == 9 || code == 10 || code == 13 || (0x20 ≤ code && code ≤ 0x7e) || code == 0x85 ||
    (0xa0 ≤ code && code ≤ 0xd7ff) || (0xe000 ≤ code && code ≤ 0xfffd) || 0x10000 ≤ code

/-- The next character. -/
def peek? (source : Source) : Option Char := source.rest.head?

/-- The character after some others. -/
def peekAt? (source : Source) (ahead : Nat) : Option Char := source.rest[ahead]?

/-- Whether a character is the next one. -/
def at? (source : Source) (c : Char) : Bool := source.rest.head? == some c

/-- Whether the next character passes a test; the end of the text passes none. -/
def next? (source : Source) (test : Char → Bool) : Bool := source.rest.head?.any test

/-- Whether a blank, a line end or the end of the text stands after `ahead` characters. -/
def blankAt (source : Source) (ahead : Nat) : Bool :=
  match source.rest[ahead]? with
  | none => true
  | some c => isBlankOrBreak c

/-- Whether the text is at its end. -/
def atEnd (source : Source) : Bool := source.rest.isEmpty

/-- Step over characters of the line. -/
def skip (source : Source) (count : Nat) : Source :=
  { source with
    rest := source.rest.drop count
    index := source.index + count
    column := source.column + count }

/-- Step over characters of the line as long as they pass a test. -/
def skipWhile (source : Source) (test : Char → Bool) : Source :=
  source.skip (source.rest.takeWhile test).length

/-- The characters up to the first that fails a test, and the source after them. -/
def span (source : Source) (test : Char → Bool) : List Char × Source :=
  (source.rest.takeWhile test, source.skipWhile test)

/--
Step over a line end.  What it contributes to a scalar is a line feed, except that
the Unicode separators stay as they are.
-/
def lineEnd (source : Source) : List Char × Source :=
  match source.rest with
  | '\r' :: '\n' :: rest => (['\n'], ⟨rest, source.index + 2, source.line + 1, 0⟩)
  | c :: rest =>
      if isBreak c then
        let kept := if c == '\u2028' || c == '\u2029' then c else '\n'
        ([kept], ⟨rest, source.index + 1, source.line + 1, 0⟩)
      else ([], source)
  | [] => ([], source)

/-- Whether a document marker, three dashes or three dots, stands at the start of a line. -/
def atMarker (source : Source) (mark : Char) : Bool :=
  source.column == 0 && source.rest.take 3 == [mark, mark, mark] && source.blankAt 3

/-- Whether either document marker stands here. -/
def atDocumentMarker (source : Source) : Bool :=
  source.atMarker '-' || source.atMarker '.'

/-- Letters, digits, dash and underscore: the characters of names. -/
def isNameCharacter (c : Char) : Bool := c.isAlphanum || c == '_' || c == '-'

end Source

end RuleSchema.Yaml
