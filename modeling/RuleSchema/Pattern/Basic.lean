import RuleSchema.Text.CaseFold
import RuleSchema.Text.Properties

/-!
# Patterns

A pattern is a regular expression over characters, with conditions on the place
between two characters.  Whether a text contains a match does not depend on which
match would be preferred, so a pattern is taken as a relation between places of the
text: `reach` maps a set of places to the set of places where matches from there end.

A set of places is a natural number, place `n` belonging to it when its bit `n` is
set.
-/

namespace RuleSchema

/-- A set of characters, by ranges, tables and operations on sets. -/
inductive CharSet where
  | none
  | range (first last : Char)
  /-- A property given by a range table. -/
  | property (test : Char → Bool)
  | complement (set : CharSet)
  | union (left right : CharSet)
  | intersection (left right : CharSet)
  | difference (left right : CharSet)
  | symmetricDifference (left right : CharSet)
  /-- The characters that differ only in case from some character of the set. -/
  | folded (set : CharSet)

namespace CharSet

/-- Whether a character is in a set. -/
def has : CharSet → Char → Bool
  | none, _ => false
  | range first last, c => first ≤ c && c ≤ last
  | property test, c => test c
  | complement set, c => !set.has c
  | union left right, c => left.has c || right.has c
  | intersection left right, c => left.has c && right.has c
  | difference left right, c => left.has c && !right.has c
  | symmetricDifference left right, c => left.has c != right.has c
  | folded set, c => set.has c || (Text.CaseFold.variants c).any set.has

/-- The set of one character. -/
def single (c : Char) : CharSet := range c c

/-- The characters that are in some of the sets. -/
def unions (sets : List CharSet) : CharSet := sets.foldr union none

/-- The characters of a text. -/
def ofText (text : String) : CharSet := unions (text.toList.map single)

end CharSet

/-- A condition on the place between two characters. -/
inductive Boundary where
  | textStart
  | textEnd
  | lineStart
  | lineEnd
  /-- Start of a line, where a carriage return and a line feed together end one. -/
  | returnLineStart
  | returnLineEnd
  | word
  | notWord
  | wordStart
  | wordEnd
  | wordStartHalf
  | wordEndHalf
  deriving DecidableEq, Repr

/-- Whether a condition holds between two neighbours; at an end of the text one is missing. -/
def Boundary.holds (isWord : Char → Bool) (boundary : Boundary) (before after : Option Char) :
    Bool :=
  let wordBefore := before.any isWord
  let wordAfter := after.any isWord
  match boundary with
  | .textStart => before.isNone
  | .textEnd => after.isNone
  | .lineStart => before.all (· == '\n')
  | .lineEnd => after.all (· == '\n')
  | .returnLineStart =>
      before.all (fun c => c == '\n' || (c == '\r' && after != some '\n'))
  | .returnLineEnd =>
      after.all (fun c => c == '\r' || (c == '\n' && before != some '\r'))
  | .word => wordBefore != wordAfter
  | .notWord => wordBefore == wordAfter
  | .wordStart => !wordBefore && wordAfter
  | .wordEnd => wordBefore && !wordAfter
  | .wordStartHalf => !wordBefore
  | .wordEndHalf => !wordAfter

/-- A regular expression over sets of characters. -/
inductive Expression where
  | empty
  | char (set : CharSet)
  /-- A condition on a place; words are made of the characters that pass the test. -/
  | boundary (isWord : Char → Bool) (condition : Boundary)
  | sequence (first second : Expression)
  | choice (left right : Expression)
  /-- At least `least` times, and at most `extra` times more if that is limited. -/
  | repetition (inner : Expression) (least : Nat) (extra : Option Nat)

namespace Expression

/-- The places before characters of a set. -/
def placesBefore (set : CharSet) (position : Nat) : List Char → Nat
  | [] => 0
  | c :: rest =>
      (if set.has c then 2 ^ position else 0) ||| placesBefore set (position + 1) rest

/-- The places where a condition holds; `before` is the character before the text. -/
def placesWhere (holds : Option Char → Option Char → Bool) (before : Option Char)
    (position : Nat) : List Char → Nat
  | [] => if holds before none then 2 ^ position else 0
  | c :: rest =>
      (if holds before (some c) then 2 ^ position else 0) |||
        placesWhere holds (some c) (position + 1) rest

/-- Apply a step a number of times, stopping early where nothing changes any more. -/
def iterate (step : Nat → Nat) : Nat → Nat → Nat
  | 0, places => places
  | count + 1, places =>
      let next := step places
      if next = places then places else iterate step count next

/-- The places where matches of an expression end that start at one of the given places. -/
def reach (text : List Char) : Expression → Nat → Nat
  | .empty, places => places
  | .char set, places => (places &&& placesBefore set 0 text) <<< 1
  | .boundary isWord condition, places =>
      places &&& placesWhere (condition.holds isWord) none 0 text
  | .sequence first second, places => reach text second (reach text first places)
  | .choice left right, places => reach text left places ||| reach text right places
  | .repetition inner least extra, places =>
      let start := iterate (reach text inner) least places
      iterate (fun reached => reached ||| reach text inner reached)
        (extra.getD (text.length + 1)) start

/-- Whether an expression matches some part of a text. -/
def isMatch (expression : Expression) (text : String) : Bool :=
  let characters := text.toList
  expression.reach characters (2 ^ (characters.length + 1) - 1) != 0

end Expression

/-- A pattern: the text that was written, and the expression that it means. -/
structure Pattern where
  source : String
  expression : Expression

/-- Whether a pattern matches some part of a text. -/
def Pattern.isMatch (pattern : Pattern) (text : String) : Bool := pattern.expression.isMatch text

end RuleSchema
