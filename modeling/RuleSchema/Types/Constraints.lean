import RuleSchema.Document.Truth
import RuleSchema.Pattern.Reader
import RuleSchema.Types.Remainder
import RuleSchema.Validation.Outcome

/-!
# Constraints on scalars

Bounds and divisibility of numbers, and length, pattern and normal form of texts.
Constraints are read from named options; a value is checked against them in a fixed
order, and the first one it fails gives the message.
-/

namespace RuleSchema

/-- Constraints on numbers of one kind. -/
structure NumberConstraints (α : Type) where
  above : Option α := none
  atLeast : Option α := none
  below : Option α := none
  atMost : Option α := none
  multipleOf : Option α := none
  strict : Bool := false

/-- What the constraints need to know of a kind of number. -/
structure NumberKind (α : Type) where
  le : α → α → Bool
  lt : α → α → Bool
  eq : α → α → Bool
  zero : α
  text : α → String
  /-- Whether the first number is a multiple of the second, if that has an answer. -/
  isMultiple? : α → α → Option Bool
  ofDocument? : Document → Option α
  /-- What an option must be, as messages say it. -/
  optionKind : String

namespace NumberKind

/-- Signed sixty-four-bit words. -/
def int : NumberKind Int64 where
  le left right := left ≤ right
  lt left right := left < right
  eq left right := left == right
  zero := 0
  text word := toString word.toInt
  isMultiple? value factor := (Remainder.ofWords? value factor).map (· == 0)
  ofDocument? := Document.asInt64?
  optionKind := "an integer"

/-- A quotient counts as whole when it misses a whole number by no more than this. -/
def quotientTolerance : Float := Float.ofBits 0x3ce0000000000000

/-- Whether the quotient of two floats is whole, up to a small distance on either side. -/
def isNearlyMultiple (value factor : Float) : Bool :=
  let fraction := Decimal.Exact.fraction (value / factor)
  let excess := if fraction < 0.0 then fraction + 1.0 else fraction
  !(excess > quotientTolerance && 1.0 - excess > quotientTolerance)

/-- Floats; a comparison with NaN is false. -/
def float : NumberKind Float where
  le left right := left ≤ right
  lt left right := left < right
  eq left right := left == right
  zero := 0.0
  text := Decimal.Layout.message.render
  isMultiple? value factor := some (isNearlyMultiple value factor)
  ofDocument? := Document.asFloat?
  optionKind := "a number"

end NumberKind

namespace Options

/-- The name of an option, which must be a string. -/
def name (key : Document) : Except String String :=
  match key.asString? with
  | some name => .ok name
  | none => .error ("option names must be strings, got " ++ key.describe)

/-- The value of an option, read by `read?`; `kind` says what it must be. -/
def value {α : Type} (read? : Document → Option α) (kind name : String) (document : Document) :
    Except String α :=
  match read? document with
  | some value => .ok value
  | none => .error ("option '" ++ name ++ "' must be " ++ kind)

/-- The value of an option that is true or false. -/
def flag (name : String) (document : Document) : Except String Bool :=
  value Document.asBool? "a boolean" name document

/-- Complain of an option that is not known. -/
def unexpected {α : Type} (name : String) : Except String α :=
  .error ("unexpected keyword argument '" ++ name ++ "'")

/-- Read options one after another into a record. -/
def fold {α : Type} (read : α → String → Document → Except String α) :
    α → List (Document × Document) → Except String α
  | built, [] => .ok built
  | built, (key, document) :: rest =>
      match name key with
      | .error message => .error message
      | .ok name =>
          match read built name document with
          | .error message => .error message
          | .ok next => fold read next rest

/-- An option that has a value, as type names show it. -/
def shown (name : String) (value : Option String) : List String :=
  match value with
  | some text => [name ++ "=" ++ text]
  | none => []

/-- An option that is on, as type names show it. -/
def shownFlag (name : String) (value : Bool) : List String :=
  if value then [name ++ "=True"] else []

end Options

namespace NumberConstraints

variable {α : Type}

/-- Take in an option. -/
def withOption (kind : NumberKind α) (constraints : NumberConstraints α) (name : String)
    (document : Document) : Except String (NumberConstraints α) :=
  let number := Options.value kind.ofDocument? kind.optionKind name document
  match name with
  | "gt" => number.map fun bound => { constraints with above := some bound }
  | "ge" => number.map fun bound => { constraints with atLeast := some bound }
  | "lt" => number.map fun bound => { constraints with below := some bound }
  | "le" => number.map fun bound => { constraints with atMost := some bound }
  | "multiple_of" =>
      match number with
      | .error message => .error message
      | .ok factor =>
          if kind.eq factor kind.zero then .error "multiple_of must not be 0"
          else .ok { constraints with multipleOf := some factor }
  | "strict" => (Options.flag name document).map fun flag => { constraints with strict := flag }
  | _ => Options.unexpected name

/-- The constraints that options state; an unknown one is refused. -/
def ofOptions (kind : NumberKind α) (options : Mapping) : Except String (NumberConstraints α) :=
  Options.fold (withOption kind) {} options

/-- Whether there are no bounds and no factor; strictness does not count. -/
def isFree (constraints : NumberConstraints α) : Bool :=
  constraints.above.isNone && constraints.atLeast.isNone && constraints.below.isNone &&
    constraints.atMost.isNone && constraints.multipleOf.isNone

/-- Check a number against the constraints. -/
def check (kind : NumberKind α) (constraints : NumberConstraints α) (value : α) : Verdict :=
  let fails (bound : Option α) (test : α → Bool) : Bool := bound.any test
  let limit (bound : Option α) : String := (bound.map kind.text).getD ""
  if fails constraints.above (kind.le value) then
    .rejected ("ensure this value is greater than " ++ limit constraints.above)
  else if fails constraints.atLeast (kind.lt value) then
    .rejected ("ensure this value is greater than or equal to " ++ limit constraints.atLeast)
  else if fails constraints.below (fun bound => kind.le bound value) then
    .rejected ("ensure this value is less than " ++ limit constraints.below)
  else if fails constraints.atMost (fun bound => kind.lt bound value) then
    .rejected ("ensure this value is less than or equal to " ++ limit constraints.atMost)
  else
    match constraints.multipleOf with
    | none => .accepted
    | some factor =>
        match kind.isMultiple? value factor with
        | some true => .accepted
        | some false => .rejected ("ensure this value is a multiple of " ++ kind.text factor)
        | none => .overflow

/-- The constraints that are stated, as type names show them. -/
def shown (kind : NumberKind α) (constraints : NumberConstraints α) : List String :=
  Options.shown "gt" (constraints.above.map kind.text) ++
  Options.shown "ge" (constraints.atLeast.map kind.text) ++
  Options.shown "lt" (constraints.below.map kind.text) ++
  Options.shown "le" (constraints.atMost.map kind.text) ++
  Options.shown "multiple_of" (constraints.multipleOf.map kind.text) ++
  Options.shownFlag "strict" constraints.strict

/-- The name of a number type: `free` or `strict` without bounds, a factory with them. -/
def typeName (kind : NumberKind α) (free strict factory : String)
    (constraints : NumberConstraints α) : String :=
  if constraints.isFree then if constraints.strict then strict else free
  else factory ++ "(" ++ ", ".intercalate (constraints.shown kind) ++ ")"

/-- Equality of bounds that may be missing. -/
def sameBound (kind : NumberKind α) : Option α → Option α → Bool
  | none, none => true
  | some left, some right => kind.eq left right
  | _, _ => false

/-- Equality of constraints on numbers. -/
def same (kind : NumberKind α) (left right : NumberConstraints α) : Bool :=
  sameBound kind left.above right.above && sameBound kind left.atLeast right.atLeast &&
    sameBound kind left.below right.below && sameBound kind left.atMost right.atMost &&
    sameBound kind left.multipleOf right.multipleOf && left.strict == right.strict

end NumberConstraints

/-- Constraints on words. -/
abbrev IntConstraints := NumberConstraints Int64

/-- Constraints on floats. -/
abbrev FloatConstraints := NumberConstraints Float

/-- Constraints on texts, and how a text is normalized before they are checked. -/
structure TextConstraints where
  minLength : Option Nat := none
  maxLength : Option Nat := none
  pattern : Option Pattern := none
  stripBlanks : Bool := false
  toLower : Bool := false
  strict : Bool := false

namespace TextConstraints

/-- The pattern that an option states, which must be a string and well formed. -/
def patternOption (document : Document) : Except String Pattern :=
  match document.asString? with
  | none => .error "option 'regex' must be a string"
  | some source =>
      match Pattern.ofText? source with
      | some pattern => .ok pattern
      | none => .error ("invalid regex '" ++ source ++ "': regex parse error: malformed pattern")

/-- Add an option to constraints. -/
def withOption (constraints : TextConstraints) (name : String) (document : Document) :
    Except String TextConstraints :=
  let length := Options.value Document.asNat? "a non-negative integer" name document
  let flag := Options.flag name document
  match name with
  | "min_length" => length.map fun size => { constraints with minLength := some size }
  | "max_length" => length.map fun size => { constraints with maxLength := some size }
  | "regex" =>
      (patternOption document).map fun pattern => { constraints with pattern := some pattern }
  | "strip_whitespace" => flag.map fun on => { constraints with stripBlanks := on }
  | "to_lower" => flag.map fun on => { constraints with toLower := on }
  | "strict" => flag.map fun on => { constraints with strict := on }
  | _ => Options.unexpected name

/-- The constraints that options state; an unknown one is refused. -/
def ofOptions (options : Mapping) : Except String TextConstraints :=
  Options.fold withOption {} options

/-- Whether any text is allowed as it is; strictness does not count. -/
def isFree (constraints : TextConstraints) : Bool :=
  constraints.minLength.isNone && constraints.maxLength.isNone && constraints.pattern.isNone &&
    !constraints.stripBlanks && !constraints.toLower

/-- The text without outer blanks and in lower case, where that is asked for. -/
def normalize (constraints : TextConstraints) (text : String) : String :=
  let stripped := if constraints.stripBlanks then Text.Blank.trim text else text
  if constraints.toLower then Text.Lowercase.lower stripped else stripped

/-- Check a normalized text against length and pattern. -/
def check (constraints : TextConstraints) (text : String) : Verdict :=
  if constraints.minLength.any (text.length < ·) then
    .rejected ("ensure this value has at least " ++ toString (constraints.minLength.getD 0) ++
      " characters")
  else if constraints.maxLength.any (· < text.length) then
    .rejected ("ensure this value has at most " ++ toString (constraints.maxLength.getD 0) ++
      " characters")
  else
    match constraints.pattern with
    | none => .accepted
    | some pattern =>
        if pattern.isMatch text then .accepted
        else .rejected ("string does not match regex \"" ++ pattern.source ++ "\"")

/-- The constraints that are stated, as type names show them. -/
def shown (constraints : TextConstraints) : List String :=
  Options.shown "min_length" (constraints.minLength.map toString) ++
  Options.shown "max_length" (constraints.maxLength.map toString) ++
  Options.shown "regex" (constraints.pattern.map fun pattern => "'" ++ pattern.source ++ "'") ++
  Options.shownFlag "strip_whitespace" constraints.stripBlanks ++
  Options.shownFlag "to_lower" constraints.toLower ++
  Options.shownFlag "strict" constraints.strict

/-- The name of a text type: plain, strict, or a factory with constraints. -/
def typeName (constraints : TextConstraints) : String :=
  if constraints.isFree then if constraints.strict then "StrictStr" else "str"
  else "constr(" ++ ", ".intercalate constraints.shown ++ ")"

/-- Equality of constraints; patterns are compared by their text. -/
def same (left right : TextConstraints) : Bool :=
  left.minLength == right.minLength && left.maxLength == right.maxLength &&
    left.pattern.map Pattern.source == right.pattern.map Pattern.source &&
    left.stripBlanks == right.stripBlanks && left.toLower == right.toLower &&
    left.strict == right.strict

end TextConstraints

end RuleSchema
