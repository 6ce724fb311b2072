import RuleSchema.Files.Store
import RuleSchema.Types.Basic

/-!
# Coercion of scalars

How a document becomes a boolean, a number, a text or a path.  Strict types take only
what already is of their kind; the others also take texts and numbers that clearly
mean such a value.
-/

namespace RuleSchema.Scalar

/-- The boolean that a word or the numbers zero and one stand for. -/
def spokenBool? : Document → Option Bool
  | .number value =>
      match value.toInt64? with
      | some word => if word = 0 then some false else if word = 1 then some true else none
      | none => none
  | .string text =>
      let word := Text.Lowercase.asciiLower text
      if ["0", "off", "f", "false", "n", "no"].contains word then some false
      else if ["1", "on", "t", "true", "y", "yes"].contains word then some true
      else none
  | _ => none

/-- Read a truth value; unless strict, also from its usual words and numbers. -/
def bool (strict : Bool) (document : Document) : Except String Bool :=
  match document.asBool? with
  | some value => .ok value
  | none =>
      if strict then .error "value is not a valid boolean"
      else
        match spokenBool? document with
        | some value => .ok value
        | none => .error "value could not be parsed to a boolean"

/-- The word of an integer, if it fits. -/
def word? (value : Int) : Option Int64 :=
  if -2 ^ 63 ≤ value ∧ value < 2 ^ 63 then some (Int64.ofInt value) else none

/-- The word of a whole float whose size is below `2 ^ 63`. -/
def wordOfFloat? (value : Float) : Option Int64 :=
  match Decimal.Exact.int? value with
  | some whole => if whole.natAbs < 2 ^ 63 then some (Int64.ofInt whole) else none
  | none => none

/-- The word that a number or a text without its outer blanks stands for. -/
def spokenInt? : Document → Option Int64
  | .number value => wordOfFloat? value.toFloat
  | .string text => (Decimal.Reading.parseInt? (Text.Blank.trim text)).bind word?
  | _ => none

/-- Read a word; unless strict, also from a whole float or a text. -/
def int (strict : Bool) (document : Document) : Except String Int64 :=
  match document.asInt64? with
  | some word => .ok word
  | none =>
      if strict then .error "value is not a valid integer"
      else
        match spokenInt? document with
        | some word => .ok word
        | none => .error "value is not a valid integer"

/-- The float that a number or, unless strict, a text without its outer blanks stands for. -/
def float? (strict : Bool) : Document → Option Float
  | .number value => some value.toFloat
  | .string text => if strict then none else Decimal.Reading.parse? (Text.Blank.trim text)
  | _ => none

/-- Read a float, in any form that strictness allows. -/
def float (strict : Bool) (document : Document) : Except String Float :=
  match float? strict document with
  | some value => .ok value
  | none => .error "value is not a valid float"

/-- The text of a string or, unless strict, of a number. -/
def text (strict : Bool) : Document → Except String String
  | .string text => .ok text
  | .number value => if strict then .error "str type expected" else .ok value.text
  | _ => .error "str type expected"

/-- A path, which must lead to something of the given kind. -/
def path (store : FileStore) (kind : PathKind) (document : Document) : Except String String :=
  match document.asString? with
  | none => .error "value is not a valid path"
  | some text =>
      match kind with
      | .any => .ok text
      | .file =>
          if !store.contains text then
            .error ("file or directory at path \"" ++ text ++ "\" does not exist")
          else if store.hasFile text then .ok text
          else .error ("path \"" ++ text ++ "\" does not point to a file")
      | .directory =>
          if !store.contains text then
            .error ("file or directory at path \"" ++ text ++ "\" does not exist")
          else if store.hasDirectory text then .ok text
          else .error ("path \"" ++ text ++ "\" does not point to a directory")

/-- Whether a document is the given option; numbers are compared as floats. -/
def isOption (document option : Document) : Bool :=
  match option, document with
  | .number left, .number right => left.toFloat == right.toFloat
  | _, _ => option.beq document

end RuleSchema.Scalar
