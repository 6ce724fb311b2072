import RuleSchema.Registry.SourceModule

/-!
# Built-in validators

Relations between a field and its neighbours or a parameter, and sums over a record.
Numbers are compared as floats.
-/

namespace RuleSchema.Builtin

/-- A check as a verdict: what it complains of is rejected. -/
def verdict : Except String Unit → Verdict
  | .ok () => .accepted
  | .error message => .rejected message

/-- The number that a value must be. -/
def number (value : Value) : Except String Float :=
  match value.asFloat? with
  | some number => .ok number
  | none => .error (value.text ++ " is not a number")

/-- The number that a parameter must be. -/
def numberParam (name : String) (document : Document) : Except String Float :=
  match document.asFloat? with
  | some number => .ok number
  | none => .error ("parameter '" ++ name ++ "' must be a number")

/-- A parameter as a list, each item read by `read?`. -/
def listParam {α : Type} (read? : Document → Option α) (kind name : String)
    (document : Document) : Except String (List α) :=
  match document.asSequence?.bind fun items => items.mapM read? with
  | some values => .ok values
  | none => .error ("parameter '" ++ name ++ "' must be a list of " ++ kind)

/-- The field is not below the sibling that `min_key` names, if that is present. -/
def rangeCheck (call : ValidatorCall) : Verdict :=
  verdict do
    let greatest ← call.fieldValue
    let key ← call.param "min_key"
    match key.asString? with
    | none => .error "parameter 'min_key' must be a string"
    | some name =>
        match call.values.get? name with
        | none => return ()
        | some least =>
            if (← number least) > (← number greatest) then
              .error ("bad range: " ++ least.text ++ " > " ++ greatest.text)
            else return ()

/-- The amounts on the axes whose sign is not zero, with these signs. -/
def signedAxes (values : NameMap Value) :
    List (String × Float) → Except String (List (Float × Float))
  | [] => .ok []
  | (axis, sign) :: rest =>
      if sign != 0.0 then
        match values.get? axis with
        | none => signedAxes values rest
        | some value =>
            match number value with
            | .error message => .error message
            | .ok amount => (signedAxes values rest).map ((amount, sign) :: ·)
      else signedAxes values rest

/-- Every axis is present and has the sign given for it; the sign zero allows any value. -/
def quadrant (call : ValidatorCall) : Verdict :=
  verdict do
    let axes ← listParam Document.asString? "strings" "axes" (← call.param "axes")
    let signs ← listParam Document.asFloat? "numbers" "signs" (← call.param "signs")
    let inside ←
      if axes.all call.values.has then
        (signedAxes call.values (axes.zip signs)).map fun pairs =>
          pairs.all fun (amount, sign) => amount * sign > 0.0
      else .ok false
    if inside then return ()
    else
      .error ((Value.map call.values).text ++ " not in quadrant: " ++
        (Value.list (signs.map .float)).text)

/-- The field is at most `threshold`. -/
def threshold (call : ValidatorCall) : Verdict :=
  verdict do
    let value ← call.fieldValue
    let limit ← call.param "threshold"
    let bound ← numberParam "threshold" limit
    if (← number value) > bound then
      .error ("above threshold: " ++ value.text ++ " > " ++ (Value.ofDocument limit).text)
    else return ()

/-- The complaint of a field that is no multiple of a factor. -/
def notMultiple (value : Value) (factor : Document) : Verdict :=
  .rejected (value.text ++ " is not a multiple of " ++ (Value.ofDocument factor).text)

/-- The field is a multiple of `factor`: of words exactly, of other numbers as floats. -/
def multipleOf (call : ValidatorCall) : Verdict :=
  match call.fieldValue, call.param "factor" with
  | .error message, _ => .rejected message
  | _, .error message => .rejected message
  | .ok value, .ok factor =>
      match value.asInt?, factor.asInt64? with
      | some word, some divisor =>
          if divisor = 0 then .rejected "parameter 'factor' must not be 0"
          else
            match Remainder.ofWords? word divisor with
            | none => .overflow
            | some remainder => if remainder = 0 then .accepted else notMultiple value factor
      | _, _ =>
          match numberParam "factor" factor, number value with
          | .error message, _ => .rejected message
          | _, .error message => .rejected message
          | .ok divisor, .ok amount =>
              if Decimal.Exact.isMultipleOf amount divisor then .accepted
              else notMultiple value factor

/-- Sums may miss their total by this much. -/
def sumTolerance : Float := Decimal.Rounding.ofDecimal false 1 (-9)

/-- Complain of values whose sum is not the total. -/
def checkTotal (values : NameMap Value) (sum : Float) (total : Document) : Except String Unit :=
  (numberParam "total" total).bind fun bound =>
    if (sum - bound).abs > sumTolerance then
      .error ((Value.list values.values).text ++ " do not add up to " ++
        (Value.ofDocument total).text)
    else .ok ()

/-- The sum of values, in their order; every value must be a number. -/
def sumFrom (start : Float) : List Value → Except String Float
  | [] => .ok start
  | value :: rest =>
      match number value with
      | .error message => .error message
      | .ok amount => sumFrom (start + amount) rest

/-- All fields of the record add up to `total`. -/
def zeroSum (call : ValidatorCall) : Verdict :=
  verdict do
    let total ← call.param "total"
    let sum ← sumFrom 0.0 call.values.values
    checkTotal call.values sum total

/-- The number of a named field; an absent one counts as zero. -/
def part (values : NameMap Value) (name : String) : Except String Float :=
  match values.get? name with
  | some value => number value
  | none => .ok 0.0

/-- The fields `first` and `second` add up to `total`. -/
def sumByName (call : ValidatorCall) : Verdict :=
  verdict do
    let total ← call.param "total"
    let first ← part call.values "first"
    let second ← part call.values "second"
    checkTotal call.values (first + second) total

/-- The module of built-in validators. -/
def validators : SourceModule :=
  [ ("range_check", rangeCheck),
    ("quadrant", quadrant),
    ("threshold", threshold),
    ("mult_of", multipleOf),
    ("zero_sum", zeroSum),
    ("sum_by_name", sumByName) ].foldl
      (fun built entry => built.exportValidator entry.1 entry.2) (.empty "validators")

end RuleSchema.Builtin
