import RuleSchema.Document.Path

/-!
# Violations

A user document is rejected with a list of violations, one for each rejected
location in the order of checking.  A violation at the root path is about the whole
record.
-/

namespace RuleSchema

/-- The kinds of violations. -/
inductive ViolationKind where
  | missingField
  | unexpectedField
  | typeMismatch
  | validatorFailed
  deriving DecidableEq, Repr

/-- The name of a kind. -/
def ViolationKind.text : ViolationKind → String
  | .missingField => "missing_field"
  | .unexpectedField => "unexpected_field"
  | .typeMismatch => "type_mismatch"
  | .validatorFailed => "validator_failed"

/-- A rejected location of a user document, with the offending value if there is one. -/
structure Violation where
  path : DocPath
  kind : ViolationKind
  value : Option Document
  message : String

namespace Violation

/-- A violation on two lines: the place, and the message with its kind. -/
def text (violation : Violation) : String :=
  violation.path.display ++ "\n  " ++ violation.message ++ " (" ++ violation.kind.text ++ ")"

/-- The violation as seen from above `path`. -/
def under (path : DocPath) (violation : Violation) : Violation :=
  { violation with path := path ++ violation.path }

end Violation

/-- Why a document is refused as a record of a type. -/
structure Rejection where
  typeName : String
  violations : List Violation
  /-- Checking was broken off by a remainder that has no result. -/
  overflow : Bool := false

namespace Rejection

/-- Nothing to refuse so far. -/
def empty (typeName : String) : Rejection := ⟨typeName, [], false⟩

/-- Add a violation behind the others. -/
def push (rejection : Rejection) (violation : Violation) : Rejection :=
  { rejection with violations := rejection.violations ++ [violation] }

/-- Add the violations of a nested record that sits at `path`. -/
def absorb (rejection : Rejection) (path : DocPath) (nested : Rejection) : Rejection :=
  { rejection with
    violations := rejection.violations ++ nested.violations.map (Violation.under path) }

/-- Whether nothing was violated. -/
def isEmpty (rejection : Rejection) : Bool := rejection.violations.isEmpty

/-- Whether some violation sits exactly at `path`. -/
def hasViolationAt (rejection : Rejection) (path : DocPath) : Bool :=
  rejection.violations.any (fun violation => violation.path == path)

/-- The text of a rejection: how many violations there are, and each of them. -/
def message (rejection : Rejection) : String :=
  let count := rejection.violations.length
  toString count ++ " validation error" ++ (if count = 1 then "" else "s") ++ " for " ++
    rejection.typeName ++
    String.join (rejection.violations.map (fun violation => "\n" ++ violation.text))

/-- Success when nothing was violated, and the rejection itself otherwise. -/
def toExcept (rejection : Rejection) : Except Rejection Unit :=
  if rejection.isEmpty then .ok () else .error rejection

end Rejection

end RuleSchema
