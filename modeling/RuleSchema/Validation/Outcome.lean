import RuleSchema.Validation.Violation

/-!
# Outcomes of checking

Checking a document against a type gives a value or none, and the violations found on
the way.  One arithmetic case has no answer at all: a remainder of sixty-four-bit words
that does not fit, or by zero.  Checking that meets it is broken off, which the outcome
records beside the rest.
-/

namespace RuleSchema

/-- What a validator or a constraint says of a value. -/
inductive Verdict where
  | accepted
  | rejected (message : String)
  /-- A remainder without a result was taken. -/
  | overflow
  deriving DecidableEq, Repr

/-- A value or none, the violations found, and whether checking was broken off. -/
structure Outcome (α : Type) where
  value : Option α
  violations : List Violation
  overflow : Bool

namespace Outcome

variable {α β : Type}

/-- A value without violations. -/
def found (value : α) : Outcome α := ⟨some value, [], false⟩

/-- No value, and one violation. -/
def violated (violation : Violation) : Outcome α := ⟨none, [violation], false⟩

/-- No value, since checking was broken off. -/
def brokenOff : Outcome α := ⟨none, [], true⟩

/-- No value, since a document does not fit its type. -/
def mismatch (path : DocPath) (document : Document) (message : String) : Outcome α :=
  violated ⟨path, .typeMismatch, some document, message⟩

/-- The value under a function. -/
def map (function : α → β) (outcome : Outcome α) : Outcome β :=
  ⟨outcome.value.map function, outcome.violations, outcome.overflow⟩

/-- Two outcomes together: both values or none, and the violations of both. -/
def both (first : Outcome α) (second : Outcome β) : Outcome (α × β) where
  value :=
    match first.value, second.value with
    | some left, some right => some (left, right)
    | _, _ => none
  violations := first.violations ++ second.violations
  overflow := first.overflow || second.overflow

/-- Many outcomes together: all values or none, and the violations of all. -/
def collect : List (Outcome α) → Outcome (List α)
  | [] => found []
  | outcome :: rest => (both outcome (collect rest)).map fun (value, values) => value :: values

end Outcome

end RuleSchema
