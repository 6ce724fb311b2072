/-!
# Failures of reading and writing documents

A document cannot be used because its file cannot be accessed, because its text is
malformed, or because its file name does not tell the format.
-/

namespace RuleSchema

/-- What can go wrong when documents are read from files or written to them. -/
inductive DocumentError where
  | io (path reason : String)
  | yaml (reason : String)
  | json (reason : String)
  | toml (reason : String)
  | unsupportedFormat (path : String)
  deriving DecidableEq, Repr

/-- The text of an error of documents. -/
def DocumentError.message : DocumentError → String
  | .io path reason => "I/O error on " ++ path ++ ": " ++ reason
  | .yaml reason => "YAML parse error: " ++ reason
  | .json reason => "JSON parse error: " ++ reason
  | .toml reason => "TOML parse error: " ++ reason
  | .unsupportedFormat path =>
      "Unsupported document format for " ++ path ++ ": expected .yaml, .yml or .json"

end RuleSchema
