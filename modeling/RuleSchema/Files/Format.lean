import RuleSchema.Document.Error
import RuleSchema.Files.Name
import RuleSchema.Json.Reader
import RuleSchema.Json.Writer
import RuleSchema.Yaml.Reader
import RuleSchema.Yaml.Writer

/-!
# Document formats

A document is stored as YAML or as JSON.  The extension of a file name tells the
format, in any case of its letters.
-/

namespace RuleSchema

/-- The formats in which documents are written to files. -/
inductive DocumentFormat where
  | yaml
  | json
  deriving DecidableEq, Repr

namespace DocumentFormat

/-- The format that the extension of a file name tells, in either case of letters. -/
def ofPath (path : String) : Except DocumentError DocumentFormat :=
  match (FileName.extension? path).map Text.Lowercase.asciiLower with
  | some "yaml" => .ok .yaml
  | some "yml" => .ok .yaml
  | some "json" => .ok .json
  | _ => .error (.unsupportedFormat path)

/-- Read a document from a text of the format. -/
def parse (format : DocumentFormat) (text : String) : Except DocumentError Document :=
  match format with
  | .yaml =>
      match Yaml.Reader.parse? text with
      | some document => .ok document
      | none => .error (.yaml "malformed text")
  | .json =>
      match Json.Reader.parse? text with
      | some document => .ok document
      | none => .error (.json "malformed text")

/-- The text of a document in the format, if there is one. -/
def render (format : DocumentFormat) (document : Document) : Except DocumentError String :=
  match format with
  | .yaml =>
      match Yaml.Writer.render? document with
      | some text => .ok text
      | none => .error (.yaml "no text for this document")
  | .json =>
      match Json.Writer.render? .indented document with
      | some text => .ok text
      | none => .error (.json "no text for this document")

end DocumentFormat

end RuleSchema
