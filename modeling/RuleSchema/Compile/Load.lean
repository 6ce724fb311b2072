import RuleSchema.Compile.Schema
import RuleSchema.Document.Merge
import RuleSchema.Error
import RuleSchema.Files.Documents
import RuleSchema.Rule.Optional
import RuleSchema.Value.Instance

/-!
# Loading configurations

From rules and configurations to a validated record in one go: both are merged, the
optional rules that are not used are dropped, and the configuration is validated against
the rest.
-/

namespace RuleSchema

namespace RecordType

/-- Merge files and validate the result. -/
def validateFiles (store : FileStore) (type : RecordType) (format : DocumentFormat)
    (paths : List String) : Except Error Instance :=
  match store.mergeFiles (some format) paths with
  | .error error => .error (.document error)
  | .ok document =>
      match type.validate store document with
      | .error rejection => .error (.validation rejection)
      | .ok record => .ok record

end RecordType

namespace Schema

/-- Merge rules and configurations, and validate these against those rules that are used. -/
def load (store : FileStore) (registry : Registry) (rules configurations : List Document) :
    Except Error Instance :=
  let configuration := Document.merge configurations
  match compile registry (Rule.resolveOptional (Document.merge rules) configuration) with
  | .error error => .error (.compile error)
  | .ok schema =>
      match schema.type.validate store configuration with
      | .error rejection => .error (.validation rejection)
      | .ok record => .ok record

/-- Load from files, whose names tell their formats. -/
def loadFiles (store : FileStore) (registry : Registry) (rules configurations : List String) :
    Except Error Instance :=
  match store.mergeFiles none rules with
  | .error error => .error (.document error)
  | .ok rules =>
      match store.mergeFiles none configurations with
      | .error error => .error (.document error)
      | .ok configuration => load store registry [rules] [configuration]

end Schema

end RuleSchema
