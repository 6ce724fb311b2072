import RuleSchema.Document.Merge
import RuleSchema.Files.Format
import RuleSchema.Files.Store

/-!
# Documents in files

Reading, writing and merging of documents that are stored in files.  Where no
format is given, the name of the file tells it.
-/

namespace RuleSchema.FileStore

/-- The given format, or else the one that the name of the file tells. -/
def formatOf (format : Option DocumentFormat) (path : String) :
    Except DocumentError DocumentFormat :=
  match format with
  | some given => .ok given
  | none => DocumentFormat.ofPath path

/-- Read a document from a file, in the stated format or else in that of its name. -/
def readDocument (store : FileStore) (format : Option DocumentFormat) (path : String) :
    Except DocumentError Document :=
  match formatOf format path with
  | .error error => .error error
  | .ok format =>
      match store.read path with
      | .error fault => .error (.io path fault.reason)
      | .ok text => format.parse text

/-- Write a document to a file, in the stated format or else in that of its name. -/
def writeDocument (store : FileStore) (format : Option DocumentFormat) (path : String)
    (document : Document) : Except DocumentError FileStore :=
  match formatOf format path with
  | .error error => .error error
  | .ok format =>
      match format.render document with
      | .error error => .error error
      | .ok text =>
          match store.write path text with
          | .error fault => .error (.io path fault.reason)
          | .ok written => .ok written

/-- Read the documents of several files, up to the first that fails. -/
def readDocuments (store : FileStore) (format : Option DocumentFormat) :
    List String → Except DocumentError (List Document)
  | [] => .ok []
  | path :: rest =>
      match readDocument store format path with
      | .error error => .error error
      | .ok document =>
          match readDocuments store format rest with
          | .error error => .error error
          | .ok documents => .ok (document :: documents)

/-- Several files merged into one document, later files over earlier ones. -/
def mergeFiles (store : FileStore) (format : Option DocumentFormat) (paths : List String) :
    Except DocumentError Document :=
  (readDocuments store format paths).map Document.merge

end RuleSchema.FileStore
