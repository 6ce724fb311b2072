import RuleSchema.Digest.Sha256
import RuleSchema.Json.Writer
import RuleSchema.Yaml.Writer

/-!
# Fingerprints of documents

The SHA-256 hash of a document's compact JSON text.  A document without a JSON
form is hashed as YAML, and one without either as the empty text.  The order of
mapping entries is part of the fingerprint.
-/

namespace RuleSchema.Document

/-- The text that stands for a document in its digest: compact JSON, or YAML where there is none. -/
def hashedText (document : Document) : String :=
  match Json.Writer.render? .compact document with
  | some text => text
  | none => (Yaml.Writer.render? document).getD ""

/-- The digest by which a document is known, in hexadecimal digits. -/
def fingerprint (document : Document) : String :=
  Digest.Sha256.hashHex document.hashedText.toUTF8.toList

end RuleSchema.Document
