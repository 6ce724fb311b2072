import RuleSchema.Document.Path

/-!
# Reading and editing at a path

Lookup, replacement, assignment and removal at a path.  In a mapping a step
addresses the entry of the equal string key, or else the first entry of a key
that is no string and has the text of the step.

Assignment creates the mappings that are missing on its way, and treats null as
an empty mapping.  Where it is refused, what it has created so far stays.
-/

namespace RuleSchema

namespace Mapping

/-- Whether a path step of the given text addresses the entry of a key. -/
def addresses (entries : Mapping) (text : String) (key : Document) : Bool :=
  if entries.hasField text then isField text key
  else !key.isString && key.keyText == text

/-- The value of the entry that a path step of the given text addresses. -/
def at? (entries : Mapping) (text : String) : Option Document :=
  (entries.find? (fun entry => entries.addresses text entry.1)).map Prod.snd

/-- Replace the value of the first entry whose key passes the test. -/
def replaceFirst (test : Document → Bool) (value : Document) : Mapping → Mapping
  | [] => []
  | entry :: rest =>
      if test entry.1 then (entry.1, value) :: rest
      else entry :: replaceFirst test value rest

/-- Store a value in the addressed entry, or append an entry for it. -/
def put (entries : Mapping) (text : String) (value : Document) : Mapping :=
  if (entries.at? text).isSome then replaceFirst (entries.addresses text) value entries
  else entries ++ [(.string text, value)]

/-- Remove the addressed entry. -/
def removeAt (entries : Mapping) (text : String) : Mapping :=
  entries.eraseP (fun entry => entries.addresses text entry.1)

end Mapping

namespace DocPath

/-- The document at a path; tags are not looked through. -/
def get? : DocPath → Document → Option Document
  | [], document => some document
  | .key text :: rest, .mapping entries =>
      match Mapping.at? entries text with
      | some value => get? rest value
      | none => none
  | .index position :: rest, .sequence items =>
      match items[position]? with
      | some item => get? rest item
      | none => none
  | _ :: _, _ => none

/-- The document with another value at a path that leads somewhere. -/
def replace? (value : Document) : DocPath → Document → Option Document
  | [], _ => some value
  | .key text :: rest, .mapping entries =>
      match Mapping.at? entries text with
      | some old => (replace? value rest old).map fun new => .mapping (Mapping.put entries text new)
      | none => none
  | .index position :: rest, .sequence items =>
      match items[position]? with
      | some old => (replace? value rest old).map fun new => .sequence (items.set position new)
      | none => none
  | _ :: _, _ => none

/-- Null counts as an empty mapping when something is to be stored in it. -/
def opened (document : Document) : Document :=
  if document.isNull then .mapping [] else document

/--
Store a value at a path: whether that succeeded, and the document afterwards.
-/
def assign (value : Document) : DocPath → Document → Bool × Document
  | [], _ => (true, value)
  | key :: rest, document =>
      match key, opened document with
      | .key text, .mapping entries =>
          if rest.isEmpty then (true, .mapping (Mapping.put entries text value))
          else
            let old := (Mapping.at? entries text).getD (.mapping [])
            let (done, new) := assign value rest old
            (done, .mapping (Mapping.put entries text new))
      | .index position, .sequence items =>
          match items[position]? with
          | some old =>
              let (done, new) := assign value rest old
              (done, .sequence (items.set position new))
          | none => (false, .sequence items)
      | _, node => (false, node)

/-- Remove what is at a path: the document there and what is left, with the order kept. -/
def remove? : DocPath → Document → Option (Document × Document)
  | [], _ => none
  | [.key text], .mapping entries =>
      match Mapping.at? entries text with
      | some value => some (value, .mapping (Mapping.removeAt entries text))
      | none => none
  | [.index position], .sequence items =>
      match items[position]? with
      | some item => some (item, .sequence (items.eraseIdx position))
      | none => none
  | .key text :: rest, .mapping entries =>
      match Mapping.at? entries text with
      | some old =>
          (remove? rest old).map fun (value, new) =>
            (value, .mapping (Mapping.put entries text new))
      | none => none
  | .index position :: rest, .sequence items =>
      match items[position]? with
      | some old =>
          (remove? rest old).map fun (value, new) =>
            (value, .sequence (items.set position new))
      | none => none
  | _ :: _, _ => none

end DocPath

end RuleSchema
