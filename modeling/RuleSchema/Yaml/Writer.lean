import RuleSchema.Document.Basic
import RuleSchema.Yaml.Style

/-!
# Writing YAML

Collections are written in block style with two columns of indentation, items of
a sequence inside a mapping at the column of their key; empty collections are
`[]` and the empty braces.  Keys of more than one line or of more than 128 bytes,
and keys that are nonempty collections, stand after a question mark.

Two kinds of documents have no written form: a tag directly below a tag, and an
untagged mapping of one entry whose key is again a mapping of one entry or is
tagged.
-/

namespace RuleSchema.Yaml.Writer

open RuleSchema.Yaml.Style

/-- Text written so far and the state of its last line. -/
structure Cursor where
  text : String
  column : Nat
  /-- A token may follow without a space. -/
  afterBlank : Bool
  /-- Nothing but indentation and block indicators stands on the line. -/
  atIndent : Bool

/-- Nothing written yet. -/
def Cursor.start : Cursor := ⟨"", 0, true, true⟩

/-- Append text without line ends. -/
def Cursor.put (cursor : Cursor) (text : String) : Cursor :=
  { cursor with text := cursor.text ++ text, column := cursor.column + text.length }

/-- Append a line end. -/
def Cursor.endLine (cursor : Cursor) (lineEnd : String) : Cursor :=
  { cursor with text := cursor.text ++ lineEnd, column := 0 }

/-- Go to a column, on a new line unless this one holds only indentation up to it. -/
def Cursor.indentTo (cursor : Cursor) (column : Nat) : Cursor :=
  let onNewLine :=
    if !cursor.atIndent || cursor.column > column ||
        (cursor.column == column && !cursor.afterBlank) then
      cursor.endLine "\n"
    else cursor
  let filled :=
    onNewLine.put (String.ofList (List.replicate (column - onNewLine.column) ' '))
  { filled with afterBlank := true, atIndent := true }

/-- A space, unless a token may follow directly. -/
def Cursor.separate (cursor : Cursor) : Cursor :=
  if cursor.afterBlank then cursor else cursor.put " "

/-- Append a token that is part of a line's content. -/
def Cursor.token (cursor : Cursor) (text : String) : Cursor :=
  { cursor.put text with afterBlank := false, atIndent := false }

/-- Append a block indicator, after which the content may start at this column. -/
def Cursor.blockIndicator (cursor : Cursor) (mark : String) : Cursor :=
  { cursor.separate.put mark with afterBlank := false }

/-- Where a node stands. -/
inductive Place where
  | root
  | item
  /-- A key or a value of a mapping. -/
  | entry
  deriving DecidableEq

/-- The column of a block mapping below the content around it. -/
def deeper : Option Nat → Nat
  | none => 0
  | some column => column + 2

/-- The column of the continuation lines of a scalar. -/
def scalarColumn : Option Nat → Nat
  | none => 2
  | some column => column + 2

/-- A number in a fixed count of hexadecimal digits. -/
def hexDigits (count value : Nat) : String :=
  String.ofList ((List.range count).map fun place =>
    (Nat.digitChar (value / 16 ^ (count - 1 - place) % 16)).toUpper)

/-- A character inside double quotes. -/
def escaped (c : Char) : String :=
  if isPrintable c && !isBreak c && c != '"' && c != '\\' then c.toString
  else
    let code := c.toNat
    if c = '"' then "\\\""
    else if c = '\\' then "\\\\"
    else if code = 0 then "\\0"
    else if code = 7 then "\\a"
    else if code = 8 then "\\b"
    else if code = 9 then "\\t"
    else if code = 10 then "\\n"
    else if code = 11 then "\\v"
    else if code = 12 then "\\f"
    else if code = 13 then "\\r"
    else if code = 27 then "\\e"
    else if code = 0x85 then "\\N"
    else if code = 0xa0 then "\\_"
    else if code = 0x2028 then "\\L"
    else if code = 0x2029 then "\\P"
    else if code ≤ 0xff then "\\x" ++ hexDigits 2 code
    else if code ≤ 0xffff then "\\u" ++ hexDigits 4 code
    else "\\U" ++ hexDigits 8 code

/-- Lines of a scalar: each goes to `column`, a line end stays as it is. -/
def writeLines (column : Nat) (double : Char → String) :
    Bool → List Char → Cursor → Cursor
  | afterBreak, [], cursor => if afterBreak then cursor.indentTo column else cursor
  | afterBreak, c :: rest, cursor =>
      if isBreak c then
        writeLines column double true rest
          { cursor.endLine c.toString with atIndent := true }
      else
        let cursor := if afterBreak then cursor.indentTo column else cursor
        writeLines column double false rest { cursor.put (double c) with atIndent := false }

/-- The chomping and indentation marks after the bar of a literal block. -/
def literalHints (text : List Char) : String :=
  let indentation :=
    match text with
    | c :: _ => if c == ' ' || isBreak c then "2" else ""
    | [] => ""
  let chomping :=
    match text.reverse with
    | [] => "-"
    | last :: before =>
        if !isBreak last then "-"
        else
          match before with
          | [] => "+"
          | c :: _ => if isBreak c then "+" else ""
  indentation ++ chomping

/-- Write a text as a literal block, with the hints that its ends need. -/
def writeLiteral (column : Nat) (text : List Char) (cursor : Cursor) : Cursor :=
  let opened := (cursor.separate.token ("|" ++ literalHints text)).endLine "\n"
  let start : Cursor := { opened with afterBlank := true, atIndent := true }
  text.foldl
    (fun (state : Cursor × Bool) c =>
      if isBreak c then
        ({ state.1.endLine c.toString with atIndent := true }, true)
      else
        let line := if state.2 then state.1.indentTo column else state.1
        ({ line.put c.toString with atIndent := false }, false))
    (start, true) |>.1

/-- A string in its style. -/
def writeText (indent : Option Nat) (text : String) (cursor : Cursor) : Cursor :=
  match Style.ofText text with
  | .plain => cursor.separate.token text
  | .singleQuoted =>
      let quoted :=
        writeLines (scalarColumn indent) (fun c => if c = '\'' then "''" else c.toString)
          false text.toList (cursor.separate.token "'")
      quoted.token "'"
  | .doubleQuoted =>
      cursor.separate.token ("\"" ++ String.join (text.toList.map escaped) ++ "\"")
  | .literal => writeLiteral (scalarColumn indent) text.toList cursor

/-- Whether a character stands in a tag as it is. -/
def isTagCharacter (c : Char) : Bool :=
  c.isAlphanum || "-_;/?:@&=+$,.~*'()[]".toList.contains c

/-- A tag, other characters than the allowed ones as percent-encoded bytes. -/
def tagText (name : String) : String :=
  "!" ++ String.join (name.toList.map fun c =>
    if isTagCharacter c then c.toString
    else String.join (c.toString.toUTF8.toList.map fun byte => "%" ++ hexDigits 2 byte.toNat))

/-- Write the tag of a node, if it has one. -/
def writeTag (tag : Option String) (cursor : Cursor) : Cursor :=
  match tag with
  | none => cursor
  | some name => cursor.separate.token (tagText name)

/-- The text of a scalar that is no string. -/
def scalarText? : Document → Option String
  | .null => some "null"
  | .bool value => some (if value then "true" else "false")
  | .number value => some value.text
  | _ => none

/-- Whether a key fits on its line before the colon; `size` counts the bytes of its tag. -/
def isSimpleKey (size : Nat) : Document → Bool
  | .tagged name value => isSimpleKey (size + 1 + name.utf8ByteSize) value
  | .string text => !text.toList.any isBreak && size + text.utf8ByteSize ≤ 128
  | .sequence items => items.isEmpty && size ≤ 128
  | .mapping entries => entries.isEmpty && size ≤ 128
  | document => size + ((scalarText? document).getD "").utf8ByteSize ≤ 128

/-- Whether a key of an untagged mapping with no other entry hides that mapping. -/
def hidesMapping : Document → Bool
  | .tagged _ _ => true
  | .mapping [_] => true
  | _ => false

mutual

/-- Write a node below the block content at `indent`. -/
def writeNode (indent : Option Nat) (place : Place) (tag : Option String) :
    Document → Cursor → Option Cursor
  | .tagged name value, cursor =>
      match tag with
      | some _ => none
      | none => writeNode indent place (some name) value cursor
  | .string text, cursor => some (writeText indent text (writeTag tag cursor))
  | .sequence [], cursor => some ((writeTag tag cursor).separate.token "[]")
  | .sequence (item :: items), cursor =>
      let opened := writeTag tag cursor
      let column :=
        match indent with
        | some outer => if place = .entry ∧ opened.atIndent = false then outer else outer + 2
        | none => 0
      writeItems column (item :: items) opened
  | .mapping [], cursor => some ((writeTag tag cursor).separate.token "\x7b\x7d")
  | .mapping ((key, value) :: rest), cursor =>
      if tag.isNone && rest.isEmpty && hidesMapping key then none
      else writeEntries (deeper indent) ((key, value) :: rest) (writeTag tag cursor)
  | document, cursor =>
      some ((writeTag tag cursor).separate.token ((scalarText? document).getD ""))

/-- Write the items of a block sequence. -/
def writeItems (column : Nat) : List Document → Cursor → Option Cursor
  | [], cursor => some cursor
  | item :: rest, cursor =>
      match writeNode (some column) .item none item
          ((cursor.indentTo column).blockIndicator "-") with
      | none => none
      | some written => writeItems column rest written

/-- Write the entries of a block mapping. -/
def writeEntries (column : Nat) : List (Document × Document) → Cursor → Option Cursor
  | [], cursor => some cursor
  | (key, value) :: rest, cursor =>
      let line := cursor.indentTo column
      let simple := isSimpleKey 0 key
      let line := if simple then line else line.blockIndicator "?"
      match writeNode (some column) .entry none key line with
      | none => none
      | some keyed =>
          let marked :=
            if simple then keyed.token ":"
            else (keyed.indentTo column).blockIndicator ":"
          match writeNode (some column) .entry none value marked with
          | none => none
          | some written => writeEntries column rest written

end

/-- The YAML text of a document, if it has one. -/
def render? (document : Document) : Option String :=
  (writeNode none .root none document .start).map fun cursor => (cursor.indentTo 0).text

end RuleSchema.Yaml.Writer
