import RuleSchema.NameMap
import RuleSchema.Toml.Scalar

/-!
# Reading TOML

A document is a list of lines: entries of the table that the last header opened, and
headers.  A table may be opened once by a header, tables that were only mentioned on the
way to others excepted; dotted keys extend only tables that dotted keys made; and
nothing extends an inline table.
-/

namespace RuleSchema.Toml

/-- How a table came about. -/
inductive TableOrigin where
  /-- By a header of its own, or inline. -/
  | explicit
  /-- On the way to a table of a header. -/
  | implicit
  /-- By a dotted key. -/
  | dotted
  deriving DecidableEq, Repr

/-- A value of a table or an array. -/
inductive Value where
  | string (text : String)
  /-- A number, boolean, date or time, as it is spelled. -/
  | scalar (text : String)
  | array (items : List Value)
  | inlineTable (entries : List (String × Value))
  | table (origin : TableOrigin) (entries : List (String × Value))
  /-- Tables of headers in double brackets, the latest first. -/
  | tables (items : List (List (String × Value)))
  deriving Inhabited

namespace Reader

/-- The entries of a table, in their order. -/
abbrev Entries := NameMap Value

/-! ## Tables -/

/-- Whether a dotted key may lead through a table; `rest` is what it goes on with. -/
def mayPass (origin : TableOrigin) (rest : List String) : Bool :=
  origin == .dotted || (origin == .implicit && rest.length > 1)

/-- Store a value under a dotted key. -/
def addValue? (value : Value) : List String → Entries → Option Entries
  | [], _ => none
  | [name], entries => if entries.has name then none else some (entries.insert name value)
  | name :: rest, entries =>
      match entries.get? name with
      | none =>
          (addValue? value rest []).map fun inner => entries.insert name (.table .dotted inner)
      | some (.table origin inner) =>
          if mayPass origin rest then
            (addValue? value rest inner).map fun inner => entries.insert name (.table origin inner)
          else none
      | some _ => none

/-- Change the table that a header's path leads to, making tables on the way. -/
def within? (change : Entries → Option Entries) : List String → Entries → Option Entries
  | [], entries => change entries
  | name :: rest, entries =>
      match entries.get? name with
      | none =>
          (within? change rest []).map fun inner => entries.insert name (.table .implicit inner)
      | some (.table origin inner) =>
          (within? change rest inner).map fun inner => entries.insert name (.table origin inner)
      | some (.tables (last :: others)) =>
          (within? change rest last).map fun last => entries.insert name (.tables (last :: others))
      | some _ => none

/-- Open a table by its header. -/
def openTable? (path : List String) (root : Entries) : Option Entries :=
  match path.getLast? with
  | none => none
  | some name =>
      within?
        (fun entries =>
          match entries.get? name with
          | none => some (entries.insert name (.table .explicit []))
          | some (.table .implicit inner) => some (entries.insert name (.table .explicit inner))
          | some _ => none)
        path.dropLast root

/-- Append a table to a list of tables by its header. -/
def appendTable? (path : List String) (root : Entries) : Option Entries :=
  match path.getLast? with
  | none => none
  | some name =>
      within?
        (fun entries =>
          match entries.get? name with
          | none => some (entries.insert name (.tables [[]]))
          | some (.tables others) => some (entries.insert name (.tables ([] :: others)))
          | some _ => none)
        path.dropLast root

/-! ## Lines -/

/-- Skip a comment, up to the end of its line. -/
def comment? (text : List Char) : Option (List Char) :=
  match text with
  | '#' :: rest =>
      let rest := rest.dropWhile Scalar.isPlain
      match rest with
      | [] => some []
      | _ => if (Scalar.newline? rest).isSome then some rest else none
  | _ => some text

/-- The text after blanks, comments and line ends. -/
def skipSpace? : Nat → List Char → Option (List Char)
  | 0, text => some text
  | fuel + 1, text =>
      match comment? (text.dropWhile Scalar.isBlank) with
      | none => none
      | some rest =>
          match Scalar.newline? rest with
          | some after => skipSpace? fuel after
          | none => some rest

/-- Skip the rest of a line that may hold a comment and nothing else. -/
def lineEnd? (text : List Char) : Option (List Char) :=
  match comment? (text.dropWhile Scalar.isBlank) with
  | none => none
  | some [] => some []
  | some rest => Scalar.newline? rest

/-- A character of a bare key. -/
def isBare (c : Char) : Bool := c.isAlphanum || c == '_' || c == '-'

/-- Read a key in quotes of either kind, or one of letters, digits and dashes. -/
def simpleKey? (text : List Char) : Option (String × List Char) :=
  match text with
  | '"' :: rest => Scalar.basic? (rest.length + 1) [] rest
  | '\'' :: rest => Scalar.literal? rest
  | _ =>
      let name := text.takeWhile isBare
      if name.isEmpty then none else some (String.ofList name, text.dropWhile isBare)

/-- How deep arrays and inline tables may be nested. -/
def depthLimit : Nat := 79

/-- A key with any number of dots; blanks around it are read with it. -/
def key? : Nat → List Char → Option (List String × List Char)
  | 0, _ => none
  | fuel + 1, text =>
      match simpleKey? (text.dropWhile Scalar.isBlank) with
      | none => none
      | some (name, rest) =>
          match rest.dropWhile Scalar.isBlank with
          | '.' :: after => (key? fuel after).map fun (names, last) => (name :: names, last)
          | last => some ([name], last)

/-! ## Values -/

mutual

/-- A value; `depth` containers may still be opened. -/
def value? (fuel depth : Nat) (text : List Char) : Option (Value × List Char) :=
  match fuel with
  | 0 => none
  | fuel + 1 =>
      match text with
      | '[' :: rest =>
          match depth with
          | 0 => none
          | depth + 1 => (array? fuel depth [] rest).map fun (items, after) => (.array items, after)
      | '\x7b' :: rest =>
          match depth with
          | 0 => none
          | depth + 1 =>
              match rest.dropWhile Scalar.isBlank with
              | '\x7d' :: after => some (.inlineTable [], after)
              | start =>
                  (inline? fuel depth [] start).map fun (entries, after) =>
                    (.inlineTable entries, after)
      | '"' :: _ | '\'' :: _ =>
          (Scalar.string? text).map fun (content, after) => (.string content, after)
      | _ => (Scalar.other? text).map fun (spelling, after) => (.scalar spelling, after)

/-- The rest of an array. -/
def array? (fuel depth : Nat) (read : List Value) (text : List Char) :
    Option (List Value × List Char) :=
  match fuel with
  | 0 => none
  | fuel + 1 =>
      match skipSpace? (text.length + 1) text with
      | none => none
      | some (']' :: after) => some (read.reverse, after)
      | some start =>
          match value? fuel depth start with
          | none => none
          | some (item, rest) =>
              match skipSpace? (rest.length + 1) rest with
              | some (',' :: after) => array? fuel depth (item :: read) after
              | some (']' :: after) => some ((item :: read).reverse, after)
              | _ => none

/-- The rest of an inline table, which has at least one entry more. -/
def inline? (fuel depth : Nat) (read : Entries) (text : List Char) :
    Option (Entries × List Char) :=
  match fuel with
  | 0 => none
  | fuel + 1 =>
      match key? (depthLimit + 1) text with
      | some (path, '=' :: rest) =>
          match value? fuel depth (rest.dropWhile Scalar.isBlank) with
          | none => none
          | some (value, rest) =>
              match addValue? value path read with
              | none => none
              | some entries =>
                  match rest.dropWhile Scalar.isBlank with
                  | ',' :: after => inline? fuel depth entries after
                  | '\x7d' :: after => some (entries, after)
                  | _ => none
      | _ => none

end

/-- An entry of a table: its key, its value, and the text after its line. -/
def entry? (text : List Char) : Option (List String × Value × List Char) :=
  match key? (depthLimit + 1) text with
  | some (path, '=' :: rest) =>
      match value? (2 * rest.length + 2) depthLimit (rest.dropWhile Scalar.isBlank) with
      | some (value, after) => (lineEnd? after).map fun next => (path, value, next)
      | none => none
  | _ => none

/-- A header: whether it stands in double brackets, its key, and the text after its line. -/
def header? (text : List Char) : Option (Bool × List String × List Char) :=
  match text with
  | '[' :: '[' :: rest =>
      match key? (depthLimit + 1) rest with
      | some (path, ']' :: ']' :: after) => (lineEnd? after).map fun next => (true, path, next)
      | _ => none
  | '[' :: rest =>
      match key? (depthLimit + 1) rest with
      | some (path, ']' :: after) => (lineEnd? after).map fun next => (false, path, next)
      | _ => none
  | _ => none

/-- Read lines into a document; `current` is the path of the open table. -/
def lines? : Nat → Entries → List String → List Char → Option Entries
  | 0, _, _, _ => none
  | fuel + 1, root, current, text =>
      match skipSpace? (text.length + 1) text with
      | none => none
      | some [] => some root
      | some ('[' :: rest) =>
          match header? ('[' :: rest) with
          | none => none
          | some (double, path, next) =>
              match if double then appendTable? path root else openTable? path root with
              | some opened => lines? fuel opened path next
              | none => none
      | some start =>
          match entry? start with
          | none => none
          | some (path, value, next) =>
              match within? (addValue? value path) current root with
              | some changed => lines? fuel changed current next
              | none => none

/-- Read a TOML text as a table; a mark of byte order may come first. -/
def parse? (text : String) : Option Entries :=
  let characters :=
    match text.toList with
    | '\ufeff' :: rest => rest
    | characters => characters
  lines? (characters.length + 2) [] [] characters

end Reader

end RuleSchema.Toml
