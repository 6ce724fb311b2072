import RuleSchema.Yaml.ScalarText

/-!
# Tokens of YAML text

Text becomes a list of tokens in which indentation is explicit: block collections
have start and end tokens, and every key of a mapping is announced before it.

A key in front of a colon is only recognised at the colon.  For each level of flow
nesting the place where a key may have started is therefore remembered, and the
announcing token is inserted there afterwards.  Such a key must lie on one line
and within 1024 characters.
-/

namespace RuleSchema.Yaml

/-- A token of a YAML text. -/
inductive Token where
  | streamEnd
  | version (major minor : Nat)
  | tagHandle (handle expansion : String)
  | documentStart
  | documentEnd
  | blockSequenceStart
  | blockMappingStart
  | blockEnd
  | flowSequenceStart
  | flowSequenceEnd
  | flowMappingStart
  | flowMappingEnd
  | blockEntry
  | flowEntry
  | key
  | value
  | alias (name : String)
  | anchor (name : String)
  | tag (handle suffix : String)
  | scalar (text : String) (isPlain : Bool)
  deriving DecidableEq, Repr

namespace Token

open RuleSchema.Yaml.Style

/-- A place where a key may have started. -/
structure PossibleKey where
  /-- Nothing but a key can stand here. -/
  required : Bool
  /-- The number of tokens before it. -/
  place : Nat
  index : Nat
  line : Nat
  column : Nat

/-- The state of reading tokens. -/
structure Scan where
  source : Source
  tokens : Array Token
  /-- The column of the current block collection, minus one outside of all. -/
  indent : Int
  outerIndents : List Int
  /-- One possible key for block context and for each open flow collection, innermost first. -/
  keys : List (Option PossibleKey)
  /-- A key may start at the current position. -/
  keyAllowed : Bool

namespace Scan

/-- Before the first token. -/
def start (text : String) : Scan :=
  ⟨Source.ofText text, #[], -1, [], [none], true⟩

/-- Inside a flow collection. -/
def inFlow (scan : Scan) : Bool := scan.keys.length > 1

/-- Add a token behind the others. -/
def push (scan : Scan) (token : Token) : Scan :=
  { scan with tokens := scan.tokens.push token }

/-- Insert a token before the one at `place`. -/
def insertAt (scan : Scan) (place : Nat) (token : Token) : Scan :=
  { scan with
    tokens := ((scan.tokens.extract 0 place).push token) ++
      scan.tokens.extract place scan.tokens.size }

/-- Open a block collection if `column` lies right of the current one. -/
def openBlock (scan : Scan) (column : Nat) (place : Option Nat) (token : Token) : Scan :=
  if scan.inFlow || scan.indent ≥ (column : Int) then scan
  else
    let opened :=
      match place with
      | some place => scan.insertAt place token
      | none => scan.push token
    { opened with indent := column, outerIndents := scan.indent :: scan.outerIndents }

/-- Close the block collections right of a column, given the columns of the outer ones. -/
def closeBlocks (column : Int) (scan : Scan) : List Int → Scan
  | [] => { scan with outerIndents := [] }
  | outer :: rest =>
      if scan.indent > column then
        closeBlocks column { scan.push .blockEnd with indent := outer } rest
      else { scan with outerIndents := outer :: rest }

/-- Close the block collections right of a column. -/
def closeTo (scan : Scan) (column : Int) : Scan :=
  if scan.inFlow then scan else closeBlocks column scan scan.outerIndents

/-- Forget the innermost possible key; one that was required is missing its colon. -/
def dropKey? (scan : Scan) : Option Scan :=
  match scan.keys with
  | some pending :: rest =>
      if pending.required then none else some { scan with keys := none :: rest }
  | _ => some scan

/-- Remember that a key may start here. -/
def saveKey? (scan : Scan) : Option Scan :=
  if scan.keyAllowed then
    match scan.dropKey? with
    | none => none
    | some scan =>
        let pending : PossibleKey :=
          { required := !scan.inFlow && scan.indent == (scan.source.column : Int)
            place := scan.tokens.size
            index := scan.source.index
            line := scan.source.line
            column := scan.source.column }
        some { scan with keys := some pending :: scan.keys.drop 1 }
  else some scan

/-- Whether a key can no longer end at the current position. -/
def isStale (scan : Scan) (pending : PossibleKey) : Bool :=
  pending.line < scan.source.line || pending.index + 1024 < scan.source.index

/-- Forget the possible keys that are too far back. -/
def dropStaleKeys? (scan : Scan) : Option Scan :=
  let stale (pending : Option PossibleKey) : Bool := pending.any scan.isStale
  if scan.keys.any (fun pending => stale pending && pending.any PossibleKey.required) then none
  else
    some { scan with
      keys := scan.keys.map fun pending => if stale pending then none else pending }

/-- Step over blanks, comments and line ends to the next token. -/
def toNextToken (fuel : Nat) (scan : Scan) : Scan :=
  match fuel with
  | 0 => scan
  | fuel + 1 =>
      let source := scan.source
      let source :=
        if source.column == 0 && source.at? '\ufeff' then source.skip 1 else source
      let tabs := scan.inFlow || !scan.keyAllowed
      let source := source.skipWhile (fun c => c == ' ' || (tabs && c == '\t'))
      let source :=
        if source.at? '#' then source.skipWhile (fun c => !isBreak c) else source
      if source.next? isBreak then
        toNextToken fuel
          { scan with source := source.lineEnd.2, keyAllowed := !scan.inFlow || scan.keyAllowed }
      else { scan with source := source }

/-- Go on after `count` characters with one more token. -/
def take (scan : Scan) (count : Nat) (token : Token) : Scan :=
  { scan.push token with source := scan.source.skip count }

/-- Leave all block collections, as at a document marker or a directive. -/
def leaveBlocks? (scan : Scan) : Option Scan :=
  (scan.closeTo (-1)).dropKey?.map fun scan => { scan with keyAllowed := false }

/-- The three characters of a document marker. -/
def documentMarker? (scan : Scan) (token : Token) : Option Scan :=
  scan.leaveBlocks?.map fun scan => scan.take 3 token

/-- The bracket that opens a flow collection, which may itself be a key. -/
def openFlow? (scan : Scan) (token : Token) : Option Scan :=
  scan.saveKey?.map fun scan =>
    { scan.take 1 token with keys := none :: scan.keys, keyAllowed := true }

/-- The bracket that closes a flow collection. -/
def closeFlow? (scan : Scan) (token : Token) : Option Scan :=
  scan.dropKey?.map fun scan =>
    { scan.take 1 token with
      keys := if scan.inFlow then scan.keys.drop 1 else scan.keys
      keyAllowed := false }

/-- The comma between entries of a flow collection. -/
def flowComma? (scan : Scan) : Option Scan :=
  scan.dropKey?.map fun scan => { scan.take 1 .flowEntry with keyAllowed := true }

/-- The dash of an item, which may open a block sequence. -/
def dash? (scan : Scan) : Option Scan :=
  if !scan.inFlow && !scan.keyAllowed then none
  else
    let scan := scan.openBlock scan.source.column none .blockSequenceStart
    scan.dropKey?.map fun scan => { scan.take 1 .blockEntry with keyAllowed := true }

/-- The question mark before a key, which may open a block mapping. -/
def questionMark? (scan : Scan) : Option Scan :=
  if !scan.inFlow && !scan.keyAllowed then none
  else
    let scan := scan.openBlock scan.source.column none .blockMappingStart
    scan.dropKey?.map fun scan => { scan.take 1 .key with keyAllowed := !scan.inFlow }

/-- The colon of a value, after a simple key or on its own. -/
def colon? (scan : Scan) : Option Scan :=
  match scan.keys with
  | some pending :: rest =>
      let scan := scan.insertAt pending.place .key
      let scan := scan.openBlock pending.column (some pending.place) .blockMappingStart
      some { scan.take 1 .value with keys := none :: rest, keyAllowed := false }
  | _ =>
      if !scan.inFlow && !scan.keyAllowed then none
      else
        let scan := scan.openBlock scan.source.column none .blockMappingStart
        some { scan.take 1 .value with keyAllowed := !scan.inFlow }

/-- Characters that may follow an alias or anchor directly. -/
def endsName (source : Source) : Bool :=
  source.blankAt 0 || source.next? (fun c => ['?', ':', ',', ']', '}', '%', '@', '`'].contains c)

/-- An alias or an anchor. -/
def reference? (scan : Scan) (make : String → Token) : Option Scan :=
  match scan.saveKey? with
  | none => none
  | some scan =>
      let (name, after) := (scan.source.skip 1).span Source.isNameCharacter
      if name.isEmpty || !endsName after then none
      else some { scan.push (make (String.ofList name)) with source := after, keyAllowed := false }

/-- Characters of a tag that stand for themselves; some only in a whole address. -/
def isTagCharacter (whole : Bool) (c : Char) : Bool :=
  Source.isNameCharacter c || ";/?:@&=+$.!~*'()".toList.contains c ||
    (whole && [',', '[', ']'].contains c)

/-- The bytes of percent escapes in front of other characters. -/
def escapedBytes : List Char → List UInt8 × List Char
  | '%' :: high :: low :: rest =>
      match Scalar.natInBase? 16 [high, low] with
      | some byte =>
          let (bytes, after) := escapedBytes rest
          (UInt8.ofNat byte :: bytes, after)
      | none => ([], '%' :: high :: low :: rest)
  | rest => ([], rest)

/-- The characters of a tag; percent escapes are bytes of UTF-8 text. -/
def tagCharacters? (whole : Bool) : Nat → List Char → List Char → Option (List Char × List Char)
  | 0, _, _ => none
  | fuel + 1, read, text =>
      match text with
      | [] => some (read, [])
      | c :: rest =>
          if c == '%' then
            let (bytes, after) := escapedBytes text
            match String.fromUTF8? ⟨bytes.toArray⟩ with
            | some decoded =>
                if bytes.isEmpty then none
                else tagCharacters? whole fuel (read ++ decoded.toList) after
            | none => none
          else if isTagCharacter whole c then tagCharacters? whole fuel (read ++ [c]) rest
          else some (read, text)

/-- The characters of a tag and the source after them. -/
def tagUri? (whole : Bool) (source : Source) : Option (List Char × Source) :=
  match tagCharacters? whole (source.rest.length + 1) [] source.rest with
  | some (read, rest) => some (read, source.skip (source.rest.length - rest.length))
  | none => none

/-- A tag handle: an exclamation mark, a name, and a second mark if there is one. -/
def tagHandleText (source : Source) : List Char × Source :=
  let (name, after) := (source.skip 1).span Source.isNameCharacter
  if after.at? '!' then ('!' :: (name ++ ['!']), after.skip 1) else ('!' :: name, after)

/-- A tag as handle and suffix; the source starts at its exclamation mark. -/
def tagParts? (source : Source) : Option (String × String × Source) :=
  if source.peekAt? 1 == some '<' then
    match tagUri? true (source.skip 2) with
    | some (suffix, after) =>
        if suffix.isEmpty || !after.at? '>' then none
        else some ("", String.ofList suffix, after.skip 1)
    | none => none
  else
    let (handle, after) := tagHandleText source
    if handle.length > 1 && handle.getLast? == some '!' then
      match tagUri? false after with
      | some (suffix, after) =>
          if suffix.isEmpty then none
          else some (String.ofList handle, String.ofList suffix, after)
      | none => none
    else
      match tagUri? false after with
      | some (suffix, after) =>
          let suffix := handle.drop 1 ++ suffix
          if suffix.isEmpty then some ("", "!", after)
          else some ("!", String.ofList suffix, after)
      | none => none

/-- A tag, after which white space or an end must follow. -/
def tag? (scan : Scan) : Option Scan :=
  match scan.saveKey? with
  | none => none
  | some scan =>
      match tagParts? scan.source with
      | none => none
      | some (handle, suffix, after) =>
          if (scan.inFlow && after.at? ',') || after.blankAt 0 then
            some { scan.push (.tag handle suffix) with source := after, keyAllowed := false }
          else none

/-- The rest of the line of a directive, which may hold a comment. -/
def directiveEnd? (scan : Scan) (token : Token) (source : Source) : Option Scan :=
  let source := source.skipWhile isBlank
  let source := if source.at? '#' then source.skipWhile (fun c => !isBreak c) else source
  if source.atEnd || source.next? isBreak then
    some { scan.push token with source := source.lineEnd.2 }
  else none

/-- A version number part of at most nine digits. -/
def versionPart? (source : Source) : Option (Nat × Source) :=
  let (digits, after) := source.span Char.isDigit
  if digits.isEmpty || digits.length > 9 then none
  else some (Decimal.Reading.natOfDigits digits, after)

/-- A version directive after its name. -/
def versionDirective? (scan : Scan) (source : Source) : Option Scan :=
  match versionPart? (source.skipWhile isBlank) with
  | none => none
  | some (major, source) =>
      if !source.at? '.' then none
      else
        match versionPart? (source.skip 1) with
        | none => none
        | some (minor, source) => directiveEnd? scan (.version major minor) source

/-- A tag directive after its name: a handle and what it stands for. -/
def tagDirective? (scan : Scan) (source : Source) : Option Scan :=
  let source := source.skipWhile isBlank
  if !source.at? '!' then none
  else
    let (handle, source) := tagHandleText source
    if (handle.length > 1 && handle.getLast? != some '!') || !source.next? isBlank then none
    else
      match tagUri? true (source.skipWhile isBlank) with
      | none => none
      | some (expansion, source) =>
          if expansion.isEmpty || !source.blankAt 0 then none
          else
            directiveEnd? scan
              (.tagHandle (String.ofList handle) (String.ofList expansion)) source

/-- A directive; names other than those of versions and tags are refused. -/
def directive? (scan : Scan) : Option Scan :=
  match scan.leaveBlocks? with
  | none => none
  | some scan =>
      let (name, after) := (scan.source.skip 1).span Source.isNameCharacter
      if !after.blankAt 0 then none
      else
        match String.ofList name with
        | "YAML" => versionDirective? scan after
        | "TAG" => tagDirective? scan after
        | _ => none

/-- A scalar in a block of its own, its lines folded or not. -/
def blockScalar? (scan : Scan) (folded : Bool) : Option Scan :=
  match scan.dropKey? with
  | none => none
  | some scan =>
      (ScalarText.block folded scan.indent (scan.source.skip 1)).map fun scanned =>
        { scan.push (.scalar scanned.text false) with
          source := scanned.source, keyAllowed := true }

/-- A scalar in quotes, which may be a key. -/
def quotedScalar? (scan : Scan) (quote : Char) : Option Scan :=
  match scan.saveKey? with
  | none => none
  | some scan =>
      (ScalarText.quoted quote (scan.source.rest.length + 1) [] (scan.source.skip 1)).map
        fun scanned =>
          { scan.push (.scalar scanned.text false) with
            source := scanned.source, keyAllowed := false }

/-- A scalar without quotes, which may be a key; after it only a new line allows a key. -/
def plainScalar? (scan : Scan) : Option Scan :=
  match scan.saveKey? with
  | none => none
  | some scan =>
      let length := scan.source.rest.length
      (ScalarText.plain scan.inFlow (scan.indent + 1) (length + 1) [] .empty scan.source).map
        fun scanned =>
          { scan.push (.scalar scanned.text true) with
            source := scanned.source, keyAllowed := scanned.endsLine }

/-- Characters with which no plain scalar starts, whatever follows. -/
def neverStartsPlain (c : Char) : Bool :=
  [',', '[', ']', '{', '}', '#', '&', '*', '!', '|', '>', '\'', '"', '%', '@', '`'].contains c

/-- Whether a plain scalar starts at the source. -/
def startsPlain (scan : Scan) (c : Char) : Bool :=
  if c == '-' then !(scan.source.peekAt? 1).any isBlank
  else if c == '?' || c == ':' then !scan.inFlow && !scan.source.blankAt 1
  else !isBlankOrBreak c && !neverStartsPlain c

/-- The token that starts with a character. -/
def tokenFrom? (scan : Scan) (c : Char) : Option Scan :=
  let source := scan.source
  if source.column == 0 && c == '%' then scan.directive?
  else if source.atMarker '-' then scan.documentMarker? .documentStart
  else if source.atMarker '.' then scan.documentMarker? .documentEnd
  else if c == '[' then scan.openFlow? .flowSequenceStart
  else if c == '\x7b' then scan.openFlow? .flowMappingStart
  else if c == ']' then scan.closeFlow? .flowSequenceEnd
  else if c == '\x7d' then scan.closeFlow? .flowMappingEnd
  else if c == ',' then scan.flowComma?
  else if c == '-' && source.blankAt 1 then scan.dash?
  else if c == '?' && (scan.inFlow || source.blankAt 1) then scan.questionMark?
  else if c == ':' && (scan.inFlow || source.blankAt 1) then scan.colon?
  else if c == '*' then scan.reference? .alias
  else if c == '&' then scan.reference? .anchor
  else if c == '!' then scan.tag?
  else if c == '|' && !scan.inFlow then scan.blockScalar? false
  else if c == '>' && !scan.inFlow then scan.blockScalar? true
  else if c == '\'' || c == '"' then scan.quotedScalar? c
  else if scan.startsPlain c then scan.plainScalar?
  else none

/-- The end of the text closes all block collections. -/
def finish? (scan : Scan) : Option (Array Token) :=
  match (scan.closeTo (-1)).dropKey? with
  | some scan => some (scan.tokens.push .streamEnd)
  | none => none

/-- Read tokens to the end of the text. -/
def run? : Nat → Scan → Option (Array Token)
  | 0, _ => none
  | fuel + 1, scan =>
      let scan := scan.toNextToken (scan.source.rest.length + 1)
      match scan.dropStaleKeys? with
      | none => none
      | some scan =>
          let scan := scan.closeTo scan.source.column
          match scan.source.peek? with
          | none => scan.finish?
          | some c =>
              match scan.tokenFrom? c with
              | none => none
              | some scan => run? fuel scan

end Scan

/-- The tokens of a text in which only allowed characters stand. -/
def ofText? (text : String) : Option (List Token) :=
  if text.toList.all Source.isAllowed then
    (Scan.run? (text.length + 1) (Scan.start text)).map Array.toList
  else none

end Token

end RuleSchema.Yaml
