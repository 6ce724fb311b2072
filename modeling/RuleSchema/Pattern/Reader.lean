import RuleSchema.Pattern.Named

/-!
# Reading patterns

The grammar of patterns: characters and escapes, classes in brackets with set
operations, groups with flags, choices and repetitions.  There are no
back-references and no conditions on what lies ahead or behind.

Flags are written `(?i)` for the rest of a group or `(?i:…)` for a group of their
own: `i` ignores case, `m` lets `^` and `$` hold at lines, `s` lets a point match a
line end, `x` ignores blanks and comments, `R` makes a carriage return part of a line
end, `u` stands for Unicode, and `U`, which prefers short matches, changes nothing
about whether there is one.
-/

namespace RuleSchema.Pattern.Reader

open RuleSchema.Text

/-- The flags under which a part of a pattern is read. -/
structure Flags where
  ignoreCase : Bool := false
  multiLine : Bool := false
  dotAll : Bool := false
  unicode : Bool := true
  ignoreSpace : Bool := false
  returnLines : Bool := false

/-- Skip blanks and comments. -/
def skipBlanks : Bool → List Char → List Char
  | _, [] => []
  | true, c :: rest => skipBlanks (c != '\n') rest
  | false, c :: rest =>
      if Blank.isBlank c then skipBlanks false rest
      else if c = '#' then skipBlanks true rest
      else c :: rest

/-- Skip blanks and comments where the flags say that they do not count. -/
def skip (flags : Flags) (text : List Char) : List Char :=
  if flags.ignoreSpace then skipBlanks false text else text

/-- A character that has a meaning of its own in patterns. -/
def isMeta (c : Char) : Bool := "\\.+*?()|[]\x7b\x7d^$#&-~".toList.contains c

/-- Whether a backslash before a character leaves the character as it is. -/
def isEscapable (c : Char) : Bool :=
  isMeta c || (c.toNat < 128 && !c.isAlphanum && c != '<' && c != '>')

/-- What a single item of a pattern stands for. -/
inductive Atom where
  /-- A character; one given as two hexadecimal digits may stand for a byte. -/
  | literal (c : Char) (isByte : Bool)
  | set (chars : CharSet)
  | boundary (condition : Boundary)

/-- The number that hexadecimal digits write. -/
def hexValue? (digits : List Char) : Option Nat :=
  digits.foldl
    (fun value c =>
      match value, Ranges.hexValue? c with
      | some value, some digit => some (value * 16 + digit)
      | _, _ => none)
    (some 0)

/-- The character of a code; surrogates and codes beyond the last plane have none. -/
def charOf? (code : Nat) : Option Char :=
  if code < 0xd800 ∨ (0xdfff < code ∧ code < 0x110000) then some (Char.ofNat code) else none

/-- A fixed number of hexadecimal digits. -/
def fixedHex? (flags : Flags) : Nat → List Char → List Char → Option (List Char × List Char)
  | 0, digits, rest => some (digits.reverse, rest)
  | _ + 1, _, [] => none
  | count + 1, digits, c :: rest =>
      if (Ranges.hexValue? c).isNone then none
      else fixedHex? flags count (c :: digits) (skip flags rest)

/-- Hexadecimal digits up to a closing brace. -/
def bracedHex? (flags : Flags) : Nat → List Char → List Char → Option (List Char × List Char)
  | 0, _, _ => none
  | _ + 1, _, [] => none
  | fuel + 1, digits, c :: rest =>
      if c = '\x7d' then some (digits.reverse, skip flags rest)
      else if (Ranges.hexValue? c).isNone then none
      else bracedHex? flags fuel (c :: digits) (skip flags rest)

/-- A character given by its code; `rest` starts after the letter that tells the form. -/
def hexAtom? (flags : Flags) (form : Char) (rest : List Char) : Option (Atom × List Char) :=
  let width := if form = 'x' then 2 else if form = 'u' then 4 else 8
  match skip flags rest with
  | '\x7b' :: inner =>
      match bracedHex? flags (inner.length + 1) [] (skip flags inner) with
      | some (digits, after) =>
          if digits.isEmpty then none
          else
            match (hexValue? digits).bind charOf? with
            | some c => some (.literal c false, after)
            | none => none
      | none => none
  | start =>
      match fixedHex? flags width [] start with
      | some (digits, after) =>
          match (hexValue? digits).bind charOf? with
          | some c => some (.literal c (form = 'x'), after)
          | none => none
      | none => none

/-- Characters up to a closing brace, and the text after it. -/
def bracedName? (flags : Flags) : Nat → List Char → List Char → Option (String × List Char)
  | 0, _, _ => none
  | _ + 1, _, [] => none
  | fuel + 1, name, c :: rest =>
      if c = '\x7d' then some (String.ofList name.reverse, rest)
      else bracedName? flags fuel (c :: name) (skip flags rest)

/-- The set that the name of a property means, with a value after `=`, `:` or `!=`. -/
def propertySet? (name : String) : Option CharSet :=
  match name.splitOn "!=" with
  | property :: value :: more =>
      (CharSet.valued? property ("!=".intercalate (value :: more))).map .complement
  | _ =>
      match name.splitOn ":" with
      | property :: value :: more =>
          CharSet.valued? property (":".intercalate (value :: more))
      | _ =>
          match name.splitOn "=" with
          | property :: value :: more =>
              CharSet.valued? property ("=".intercalate (value :: more))
          | _ => CharSet.named? name

/-- Fold case where it is ignored, and complement a set. -/
def foldAndNegate (flags : Flags) (negated : Bool) (set : CharSet) : CharSet :=
  let folded := if flags.ignoreCase then .folded set else set
  if negated then .complement folded else folded

/-- Outside Unicode a set must not hold anything but ASCII characters. -/
def checked? (flags : Flags) (set : CharSet) : Option CharSet :=
  if flags.unicode then some set
  else if (List.range 128).any (fun code => set.has (Char.ofNat (code + 128))) then none
  else some set

/-- A property class; `rest` starts after the letter. -/
def propertyAtom? (flags : Flags) (negated : Bool) (rest : List Char) :
    Option (Atom × List Char) :=
  if !flags.unicode then none
  else
    match skip flags rest with
    | '\x7b' :: inner =>
        match bracedName? flags (inner.length + 1) [] (skip flags inner) with
        | some (name, after) =>
            (propertySet? name).map fun set => (.set (foldAndNegate flags negated set), after)
        | none => none
    | '\\' :: _ => none
    | c :: after =>
        (CharSet.named? c.toString).map fun set =>
          (.set (foldAndNegate flags negated set), skip flags after)
    | [] => none

/-- The rest of a word boundary in braces; none of it when a repetition follows. -/
def specialBoundary? (flags : Flags) (rest : List Char) : Option (Boundary × List Char) :=
  let isNameChar := fun (c : Char) => c.isAlpha || c == '-'
  match rest with
  | '\x7b' :: inner =>
      match skip flags inner with
      | [] => none
      | first :: others =>
          if !isNameChar first then some (.word, rest)
          else
            let rec name? : Nat → List Char → List Char → Option (String × List Char)
              | 0, _, _ => none
              | _ + 1, _, [] => none
              | fuel + 1, name, c :: rest =>
                  if c = '\x7d' then some (String.ofList name.reverse, rest)
                  else if isNameChar c then name? fuel (c :: name) (skip flags rest)
                  else none
            match name? (others.length + 2) [] (first :: others) with
            | some ("start", after) => some (.wordStart, after)
            | some ("end", after) => some (.wordEnd, after)
            | some ("start-half", after) => some (.wordStartHalf, after)
            | some ("end-half", after) => some (.wordEndHalf, after)
            | _ => none
  | _ => some (.word, rest)

/-- An escape; the backslash is already read. -/
def escape? (flags : Flags) : List Char → Option (Atom × List Char)
  | [] => none
  | c :: rest =>
      if c.isDigit then none
      else if c = 'x' ∨ c = 'u' ∨ c = 'U' then hexAtom? flags c rest
      else if c = 'p' ∨ c = 'P' then propertyAtom? flags (c = 'P') rest
      else if c = 'd' ∨ c = 's' ∨ c = 'w' then
        some (.set (CharSet.letterClass flags.unicode c), rest)
      else if c = 'D' ∨ c = 'S' ∨ c = 'W' then
        (checked? flags (.complement (CharSet.letterClass flags.unicode c.toLower))).map
          fun set => (.set set, rest)
      else if isEscapable c then some (.literal c false, rest)
      else
        match c with
        | 'a' => some (.literal '\x07' false, rest)
        | 'f' => some (.literal '\x0c' false, rest)
        | 't' => some (.literal '\t' false, rest)
        | 'n' => some (.literal '\n' false, rest)
        | 'r' => some (.literal '\r' false, rest)
        | 'v' => some (.literal '\x0b' false, rest)
        | 'A' => some (.boundary .textStart, rest)
        | 'z' => some (.boundary .textEnd, rest)
        | 'b' =>
            (specialBoundary? flags rest).map fun (condition, after) =>
              (.boundary condition, after)
        | 'B' => some (.boundary .notWord, rest)
        | '<' => some (.boundary .wordStart, rest)
        | '>' => some (.boundary .wordEnd, rest)
        | _ => none

/-! ## Classes in brackets -/

/-- The operations between the sides of a class. -/
inductive SetOperation where
  | intersection
  | difference
  | symmetricDifference

/-- Apply a set operation, ignoring case on both sides where it is ignored. -/
def SetOperation.apply (operation : SetOperation) (flags : Flags) (left right : CharSet) :
    CharSet :=
  let left := foldAndNegate flags false left
  let right := foldAndNegate flags false right
  match operation with
  | .intersection => .intersection left right
  | .difference => .difference left right
  | .symmetricDifference => .symmetricDifference left right

/-- A class that is open: what stood before it, and an operation waiting for its right side. -/
structure OpenClass where
  negated : Bool
  /-- The items of the class around this one. -/
  outer : List CharSet
  outerPending : Option (SetOperation × CharSet)

/-- The reading of a class: the classes around, a pending operation, and the items so far. -/
structure ClassState where
  around : List OpenClass
  pending : Option (SetOperation × CharSet)
  items : List CharSet

/-- The characters of the class that is being read, with the pending operation applied. -/
def ClassState.value (state : ClassState) (flags : Flags) : CharSet :=
  let right := CharSet.unions state.items
  match state.pending with
  | some (operation, left) => operation.apply flags left right
  | none => right

/-- Literal hyphens at the start of a class. -/
def leadingHyphens (flags : Flags) : Nat → List CharSet → List Char → List CharSet × List Char
  | 0, items, rest => (items, rest)
  | fuel + 1, items, rest =>
      match rest with
      | '-' :: after => leadingHyphens flags fuel (CharSet.single '-' :: items) (skip flags after)
      | _ => (items, rest)

/-- Open a class: a caret complements it, and hyphens and a bracket may come first as they are. -/
def openClass (flags : Flags) (state : ClassState) (rest : List Char) :
    ClassState × List Char :=
  let start := skip flags rest
  let (negated, start) :=
    match start with
    | '^' :: after => (true, skip flags after)
    | _ => (false, start)
  let (items, start) := leadingHyphens flags (start.length + 1) [] start
  let (items, start) :=
    match items, start with
    | [], ']' :: after => ([CharSet.single ']'], skip flags after)
    | _, _ => (items, start)
  (⟨⟨negated, state.items, state.pending⟩ :: state.around, none, items⟩, start)

/-- A class of ASCII characters such as `[:alpha:]`; the bracket is already read. -/
def asciiClass? (flags : Flags) (rest : List Char) : Option (CharSet × List Char) :=
  match rest with
  | ':' :: inner =>
      let (negated, inner) :=
        match inner with
        | '^' :: after => (true, after)
        | _ => (false, inner)
      let name := inner.takeWhile (· != ':')
      match inner.dropWhile (· != ':') with
      | ':' :: ']' :: after =>
          (CharSet.ascii? (String.ofList name)).map fun set =>
            (foldAndNegate flags negated set, after)
      | _ => none
  | _ => none

/-- One item of a class. -/
def classAtom? (flags : Flags) (rest : List Char) : Option (Atom × List Char) :=
  match rest with
  | [] => none
  | '\\' :: after => escape? flags after
  | c :: after => some (.literal c false, after)

/-- A literal that may stand in a class. -/
def classLiteral? (flags : Flags) (atom : Atom) : Option Char :=
  match atom with
  | .literal c _ => if flags.unicode || c.toNat < 128 then some c else none
  | _ => none

/-- An item or a range of a class. -/
def classItem? (flags : Flags) (rest : List Char) : Option (CharSet × List Char) :=
  match classAtom? flags rest with
  | none => none
  | some (first, after) =>
      let after := skip flags after
      let alone : Option (CharSet × List Char) :=
        match first with
        | .set set => some (set, after)
        | .literal _ _ => (classLiteral? flags first).map fun c => (CharSet.single c, after)
        | .boundary _ => none
      match after with
      | [] => none
      | '-' :: next =>
          match skip flags next with
          | ']' :: _ => alone
          | '-' :: _ => alone
          | second =>
              match classAtom? flags second with
              | none => none
              | some (last, behind) =>
                  match classLiteral? flags first, classLiteral? flags last with
                  | some low, some high =>
                      if low ≤ high then some (.range low high, behind) else none
                  | _, _ => none
      | _ => alone

/-- Go on reading a class until it is closed. -/
def classRest? (flags : Flags) : Nat → ClassState → List Char → Option (CharSet × List Char)
  | 0, _, _ => none
  | fuel + 1, state, text =>
      match skip flags text with
      | [] => none
      | '[' :: rest =>
          match asciiClass? flags rest with
          | some (set, after) =>
              classRest? flags fuel { state with items := set :: state.items } after
          | none =>
              let (inner, after) := openClass flags state rest
              classRest? flags fuel inner after
      | ']' :: rest =>
          match state.around with
          | [] => none
          | opened :: around =>
              match checked? flags (foldAndNegate flags opened.negated (state.value flags)) with
              | none => none
              | some set =>
                  if around.isEmpty then some (set, rest)
                  else
                    classRest? flags fuel
                      ⟨around, opened.outerPending, set :: opened.outer⟩ rest
      | '&' :: '&' :: rest =>
          classRest? flags fuel
            { state with pending := some (.intersection, state.value flags), items := [] } rest
      | '-' :: '-' :: rest =>
          classRest? flags fuel
            { state with pending := some (.difference, state.value flags), items := [] } rest
      | '~' :: '~' :: rest =>
          classRest? flags fuel
            { state with pending := some (.symmetricDifference, state.value flags), items := [] }
            rest
      | rest =>
          match classItem? flags rest with
          | none => none
          | some (set, after) =>
              classRest? flags fuel { state with items := set :: state.items } after

/-- A class in brackets; the first bracket is already read. -/
def class? (flags : Flags) (rest : List Char) : Option (CharSet × List Char) :=
  let (state, after) := openClass flags ⟨[], none, []⟩ rest
  classRest? flags (2 * rest.length + 2) state after

/-! ## Groups, choices and repetitions -/

/-- A group that is open: the flags around it, finished choices and items, latest first. -/
structure OpenGroup where
  flags : Flags
  choices : List Expression
  /-- Flags that were set stand as an empty place among the items. -/
  items : List (Option Expression)

/-- The items of a group one after another; the latest comes first in the list. -/
def sequenceOf (items : List (Option Expression)) : Expression :=
  items.foldl
    (fun built item =>
      match item, built with
      | none, _ => built
      | some expression, .empty => expression
      | some expression, _ => .sequence expression built)
    .empty

/-- The choice of finished alternatives, the latest first, and of the items after them. -/
def choiceOf (choices : List Expression) (items : List (Option Expression)) : Expression :=
  choices.foldl (fun built choice => .choice choice built) (sequenceOf items)

/-- Set or clear a flag by its letter. -/
def setFlag? (flags : Flags) (on : Bool) (letter : Char) : Option Flags :=
  match letter with
  | 'i' => some { flags with ignoreCase := on }
  | 'm' => some { flags with multiLine := on }
  | 's' => some { flags with dotAll := on }
  | 'U' => some flags
  | 'u' => some { flags with unicode := on }
  | 'R' => some { flags with returnLines := on }
  | 'x' => some { flags with ignoreSpace := on }
  | _ => none

/-- Flags up to a colon or a closing parenthesis: the new flags, and what ended them. -/
def flags? (seen : List Char) (negated : Bool) (flags : Flags) :
    List Char → Option (Flags × Bool × Char × List Char)
  | [] => none
  | c :: rest =>
      if c = ':' ∨ c = ')' then
        if seen.head? = some '-' then none else some (flags, seen.isEmpty, c, rest)
      else if seen.contains c then none
      else if c = '-' then flags? (c :: seen) true flags rest
      else
        match setFlag? flags (!negated) c with
        | some changed => flags? (c :: seen) negated changed rest
        | none => none

/-- Whether a character may stand in the name of a group. -/
def isNameChar (first : Bool) (c : Char) : Bool :=
  c == '_' || Properties.alphabetic.has c ||
    (!first && (c == '.' || c == '[' || c == ']' || CharSet.number.has c))

/-- The name of a group, up to its closing angle bracket. -/
def groupName? (rest : List Char) : Option (String × List Char) :=
  let name := rest.takeWhile (· != '>')
  match name, rest.dropWhile (· != '>') with
  | first :: others, _ :: after =>
      if isNameChar true first && others.all (isNameChar false) then
        some (String.ofList name, after)
      else none
  | _, _ => none

/-- A count, with blanks around it; it must be less than `2 ^ 32`. -/
def count? (flags : Flags) (rest : List Char) : Option (Option Nat × List Char) :=
  let start := rest.dropWhile Blank.isBlank
  let rec digits : Nat → List Char → List Char → List Char × List Char
    | 0, read, rest => (read.reverse, rest)
    | fuel + 1, read, rest =>
        match rest with
        | c :: after =>
            if c.isDigit then digits fuel (c :: read) (skip flags after) else (read.reverse, rest)
        | [] => (read.reverse, [])
  let (read, after) := digits (start.length + 1) [] start
  let after := after.dropWhile Blank.isBlank
  if read.isEmpty then some (none, after)
  else
    let value := read.foldl (fun total c => total * 10 + (c.toNat - 48)) 0
    if value < 2 ^ 32 then some (some value, after) else none

/-- The rest of a repetition in braces: least count, extra count, text after the brace. -/
def counts? (flags : Flags) (rest : List Char) : Option (Nat × Option Nat × List Char) :=
  match count? flags (skip flags rest) with
  | none => none
  | some (first, after) =>
      match first, after with
      | some count, '\x7d' :: behind => some (count, some 0, behind)
      | some least, ',' :: next =>
          match skip flags next with
          | '\x7d' :: behind => some (least, none, behind)
          | next =>
              match count? flags next with
              | some (some most, '\x7d' :: behind) =>
                  if least ≤ most then some (least, some (most - least), behind) else none
              | _ => none
      | _, _ => none

/-- The mark that prefers short matches changes nothing about whether there is one. -/
def skipLazyMark (rest : List Char) : List Char :=
  match rest with
  | '?' :: after => after
  | _ => rest

/-- Which characters words are made of. -/
def wordTest (flags : Flags) : Char → Bool :=
  if flags.unicode then Properties.word.has else CharSet.asciiWord.has

/-- The expression of a character; a byte that is no character has none outside Unicode. -/
def literalExpression? (flags : Flags) (c : Char) (isByte : Bool) : Option Expression :=
  if !flags.unicode && 128 ≤ c.toNat && (isByte || flags.ignoreCase) then none
  else if flags.ignoreCase then some (.char (.folded (CharSet.single c)))
  else some (.char (CharSet.single c))

/-- The point, which outside Unicode would match parts of characters. -/
def dotExpression? (flags : Flags) : Option Expression :=
  if !flags.unicode then none
  else if flags.dotAll then some (.char (.complement .none))
  else if flags.returnLines then some (.char (.complement (CharSet.ofText "\r\n")))
  else some (.char (.complement (CharSet.single '\n')))

/-- The condition of a caret. -/
def caret (flags : Flags) : Boundary :=
  if !flags.multiLine then .textStart
  else if flags.returnLines then .returnLineStart
  else .lineStart

/-- The condition of a dollar sign. -/
def dollar (flags : Flags) : Boundary :=
  if !flags.multiLine then .textEnd
  else if flags.returnLines then .returnLineEnd
  else .lineEnd

/-- The reading of a pattern: flags, group names, open groups, choices and items. -/
structure State where
  flags : Flags
  names : List String
  around : List OpenGroup
  choices : List Expression
  items : List (Option Expression)

namespace State

/-- Add an item to the group that is open. -/
def push (state : State) (expression : Expression) : State :=
  { state with items := some expression :: state.items }

/-- Open a group inside the one that is open. -/
def opened (state : State) (flags : Flags) : State :=
  { state with
    flags := flags
    around := ⟨state.flags, state.choices, state.items⟩ :: state.around
    choices := []
    items := [] }

/-- Repeat the latest item, if there is one. -/
def repeated? (state : State) (least : Nat) (extra : Option Nat) : Option State :=
  match state.items with
  | some expression :: others =>
      some { state with items := some (.repetition expression least extra) :: others }
  | _ => none

end State

/-- Open a group; its parenthesis is already read. -/
def group? (state : State) (text : List Char) : Option (State × List Char) :=
  match skip state.flags text with
  | '?' :: '=' :: _ => none
  | '?' :: '!' :: _ => none
  | '?' :: '<' :: '=' :: _ => none
  | '?' :: '<' :: '!' :: _ => none
  | '?' :: 'P' :: '<' :: rest | '?' :: '<' :: rest =>
      match groupName? rest with
      | some (name, after) =>
          if state.names.contains name then none
          else some ({ state with names := name :: state.names }.opened state.flags, after)
      | none => none
  | '?' :: rest =>
      match flags? [] false state.flags rest with
      | some (flags, isEmpty, ending, after) =>
          if ending = ':' then some (state.opened flags, after)
          else if isEmpty then none
          else some ({ state with flags := flags, items := none :: state.items }, after)
      | none => none
  | rest => some (state.opened state.flags, rest)

/-- Read a pattern item by item; without an expression it is malformed. -/
def expression? : Nat → State → List Char → Option Expression
  | 0, _, _ => none
  | fuel + 1, state, text =>
      match skip state.flags text with
      | [] => if state.around.isEmpty then some (choiceOf state.choices state.items) else none
      | '(' :: rest =>
          match group? state rest with
          | some (next, after) => expression? fuel next after
          | none => none
      | ')' :: rest =>
          match state.around with
          | [] => none
          | outer :: around =>
              let inner := choiceOf state.choices state.items
              expression? fuel
                ⟨outer.flags, state.names, around, outer.choices, some inner :: outer.items⟩ rest
      | '|' :: rest =>
          expression? fuel
            { state with choices := sequenceOf state.items :: state.choices, items := [] } rest
      | '[' :: rest =>
          match class? state.flags rest with
          | some (set, after) => expression? fuel (state.push (.char set)) after
          | none => none
      | '?' :: rest =>
          match state.repeated? 0 (some 1) with
          | some next => expression? fuel next (skipLazyMark rest)
          | none => none
      | '*' :: rest =>
          match state.repeated? 0 none with
          | some next => expression? fuel next (skipLazyMark rest)
          | none => none
      | '+' :: rest =>
          match state.repeated? 1 none with
          | some next => expression? fuel next (skipLazyMark rest)
          | none => none
      | '\x7b' :: rest =>
          match counts? state.flags rest with
          | some (least, extra, after) =>
              match state.repeated? least extra with
              | some next => expression? fuel next (skipLazyMark (skip state.flags after))
              | none => none
          | none => none
      | '\\' :: rest =>
          match escape? state.flags rest with
          | some (.literal c isByte, after) =>
              match literalExpression? state.flags c isByte with
              | some expression => expression? fuel (state.push expression) after
              | none => none
          | some (.set set, after) => expression? fuel (state.push (.char set)) after
          | some (.boundary condition, after) =>
              expression? fuel (state.push (.boundary (wordTest state.flags) condition)) after
          | none => none
      | '.' :: rest =>
          match dotExpression? state.flags with
          | some expression => expression? fuel (state.push expression) rest
          | none => none
      | '^' :: rest =>
          expression? fuel
            (state.push (.boundary (wordTest state.flags) (caret state.flags))) rest
      | '$' :: rest =>
          expression? fuel
            (state.push (.boundary (wordTest state.flags) (dollar state.flags))) rest
      | c :: rest =>
          match literalExpression? state.flags c false with
          | some expression => expression? fuel (state.push expression) rest
          | none => none

end Reader

/-- The pattern of a text, if it is well-formed. -/
def ofText? (text : String) : Option Pattern :=
  let characters := text.toList
  (Reader.expression? (characters.length + 1) ⟨{}, [], [], [], []⟩ characters).map fun expression =>
    ⟨text, expression⟩

end RuleSchema.Pattern
