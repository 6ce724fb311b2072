import RuleSchema.Yaml.Source

/-!
# Texts of YAML scalars

Plain scalars, quoted scalars and block scalars, from their first character to
their last: folding of lines, escapes, indentation and chomping.
-/

namespace RuleSchema.Yaml.ScalarText

open RuleSchema.Yaml.Style

/-- White space between two stretches of a flow or plain scalar. -/
structure Gap where
  /-- Blanks before any line end. -/
  blanks : List Char
  /-- A line end has been read. -/
  broken : Bool
  firstBreak : List Char
  moreBreaks : List Char

namespace Gap

/-- No white space. -/
def empty : Gap := ⟨[], false, [], []⟩

/-- A line end that is escaped, and contributes nothing. -/
def escapedBreak : Gap := ⟨[], true, [], []⟩

/-- What the gap contributes: one line end folds to a space, further ones stay. -/
def folded (gap : Gap) : List Char :=
  if gap.broken then
    if gap.firstBreak = ['\n'] then
      if gap.moreBreaks.isEmpty then [' '] else gap.moreBreaks
    else gap.firstBreak ++ gap.moreBreaks
  else gap.blanks

end Gap

/--
Read blanks and line ends.  With a lowest column given, a tab left of it after a
line end is refused.
-/
def readGap (lowest : Option Int) : Nat → Gap → Source → Option (Gap × Source)
  | 0, _, _ => none
  | fuel + 1, gap, source =>
      match source.peek? with
      | none => some (gap, source)
      | some c =>
          if isBlank c then
            if gap.broken then
              let abuse := c == '\t' && lowest.any (fun column => (source.column : Int) < column)
              if abuse then none else readGap lowest fuel gap (source.skip 1)
            else readGap lowest fuel { gap with blanks := gap.blanks ++ [c] } (source.skip 1)
          else if isBreak c then
            let (lineEnd, after) := source.lineEnd
            if gap.broken then
              readGap lowest fuel { gap with moreBreaks := gap.moreBreaks ++ lineEnd } after
            else readGap lowest fuel ⟨[], true, lineEnd, []⟩ after
          else some (gap, source)

/-- Characters after which a colon inside a flow collection is refused. -/
def isFlowMark (c : Char) : Bool := [',', '?', '[', ']', '{', '}'].contains c

/-- Characters that end a plain scalar inside a flow collection. -/
def endsInFlow (c : Char) : Bool := [',', '[', ']', '{', '}'].contains c

/-- A stretch of a plain scalar without blanks; `none` for a misplaced colon. -/
def plainStretch (inFlow : Bool) : List Char → Option (List Char)
  | [] => some []
  | c :: rest =>
      if isBlankOrBreak c then some []
      else if inFlow && c == ':' && rest.head?.any isFlowMark then none
      else if c == ':' && startsBlank rest then some []
      else if inFlow && endsInFlow c then some []
      else (plainStretch inFlow rest).map (c :: ·)

/-- A scalar text and where it ends. -/
structure Scanned where
  text : String
  source : Source
  /-- The scalar is followed by a line end. -/
  endsLine : Bool

/-- Read a plain scalar that must stay at or right of column `lowest` in block context. -/
def plain (inFlow : Bool) (lowest : Int) :
    Nat → List Char → Gap → Source → Option Scanned
  | 0, _, _, _ => none
  | fuel + 1, text, gap, source =>
      let done : Option Scanned := some ⟨String.ofList text, source, gap.broken⟩
      if source.atDocumentMarker || source.at? '#' then done
      else
        match plainStretch inFlow source.rest with
        | none => none
        | some stretch =>
            let after := source.skip stretch.length
            let text := if stretch.isEmpty then text else text ++ gap.folded ++ stretch
            let gap := if stretch.isEmpty then gap else Gap.empty
            if after.next? (fun c => isBlank c || isBreak c) then
              match readGap (some lowest) (after.rest.length + 1) gap after with
              | none => none
              | some (gap, next) =>
                  if !inFlow && (next.column : Int) < lowest then
                    some ⟨String.ofList text, next, gap.broken⟩
                  else plain inFlow lowest fuel text gap next
            else some ⟨String.ofList text, after, gap.broken⟩

/-- The character of a single-letter escape in double quotes. -/
def simpleEscape? (c : Char) : Option Char :=
  ([('0', '\x00'), ('a', '\x07'), ('b', '\x08'), ('t', '\t'), ('\t', '\t'), ('n', '\n'),
    ('v', '\x0b'), ('f', '\x0c'), ('r', '\r'), ('e', '\x1b'), (' ', ' '), ('"', '"'),
    ('/', '/'), ('\\', '\\'), ('N', '\u0085'), ('_', '\u00a0'), ('L', '\u2028'),
    ('P', '\u2029')].find? (fun entry => entry.1 == c)).map Prod.snd

/-- How many hexadecimal digits follow the letter of an escape. -/
def escapeWidth? (c : Char) : Option Nat :=
  if c = 'x' then some 2 else if c = 'u' then some 4 else if c = 'U' then some 8 else none

/-- The character of an escape and the source after it; the backslash stands first. -/
def escape? (source : Source) : Option (Char × Source) :=
  match source.peekAt? 1 with
  | none => none
  | some letter =>
      match simpleEscape? letter with
      | some c => some (c, source.skip 2)
      | none =>
          match escapeWidth? letter with
          | none => none
          | some width =>
              let digits := (source.rest.drop 2).take width
              match Scalar.natInBase? 16 digits with
              | none => none
              | some code =>
                  if digits.length < width || (0xd800 ≤ code && code ≤ 0xdfff) ||
                      code > 0x10ffff then none
                  else some (Char.ofNat code, source.skip (2 + width))

/-- A stretch of a quoted scalar up to a blank, the closing quote or an escaped line end. -/
def quotedStretch (quote : Char) :
    Nat → List Char → Source → Option (List Char × Gap × Source)
  | 0, _, _ => none
  | fuel + 1, text, source =>
      match source.peek? with
      | none => some (text, Gap.empty, source)
      | some c =>
          if isBlankOrBreak c then some (text, Gap.empty, source)
          else if quote == '\'' && c == '\'' && source.peekAt? 1 == some '\'' then
            quotedStretch quote fuel (text ++ ['\'']) (source.skip 2)
          else if c == quote then some (text, Gap.empty, source)
          else if quote == '"' && c == '\\' then
            if (source.peekAt? 1).any isBreak then
              some (text, Gap.escapedBreak, (source.skip 1).lineEnd.2)
            else
              match escape? source with
              | none => none
              | some (character, after) => quotedStretch quote fuel (text ++ [character]) after
          else quotedStretch quote fuel (text ++ [c]) (source.skip 1)

/-- The rest of a quoted scalar after its opening quote. -/
def quoted (quote : Char) : Nat → List Char → Source → Option Scanned
  | 0, _, _ => none
  | fuel + 1, text, source =>
      if source.atDocumentMarker || source.atEnd then none
      else
        match quotedStretch quote (source.rest.length + 1) text source with
        | none => none
        | some (text, gap, after) =>
            if after.at? quote then
              some ⟨String.ofList text, after.skip 1, false⟩
            else
              match readGap none (after.rest.length + 1) gap after with
              | none => none
              | some (gap, next) => quoted quote fuel (text ++ gap.folded) next

/-- What becomes of the line ends after a block scalar. -/
inductive Chomping where
  | strip
  | clip
  | keep
  deriving DecidableEq

/-- The chomping that a mark states. -/
def chomping? : Option Char → Option Chomping
  | some '+' => some .keep
  | some '-' => some .strip
  | _ => none

/-- The indentation mark: a digit, which must not be zero. -/
def indentMark? (source : Source) : Option (Option Nat × Source) :=
  match source.peek? with
  | some c =>
      if c == '0' then none
      else if c.isDigit then some (some (c.toNat - 48), source.skip 1)
      else some (none, source)
  | none => some (none, source)

/-- The marks after the indicator of a block scalar, in either order. -/
def blockHeader? (source : Source) : Option (Chomping × Option Nat × Source) :=
  match chomping? source.peek? with
  | some chomping =>
      match indentMark? (source.skip 1) with
      | none => none
      | some (mark, after) => some (chomping, mark, after)
  | none =>
      match indentMark? source with
      | none => none
      | some (none, after) => some (.clip, none, after)
      | some (some mark, after) =>
          match chomping? after.peek? with
          | some chomping => some (chomping, some mark, after.skip 1)
          | none => some (.clip, some mark, after)

/--
Read indentation and empty lines of a block scalar.  Without a known indentation
every leading space counts as indentation, and the widest line is reported.
-/
def blockBreaks (indent : Nat) :
    Nat → Nat → List Char → Source → Option (Nat × List Char × Source)
  | 0, _, _, _ => none
  | fuel + 1, widest, breaks, source =>
      let spaces := (source.rest.takeWhile (· == ' ')).length
      let eaten := if indent == 0 then spaces else min spaces (indent - source.column)
      let after := source.skip eaten
      let widest := max widest after.column
      if (indent == 0 || after.column < indent) && after.at? '\t' then none
      else if after.next? isBreak then
        let (lineEnd, next) := after.lineEnd
        blockBreaks indent fuel widest (breaks ++ lineEnd) next
      else some (widest, breaks, after)

/-- Whether a line of a folded block scalar joins the one before it by a space. -/
def joins (folded : Bool) (lineEnd : List Char) (afterBlank beforeBlank : Bool) : Bool :=
  folded && lineEnd == ['\n'] && !afterBlank && !beforeBlank

/-- The lines of a block scalar at a known indentation. -/
def blockLines (folded : Bool) (chomping : Chomping) (indent : Nat) :
    Nat → List Char → List Char → List Char → Bool → Source → Option Scanned
  | 0, _, _, _, _, _ => none
  | fuel + 1, text, lineEnd, breaks, afterBlank, source =>
      if source.column == indent && !source.atEnd then
        let startsWithBlank := source.next? isBlank
        let text :=
          if joins folded lineEnd afterBlank startsWithBlank then
            if breaks.isEmpty then text ++ [' '] else text ++ breaks
          else text ++ lineEnd ++ breaks
        let (line, after) := source.span (fun c => !isBreak c)
        let (lineEnd, next) := after.lineEnd
        match blockBreaks indent (next.rest.length + 1) 0 [] next with
        | none => none
        | some (_, breaks, next) =>
            blockLines folded chomping indent fuel (text ++ line) lineEnd breaks
              startsWithBlank next
      else
        let tail :=
          match chomping with
          | .strip => []
          | .clip => lineEnd
          | .keep => lineEnd ++ breaks
        some ⟨String.ofList (text ++ tail), source, true⟩

/-- A block scalar after its indicator, below block content at column `outer`. -/
def block (folded : Bool) (outer : Int) (source : Source) : Option Scanned :=
  match blockHeader? source with
  | none => none
  | some (chomping, mark, source) =>
      let source := source.skipWhile isBlank
      let source := if source.at? '#' then source.skipWhile (fun c => !isBreak c) else source
      if !source.atEnd && !source.next? isBreak then none
      else
        let source := source.lineEnd.2
        let known : Nat :=
          match mark with
          | some width => if outer ≥ 0 then outer.toNat + width else width
          | none => 0
        match blockBreaks known (source.rest.length + 1) 0 [] source with
        | none => none
        | some (widest, breaks, source) =>
            let indent := if known == 0 then max (max widest (outer + 1).toNat) 1 else known
            blockLines folded chomping indent (source.rest.length + 1) [] [] breaks false source

end RuleSchema.Yaml.ScalarText
