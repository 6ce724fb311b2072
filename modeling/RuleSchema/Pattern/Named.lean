import RuleSchema.Pattern.Basic
import RuleSchema.Text.Blank
import RuleSchema.Text.Lowercase

/-!
# Named character classes

The sets of characters that a pattern calls by name: the classes of one letter, the
classes of ASCII characters, and the properties of Unicode.  Names of properties may
be written in any case, with blanks, hyphens and underscores anywhere.
-/

namespace RuleSchema.CharSet

open RuleSchema.Text

/-- A list of inclusive ranges. -/
def ofRanges (ranges : List (Char × Char)) : CharSet :=
  unions (ranges.map fun (first, last) => range first last)

/-- A property of a range table. -/
def table (ranges : Ranges) : CharSet := property ranges.has

/-- The letters, digits and the underscore of ASCII. -/
def asciiWord : CharSet := ofRanges [('0', '9'), ('A', 'Z'), ('a', 'z'), ('_', '_')]

/-- The set of a class that a letter names: digits, white space, and else the parts of words. -/
def letterClass (unicode : Bool) (letter : Char) : CharSet :=
  match letter, unicode with
  | 'd', true => table Properties.decimalNumber
  | 'd', false => range '0' '9'
  | 's', true => property Blank.isBlank
  | 's', false => ofText "\t\n\x0b\x0c\r "
  | _, true => table Properties.word
  | _, false => asciiWord

/-- A class of ASCII characters, by the name that brackets and colons give it. -/
def ascii? (name : String) : Option CharSet :=
  match name with
  | "alnum" => some (ofRanges [('0', '9'), ('A', 'Z'), ('a', 'z')])
  | "alpha" => some (ofRanges [('A', 'Z'), ('a', 'z')])
  | "ascii" => some (range '\x00' '\x7f')
  | "blank" => some (ofText "\t ")
  | "cntrl" => some (ofRanges [('\x00', '\x1f'), ('\x7f', '\x7f')])
  | "digit" => some (range '0' '9')
  | "graph" => some (range '!' '~')
  | "lower" => some (range 'a' 'z')
  | "print" => some (range ' ' '~')
  | "punct" => some (ofRanges [('!', '/'), (':', '@'), ('[', '\x60'), ('\x7b', '~')])
  | "space" => some (ofText "\t\n\x0b\x0c\r ")
  | "upper" => some (range 'A' 'Z')
  | "word" => some asciiWord
  | "xdigit" => some (ofRanges [('0', '9'), ('A', 'F'), ('a', 'f')])
  | _ => none

/-- Letters of all categories. -/
def letter : CharSet :=
  unions [table Properties.uppercaseLetter, table Properties.lowercaseLetter,
    table Properties.titlecaseLetter, table Properties.modifierLetter,
    table Properties.otherLetter]

/-- Letters with a case. -/
def casedLetter : CharSet :=
  unions [table Properties.uppercaseLetter, table Properties.lowercaseLetter,
    table Properties.titlecaseLetter]

/-- Marks of all categories. -/
def mark : CharSet :=
  unions [table Properties.nonspacingMark, table Properties.spacingMark,
    table Properties.enclosingMark]

/-- Numbers of all categories. -/
def number : CharSet :=
  unions [table Properties.decimalNumber, table Properties.letterNumber,
    table Properties.otherNumber]

/-- Punctuation of all categories. -/
def punctuation : CharSet :=
  unions [table Properties.connectorPunctuation, table Properties.dashPunctuation,
    table Properties.openPunctuation, table Properties.closePunctuation,
    table Properties.initialPunctuation, table Properties.finalPunctuation,
    table Properties.otherPunctuation]

/-- Symbols of all categories. -/
def symbol : CharSet :=
  unions [table Properties.mathSymbol, table Properties.currencySymbol,
    table Properties.modifierSymbol, table Properties.otherSymbol]

/-- Separators of all categories. -/
def separator : CharSet :=
  unions [table Properties.spaceSeparator, table Properties.lineSeparator,
    table Properties.paragraphSeparator]

/-- Characters that are in none of the other categories. -/
def other : CharSet :=
  complement (unions [letter, mark, number, punctuation, symbol, separator])

/-- Characters without any category of their own. -/
def unassigned : CharSet :=
  difference other
    (unions [table Properties.control, table Properties.format, table Properties.privateUse])

/-- The general categories, under their short and long names. -/
def categories : List (List String × CharSet) :=
  [ (["any"], complement none),
    (["assigned"], complement unassigned),
    (["ascii"], range '\x00' '\x7f'),
    (["l", "letter"], letter),
    (["lc", "casedletter"], casedLetter),
    (["lu", "uppercaseletter"], table Properties.uppercaseLetter),
    (["ll", "lowercaseletter"], table Properties.lowercaseLetter),
    (["lt", "titlecaseletter"], table Properties.titlecaseLetter),
    (["lm", "modifierletter"], table Properties.modifierLetter),
    (["lo", "otherletter"], table Properties.otherLetter),
    (["m", "mark", "combiningmark"], mark),
    (["mn", "nonspacingmark"], table Properties.nonspacingMark),
    (["mc", "spacingmark"], table Properties.spacingMark),
    (["me", "enclosingmark"], table Properties.enclosingMark),
    (["n", "number"], number),
    (["nd", "decimalnumber", "digit"], table Properties.decimalNumber),
    (["nl", "letternumber"], table Properties.letterNumber),
    (["no", "othernumber"], table Properties.otherNumber),
    (["p", "punctuation", "punct"], punctuation),
    (["pc", "connectorpunctuation"], table Properties.connectorPunctuation),
    (["pd", "dashpunctuation"], table Properties.dashPunctuation),
    (["ps", "openpunctuation"], table Properties.openPunctuation),
    (["pe", "closepunctuation"], table Properties.closePunctuation),
    (["pi", "initialpunctuation"], table Properties.initialPunctuation),
    (["pf", "finalpunctuation"], table Properties.finalPunctuation),
    (["po", "otherpunctuation"], table Properties.otherPunctuation),
    (["s", "symbol"], symbol),
    (["sm", "mathsymbol"], table Properties.mathSymbol),
    (["sc", "currencysymbol"], table Properties.currencySymbol),
    (["sk", "modifiersymbol"], table Properties.modifierSymbol),
    (["so", "othersymbol"], table Properties.otherSymbol),
    (["z", "separator"], separator),
    (["zs", "spaceseparator"], table Properties.spaceSeparator),
    (["zl", "lineseparator"], table Properties.lineSeparator),
    (["zp", "paragraphseparator"], table Properties.paragraphSeparator),
    (["c", "other"], other),
    (["cc", "control", "cntrl"], table Properties.control),
    (["cf", "format"], table Properties.format),
    (["cn", "unassigned"], unassigned),
    (["co", "privateuse"], table Properties.privateUse),
    (["cs", "surrogate"], none) ]

/-- The scripts, under their long and short names. -/
def scripts : List (List String × CharSet) :=
  [ (["latin", "latn"], table Properties.scriptLatin),
    (["greek", "grek"], table Properties.scriptGreek),
    (["cyrillic", "cyrl"], table Properties.scriptCyrillic),
    (["armenian", "armn"], table Properties.scriptArmenian),
    (["hebrew", "hebr"], table Properties.scriptHebrew),
    (["arabic", "arab"], table Properties.scriptArabic),
    (["devanagari", "deva"], table Properties.scriptDevanagari),
    (["thai"], table Properties.scriptThai),
    (["georgian", "geor"], table Properties.scriptGeorgian),
    (["hangul", "hang"], table Properties.scriptHangul),
    (["hiragana", "hira"], table Properties.scriptHiragana),
    (["katakana", "kana"], table Properties.scriptKatakana),
    (["han", "hani"], table Properties.scriptHan),
    (["common", "zyyy"], table Properties.scriptCommon) ]

/-- The properties that a character has or has not, under their names. -/
def binaries : List (List String × CharSet) :=
  [ (["alphabetic", "alpha"], table Properties.alphabetic),
    (["lowercase", "lower"], table Properties.lowercase),
    (["uppercase", "upper"], table Properties.uppercase),
    (["whitespace", "wspace", "space"], property Blank.isBlank),
    (["emoji"], table Properties.emoji) ]

/-- A property name without case, blanks, hyphens, underscores and a leading `is`. -/
def normalized (name : String) : String :=
  let kept := (Lowercase.asciiLower name).toList.filter fun c => c != ' ' && c != '-' && c != '_'
  match kept with
  | 'i' :: 's' :: rest => if rest = ['c'] then "isc" else String.ofList rest
  | _ => String.ofList kept

/-- The set that is listed under a name. -/
def lookup? (sets : List (List String × CharSet)) (name : String) : Option CharSet :=
  (sets.find? fun entry => entry.1.contains name).map Prod.snd

/-- The set of a property, category or script that stands alone. -/
def named? (name : String) : Option CharSet :=
  lookup? (binaries ++ categories ++ scripts) (normalized name)

/-- The set of a value of a property: a general category, or a script. -/
def valued? (name value : String) : Option CharSet :=
  match normalized name with
  | "gc" | "generalcategory" => lookup? categories (normalized value)
  | "sc" | "script" => lookup? scripts (normalized value)
  | _ => Option.none

end RuleSchema.CharSet
