import RuleSchema.Yaml.Token

/-!
# Nodes of a YAML document

Tokens become a tree of scalars, sequences, mappings and aliases, with tags in
full and anchors as numbers.  An anchor is numbered by how many different names
have been anchored so far, so a name that is anchored again may share its number
with the next new name; an alias stands for the last node of its number.
-/

namespace RuleSchema.Yaml

/-- A node of a document, with its tag in full and its anchor. -/
inductive Node where
  | scalar (tag : Option String) (anchor : Option Nat) (text : String) (isPlain : Bool)
  | sequence (tag : Option String) (anchor : Option Nat) (items : List Node)
  | mapping (tag : Option String) (anchor : Option Nat) (entries : List (Node × Node))
  | alias (anchor : Nat)
  deriving Inhabited

namespace Node

/-- The empty scalar, where a node is left out. -/
def missing : Node := .scalar none none "" true

/-- The state of building nodes. -/
structure Build where
  tokens : List Token
  /-- Anchored names with their current numbers. -/
  anchors : List (String × Nat)
  /-- Tag handles and what they stand for. -/
  handles : List (String × String)

/-- A step of building nodes; it fails on tokens that fit no rule. -/
abbrev Step := StateT Build Option

/-- The next token; after the last it stays the end of the stream. -/
def peek : Step Token := do
  return (← get).tokens.headD .streamEnd

/-- Step over the next token. -/
def advance : Step Unit :=
  modify fun build => { build with tokens := build.tokens.drop 1 }

/-- Number an anchored name. -/
def declare (name : Option String) : Step (Option Nat) := do
  match name with
  | none => return none
  | some name =>
      let build ← get
      let number := build.anchors.length
      let others := build.anchors.filter (fun entry => entry.1 != name)
      set { build with anchors := (name, number) :: others }
      return some number

/-- The tag of a handle and a suffix. -/
def resolveTag (handle suffix : String) : Step String := do
  if handle.isEmpty then return suffix
  match (← get).handles.lookup handle with
  | some expansion => return expansion ++ suffix
  | none => failure

/-- An anchor in front of a node. -/
def anchor? : Step (Option String) := do
  match ← peek with
  | .anchor name => advance; return some name
  | _ => return none

/-- A tag in front of a node. -/
def tag? : Step (Option String) := do
  match ← peek with
  | .tag handle suffix => advance; return some (← resolveTag handle suffix)
  | _ => return none

/-- Anchor and tag in front of a node, in either order. -/
def properties : Step (Option String × Option String) := do
  match ← anchor? with
  | some name => return (some name, ← tag?)
  | none =>
      match ← tag? with
      | some tag => return (← anchor?, some tag)
      | none => return (none, none)

/-- Whether a token cannot start the value or key it was expected to start. -/
def endsEntry : Token → Bool
  | .key | .value | .blockEnd => true
  | _ => false

/-- Whether a token ends an item of a block sequence without indentation. -/
def endsItem : Token → Bool
  | .blockEntry => true
  | token => endsEntry token

/-- Whether a token ends an entry inside brackets. -/
def endsInBrackets : Token → Bool
  | .flowEntry | .flowSequenceEnd => true
  | _ => false

/-- Whether a token ends an entry inside braces. -/
def endsInBraces : Token → Bool
  | .flowEntry | .flowMappingEnd => true
  | _ => false

mutual

/-- A node; block collections only where `block` allows them. -/
def node (fuel : Nat) (block indentless : Bool) : Step Node :=
  match fuel with
  | 0 => failure
  | fuel + 1 => do
      match ← peek with
      | .alias name =>
          advance
          match (← get).anchors.lookup name with
          | some number => return .alias number
          | none => failure
      | _ =>
          let (name, tag) ← properties
          let token ← peek
          let anchor ← declare name
          match token with
          | .scalar text isPlain => advance; return .scalar tag anchor text isPlain
          | .flowSequenceStart =>
              advance
              return .sequence tag anchor (← flowItems fuel true)
          | .flowMappingStart =>
              advance
              return .mapping tag anchor (← flowEntries fuel true)
          | _ =>
              if token == .blockEntry && indentless then
                return .sequence tag anchor (← indentlessItems fuel)
              else if token == .blockSequenceStart && block then
                advance
                return .sequence tag anchor (← blockItems fuel)
              else if token == .blockMappingStart && block then
                advance
                return .mapping tag anchor (← blockEntries fuel)
              else if tag.isSome || name.isSome then return .scalar tag anchor "" true
              else failure

/-- A node, or nothing in front of a token that ends it. -/
def nodeUnless (fuel : Nat) (ends : Token → Bool) (block indentless : Bool) : Step Node :=
  match fuel with
  | 0 => failure
  | fuel + 1 => do
      if ends (← peek) then return missing else node fuel block indentless

/-- Items of an indented block sequence. -/
def blockItems (fuel : Nat) : Step (List Node) :=
  match fuel with
  | 0 => failure
  | fuel + 1 => do
      match ← peek with
      | .blockEntry =>
          advance
          let item ← nodeUnless fuel
            (fun token => token == .blockEntry || token == .blockEnd) true false
          return item :: (← blockItems fuel)
      | .blockEnd => advance; return []
      | _ => failure

/-- Items of a block sequence at the column of the key it belongs to. -/
def indentlessItems (fuel : Nat) : Step (List Node) :=
  match fuel with
  | 0 => failure
  | fuel + 1 => do
      match ← peek with
      | .blockEntry =>
          advance
          let item ← nodeUnless fuel endsItem true false
          return item :: (← indentlessItems fuel)
      | _ => return []

/-- Entries of a block mapping. -/
def blockEntries (fuel : Nat) : Step (List (Node × Node)) :=
  match fuel with
  | 0 => failure
  | fuel + 1 => do
      match ← peek with
      | .key =>
          advance
          let key ← nodeUnless fuel endsEntry true true
          let value ← blockValue fuel
          return (key, value) :: (← blockEntries fuel)
      | .blockEnd => advance; return []
      | _ => failure

/-- The value of a block mapping entry. -/
def blockValue (fuel : Nat) : Step Node :=
  match fuel with
  | 0 => failure
  | fuel + 1 => do
      match ← peek with
      | .value =>
          advance
          nodeUnless fuel endsEntry true true
      | _ => return missing

/-- Items of a bracketed sequence; each but the first follows a comma. -/
def flowItems (fuel : Nat) (isFirst : Bool) : Step (List Node) :=
  match fuel with
  | 0 => failure
  | fuel + 1 => do
      match ← peek with
      | .flowSequenceEnd => advance; return []
      | token =>
          if !isFirst then
            if token == .flowEntry then advance else failure
          match ← peek with
          | .key =>
              advance
              let entry ← flowPair fuel
              return .mapping none none [entry] :: (← flowItems fuel false)
          | .flowSequenceEnd => advance; return []
          | _ =>
              let item ← node fuel false false
              return item :: (← flowItems fuel false)

/-- A single pair inside brackets; a key left out costs the token after it. -/
def flowPair (fuel : Nat) : Step (Node × Node) :=
  match fuel with
  | 0 => failure
  | fuel + 1 => do
      let token ← peek
      if token == .value || endsInBrackets token then
        advance
        return (missing, ← flowValue fuel endsInBrackets)
      else
        let key ← node fuel false false
        return (key, ← flowValue fuel endsInBrackets)

/-- The value after a key inside brackets or braces. -/
def flowValue (fuel : Nat) (ends : Token → Bool) : Step Node :=
  match fuel with
  | 0 => failure
  | fuel + 1 => do
      match ← peek with
      | .value =>
          advance
          nodeUnless fuel ends false false
      | _ => return missing

/-- Entries of a braced mapping; each but the first follows a comma. -/
def flowEntries (fuel : Nat) (isFirst : Bool) : Step (List (Node × Node)) :=
  match fuel with
  | 0 => failure
  | fuel + 1 => do
      match ← peek with
      | .flowMappingEnd => advance; return []
      | token =>
          if !isFirst then
            if token == .flowEntry then advance else failure
          match ← peek with
          | .key =>
              advance
              let key ← nodeUnless fuel
                (fun token => token == .value || endsInBraces token) false false
              let value ← flowValue fuel endsInBraces
              return (key, value) :: (← flowEntries fuel false)
          | .flowMappingEnd => advance; return []
          | _ =>
              let key ← node fuel false false
              return (key, missing) :: (← flowEntries fuel false)

end

/-- The tag handles of a document without directives. -/
def defaultHandles : List (String × String) :=
  [("!", "!"), ("!!", "tag:yaml.org,2002:")]

/-- Directives in front of a document: at most one version, each handle at most once. -/
def directives (versioned : Bool) (handles : List (String × String)) :
    List Token → Option (List (String × String) × List Token)
  | .version major minor :: rest =>
      if versioned || major != 1 || (minor != 1 && minor != 2) then none
      else directives true handles rest
  | .tagHandle handle expansion :: rest =>
      if handles.any (fun entry => entry.1 == handle) then none
      else directives versioned (handles ++ [(handle, expansion)]) rest
  | tokens => some (handles ++ defaultHandles, tokens)

/-- Whether nothing stands between a document marker and a token. -/
def endsContent : Token → Bool
  | .version .. | .tagHandle .. | .documentStart | .documentEnd | .streamEnd => true
  | _ => false

/-- Whether only document ends follow up to the end of the stream. -/
def atStreamEnd (tokens : List Token) : Bool :=
  tokens.dropWhile (· == .documentEnd) == [.streamEnd]

/-- Build the root node and ask that nothing follows it. -/
def rootOf? (handles : List (String × String)) (ends : Token → Bool) (tokens : List Token) :
    Option Node :=
  match (nodeUnless (4 * tokens.length + 8) ends true false).run ⟨tokens, [], handles⟩ with
  | some (root, build) => if atStreamEnd build.tokens then some root else none
  | none => none

/-- The single document of a token list; `some none` where there is none at all. -/
def ofTokens? (tokens : List Token) : Option (Option Node) :=
  match tokens with
  | [.streamEnd] => some none
  | .version .. :: _ | .tagHandle .. :: _ | .documentStart :: _ =>
      match directives false [] tokens with
      | some (handles, .documentStart :: content) => (rootOf? handles endsContent content).map some
      | _ => none
  | _ => (rootOf? defaultHandles (fun _ => false) tokens).map some

mutual

/-- The number of parts of a node, a collection counting its start and its end. -/
def parts : Node → Nat
  | .scalar .. | .alias _ => 1
  | .sequence _ _ items => partsOfItems items + 2
  | .mapping _ _ entries => partsOfEntries entries + 2

/-- The nodes in the items of a sequence. -/
def partsOfItems : List Node → Nat
  | [] => 0
  | item :: rest => parts item + partsOfItems rest

/-- The nodes in the keys and values of a mapping. -/
def partsOfEntries : List (Node × Node) → Nat
  | [] => 0
  | (key, value) :: rest => parts key + parts value + partsOfEntries rest

end

/-- A node under its anchor number, if it has one. -/
def ownAnchor (anchor : Option Nat) (self : Node) : List (Nat × Node) :=
  match anchor with
  | some number => [(number, self)]
  | none => []

mutual

/-- The anchored nodes in the order in which they start. -/
def anchored : Node → List (Nat × Node)
  | .scalar tag anchor text isPlain => ownAnchor anchor (.scalar tag anchor text isPlain)
  | .alias _ => []
  | .sequence tag anchor items =>
      ownAnchor anchor (.sequence tag anchor items) ++ anchoredItems items
  | .mapping tag anchor entries =>
      ownAnchor anchor (.mapping tag anchor entries) ++ anchoredEntries entries

/-- The anchored nodes in the items of a sequence. -/
def anchoredItems : List Node → List (Nat × Node)
  | [] => []
  | item :: rest => anchored item ++ anchoredItems rest

/-- The anchored nodes in the keys and values of a mapping. -/
def anchoredEntries : List (Node × Node) → List (Nat × Node)
  | [] => []
  | (key, value) :: rest => anchored key ++ anchored value ++ anchoredEntries rest

end

end Node

end RuleSchema.Yaml
