/-!
# Files

The files that rules and configurations are read from and written to, as a value.
A store has a root directory, and in it a home directory from which relative paths
start.  A path is followed step by step: empty steps and `.` stay in a directory,
`..` leaves it, and every step but the last must have led to a directory.
-/

namespace RuleSchema

/-- A file with its text, or a directory. -/
inductive FileNode where
  | directory
  | file (text : String)
  deriving DecidableEq, Repr

/-- Why a place in the store cannot be read or written. -/
inductive FileFault where
  | missing
  | isDirectory
  | notADirectory
  deriving DecidableEq, Repr

/-- The text that the operating system has for a fault. -/
def FileFault.reason : FileFault → String
  | .missing => "No such file or directory (os error 2)"
  | .isDirectory => "Is a directory (os error 21)"
  | .notADirectory => "Not a directory (os error 20)"

/-- A place in a store: the names from the place up to the root directory. -/
abbrev FilePlace := List String

/-- The files and directories of a store, the latest first. -/
structure FileStore where
  nodes : List (FilePlace × FileNode)

namespace FileStore

/-- The place at which relative paths start. -/
def home : FilePlace := ["home"]

/-- A store of nothing but the root and the home directory. -/
def empty : FileStore := ⟨[(home, .directory), ([], .directory)]⟩

/-- What is at a place, if anything is. -/
def nodeAt? (store : FileStore) (place : FilePlace) : Option FileNode :=
  (store.nodes.find? (fun node => node.1 == place)).map Prod.snd

/-- Put a node at a place, over what was there. -/
def set (store : FileStore) (place : FilePlace) (node : FileNode) : FileStore :=
  ⟨(place, node) :: store.nodes⟩

/-- Follow the steps of a path from a place. -/
def follow (store : FileStore) : FilePlace → List String → Except FileFault FilePlace
  | place, [] => .ok place
  | place, step :: rest =>
      match store.nodeAt? place with
      | some .directory =>
          if step = "" ∨ step = "." then follow store place rest
          else if step = ".." then follow store place.tail rest
          else follow store (step :: place) rest
      | some (.file _) => .error .notADirectory
      | none => .error .missing

/-- The steps of a path, empty ones included. -/
def steps (path : String) : List String := path.splitOn "/"

/-- The place that a path leads to; nothing has to be there yet. -/
def place (store : FileStore) (path : String) : Except FileFault FilePlace :=
  if path.isEmpty then .error .missing
  else if path.startsWith "/" then follow store [] (steps path)
  else follow store home (steps path)

/-- What a path leads to, if it leads anywhere. -/
def node? (store : FileStore) (path : String) : Option FileNode :=
  match store.place path with
  | .ok place => store.nodeAt? place
  | .error _ => none

/-- Whether a path leads to a file or a directory. -/
def contains (store : FileStore) (path : String) : Bool := (store.node? path).isSome

/-- Whether a path leads to a file. -/
def hasFile (store : FileStore) (path : String) : Bool :=
  match store.node? path with
  | some (.file _) => true
  | _ => false

/-- Whether a path leads to a directory. -/
def hasDirectory (store : FileStore) (path : String) : Bool :=
  match store.node? path with
  | some .directory => true
  | _ => false

/-- The text of the file to which a path leads. -/
def read (store : FileStore) (path : String) : Except FileFault String :=
  match store.place path with
  | .error fault => .error fault
  | .ok place =>
      match store.nodeAt? place with
      | some (.file text) => .ok text
      | some .directory => .error .isDirectory
      | none => .error .missing

/-- Write a file, new or over an old one. -/
def write (store : FileStore) (path text : String) : Except FileFault FileStore :=
  match store.place path with
  | .error fault => .error fault
  | .ok place =>
      match store.nodeAt? place with
      | some .directory => .error .isDirectory
      | _ => .ok (store.set place (.file text))

/-- Make every directory on the way of a path, and the last one. -/
def makeDirectories (store : FileStore) (path : String) : FileStore :=
  ((steps path).foldl
    (fun (built, place) step =>
      if step = "" ∨ step = "." then (built, place)
      else if step = ".." then (built, place.tail)
      else
        let next := step :: place
        match built.nodeAt? next with
        | some _ => (built, next)
        | none => (built.set next .directory, next))
    (store, home)).1

/-- Write a file, making the directories it needs. -/
def put (store : FileStore) (path text : String) : FileStore :=
  let above := "/".intercalate (steps path).dropLast
  match (store.makeDirectories above).write path text with
  | .ok written => written
  | .error _ => store

end FileStore

end RuleSchema
