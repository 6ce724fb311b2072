import RuleSchema.Text.Lowercase

/-!
# File names

A path of the file system is a text with steps between slashes.  Empty steps count
for nothing, and neither does a step `.` behind another step; two texts that differ
only in such steps name the same path.
-/

namespace RuleSchema.FileName

/-- Whether a path starts at the root. -/
def isAbsolute (path : String) : Bool := path.startsWith "/"

/-- The steps of a path that count. -/
def steps (path : String) : List String :=
  match (path.splitOn "/").filter (fun step => !step.isEmpty) with
  | [] => []
  | first :: rest =>
      let others := rest.filter (· != ".")
      if isAbsolute path && first == "." then others else first :: others

/-- Whether two texts name the same path. -/
def same (left right : String) : Bool :=
  isAbsolute left == isAbsolute right && steps left == steps right

/-- The last step of a path; a path that ends in `..` has none. -/
def last? (path : String) : Option String :=
  match (steps path).getLast? with
  | some name => if name = ".." ∨ name = "." then none else some name
  | none => none

/-- What follows the last dot of the last step, unless that is its first character. -/
def extension? (path : String) : Option String :=
  match last? path with
  | none => none
  | some name =>
      let reversed := name.toList.reverse
      let stem := (reversed.dropWhile (· != '.')).drop 1
      if stem.isEmpty then none
      else some (String.ofList (reversed.takeWhile (· != '.')).reverse)

end RuleSchema.FileName
