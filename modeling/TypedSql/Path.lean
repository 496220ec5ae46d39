/-!
# Paths

Paths are texts whose parts stand between slashes. A path that starts with a slash is absolute.
-/

namespace TypedSql.Path

/-- Whether a path starts at the root of all files. -/
def isAbsolute (path : String) : Bool := path.startsWith "/"

/-- A path as seen from a directory. An absolute path does not depend on the directory. -/
def join (base path : String) : String :=
  if isAbsolute path || base = "" then path
  else if base.endsWith "/" then base ++ path
  else base ++ "/" ++ path

/-- The parts of a path. An empty part stands for a slash without a name at one of its sides. -/
def parts (path : String) : List String := path.splitOn "/"

/-- Takes the slashes, and the parts that stay where they are, from the end of a path that is
given backwards. One slash in front of all stays. -/
def trimReversed : List Char → List Char
  | ['/'] => ['/']
  | '/' :: cs => trimReversed cs
  | '.' :: '/' :: cs => trimReversed ('/' :: cs)
  | cs => cs

/-- The directory of a file: what stands before its name. -/
def parent (path : String) : String :=
  String.ofList (trimReversed (path.toList.reverse.dropWhile (· ≠ '/'))).reverse

/-- The extension of the last part of a path: what follows the last period, unless the part starts
with it. -/
def extension? (path : String) : Option String :=
  let name := path.toList.reverse.takeWhile (· ≠ '/')
  match name.dropWhile (· ≠ '.') with
  | _ :: _ :: _ => some (String.ofList (name.takeWhile (· ≠ '.')).reverse)
  | _ => none

end TypedSql.Path
