import TypedSql.Path

/-!
# File systems

The operations on files that commands need, in any monad, and what can be told from a tree of files
alone. A tree with texts in it is a file system of its own, see `TypedSql.FileSystem.Memory`.
-/

namespace TypedSql

/-- Why an operation on a file fails. -/
inductive FileError where
  | notFound
  | notDirectory
  | isDirectory
  /-- Another reason, in words. -/
  | other (message : String)
  deriving DecidableEq

namespace FileError

/-- The reason in words. -/
def message : FileError → String
  | .notFound => "No such file or directory (os error 2)"
  | .notDirectory => "Not a directory (os error 20)"
  | .isDirectory => "Is a directory (os error 21)"
  | .other message => message

end FileError

/-- What there can be at a path. -/
inductive FileKind where
  | file
  | folder
  /-- Neither a file nor a folder, such as a device. -/
  | special
  deriving DecidableEq

/-- Files in folders, with something known about each file. -/
inductive FileTree (α : Type) where
  | file (contents : α)
  | folder (entries : List (String × FileTree α))
  deriving Inhabited

namespace FileTree

variable {α : Type}

/-- The kind of a tree. -/
def kind : FileTree α → FileKind
  | file _ => .file
  | folder _ => .folder

mutual

/-- The files with SQL text in a tree, by their extension. The entries of a folder come in the order
of their names, each folder with all that is in it. -/
def sqlFiles (path : String) : FileTree α → List String
  | file _ => if Path.extension? path = some "sql" then [path] else []
  | folder entries =>
    ((entriesFiles path entries).mergeSort fun a b => decide (a.1 ≤ b.1)).flatMap (·.2)

/-- The files with SQL text in each entry of a folder. -/
def entriesFiles (path : String) : List (String × FileTree α) → List (String × List String)
  | [] => []
  | (name, t) :: entries => (name, sqlFiles (Path.join path name) t) :: entriesFiles path entries

end

end FileTree

/-- Operations on files. -/
structure FileSystem (m : Type → Type) where
  /-- The directory that relative paths start from. -/
  current : m String
  /-- What there is at a path, if there is anything. -/
  kind? : String → m (Option FileKind)
  /-- All that is in a folder. -/
  tree : String → m (Except FileError (FileTree Unit))
  /-- The text of a file. -/
  read : String → m (Except FileError String)
  /-- Makes a text the text of a file. -/
  write : String → String → m (Except FileError Unit)

end TypedSql
