import TypedSql.Catalog.Directory
import TypedSql.FileSystem

/-!
# File systems in memory

A tree of texts as a file system. Paths lead from folder to folder, back through `..`, and only
through what exists.
-/

namespace TypedSql

namespace FileTree

variable {α : Type}

/-- The tree at a place, given by the names on the way to it. -/
def at? : List String → FileTree α → Option (FileTree α)
  | [], t => some t
  | _ :: _, file _ => none
  | name :: names, folder entries =>
    match entries.lookup name with
    | some t => t.at? names
    | none => none

/-- Puts a file at a place. Folders on the way that are missing are made. -/
def insert (contents : α) : List String → FileTree α → FileTree α
  | [], _ => file contents
  | name :: names, t =>
    let entries := match t with
      | file _ => []
      | folder entries => entries
    let child := (entries.lookup name).getD (folder [])
    folder (insertEntry name (child.insert contents names) entries)

mutual

/-- The tree without what is known about the files. -/
def shape : FileTree α → FileTree Unit
  | file _ => file ()
  | folder entries => folder (entryShapes entries)

/-- The shapes of the entries of a folder. -/
def entryShapes : List (String × FileTree α) → List (String × FileTree Unit)
  | [] => []
  | (name, t) :: entries => (name, t.shape) :: entryShapes entries

end

end FileTree

/-- A tree of texts, and the place in it that relative paths start from. -/
structure Memory where
  root : FileTree String
  current : List String

namespace Memory

/-- The path of a place. -/
def pathOf (place : List String) : String := "/" ++ String.intercalate "/" place

/-- The place that one part of a path leads to. Every part has to follow a folder. -/
def step (m : Memory) (place : List String) (part : String) : Except FileError (List String) :=
  match m.root.at? place with
  | some (.folder entries) =>
    if part = "" ∨ part = "." then .ok place
    else if part = ".." then .ok place.dropLast
    else if (entries.lookup part).isSome then .ok (place ++ [part])
    else .error .notFound
  | some (.file _) => .error .notDirectory
  | none => .error .notFound

/-- The place that a path starts from. -/
def start (m : Memory) (path : String) : List String :=
  if Path.isAbsolute path then [] else m.current

/-- The place of a path. -/
def place (m : Memory) (path : String) : Except FileError (List String) :=
  if path = "" then .error .notFound else (Path.parts path).foldlM m.step (m.start path)

/-- The tree at a path. -/
def find (m : Memory) (path : String) : Except FileError (FileTree String) := do
  let place ← m.place path
  match m.root.at? place with
  | some t => return t
  | none => throw .notFound

/-- The text of a file. -/
def read (m : Memory) (path : String) : Except FileError String := do
  match ← m.find path with
  | .file text => return text
  | .folder _ => throw .isDirectory

/-- Makes a text the text of a file. Its folder has to be there. -/
def write (m : Memory) (path text : String) : Except FileError Memory := do
  if path = "" then throw .notFound
  let parts := Path.parts path
  let place ← parts.dropLast.foldlM m.step (m.start path)
  let name := parts.getLastD ""
  match m.root.at? place with
  | some (.folder entries) =>
    if name = "" ∨ name = "." ∨ name = ".." then throw .isDirectory
    match entries.lookup name with
    | some (.folder _) => throw .isDirectory
    | _ => return { m with root := m.root.insert text (place ++ [name]) }
  | some (.file _) => throw .notDirectory
  | none => throw .notFound

/-- The operations on a tree that is kept as state. -/
def fileSystem : FileSystem (StateM Memory) where
  current := do return pathOf (← get).current
  kind? path := do return ((← get).find path).toOption.map FileTree.kind
  tree path := do return ((← get).find path).map FileTree.shape
  read path := do return (← get).read path
  write path text := do
    match (← get).write path text with
    | .ok m => set m; return .ok ()
    | .error e => return .error e

/-- Files given by their paths from the place that relative paths start from. -/
def ofFiles (current : List String) (files : List (String × String)) : Memory :=
  let empty : FileTree String := current.foldr (fun name t => .folder [(name, t)]) (.folder [])
  ⟨files.foldl (fun t (path, text) => t.insert text (current ++ Path.parts path)) empty, current⟩

end Memory

end TypedSql
