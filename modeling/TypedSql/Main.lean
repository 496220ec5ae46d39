import TypedSql.CommandLine.Run

/-!
# The program

Runs command lines on the files of the machine.
-/

namespace TypedSql

/-- The reason of a failed operation. -/
def fileError : IO.Error → FileError
  | .noFileOrDirectory .. => .notFound
  | .inappropriateType _ 20 _ => .notDirectory
  | .inappropriateType _ 21 _ => .isDirectory
  | e => .other (toString e)

/-- Runs an operation on files, and catches its failure. -/
def guarded {α : Type} (action : IO α) : IO (Except FileError α) := do
  try return .ok (← action)
  catch e => return .error (fileError e)

/-- The shape of what there is at a path below a folder. -/
partial def treeBelow (folder path : String) : IO (FileTree Unit) := do
  let place := (← IO.FS.realPath folder) / path
  let entries ← place.readDir
  let mut shapes := []
  for entry in entries do
    let below := Path.join path entry.fileName
    match (← entry.path.symlinkMetadata).type with
    | .dir => shapes := (entry.fileName, ← treeBelow folder below) :: shapes
    | .file => shapes := (entry.fileName, .file ()) :: shapes
    | _ => pure ()
  return .folder shapes

/-- The files of the machine. -/
def machine : FileSystem IO where
  current := do return toString (← IO.currentDir)
  kind? path := do
    try
      match (← (← IO.FS.realPath path).metadata).type with
      | .file => return some .file
      | .dir => return some .folder
      | _ => return some .special
    catch _ => return none
  tree path := guarded (treeBelow path "")
  read path := guarded (IO.FS.readFile path)
  write path text := guarded (IO.FS.writeFile path text)

end TypedSql

/-- Carries out the command line. -/
def main (args : List String) : IO UInt32 := do
  let outcome ← TypedSql.CommandLine.run TypedSql.machine args
  IO.eprint outcome.printed.remarks
  IO.print outcome.printed.output
  return outcome.status.toUInt32
