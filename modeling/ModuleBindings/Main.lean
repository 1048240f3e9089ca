import ModuleBindings.CommandLine.Run

/-!
# The command line

Reads the files below the working directory, runs the request and writes the files that are new.
-/

namespace ModuleBindings

/-- The tree of what is at a path. -/
partial def readTree (dir : IO.FS.DirEntry) : IO FileTree := do
  if ← dir.path.isDir then
    let entries ← dir.path.readDir
    let es ← entries.toList.mapM fun e => do pure (e.fileName, ← readTree e)
    pure (.directory es)
  else
    pure (.file (← IO.FS.readBinFile dir.path))

/-- Writes the files in which a tree differs from what is there. -/
def writeChanges (before after : FileTree) : IO Unit := do
  let dir ← IO.currentDir
  for (path, content) in before.changes after do
    let file := dir / path
    if let some parent := file.parent then
      IO.FS.createDirAll parent
    IO.FS.writeBinFile file content

end ModuleBindings

open ModuleBindings

def main (args : List String) : IO UInt32 := do
  match CommandLine.parse args with
  | .error e =>
    IO.eprintln ("error: " ++ e.message)
    return 2
  | .ok request =>
    let dir ← IO.currentDir
    let files ← readTree ⟨dir, ""⟩
    let outcome := request.outcome files
    writeChanges files outcome.files
    IO.print outcome.stdout
    IO.eprint outcome.stderr
    return outcome.exitCode.toUInt32
