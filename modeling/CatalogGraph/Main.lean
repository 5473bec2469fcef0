import CatalogGraph.Batch.Command

/-!
# The command on a machine

Runs the command on the files of the machine.
-/

namespace CatalogGraph.Batch

/-- What an action gives, unless it fails. -/
def unlessFailing {α : Type} (action : IO α) : IO (Option α) := do
  try
    let a ← action
    pure (some a)
  catch _ => pure none

/-- The names of what is in a folder of the machine. -/
def namesOnMachine (path : String) : IO (List String) := do
  let folder : IO.FS.DirEntry := ⟨path, ""⟩
  let entries ← folder.root.readDir
  pure (entries.toList.map (·.fileName))

/-- The files of the machine. -/
def machine : Storage IO where
  readFile? path := unlessFailing (IO.FS.readFile path)
  namesIn? path := unlessFailing (namesOnMachine path)
  makeFolder path := do pure (← unlessFailing (IO.FS.createDirAll path)).isSome
  writeFile path text := do pure (← unlessFailing (IO.FS.writeFile path text)).isSome

end CatalogGraph.Batch

/-- Does what the arguments ask for, and gives the exit status. -/
def main (arguments : List String) : IO UInt32 := do
  let result ← CatalogGraph.Batch.command CatalogGraph.Batch.machine arguments
  (← IO.getStdout).putStr result.printed
  match result.report with
  | some report => (← IO.getStderr).putStr (report ++ "\n")
  | none => pure ()
  pure result.status.toUInt32
