import PageMarkup.Command.Run

/-!
# The program

What a command looks at is read, the command is run, and what it has changed is written.
-/

open PageMarkup

namespace Program

/-- What is found at a path from the root. -/
def find (path : Path) : IO (Option Item) := do
  let file := (← IO.currentDir) / ("/" ++ path.text)
  if ← file.isDir then return some .folder
  if ← file.pathExists then return some (Item.ofBytes (← IO.FS.readBinFile file))
  return none

/-- A folder with what is found at a path and above it. -/
def look (path : Path) (files : Folder) : IO Folder := do
  let mut files := files
  for place in path.above ++ [path] do
    if let some item ← find place then
      files := files.place place item
  return files

/-- An environment with those of some variables that are set. -/
def learn (names : List String) (environment : Environment) : IO Environment := do
  let found ← names.filterMapM fun name => do
    return (← IO.getEnv name).map fun value => (name, value)
  return environment ++ found

/-- The surroundings that a request needs. -/
def surroundings (request : Command.Request) : IO Command.Surroundings := do
  let here := Path.ofText (← IO.currentDir).toString
  let environment ← learn ["HOME"] []
  let place : Command.Surroundings := ⟨[], here, environment⟩
  let some file := Command.firstFile? environment request | return place
  let place := { place with files := ← look (Path.resolve here file) place.files }
  let names := match place.item? file with
    | some (.text source) => Config.mentioned source
    | _ => []
  let place := { place with environment := ← learn names environment }
  let some document := Command.documentFile? place request | return place
  return { place with files := ← look document place.files }

/-- Write a file, with the folders that it needs. -/
def write (path content : String) : IO Unit := do
  let file := (← IO.currentDir) / ("/" ++ path)
  if let some parent := file.parent then
    IO.FS.createDirAll parent
  IO.FS.writeFile file content

end Program

/-- Run the program with the arguments of its command line. -/
def main (arguments : List String) : IO UInt32 := do
  let place ← Program.surroundings (Command.read arguments)
  let (outcome, _) := Command.answer place (Http.Connection.offline Unit) arguments ()
  for (path, content) in Folder.changes place.files outcome.files do
    Program.write path content
  IO.print outcome.output
  if let some entries := outcome.report then
    IO.eprintln (Json.array (entries.map Entry.toJson)).pretty
  if let some problem := outcome.problem then
    IO.eprintln ("Error: " ++ problem)
  return outcome.code.toUInt32
