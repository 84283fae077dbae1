/-
**The program.**

The program runs a command line on the files of this machine. It has no way to services, so that it
resolves explicit lists of databases and generates job files, and states a fault for all else.

* `main`: read what the run needs, run it, and carry out what it did.
-/

import FleetSchema.CommandLine

namespace FleetSchema.Program

/-- The variables that settings and credentials come from. -/
def variableNames : List String := [
  "KSCHEMA_WORK_DIR", "KSCHEMA_DELTA_KUSTO_BIN", "KSCHEMA_WEBHOOK_TIMEOUT",
  "KSCHEMA_REGISTRY_RETRIES", "KSCHEMA_LOG_LEVEL", "AZURE_TENANT_ID", "AZURE_CLIENT_ID",
  "AZURE_CLIENT_SECRET"]

/-- The variables that are set. -/
def readVariables : IO Variables :=
  variableNames.filterMapM fun name => do return (← IO.getEnv name).map fun value => (name, value)

/-- The fault of everything that lies beyond this machine. -/
def outOfReach : Fault :=
  .defect (.reported ⟨"OutOfReach", { management := true, system := true }, "no service in reach"⟩)

/-- A tree with a directory at a place and at all places above it. -/
def withDirectories (tree : FileTree) (place : Place) : FileTree :=
  (List.range place.length).foldl (fun tree count =>
    let above := place.take (count + 1)
    if (tree.find? above).isSome then tree
    else tree.insert above (.directory FileTree.openMode)) tree

/-- A tree with a file and the directories above it. -/
def withFile (tree : FileTree) (place : Place) (bytes : List UInt8) : FileTree :=
  (withDirectories tree place.dropLast).insert place (.file FileTree.freshMode bytes)

/-- The place that a path names from a directory. -/
def placeOf (home : Path) (path : Path) : Place := FileTree.settleNames (home.join path).parts

/-- A tree with the file at a path, if it can be read. -/
def addFile (home : Path) (tree : FileTree) (name : String) : IO FileTree := do
  try
    let bytes ← IO.FS.readBinFile (home.join (.ofText name)).toText
    return withFile tree (placeOf home (.ofText name)) bytes.toList
  catch _ => return tree

/-- A tree with the names of the files in a directory, if it can be read. -/
def addNames (home : Path) (tree : FileTree) (directory : Path) : IO FileTree := do
  try
    let found ← ((← IO.currentDir) / (home.join directory).toText).readDir
    return found.foldl (fun tree entry =>
      withFile tree (placeOf home directory ++ [entry.fileName]) []) tree
  catch _ => return tree

/-- The rights of a file that only its owner reads and writes; it may hold a secret. -/
def ownerRights : IO.FileRight := { user := { read := true, write := true } }

/-- Write the files that a run added to a tree. -/
def writeNew (before after : FileTree) : IO Unit := do
  for (place, entry) in after.entries do
    if let .file _ bytes := entry then
      if (before.find? place).isNone then
        IO.FS.createDirAll (Path.mk "/" place.dropLast).toText
        IO.FS.writeBinFile (Path.mk "/" place).toText ⟨bytes.toArray⟩
        IO.setAccessRights (Path.mk "/" place).toText ownerRights

/-- What a line of the console says. -/
def lineText : ConsoleLine → List String
  | .print markup => [markup]
  | .table table => table.title :: table.rows.map fun cells => " | ".intercalate cells
  | .statusBegin message => [message]
  | .statusEnd => []
  | .prompt _ message _ => [message]
  | .rejected .. => []

/-- Print what a run did. -/
def report (events : List Event) : IO Unit := do
  for event in events do
    match event with
    | .console line => for text in lineText line do IO.println text
    | .log record => IO.eprintln (Diagnostics.line record.logger record.message)
    | .call _ => pure ()

/-- The code of a run; a fault that nobody expected is printed. -/
def finish (outcome : Except Stop Unit) : IO UInt32 := do
  if let .error (.fault fault) := outcome then IO.eprintln fault.message
  if let .error (.usage fault) := outcome then IO.eprintln (repr fault).pretty
  return UInt32.ofInt ((CommandLine.exitCode? outcome).getD Stop.failureCode)

end FleetSchema.Program

open FleetSchema FleetSchema.Program in
/-- Run a command line on the files of this machine. -/
def main (words : List String) : IO UInt32 := do
  let home := Path.ofText (← IO.currentDir).toString
  let passing := Path.ofText ((← IO.getEnv "TMPDIR").getD "/tmp")
  let surroundings := Surroundings.offline (← readVariables) passing outOfReach
  let work := surroundings.settings.workDirectory
  let start := withDirectories ⟨home.parts, []⟩ home.parts
  let start ← addFile home start ((CommandLine.schemaFile? words).getD "")
  let start ← addNames home start (work.join (.ofText "schemas"))
  let start ← addNames home start (work.join (.ofText "jobs"))
  let (outcome, session) := (CommandLine.run surroundings words).perform (.start start)
  report session.events
  writeNew start session.tree
  finish outcome
