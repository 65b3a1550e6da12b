import EntityProjection.CommandLine.Program

/-!
# The command line

Reads from the disk what the arguments name, runs the program on it, and puts into effect what the
run leaves behind.
-/

open EntityProjection

/-- The place on the disk that some names lead to from the root. -/
def entryAt (place : List String) : IO.FS.DirEntry :=
  ⟨"/", "/".intercalate place⟩

/-- The files and directories from a place on. -/
partial def readTree (place : List String) : IO FileTree := do
  let path := (entryAt place).path
  if ← path.isDir then
    let mut entries := []
    for entry in ← path.readDir do
      entries := (entry.fileName, ← readTree (place ++ [entry.fileName])) :: entries
    return .directory entries
  else
    return .file (← IO.FS.readBinFile path)

/-- The disk with what the parts of a path lead to, as far as they lead anywhere; the last of them is
read with all that is in it if so asked for. -/
def readParts (deep : Bool) (disk : Disk) (place : List String) : List String → IO Disk
  | [] => do
    if deep && disk.directoryAt place then return disk.put place (← readTree place)
    else return disk
  | part :: parts => do
    let next := Disk.step place part
    let path := (entryAt next).path
    if (disk.at? next).isSome then readParts deep disk next parts
    else if ← path.isDir then readParts deep (disk.put next .empty) next parts
    else if ← path.pathExists then
      let content ← IO.FS.readBinFile path
      readParts deep (disk.put next (.file content)) next parts
    else return disk

/-- The disk with what a path leads to. -/
def readPath (deep : Bool) (disk : Disk) (path : String) : IO Disk :=
  readParts deep disk (disk.start path) (pathParts path)

/-- The paths that a command names, the first of which is read with all that is in it. -/
def Command.paths : Command → String × List String
  | .generate r => (r.input,
      joinPath r.input settingsFileName :: r.settings.toList ++ r.output.toList)
  | .lint r => (r.input, joinPath r.input settingsFileName :: r.settings.toList)
  | .graph r => (r.input, [])

/-- The part of the disk that a command is about. -/
def readDisk (command : Command) : IO Disk := do
  let current := pathParts (← IO.currentDir).toString
  let disk ← readParts false {} [] current
  let (input, others) := Command.paths command
  let disk ← readPath true { disk with current } input
  others.foldlM (readPath false) disk

/-- Writes a file that a run has changed. -/
def writeFile (f : FileTree.PlacedFile) : IO Unit := do
  IO.FS.createDirAll (entryAt f.place.dropLast).path
  IO.FS.writeBinFile (entryAt f.place).path f.content

/-- Puts into effect what a run leaves behind. -/
def finish (before : Disk) (run : ProgramRun) : IO UInt32 := do
  for warning in run.warnings do
    IO.eprintln warning
  for line in run.log do
    IO.eprintln line.compact
  for f in before.root.changedFiles run.disk.root do
    writeFile f
  IO.print run.printed
  if let some failure := run.failure then
    IO.eprintln failure.line
  return run.exitCode.toUInt32

/-- Shows how the program is used. -/
def showUsage (run : ProgramRun) : IO UInt32 := do
  let text := "\n".intercalate usageLines
  if run.exitCode == 0 then IO.println text else IO.eprintln text
  return run.exitCode.toUInt32

/-- The program. -/
def main (arguments : List String) : IO UInt32 := do
  match Invocation.parse arguments with
  | .error _ => showUsage (runProgram {} (fun _ => none) arguments)
  | .ok i =>
    let disk ← readDisk i.command
    let names := ["ETG_LOG_LEVEL", "ETG_LOG_FORMAT", "ETG_LOG_FILTER", "ETG_LOG_LOCATION",
      "RUST_LOG"]
    let values ← names.mapM fun name => do return (name, ← IO.getEnv name)
    finish disk (runInvocation disk (fun name => (values.lookup name).join) i)
