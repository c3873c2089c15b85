-- SUMMARY: The program itself: it takes the workspace from the file system, runs on it, and puts back what has changed.
import Flaky.CommandLine
import Flaky.Shell.Spawn

/-!
# The program

The disk that the program works on is a copy of the workspace. When the program
is done, the files that differ are written back.
-/

namespace Flaky.Program

/-- The path of a place. -/
def pathOf (place : Location) : String := "/" ++ String.intercalate "/" place

/-- The names in a directory, each with whether it is a directory. -/
def childrenOf (place : Location) : IO (List (String × Bool)) := do
  let directory := (← IO.currentDir) / pathOf place
  let children ← directory.readDir
  children.toList.mapM fun child => return (child.fileName, ← child.path.isDir)

/-! ## Taking the workspace -/

/-- The entries below a directory. What cannot be read is left out. -/
partial def entriesBelow (place : Location) : IO (List (Location × Entry)) := do
  let children ← try childrenOf place catch _ => pure []
  let mut found := []
  for (name, isDirectory) in children do
    let inner := place ++ [name]
    if isDirectory then
      found := (← entriesBelow inner).reverse ++ (inner, Entry.directory) :: found
    else
      try
        let content ← IO.FS.readBinFile (pathOf inner)
        found := (inner, Entry.file content.toList) :: found
      catch _ => pure ()
  return found.reverse

/-- The directories on the way to a place. -/
def ancestors (place : Location) : List (Location × Entry) :=
  ((List.range place.length).map fun n => (place.take (n + 1), Entry.directory))

/-- Everything below a path, or the file that it is. -/
def entriesAt (place : Location) : IO (List (Location × Entry)) := do
  let above := ancestors place.dropLast
  try
    let content ← IO.FS.readBinFile (pathOf place)
    return above ++ [(place, .file content.toList)]
  catch _ =>
    try
      let _ ← childrenOf place
      return above ++ (place, .directory) :: (← entriesBelow place)
    catch _ => return []

def devices : List (Location × Entry) :=
  [(["dev"], .directory), (["dev", "null"], .sink), (["dev", "full"], .fullDevice)]

/-- A disk with everything below some paths. -/
def takeDisk (current : Location) (paths : List String) : IO Disk := do
  let mut disk : Disk := { Disk.blank with workingDirectory := current }
  for path in paths do
    let start := if Path.isAbsolute path then [] else current
    let place := start ++ (Disk.names path).filter fun name => name != "."
    for (place, entry) in ← entriesAt place do
      disk := disk.set place entry
  for (place, entry) in devices do
    disk := disk.set place entry
  return disk

/-- The paths that a request is about. -/
def pathsOf (request : CommandLine.Request) : List String :=
  match request with
  | .run options => ["."] ++ options.workspaceRoot.toList ++ options.configFile.toList
  | .showRunLog directory => [directory]
  | .seed _ _ => []

/-! ## Putting it back -/

def putEntry (place : Location) : Entry → IO Unit
  | .directory => IO.FS.createDirAll (pathOf place)
  | .file content => IO.FS.writeBinFile (pathOf place) ⟨content.toArray⟩
  | .fullDevice | .sink => return ()

def removeEntry (place : Location) : Entry → IO Unit
  | .directory => IO.FS.removeDirAll (pathOf place)
  | .file _ => IO.FS.removeFile (pathOf place)
  | .fullDevice | .sink => return ()

/-- Make the file system differ as the second disk differs from the first. -/
def putBack (before after : Disk) : IO Unit := do
  for (place, entry) in before.entries do
    if (after.entry? place).isNone then
      try removeEntry place entry catch _ => pure ()
  for (place, entry) in after.entries do
    if before.entry? place != some entry then putEntry place entry

/-! ## Circumstances -/

/-- A random word. -/
def randomWord : IO UInt64 := do
  return (← IO.getRandomBytes 8).toList.foldl (fun word b => word * 256 + b.toUInt64) 0

/-- The milliseconds since the start of 1970, as the file system tells them. -/
def milliseconds : IO Nat := do
  IO.FS.withTempFile fun _ path => do
    let modified := (← path.metadata).modified
    return modified.sec.toNat * 1000 + modified.nsec.toNat / 1000000

def circumstances (started : Nat) : IO Circumstances := do
  let high ← randomWord
  let low ← randomWord
  let fresh := fun n : Nat => Uuid.ofWords (Seed.mix (high + UInt64.ofNat n)) (Seed.mix (low + UInt64.ofNat n))
  return {
    runId := fresh 0
    roundId := fun n => fresh (n + 1)
    startedAt := Timestamp.ofEpoch (← milliseconds)
    elapsed := (← IO.monoMsNow) - started }

/-- The variables that the program knows. -/
def variableNames : List String :=
  ["FLAKEHUNT_PROFILE", "FLAKEHUNT_VERBOSE", "FLAKEHUNT_COLOR", "FLAKEHUNT_LOG"]

def takeVariables : IO (List (String × String)) := do
  let values ← variableNames.mapM fun name => return (name, ← IO.getEnv name)
  return values.filterMap fun (name, value) => value.map (name, ·)

/-! ## The program -/

def runProgram (args : List String) : IO UInt8 := do
  let started ← IO.monoMsNow
  let environment ← takeVariables
  let lookup := fun name : String => environment.lookup name
  let current := toString (← IO.currentDir)
  let paths := match CommandLine.readArguments lookup args with
    | .ok invocation => pathsOf invocation.request
    | .error _ => []
  let disk ← takeDisk (Disk.names current) paths
  let completion := CommandLine.execute
    { arguments := args
      environment := lookup
      currentDirectory := .ok current
      disk := disk
      spawn := Shell.spawn environment
      circumstances := ← circumstances started
      outputFault := none
      errorsFault := none }
  IO.print completion.output
  IO.eprint completion.errors
  putBack disk completion.disk
  return completion.exitCode.number

end Flaky.Program

def main (args : List String) : IO UInt32 := do
  return (← Flaky.Program.runProgram args).toUInt32
