-- SUMMARY: Starting commands in the built-in shell: which programs are there, and why others cannot be started.
import Flaky.Process
import Flaky.Shell

/-!
# Starting commands

The programs that can be started are the shell and its utilities. A file of the
disk is no program.
-/

namespace Flaky.Shell

def hasNul (text : String) : Bool := text.toList.contains (Char.ofNat 0)

def nulError : IoError := .other "nul byte found in provided data"

/-- What a program does, if it is one of those that can be started. -/
def program? (name : String) : Option (List String → Act Unit) :=
  let name := programName name
  if isShell name then some (startShell (execute levels))
  else (Utility.ofName? name).map (useUtility false)

/-- Why a program cannot be started. A relative path starts where the disk's paths start. -/
def startError (disk : Disk) (program : String) : IoError :=
  if program.toList.contains '/' then
    match disk.find program with
    | .ok _ => .permissionDenied
    | .error e => e
  else .notFound

/-- The variables of a process: those that it inherits, unless it has its own, and its own. -/
def processVariables (inherited own : List (String × String)) : List (String × String) :=
  (inherited.filter fun v => (own.lookup v.1).isNone) ++ own

/-- A shell that has just been started. -/
def Machine.start (given : List (String × String)) (disk : Disk) (directory : Location) : Machine where
  disk := { disk with workingDirectory := directory }
  bindings := given.map fun v => (v.1, Octets.ofText v.2)
  exported := given.map (·.1)
  name := "sh"
  arguments := []
  functions := []
  shadowed := []
  status := 0
  input := []
  output := .captured
  errors := .complaints
  captured := []
  complaints := []
  strict := false
  precise := false
  loops := 0
  line := 0
  process := 4711

/-- What a machine leaves behind. -/
def Machine.completed (m : Machine) (disk : Disk) (status : ExitStatus) : Completed where
  output := Octets.toBytes m.captured
  complaints := Octets.toBytes m.complaints
  status := status
  disk := { m.disk with workingDirectory := disk.workingDirectory }

/-- Let a program act to its end. -/
def complete (act : Act Unit) (m : Machine) (disk : Disk) : Completed :=
  match act m with
  | .error (.killed signal) m => m.completed disk (.signal signal)
  | .ok _ m | .error _ m => m.completed disk (.code m.status)

/-- The directory that a process is to work in. -/
def workplace (disk : Disk) (directory : String) : Except IoError Location :=
  match disk.locate directory with
  | .error e => .error e
  | .ok place =>
    match disk.entry? place with
    | none => .error .notFound
    | some .directory => .ok place
    | some _ => .error .notDirectory

/-- Run a command in the built-in shell. All commands inherit some variables. -/
def spawn (inherited : List (String × String)) : Spawner := fun launch disk =>
  let texts := launch.command.words ++ launch.environment.map (·.2)
  if texts.any hasNul then .error nulError
  else
    match workplace disk launch.directory, program? launch.command.program with
    | .error e, _ => .error e
    | .ok _, none => .error (startError disk launch.command.program)
    | .ok place, some act =>
      let m := Machine.start (processVariables inherited launch.environment) disk place
      .ok (complete (act (launch.command.args.map Octets.ofText)) m disk)

end Flaky.Shell
