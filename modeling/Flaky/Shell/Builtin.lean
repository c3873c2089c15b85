-- SUMMARY: Commands that act on the shell itself: leaving, variables, arguments, directories, reading and signals.
import Flaky.Shell.Machine

/-!
# Commands of the shell
-/

namespace Flaky.Shell.Builtin

/-! ## Leaving -/

/-- The number that the first argument of a command is, or another one. -/
def count (command : String) (args : List String) (other : Nat) : Act Nat :=
  match args with
  | [] => return other
  | arg :: _ =>
    match Text.nat? arg.toList with
    | some n => return n
    | none => Act.abandon s!"{command}: Illegal number: {arg}"

/-- Leave with a status: the one that is asked for, or that of the last command. -/
def leave (command : String) (flow : Flow) (args : List String) : Act Unit := do
  let status ← count command args (← get).status
  Act.setStatus (status % 256)
  throw flow

/-- Leave a number of loops, or as many as there are. -/
def leaveLoops (command : String) (flow : (loops : Nat) → Flow) (args : List String) : Act Unit := do
  let loops ← count command args 1
  if loops = 0 then Act.abandon s!"{command}: Illegal number: {args.headD command}"
  Act.setStatus 0
  let m ← get
  if m.loops ≠ 0 then throw (flow (min loops m.loops))

/-! ## Variables and arguments -/

/-- The name and the value of an argument that assigns. -/
def assignment (arg : String) : String × Option String :=
  let name := arg.toList.takeWhile (· != '=')
  match arg.toList.drop name.length with
  | [] => (arg, none)
  | _ :: value => (String.ofList name, some (String.ofList value))

def exportOne (arg : String) : Act Unit :=
  modify fun m =>
    let (name, value) := assignment arg
    let m := match value with
      | some value => m.assign name value
      | none => m
    { m with exported := if m.exported.contains name then m.exported else m.exported ++ [name] }

def shadowOne (arg : String) : Act Unit :=
  modify fun m =>
    let (name, value) := assignment arg
    let m := { m with shadowed := (name, m.bindings.lookup name) :: m.shadowed }
    match value with
    | some value => m.assign name value
    | none => m

/-- Turn the options of some letters on or off. -/
def turn (on : Bool) (letters : List Char) : Act Unit :=
  modify fun m => { m with
    strict := if letters.contains 'e' then on else m.strict
    precise := if letters.contains 'u' then on else m.precise }

/-- Set options, and the arguments after them. -/
def setOptions : List String → Act Unit
  | [] => return ()
  | "--" :: args => modify fun m => { m with arguments := args }
  | arg :: rest =>
    match arg.toList with
    | '-' :: letters => do
      turn true letters
      setOptions rest
    | '+' :: letters => do
      turn false letters
      setOptions rest
    | _ => modify fun m => { m with arguments := arg :: rest }

def shift (args : List String) : Act Unit := do
  let n ← count "shift" args 1
  let m ← get
  if m.arguments.length < n then Act.abandon "shift: can't shift that many"
  else set { m with arguments := m.arguments.drop n, status := 0 }

/-! ## Directories and input -/

def changeDirectory (args : List String) : Act Unit := do
  let m ← get
  let target := args.headD ((m.value? "HOME").getD "")
  match m.disk.locate (Octets.toText target) with
  | .ok place =>
    if m.disk.isDirectoryAt place then
      set { m with disk := { m.disk with workingDirectory := place }, status := 0 }
    else Act.refuse s!"cd: can't cd to {target}" 2
  | .error _ => Act.refuse s!"cd: can't cd to {target}" 2

/-- Give names the fields of a line; the last name takes the rest. -/
def assignFields (separators : Separators) : List String → List Char → Act Unit
  | [], _ => return ()
  | [name], cs => modify fun m => m.assign name (String.ofList (separators.trim cs))
  | name :: rest, cs => do
    let cs := cs.dropWhile separators.isSoft
    let field := cs.takeWhile fun c => !separators.contains c
    let after := (cs.drop field.length).dropWhile separators.isSoft
    modify fun m => m.assign name (String.ofList field)
    assignFields separators rest (if after.head?.any separators.isHard then after.tail else after)

/-- Read a line of the input. -/
def readLine (args : List String) : Act Unit := do
  let m ← get
  let line := m.input.takeWhile (· != '\n')
  let rest := m.input.drop line.length
  set { m with input := rest.tail, status := if rest.isEmpty then 1 else 0 }
  assignFields m.separators (args.filter (· != "-r")) line

/-! ## Signals -/

def signals : List (String × Nat) :=
  [("HUP", 1), ("INT", 2), ("QUIT", 3), ("ILL", 4), ("TRAP", 5), ("ABRT", 6), ("BUS", 7), ("FPE", 8),
    ("KILL", 9), ("USR1", 10), ("SEGV", 11), ("USR2", 12), ("PIPE", 13), ("ALRM", 14), ("TERM", 15)]

/-- The number of a signal by its number or name. -/
def signal? (text : String) : Option Nat :=
  match Text.nat? text.toList with
  | some n => some n
  | none =>
    let text := text.map Char.toUpper
    signals.lookup (if text.startsWith "SIG" then (text.drop 3).toString else text)

/-- The signal and the processes that some arguments name. -/
def signalArguments? : List String → Option (Nat × List String)
  | "-s" :: name :: rest => (signal? name).map (·, rest)
  | arg :: rest =>
    match arg.toList with
    | '-' :: name => (signal? (String.ofList name)).map (·, rest)
    | _ => some (15, arg :: rest)
  | [] => none

/-- Send a signal; only the shell itself can be reached. -/
def kill (args : List String) : Act Unit := do
  let m ← get
  match signalArguments? args with
  | none => Act.refuse "kill: usage: kill [-s sigspec | -signum | -sigspec] [pid | job]..." 2
  | some (signal, processes) =>
    if processes.contains (toString m.process) then
      if signal = 0 then Act.setStatus 0 else throw (.killed signal)
    else Act.refuse "kill: No such process" 1

/-! ## Names -/

/-- A command of the shell by its name, if it needs no other command. -/
def ofName? (name : String) : Option (List String → Act Unit) :=
  match name with
  | "exit" => some (leave "exit" .exit)
  | "return" => some (leave "return" .returned)
  | "break" => some (leaveLoops "break" .broke)
  | "continue" => some (leaveLoops "continue" .continued)
  | "set" => some fun args => do setOptions args; Act.setStatus 0
  | "shift" => some shift
  | "export" => some fun args => do args.forM exportOne; Act.setStatus 0
  | "local" => some fun args => do args.forM shadowOne; Act.setStatus 0
  | "unset" => some fun args => do
    args.forM fun name => modify fun m => m.unset name
    Act.setStatus 0
  | "readonly" => some fun args => do
    args.forM fun arg => modify fun m =>
      match assignment arg with
      | (name, some value) => m.assign name value
      | (_, none) => m
    Act.setStatus 0
  | "wait" | "umask" => some fun _ => Act.setStatus 0
  | "cd" => some changeDirectory
  | "read" => some readLine
  | "kill" => some kill
  | _ => none

end Flaky.Shell.Builtin
