-- SUMMARY: The shell: redirections, calls of functions, utilities and other shells, and whole scripts.
import Flaky.Shell.Builtin
import Flaky.Shell.Catalog
import Flaky.Shell.Expansion

/-!
# The shell

A small shell, enough for the scripts that drive engines and instrumentation.
What a script does inside itself, in functions, loops and inner commands, goes
one level down each time, and the number of levels is bounded: `execute depth`
is the shell with `depth` levels.
-/

namespace Flaky.Shell

section

variable (inner : (guarded : Bool) → Script → Act Unit)

/-! ## Redirections -/

/-- What is said of a path to which no output can go. -/
def refusal (disk : Disk) (name : String) : String :=
  if disk.isDirectory name then "Is a directory" else "Directory nonexistent"

/-- Where output to a file goes, once the file is open. -/
def openSink (keep : Bool) (path : String) : Act (Option Sink) := do
  let m ← get
  let name := Octets.toText path
  let opened := if keep && (m.disk.isFile name) then (.ok (), m.disk) else m.disk.create name
  match opened, m.disk.locate name with
  | (.ok (), disk), .ok place =>
    set { m with disk := disk }
    return some (.place place)
  | (.error _, _), _ | _, .error _ =>
    Act.refuse s!"cannot create {path}: {refusal m.disk name}" 2
    return none

def setSink (descriptor : Nat) (sink : Sink) : Act Unit :=
  modify fun m => if descriptor = 2 then { m with errors := sink } else { m with output := sink }

def openInput (path : String) : Act Bool := do
  let m ← get
  let name := Octets.toText path
  match m.disk.read name with
  | .ok content =>
    set { m with input := Octets.ofBytes content }
    return true
  | .error _ =>
    Act.refuse s!"cannot open {path}: No such file" 2
    return false

/-- Send the output or the errors where the other one goes. -/
def duplicate (descriptor : Nat) (target : String) : Act Unit :=
  modify fun m =>
    let sink := if target == "2" then m.errors else m.output
    if descriptor = 2 then { m with errors := sink } else { m with output := sink }

/-- Do a redirection; says whether it could be done. -/
def redirect (r : Redirection) : Act Bool := do
  let target ← r.target.value inner
  let descriptor := r.descriptor.getD 1
  match r.sign with
  | "<" => openInput target
  | "<<" => do
    modify fun m => { m with input := target.toList }
    return true
  | ">&" => do
    duplicate descriptor target
    return true
  | "<&" => return true
  | sign =>
    match ← openSink (sign == ">>") target with
    | some sink => do
      setSink descriptor sink
      return true
    | none => return false

def redirectAll : List Redirection → Act Bool
  | [] => return true
  | r :: rest => do
    if ← redirect inner r then redirectAll rest else return false

/-- Do something with redirections, which end with it. -/
def withRedirections (redirections : List Redirection) (act : Act Unit) : Act Unit := fun m =>
  let back := fun after : Machine =>
    { after with
      output := m.output
      errors := m.errors
      input := if redirections.any (fun r => r.sign == "<" || r.sign == "<<") then m.input else after.input }
  let all : Act Unit := do
    if ← redirectAll inner redirections then act
  match all m with
  | .ok _ after => .ok () (back after)
  | .error flow after => .error flow (back after)

/-! ## Calls -/

/-- Do the commands of a text. -/
def runText (guarded : Bool) (text : List Char) : Act Unit :=
  match Script.ofChars? text with
  | some script => do
    Act.setStatus 0
    inner guarded script
  | none => Act.abandon "Syntax error"

/-- Do the commands of a file. -/
def runFile (guarded : Bool) (command path : String) : Act Unit := do
  match (← get).disk.read (Octets.toText path) with
  | .ok content => do
    modify fun m => if command.isEmpty then { m with name := path } else m
    runText inner guarded (Octets.ofBytes content)
  | .error _ => Act.abandon s!"{command}cannot open {path}: No such file"

/-- What a shell does that is started with some arguments. -/
def startShell (args : List String) : Act Unit := do
  let (letters, operands) := Utility.options args
  Builtin.turn true letters
  Act.setStatus 0
  match letters.contains 'c', operands with
  | true, [] => Act.abandon "-c requires an argument"
  | true, text :: operands =>
    modify fun m => { m with name := operands.headD m.name, arguments := operands.tail }
    runText inner false text.toList
  | false, [] => do
    let m ← get
    set { m with input := [] }
    runText inner false m.input
  | false, path :: operands =>
    modify fun m => { m with arguments := operands }
    runFile inner false "" path

/-- Do something as a process of its own, which has nothing of the shell but its environment. -/
def asProcess (act : Act Unit) : Act Unit := fun m =>
  let fresh := { m with
    bindings := m.environment
    name := "sh"
    arguments := []
    functions := []
    shadowed := []
    strict := false
    precise := false
    loops := 0
    line := 0
    process := m.process + 1 }
  match act fresh with
  | .ok _ after => .ok () (m.resume after)
  | .error (.killed signal) after => .ok () { m.resume after with status := 128 + signal }
  | .error _ after => .ok () (m.resume after)

def isShell (program : String) : Bool := program == "sh" || program == "dash"

/-- The name of a program that may be given with its directory. -/
def programName (program : String) : String :=
  (["/bin/", "/usr/bin/"].findSome? fun directory =>
    if program.startsWith directory then some (program.drop directory.length).toString else none).getD
    program

/-- Let a utility act. A utility of the shell's own complains as the shell does. -/
def useUtility (own : Bool) (utility : Utility) (args : List String) : Act Unit := do
  let m ← get
  let p := utility args m.input m.disk
  set { m with disk := { p.disk with workingDirectory := m.disk.workingDirectory }, status := p.status }
  if !p.complaints.isEmpty then
    Act.lament ((if own then m.heading.toList else []) ++ p.complaints)
  Act.say p.output

/-- Print the variables that other processes see, or the values of some. -/
def showEnvironment (names : List String) : Act Unit := do
  let m ← get
  if names.isEmpty then
    Act.setStatus 0
    Act.say (Utility.lines (m.environment.map fun (name, value) => (name ++ "=" ++ value).toList))
  else
    let values := names.filterMap fun name => m.environment.lookup name
    Act.setStatus (if values.length = names.length then 0 else 1)
    Act.say (Utility.lines (values.map String.toList))

/-- Start a program. -/
def callProgram (name : String) (args : List String) : Act Unit := do
  let m ← get
  match Utility.ofName? (programName name) with
  | some utility => useUtility (Utility.isOwn name) utility args
  | none =>
    if isShell (programName name) then asProcess (startShell inner args)
    else if programName name = "printenv" then showEnvironment args
    else if (m.disk.find (Octets.toText name)).toOption.isSome && name.toList.contains '/' then
      Act.refuse s!"{name}: Permission denied" 126
    else Act.refuse s!"{name}: not found" 127

/-- Start a program with some more variables, or print them all. -/
def callWith : List String → Act Unit
  | [] => showEnvironment []
  | arg :: rest =>
    match Builtin.assignment arg with
    | (_, some _) => do
      let m ← get
      Builtin.exportOne arg
      callWith rest
      modify fun after => { after with bindings := m.bindings, exported := m.exported }
    | (name, none) => callProgram inner name rest

/-- Call a command by its name. -/
def call (guarded : Bool) (name : String) (args : List String) : Act Unit := do
  let m ← get
  match name, Builtin.ofName? name, m.functions.lookup name with
  | "eval", _, _ => runText inner guarded (String.intercalate " " args).toList
  | ".", _, _ => runFile inner guarded ".: " (args.headD "")
  | _, some builtin, _ => builtin args
  | _, none, some body => Act.asFunction args (inner guarded body)
  | "command", none, none => callProgram inner (args.headD ":") args.tail
  | "env", none, none => callWith inner args
  | name, none, none => callProgram inner name args

/-! ## Simple commands -/

def assignAll : List (String × Word) → Act Unit
  | [] => return ()
  | (name, word) :: rest => do
    let value ← word.value inner
    modify fun m => m.assign name value
    assignAll rest

/-- Do something with assignments that end with it, and that other processes see. -/
def withAssignments (assignments : List (String × Word)) (act : Act Unit) : Act Unit := do
  let m ← get
  assignAll inner assignments
  (assignments.map (·.1)).forM Builtin.exportOne
  act
  modify fun after =>
    { assignments.foldl (fun after (name, _) => after.restore name (m.bindings.lookup name)) after with
      exported := m.exported }

/-- End the shell after a failure, if it is strict. -/
def settle (guarded : Bool) : Act Unit := do
  let m ← get
  if m.strict && !guarded && m.status != 0 then throw .exit

def simple (guarded : Bool) (line : Nat) (assignments : List (String × Word)) (words : List Word)
    (redirections : List Redirection) : Act Unit := do
  modify fun m => { m with line := line }
  match ← Word.allFields inner words with
  | [] => do
    assignAll inner assignments
    if !(assignments.any fun a => a.2.hasCommand) && !(words.any Word.hasCommand) then Act.setStatus 0
    withRedirections inner redirections (return ())
  | "exec" :: fields =>
    match fields with
    | [] => discard (redirectAll inner redirections)
    | name :: args => do
      withRedirections inner redirections (call inner guarded name args)
      throw .exit
  | name :: args =>
    let act := withRedirections inner redirections (call inner guarded name args)
    if assignments.isEmpty then act else withAssignments inner assignments act
  settle guarded

/-! ## Scripts -/

/-- The place of the first patterns of which one matches a text, or the place after all of them. -/
def firstMatch (text : List Char) : (place : Nat) → List (List Word) → Act Nat
  | place, [] => return place
  | place, words :: rest => do
    if ← words.anyM fun w => do return (← w.pattern inner).accepts text then return place
    else firstMatch text (place + 1) rest

def isNothing : Script → Bool
  | .sequence [] => true
  | _ => false

mutual

/-- Do a script. In a guarded place a failure does not end the shell. -/
def perform (guarded : Bool) : Script → Act Unit
  | .simple line assignments words redirections =>
    simple inner guarded line assignments words redirections
  | .sequence parts => performAll guarded parts
  | .both first second => do
    perform true first
    if (← get).status = 0 then perform guarded second
  | .either first second => do
    perform true first
    if (← get).status ≠ 0 then perform guarded second
  | .negated script => do
    perform true script
    modify fun m => { m with status := if m.status = 0 then 1 else 0 }
  | .pipe first second => do
    let text ← Act.capture (perform true first)
    let m ← get
    set { m with input := text }
    Act.apart (perform true second)
    modify fun after => { after with input := m.input }
    settle guarded
  | .subshell script => do
    Act.apart (perform guarded script)
    settle guarded
  | .branch condition positive negative => do
    perform true condition
    if (← get).status = 0 then perform guarded positive
    else if isNothing negative then Act.setStatus 0
    else perform guarded negative
  | .loop onSuccess last condition body => do
    if ← Act.loopBody (perform true condition) then
      if ((← get).status == 0) == onSuccess then
        if ← Act.loopBody (perform guarded body) then
          inner guarded (.loop onSuccess (← get).status condition body)
      else Act.setStatus last
  | .each name words body => do
    let fields ← Word.allFields inner words
    Act.setStatus 0
    Act.forFields (fun field => do
      modify fun m => m.assign name field
      perform guarded body) fields
  | .choice subject patterns bodies => do
    let text ← subject.value inner
    let chosen ← firstMatch inner text.toList 0 patterns
    Act.setStatus 0
    performAt guarded chosen bodies
  | .define name body => do
    modify fun m => { m with functions := (name, body) :: m.functions }
    Act.setStatus 0
  | .redirected script redirections => withRedirections inner redirections (perform guarded script)

/-- Do the script at a place of a list. -/
def performAt (guarded : Bool) : (place : Nat) → List Script → Act Unit
  | _, [] => return ()
  | 0, script :: _ => perform guarded script
  | place + 1, _ :: rest => performAt guarded place rest

def performAll (guarded : Bool) : List Script → Act Unit
  | [] => return ()
  | script :: rest => do
    perform guarded script
    performAll guarded rest

end

end

/-- The shell with a number of levels. With no level left it is stopped as by a signal. -/
def execute : (depth : Nat) → (guarded : Bool) → Script → Act Unit
  | 0, _, _ => throw (.killed 9)
  | depth + 1, guarded, script => perform (execute depth) guarded script

/-- The number of levels that a script may go down. -/
def levels : Nat := 5000

end Flaky.Shell
