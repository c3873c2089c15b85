-- SUMMARY: The state of a running shell, the ways in which control leaves a command, and output, input and variables.
import Flaky.Shell.Field
import Flaky.Shell.Script
import Flaky.Shell.Utility

/-!
# Shell machines
-/

namespace Flaky.Shell

/-- Where output goes. -/
inductive Sink
  | captured
  | complaints
  | place (location : Location)
deriving DecidableEq

structure Machine where
  disk : Disk
  bindings : List (String × String)
  /-- The names of the variables that other processes see. -/
  exported : List String
  /-- The name of the script, and its arguments. -/
  name : String
  arguments : List String
  functions : List (String × Script)
  /-- What the variables were that the current function has made its own. -/
  shadowed : List (String × Option String)
  status : Nat
  input : List Char
  output : Sink
  errors : Sink
  /-- What has been printed. -/
  captured : List Char
  complaints : List Char
  /-- A command that fails ends the shell. -/
  strict : Bool
  /-- A parameter that is not set ends the shell when its value is asked for. -/
  precise : Bool
  /-- The number of loops around the current command. -/
  loops : Nat
  /-- The number of the line that the current command is on. -/
  line : Nat
  /-- The number of the process. -/
  process : Nat

/-- Why a command does not go on to the next one. -/
inductive Flow
  | exit
  | killed (signal : Nat)
  | returned
  | broke (loops : Nat)
  | continued (loops : Nat)
deriving DecidableEq

/-- Something that a shell does. -/
abbrev Act (α : Type) := EStateM Flow Machine α

namespace Machine

/-! ## Variables -/

def setVariable (name value : String) : List (String × String) → List (String × String)
  | [] => [(name, value)]
  | (n, v) :: rest => if n = name then (n, value) :: rest else (n, v) :: setVariable name value rest

def assign (m : Machine) (name value : String) : Machine :=
  { m with bindings := setVariable name value m.bindings }

def unset (m : Machine) (name : String) : Machine :=
  { m with bindings := m.bindings.filter (·.1 != name), exported := m.exported.erase name }

/-- Give a variable the value that it had, or none. -/
def restore (m : Machine) (name : String) : Option String → Machine
  | some value => m.assign name value
  | none => m.unset name

/-- The value of a parameter. -/
def value? (m : Machine) (name : String) : Option String :=
  match name with
  | "?" => some (toString m.status)
  | "#" => some (toString m.arguments.length)
  | "$" => some (toString m.process)
  | "0" => some m.name
  | "@" | "*" => if m.arguments.isEmpty then none else some (String.intercalate " " m.arguments)
  | "!" => none
  | "-" => some ((if m.strict then "e" else "") ++ if m.precise then "u" else "")
  | "PWD" => some (Octets.ofText (Utility.placeText m.disk.workingDirectory))
  | name =>
    match Text.nat? name.toList with
    | some n => m.arguments[n - 1]?
    | none => m.bindings.lookup name

/-- The value of a variable in a sum. -/
def number? (m : Machine) (name : String) : Option Int := Sum.ofText? ((m.value? name).getD "")

/-- What separates the fields of a value. -/
def separators (m : Machine) : Separators :=
  ((m.bindings.lookup "IFS").map String.toList).getD Separators.standard

/-- The variables that other processes see. -/
def environment (m : Machine) : List (String × String) :=
  m.bindings.filter fun v => m.exported.contains v.1

/-! ## Output -/

/-- Print a text; also says whether all of it could be printed. -/
def print (m : Machine) (sink : Sink) (text : List Char) : Bool × Machine :=
  match sink with
  | .captured => (true, { m with captured := m.captured ++ text })
  | .complaints => (true, { m with complaints := m.complaints ++ text })
  | .place location =>
    (text.isEmpty || m.disk.entry? location != some .fullDevice,
      { m with disk := m.disk.grow location (Octets.toBytes text) })

/-- What stands in front of what the shell complains about. -/
def heading (m : Machine) : String := s!"{m.name}: {m.line}: "

/-- The machine after another one that started as a copy of it and ran as a process of its own. -/
def resume (m after : Machine) : Machine :=
  { m with
    disk := { after.disk with workingDirectory := m.disk.workingDirectory }
    status := after.status
    input := after.input
    captured := after.captured
    complaints := after.complaints }

end Machine

namespace Act

def setStatus (status : Nat) : Act Unit := modify fun m => { m with status := status }

def say (text : List Char) : Act Unit := do
  let m ← get
  let (good, m) := m.print m.output text
  set m
  if good then return () else setStatus 1

/-- Print what a program complains about. -/
def lament (text : List Char) : Act Unit := modify fun m => (m.print m.errors text).2

/-- Complain of something in the current line. -/
def complain (text : String) : Act Unit := do
  lament ((← get).heading ++ text ++ "\n").toList

/-- Complain, and go on with a status. -/
def refuse (text : String) (status : Nat) : Act Unit := do
  complain text
  setStatus status

/-- Complain about what ends the shell. -/
def abandon (text : String) {α : Type} : Act α := do
  refuse text 2
  throw .exit

/-- Do something in a copy of the machine. Being killed ends the machine, too. -/
def apart (act : Act Unit) : Act Unit := fun m =>
  match act m with
  | .ok _ after => .ok () (m.resume after)
  | .error (.killed signal) after => .error (.killed signal) (m.resume after)
  | .error _ after => .ok () (m.resume after)

/-- What something prints when it is done in a copy of the machine. -/
def capture (act : Act Unit) : Act (List Char) := fun m =>
  match apart act { m with captured := [], output := .captured } with
  | .ok () after =>
    .ok after.captured { after with captured := m.captured, output := m.output }
  | .error flow after => .error flow { after with captured := m.captured, output := m.output }

/-- Do the condition or the body of a loop once; says whether the loop goes on. -/
def loopBody (act : Act Unit) : Act Bool := fun m =>
  let leave := fun after : Machine => { after with loops := m.loops }
  match act { m with loops := m.loops + 1 } with
  | .ok _ after => .ok true (leave after)
  | .error (.broke loops) after =>
    if loops ≤ 1 then .ok false (leave after) else .error (.broke (loops - 1)) (leave after)
  | .error (.continued loops) after =>
    if loops ≤ 1 then .ok true (leave after) else .error (.continued (loops - 1)) (leave after)
  | .error flow after => .error flow (leave after)

/-- Do the body of a loop for each of some fields. -/
def forFields (act : String → Act Unit) : List String → Act Unit
  | [] => return ()
  | field :: rest => do
    if ← loopBody (act field) then forFields act rest

/-- Do the body of a function with arguments and variables of its own. -/
def asFunction (arguments : List String) (act : Act Unit) : Act Unit := fun m =>
  let leave := fun after : Machine =>
    let after := after.shadowed.foldl (fun m (name, value) => m.restore name value) after
    { after with arguments := m.arguments, shadowed := m.shadowed, loops := m.loops }
  match act { m with arguments := arguments, shadowed := [], loops := 0 } with
  | .ok _ after => .ok () (leave after)
  | .error .returned after => .ok () (leave after)
  | .error flow after => .error flow (leave after)

end Act

end Flaky.Shell
