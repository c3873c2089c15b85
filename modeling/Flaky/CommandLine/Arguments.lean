-- SUMMARY: Reading arguments: the settings and operands of a level, the environment, and the request that they make.
import Flaky.CommandLine.Options

/-!
# Arguments

Arguments are read from left to right, and the first that is wrong, or that asks
for help or the version, ends the reading. An option is given once a level; on
the command line it wins over the environment, and the inner level over the outer.
-/

namespace Flaky.CommandLine

/-- Why the arguments make no request. -/
inductive Halt
  | help
  | version
  | usage
deriving DecidableEq

/-- Options with their values; flags have an empty value. -/
abbrev Given := List (OptionKey × String)

/-! ## One level -/

/-- A level: the options that it knows, and the operands that it takes. -/
structure Level where
  options : List OptionKey
  /-- The first operand ends the level. -/
  endsAtOperand : Bool
  operands : Nat
  acceptsOperand : String → Bool

namespace Level

def outer : Level := ⟨outerOptions, true, 0, fun _ => false⟩

def ofCommand (command : CommandName) : Level :=
  ⟨command.options, false, command.operands, command.acceptsOperand⟩

def add (given : Given) (key : OptionKey) (value : String) : Except Halt Given :=
  match key with
  | .help => .error .help
  | .version => .error .version
  | key =>
    if (given.lookup key).isSome then .error .usage
    else if key.takesValue && !key.accepts value then .error .usage
    else .ok (given ++ [(key, value)])

/-- The letters after one hyphen. The last may be an option whose value is still to come. -/
def addLetters (level : Level) : Given → List Char → Except Halt (Given × Option OptionKey)
  | given, [] => .ok (given, none)
  | given, c :: rest =>
    match level.options.find? fun key => key.short? == some c with
    | none => .error .usage
    | some key =>
      if key.takesValue then
        match rest with
        | [] => .ok (given, some key)
        | '=' :: value => (add given key (String.ofList value)).map (·, none)
        | value => (add given key (String.ofList value)).map (·, none)
      else
        match add given key "" with
        | .error halt => .error halt
        | .ok given => addLetters level given rest

/-- What follows two hyphens. -/
def addLong (level : Level) (given : Given) (text : List Char) :
    Except Halt (Given × Option OptionKey) :=
  let name := text.takeWhile (· != '=')
  match level.options.find? fun key => key.long == String.ofList name with
  | none => .error .usage
  | some key =>
    match key.takesValue, text.drop name.length with
    | true, [] => .ok (given, some key)
    | true, _ :: value => (add given key (String.ofList value)).map (·, none)
    | false, [] => (add given key "").map (·, none)
    | false, _ :: _ => .error .usage

def addOperands (level : Level) (operands : List String) : List String → Except Halt (List String)
  | [] => .ok operands
  | operand :: rest =>
    if operands.length < level.operands && level.acceptsOperand operand then
      addOperands level (operands ++ [operand]) rest
    else .error .usage

/-- Whether an argument is read as an option. -/
def isOption : List Char → Bool
  | '-' :: _ :: _ => true
  | _ => false

/-- What a level has read. -/
structure Reading where
  given : Given
  operands : List String
  /-- The arguments of the next level. -/
  rest : List String

/-- Read the arguments of a level; `pending` is an option whose value comes next. -/
def read (level : Level) : Given → List String → (pending : Option OptionKey) → List String →
    Except Halt Reading
  | given, operands, none, [] => .ok ⟨given, operands, []⟩
  | _, _, some _, [] => .error .usage
  | given, operands, some key, value :: rest =>
    if isOption value.toList then .error .usage
    else
      match add given key value with
      | .error halt => .error halt
      | .ok given => read level given operands none rest
  | given, operands, none, arg :: rest =>
    match arg.toList with
    | ['-', '-'] =>
      if level.endsAtOperand then .error .usage
      else (level.addOperands operands rest).map (⟨given, ·, []⟩)
    | '-' :: '-' :: text =>
      match level.addLong given text with
      | .error halt => .error halt
      | .ok (given, pending) => read level given operands pending rest
    | '-' :: c :: letters =>
      match level.addLetters given (c :: letters) with
      | .error halt => .error halt
      | .ok (given, pending) => read level given operands pending rest
    | _ =>
      if level.endsAtOperand then .ok ⟨given, operands, arg :: rest⟩
      else
        match level.addOperands operands [arg] with
        | .error halt => .error halt
        | .ok operands => read level given operands none rest

end Level

/-! ## Environment -/

/-- The options that the environment gives where a level does not. -/
def fromVariables (environment : String → Option String) (given : Given) :
    List OptionKey → Except Halt Given
  | [] => .ok []
  | key :: rest =>
    match (if (given.lookup key).isSome then none else key.variableName?.bind environment) with
    | none => fromVariables environment given rest
    | some value =>
      if key.accepts value then (fromVariables environment given rest).map ((key, value) :: ·)
      else .error .usage

/-! ## Requests -/

structure OutputOptions where
  verbose : Bool
  color : ColorChoice
deriving DecidableEq

structure RunOptions where
  workspaceRoot : Option String
  configFile : Option String
  profile : String
  rounds : Option Nat
  baseSeed : Option Seed
  cap : Option FailureCap
  simulateNonRetryable : Bool
deriving DecidableEq

inductive Request
  | run (options : RunOptions)
  | showRunLog (directory : String)
  | seed (index : UInt64) (base : Seed)
deriving DecidableEq

structure Invocation where
  output : OutputOptions
  request : Request
deriving DecidableEq

/-- The profile of a run that names none. -/
def standardProfile : String := "default"

/-- A flag is on if it is given on the command line, or as the environment says. -/
def isOn (given : Given) (key : OptionKey) : Bool :=
  match given.lookup key with
  | none => false
  | some value => (readFlag? value).getD true

def outputOptions (given : Given) : OutputOptions :=
  ⟨isOn given .verbose, ((given.lookup .color).bind ColorChoice.ofName?).getD .auto⟩

/-- The request of a command with some options and operands. -/
def request? (command : CommandName) (given : Given) (operands : List String) : Option Request :=
  match command, operands with
  | .run, [] =>
    some (.run
      { workspaceRoot := given.lookup .workspaceRoot
        configFile := given.lookup .configFile
        profile := (given.lookup .profile).getD standardProfile
        rounds := (given.lookup .rounds).bind readRounds?
        baseSeed := (given.lookup .baseSeed).bind readSeed?
        cap := (given.lookup .cap).bind fun value => (FailureCap.ofText value).toOption
        simulateNonRetryable := isOn given .simulate })
  | .showRunLog, [directory] => some (.showRunLog directory)
  | .seed, [index] =>
    (readWord? index).map fun index =>
      .seed index (((given.lookup .baseSeed).bind readSeed?).getD Seed.standard)
  | _, _ => none

/-- Whether arguments after `help` name what there is help on. -/
def isHelpTopic : List String → Bool
  | [] => true
  | [name] => (CommandName.ofName? name).isSome || name == "help"
  | _ => false

/-- The request of a command's arguments; `outer` is what came before its name. -/
def readCommand (environment : String → Option String) (outer : Given) (command : CommandName)
    (args : List String) : Except Halt Invocation := do
  let inner ← (Level.ofCommand command).read [] [] none args
  let innerVariables ← fromVariables environment inner.given command.options
  let outerVariables ← fromVariables environment outer outerOptions
  match request? command (inner.given ++ innerVariables) inner.operands with
  | none => .error .usage
  | some request =>
    .ok ⟨outputOptions (inner.given ++ outer ++ innerVariables ++ outerVariables), request⟩

/-- Read the arguments of the program. -/
def readArguments (environment : String → Option String) (args : List String) :
    Except Halt Invocation := do
  let outer ← Level.outer.read [] [] none args
  match outer.rest with
  | [] => .error .usage
  | "help" :: topic => .error (if isHelpTopic topic then .help else .usage)
  | name :: rest =>
    match CommandName.ofName? name with
    | none => .error .usage
    | some command => readCommand environment outer.given command rest

end Flaky.CommandLine
