-- SUMMARY: What the small programs that shell scripts call have in common, and those that print and test.
import Flaky.Shell.Condition
import Flaky.Shell.Format

/-!
# Shell utilities

A utility maps its arguments, its input and the disk to what it prints, what it
complains about, its exit status and the disk that it leaves.
-/

namespace Flaky.Shell

/-- What a utility did. -/
structure Performance where
  output : List Char
  complaints : List Char
  status : Nat
  disk : Disk

/-- One thing done after another; the worse status counts. -/
def Performance.andThen (first : Performance) (next : Disk → Performance) : Performance :=
  let second := next first.disk
  ⟨first.output ++ second.output, first.complaints ++ second.complaints,
    max first.status second.status, second.disk⟩

/-- A utility, given its arguments, its input and the disk. -/
abbrev Utility := List String → List Char → Disk → Performance

namespace Utility

def succeed (output : List Char) (disk : Disk) : Performance := ⟨output, [], 0, disk⟩

def complain (text : String) (status : Nat) (disk : Disk) : Performance :=
  ⟨[], (Octets.ofText text ++ "\n").toList, status, disk⟩

/-- Do something for each of some arguments. -/
def forEach (act : String → Disk → Performance) (args : List String) (disk : Disk) : Performance :=
  args.foldl (fun done arg => done.andThen (act arg)) (succeed [] disk)

/-- Print some lines. -/
def lines (texts : List (List Char)) : List Char := texts.flatMap fun text => text ++ ['\n']

/-- What an error is called, without its number. -/
def reason (e : IoError) : String :=
  String.ofList ((e.text.toList.takeWhile (· != '(')).reverse.dropWhile (· == ' ')).reverse

/-- The options in front of the operands, as single letters, and the operands. -/
def options : List String → List Char × List String
  | [] => ([], [])
  | "--" :: rest => ([], rest)
  | arg :: rest =>
    match arg.toList with
    | '-' :: c :: cs =>
      let (letters, operands) := options rest
      (c :: cs ++ letters, operands)
    | _ => ([], arg :: rest)

/-! ## Printing -/

def echo : Utility := fun args _ disk => succeed (Format.echo args) disk

def printf : Utility := fun args _ disk =>
  match args with
  | [] => complain "printf: usage: printf format [arg ...]" 2 disk
  | format :: args =>
    match Format.printf format args with
    | (output, []) => succeed output disk
    | (output, fault :: _) =>
      { complain s!"printf: {Octets.toText fault}: expected numeric value" 1 disk with output := output }

/-- The text of a place. -/
def placeText (place : Location) : String := "/" ++ String.intercalate "/" place

def pwd : Utility := fun _ _ disk =>
  succeed ((Octets.ofText (placeText disk.workingDirectory)).toList ++ ['\n']) disk

/-! ## Testing -/

/-- Judge a condition in the name of a command. -/
def judge (command : String) (words : List String) (disk : Disk) : Performance :=
  match Condition.holds disk words with
  | .ok true => succeed [] disk
  | .ok false => ⟨[], [], 1, disk⟩
  | .error fault => complain s!"{command}: {Octets.toText fault.text}" 2 disk

def test : Utility := fun args _ disk => judge "test" args disk

/-- The condition between brackets. -/
def bracket : Utility := fun args _ disk =>
  if args.getLast? = some "]" then judge "[" args.dropLast disk else complain "[: missing ]" 2 disk

end Utility

end Flaky.Shell
