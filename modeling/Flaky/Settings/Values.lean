-- SUMMARY: Reading failure caps, commands, perturbation modes and ranges, failure kinds and filter patterns from data.
import Flaky.Command
import Flaky.Failure
import Flaky.FailureCap
import Flaky.Filter
import Flaky.Perturbation
import Flaky.Settings.Dialect

/-!
# Settings of one value
-/

namespace Flaky

/-! ## Failure caps -/

namespace FailureCap

def expected : String := "a positive integer or the string \"unlimited\""

/-- What is expected in the place of a number in quotes. -/
def expectedUnquoted : String :=
  "the string \"unlimited\" (numbers must be specified without quotes)"

/-- A cap is an integer or the text `unlimited`; a number in quotes is none. -/
def read (dialect : Dialect) (datum : Datum) : Reading FailureCap :=
  match datum with
  | .integer n =>
    match ofInt? n with
    | some cap => .ok cap
    | none => .error (dialect.wrongValue datum expected)
  | .text s =>
    if s = "unlimited" then .ok .unlimited
    else
      match Text.signed 64 s.toList with
      | .ok _ => .error (dialect.wrongValue datum expectedUnquoted)
      | .error _ => .error (dialect.wrongValue datum expected)
  | _ => .error (dialect.wrongType datum expected)

end FailureCap

/-! ## Commands -/

namespace Command

def expected : String := "a Unix shell command or a list of arguments"

/-- A word of a command. Read strictly, what is none is described. -/
def readWord (dialect : Dialect) (datum : Datum) : Reading String :=
  (dialect.readText datum).mapError fun e =>
    if dialect = .strict then dialect.wrongType datum "a string" else e

/-- A command is a shell-style line or the list of its words. -/
def read (dialect : Dialect) (datum : Datum) : Reading Command :=
  match datum with
  | .text line =>
    match ofLine line with
    | .ok command => .ok command
    | .error .openQuote => .error (.saying "missing closing quote")
    | .error .noWords => .error (dialect.wrongValue datum expected)
  | .list _ => do
    match ← Dialect.readList (readWord dialect) datum with
    | [] => .error (.saying s!"invalid length 0, expected {expected}")
    | program :: args => return ⟨program, args⟩
  | _ => .error (dialect.wrongType datum expected)

end Command

/-! ## Names -/

namespace Dialect

/-- A name, or a table with the name as its one key. Read strictly, the value under it is null. -/
def readName (dialect : Dialect) (ofName? : String → Option α) (datum : Datum) : Reading α :=
  let name? : Option String :=
    match dialect, datum with
    | _, .text s => some s
    | .strict, .table [(key, .null)] => some key
    | .lenient, .table [(key, _)] => some key
    | _, _ => none
  match name?.bind ofName? with
  | some a => .ok a
  | none => .error .here

end Dialect

def PerturbationMode.read (dialect : Dialect) : Datum → Reading PerturbationMode :=
  dialect.readName ofName?

def FailureKind.read (dialect : Dialect) : Datum → Reading FailureKind := dialect.readName ofName?

/-! ## Ranges -/

namespace PerturbationRange

def ofNats (start stop : Nat) : Reading PerturbationRange :=
  match ofBounds? (UInt64.ofNat start) (UInt64.ofNat stop) with
  | some range => .ok range
  | none => .error (.saying (invertedMessage (UInt64.ofNat start) (UInt64.ofNat stop)))

/-- A bound under a key, if it is there. -/
def readBound? (dialect : Dialect) (key : String) (fields : List (String × Datum)) :
    Reading (Option Nat) :=
  match Datum.lookup? key fields with
  | some datum => ((dialect.readUnsigned 64 datum).under (.key key)).map some
  | none => .ok none

/-- The bounds in a list. A strict list holds nothing else. -/
def readBounds (dialect : Dialect) (items : List Datum) : Reading (List Nat) :=
  if dialect = .strict ∧ 2 < items.length then .error .here
  else Dialect.readItems (dialect.readUnsigned 64) 0 (items.take 2)

/-- A range is a table of its bounds, or the list of them. -/
def read (dialect : Dialect) : Datum → Reading PerturbationRange
  | .table fields => do
    let start ← readBound? dialect "start" fields
    let stop ← readBound? dialect "end" fields
    match start, stop with
    | some start, some stop => ofNats start stop
    | _, _ => .error .here
  | .list items => do
    match ← readBounds dialect items with
    | [start, stop] => ofNats start stop
    | _ => .error .here
  | _ => .error .here

end PerturbationRange

/-! ## Filter patterns -/

namespace FilterPatterns

/-- The list under a key that may be missing. -/
def readField (dialect : Dialect) (kind : FilterList) (fields : List (String × Datum)) :
    Reading (List String) :=
  match Datum.lookup? kind.name fields with
  | some datum => (dialect.readTexts datum).under (.key kind.name)
  | none => .ok []

/-- Patterns are a table of the lists, or the lists in order; those that are missing are empty. -/
def read (dialect : Dialect) : Datum → Reading FilterPatterns
  | .table fields => do
    return ⟨← readField dialect .includeClasses fields, ← readField dialect .includeAnnotations fields,
      ← readField dialect .excludeClasses fields, ← readField dialect .excludeAnnotations fields⟩
  | .list items => do
    let lists ← Dialect.readItems dialect.readTexts 0 items
    if FilterList.all.length < lists.length then .error .here
    else return ⟨lists.getD 0 [], lists.getD 1 [], lists.getD 2 [], lists.getD 3 []⟩
  | _ => .error .here

end FilterPatterns

end Flaky
