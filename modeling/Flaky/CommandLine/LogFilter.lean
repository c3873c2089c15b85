-- SUMMARY: Log filters: directives that choose entries by their source, their fields and their level.
import Flaky.Log
import Flaky.Text.Decimal
import Flaky.Text.Lines

/-!
# Log filters

A filter is a list of directives, divided by commas. A directive applies to the
sources whose names start with its target and to the entries that have all its
fields. Of those that apply to an entry the most specific one decides: the one
with the longest target, then the one with the most fields.
-/

namespace Flaky

structure LogDirective where
  target : Option String
  fields : List String
  /-- The greatest detail that is let through; zero lets nothing through. -/
  detail : Nat
deriving DecidableEq

inductive LogFilterError
  | tooManyEquals
  | tooManyFieldLists
  | openFieldList
  | level
deriving DecidableEq

def LogFilterError.message : LogFilterError → String
  | .tooManyEquals => "invalid filter directive: too many '=' in filter directive, expected 0 or 1"
  | .tooManyFieldLists =>
    "invalid filter directive: too many '[\x7b' in filter directive, expected 0 or 1"
  | .openFieldList => "invalid filter directive: expected fields list to end with '\x7d]'"
  | .level =>
    "error parsing level filter: expected one of \"off\", \"error\", \"warn\", \"info\", \"debug\", " ++
      "\"trace\", or a number 0-5"

namespace LogDirective

/-! ## Reading -/

/-- The detail that a name stands for, in any case. -/
def detailOfName? (name : String) : Option Nat :=
  match name with
  | "off" => some 0
  | "" | "error" => some 1
  | "warn" => some 2
  | "info" => some 3
  | "debug" => some 4
  | "trace" => some 5
  | _ => none

/-- The detail that a text says, by its number or its name. -/
def detail? (text : List Char) : Option Nat :=
  match Text.unsigned 64 text with
  | .ok n => if n ≤ 5 then some n else none
  | .error _ => detailOfName? (String.ofList (text.map Char.toLower))

/-- The text before the first field list, and what follows each start of one. -/
def fieldLists : List Char → List Char × List (List Char)
  | [] => ([], [])
  | '[' :: '\x7b' :: rest =>
    let (before, lists) := fieldLists rest
    ([], before :: lists)
  | c :: rest =>
    let (before, lists) := fieldLists rest
    (c :: before, lists)

/-- A text without the ends of field lists that it ends with, given from its end. -/
def dropListEnds : List Char → List Char
  | ']' :: '\x7d' :: rest => dropListEnds rest
  | rest => rest

def fieldsOf? (text : List Char) : Except LogFilterError (List String) :=
  match text.reverse with
  | ']' :: '\x7d' :: rest =>
    let names := Text.splitAt ',' (dropListEnds rest).reverse
    .ok ((names.filter fun name => !name.isEmpty).map String.ofList)
  | _ => .error .openFieldList

/-- A directive from what stands before and after its equals sign. -/
def ofSides (target level : List Char) : Except LogFilterError LogDirective := do
  let (name, lists) := fieldLists target
  let fields ← match lists with
    | [] => .ok []
    | [list] => fieldsOf? list
    | _ => .error .tooManyFieldLists
  match detail? level with
  | none => .error .level
  | some detail => .ok ⟨some (String.ofList name), fields, detail⟩

/-- Read a directive. Without an equals sign it is a level or else a target. -/
def read (text : List Char) : Except LogFilterError LogDirective :=
  match Text.splitAt '=' text with
  | [text] =>
    match detail? text with
    | some detail => .ok ⟨none, [], detail⟩
    | none => .ok ⟨some (String.ofList text), [], LogLevel.trace.detail⟩
  | [target, level] => ofSides target level
  | _ => .error .tooManyEquals

/-! ## Choosing -/

/-- The field under which the message itself is found. -/
def messageField : String := "message"

def applies (directive : LogDirective) (entry : LogEntry) : Bool :=
  (directive.target.all fun target => entry.source.target.startsWith target) &&
    directive.fields.all fun field => field == messageField || (entry.fields.lookup field).isSome

/-- How specific a target is; no target is less than an empty one. -/
def targetRank (directive : LogDirective) : Nat :=
  (directive.target.map fun target => target.utf8ByteSize + 1).getD 0

/-- Whether a directive gives way to another one that applies as well and comes later. -/
def yieldsTo (first later : LogDirective) : Bool :=
  first.targetRank < later.targetRank ||
    first.targetRank == later.targetRank &&
      (first.fields.length < later.fields.length ||
        first.fields.length == later.fields.length && !(later.fields < first.fields))

end LogDirective

abbrev LogFilter := List LogDirective

namespace LogFilter

/-- The filter that lets through what is no more detailed than information. -/
def standard : LogFilter := [⟨none, [], LogLevel.info.detail⟩]

def read (text : String) : Except LogFilterError LogFilter :=
  (Text.splitAt ',' text.toList).mapM LogDirective.read

/-- The directive that decides on an entry. -/
def deciding? (filter : LogFilter) (entry : LogEntry) : Option LogDirective :=
  (filter.filter fun directive => directive.applies entry).foldl (fun best directive =>
    match best with
    | none => some directive
    | some b => if b.yieldsTo directive then some directive else some b) none

def allows (filter : LogFilter) (entry : LogEntry) : Bool :=
  (filter.deciding? entry).any fun directive => entry.level.detail ≤ directive.detail

end LogFilter

end Flaky
