-- SUMMARY: Reading data as texts, numbers and booleans, in a strict and in a lenient dialect, with the place of what is wrong.
import Flaky.Number.Power
import Flaky.Settings.Datum
import Flaky.Text.Decimal

/-!
# Dialects

Data are read strictly, each as what it is, or leniently, as configuration
files are: numbers and booleans pass for texts, and texts, booleans and
fractions for numbers.
-/

namespace Flaky

/-- A step from a datum to one inside it. -/
inductive Segment
  | key (name : String)
  | index (i : Nat)
deriving DecidableEq

/-- A path of steps, as text. -/
def Segment.pathText : List Segment → String
  | [] => "."
  | segments => String.join (go true segments)
where
  go : Bool → List Segment → List String
    | _, [] => []
    | first, .key name :: rest => ((if first then "" else ".") ++ name) :: go false rest
    | _, .index i :: rest => s!"[{i}]" :: go false rest

/-- What is wrong with a datum and where; the message only where it is worded here. -/
structure SettingError where
  path : List Segment
  message : Option String
deriving DecidableEq

namespace SettingError

/-- An error at the datum itself that needs no words. -/
def here : SettingError := ⟨[], none⟩

def saying (message : String) : SettingError := ⟨[], some message⟩

def under (segment : Segment) (e : SettingError) : SettingError := { e with path := segment :: e.path }

end SettingError

abbrev Reading (α : Type) := Except SettingError α

/-- Say of an error that it lies under a step. -/
def Reading.under (segment : Segment) (r : Reading α) : Reading α := r.mapError (·.under segment)

inductive Dialect
  | strict
  | lenient
deriving DecidableEq

namespace Dialect

def floatText : Dialect → Binary64 → String
  | .strict => Binary64.exponentText
  | .lenient => Binary64.pointedText

def describe (dialect : Dialect) (datum : Datum) : String := datum.describe dialect.floatText

/-- What is said of a datum of the wrong kind. -/
def wrongType (dialect : Dialect) (datum : Datum) (expected : String) : SettingError :=
  .saying s!"invalid type: {dialect.describe datum}, expected {expected}"

/-- What is said of a datum of the right kind that is not allowed. -/
def wrongValue (dialect : Dialect) (datum : Datum) (expected : String) : SettingError :=
  .saying s!"invalid value: {dialect.describe datum}, expected {expected}"

/-! ## Scalars -/

def readText (dialect : Dialect) (datum : Datum) : Reading String :=
  match dialect, datum with
  | _, .text s => .ok s
  | .lenient, .bool b => .ok (if b then "true" else "false")
  | .lenient, .integer n => .ok (toString n)
  | .lenient, .float x => .ok x.plainText
  | _, _ => .error .here

/-- A text in lower case, as far as it is ASCII. -/
def lower (s : String) : String := String.ofList (s.toList.map Char.toLower)

def trueWords : List String := ["true", "on", "yes"]

def falseWords : List String := ["false", "off", "no"]

/-- The magnitude of a number without sign, before it is held against its bounds. -/
def magnitude? (dialect : Dialect) (datum : Datum) : Option Nat :=
  match dialect, datum with
  | _, .integer n => if 0 ≤ n then some n.toNat else none
  | .lenient, .bool b => some (if b then 1 else 0)
  | .lenient, .float x => some (x.clampUnsigned 64)
  | .lenient, .text s =>
    if trueWords.contains (lower s) then some 1
    else if falseWords.contains (lower s) then some 0
    else (Text.unsigned 64 s.toList).toOption
  | _, _ => none

/-- A number of at most `bits` bits without sign. -/
def readUnsigned (dialect : Dialect) (bits : Nat) (datum : Datum) : Reading Nat :=
  match dialect.magnitude? datum with
  | some n => if n < twoTo bits then .ok n else .error .here
  | none => .error .here

def readBool (dialect : Dialect) (datum : Datum) : Reading Bool :=
  match dialect, datum with
  | _, .bool b => .ok b
  | .lenient, .integer n => .ok (n != 0)
  | .lenient, .float x => .ok (!x.isZero)
  | .lenient, .text s =>
    if ("1" :: trueWords).contains (lower s) then .ok true
    else if ("0" :: falseWords).contains (lower s) then .ok false
    else .error .here
  | _, _ => .error .here

/-! ## Lists -/

/-- Read items, the first of which has index `i`. -/
def readItems (read : Datum → Reading α) : (i : Nat) → List Datum → Reading (List α)
  | _, [] => .ok []
  | i, item :: rest => do
    let first ← (read item).under (.index i)
    return first :: (← readItems read (i + 1) rest)

def readList (read : Datum → Reading α) : Datum → Reading (List α)
  | .list items => readItems read 0 items
  | _ => .error .here

def readTexts (dialect : Dialect) : Datum → Reading (List String) := readList dialect.readText

end Dialect

end Flaky
