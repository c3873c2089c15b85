-- SUMMARY: Laying the settings of one source over those of another, key by key.
import Flaky.Number.Power
import Flaky.Settings.Datum
import Flaky.Text.Decimal

/-!
# Layers

Tables merge key by key; everything else replaces what was there. A key at the
top of a source may be a path of its own, such as `a.b[2].c`: then it sets what
lies at the end of that path.
-/

namespace Flaky.Layer

/-! ## Merging -/

/-- The fields of a table; there are none in anything else. -/
def fieldsOf : Datum → List (String × Datum)
  | .table fields => fields
  | _ => []

/-- Change the datum under a key; a missing one is null before. -/
def update (key : String) (change : Datum → Datum) : List (String × Datum) → List (String × Datum)
  | [] => [(key, change .null)]
  | (k, d) :: rest => if k = key then (k, change d) :: rest else (k, d) :: update key change rest

mutual

def merge : (upper : Datum) → (base : Datum) → Datum
  | .table fields, base => .table (mergeFields fields (fieldsOf base))
  | .null, _ => .null
  | .bool b, _ => .bool b
  | .integer n, _ => .integer n
  | .float x, _ => .float x
  | .text s, _ => .text s
  | .list items, _ => .list items

def mergeFields : (upper : List (String × Datum)) → (base : List (String × Datum)) →
    List (String × Datum)
  | [], base => base
  | (key, datum) :: rest, base => mergeFields rest (update key (merge datum) base)

end

/-! ## Keys that are paths -/

/-- A step of a path in a key. A negative index counts from the end. -/
inductive Step
  | key (name : String)
  | index (i : Int)
deriving DecidableEq

def isNamePart (c : Char) : Bool := c.isAlphanum || c == '_' || c == '-'

/-- A name at the start of a text, and the rest. -/
def name? (cs : List Char) : Option (String × List Char) :=
  let name := cs.takeWhile isNamePart
  if name.isEmpty then none else some (String.ofList name, cs.drop name.length)

def skipBlanks (cs : List Char) : List Char := cs.dropWhile fun c => c == ' ' || c == '\t'

/-- An index up to its closing bracket, and the rest. -/
def index? (cs : List Char) : Option (Int × List Char) :=
  let cs := skipBlanks cs
  let (negative, cs) := if cs.head? = some '-' then (true, cs.tail) else (false, cs)
  let digits := cs.takeWhile Text.isDigit
  match Text.nat? digits, skipBlanks (cs.drop digits.length) with
  | some n, ']' :: rest => if n < twoTo 63 then some (if negative then -(n : Int) else n, rest) else none
  | _, _ => none

/-- The steps after the first one; there are at most `fuel` of them. -/
def stepsFrom? : (fuel : Nat) → List Char → Option (List Step)
  | _, [] => some []
  | 0, _ => none
  | fuel + 1, c :: rest =>
    if c = '.' then
      (name? rest).bind fun (name, rest) => (stepsFrom? fuel rest).map (.key name :: ·)
    else if c = '[' then
      (index? rest).bind fun (i, rest) => (stepsFrom? fuel rest).map (.index i :: ·)
    else none

/-- The steps of a key. A key that is no path is a single step. -/
def steps (key : String) : List Step :=
  match name? key.toList with
  | none => [.key key]
  | some (first, rest) =>
    match stepsFrom? rest.length rest with
    | some others => .key first :: others
    | none => [.key key]

/-- The items of a list; there are none in anything else. -/
def itemsOf : Datum → List Datum
  | .list items => items
  | _ => []

/-- Change the item at an index. The list grows with nulls at the end that is too short. -/
def updateItem (i : Int) (change : Datum → Datum) (items : List Datum) : List Datum :=
  let place := if 0 ≤ i then i else (items.length : Int) + i
  if 0 ≤ place then
    let grown := items ++ List.replicate (place.toNat + 1 - items.length) Datum.null
    grown.modify place.toNat change
  else
    (List.replicate (-place).toNat Datum.null ++ items).modify 0 change

/-- Change the datum at the end of some steps. -/
def updateAt (change : Datum → Datum) : List Step → Datum → Datum
  | [] => change
  | .key name :: rest => fun datum => .table (update name (updateAt change rest) (fieldsOf datum))
  | .index i :: rest => fun datum => .list (updateItem i (updateAt change rest) (itemsOf datum))

/-! ## Sources -/

/-- Lay the fields of a source over a base. -/
def overlay (base : Datum) (source : List (String × Datum)) : Datum :=
  source.foldl (fun datum (key, value) => updateAt (merge value) (steps key) datum) base

end Flaky.Layer
