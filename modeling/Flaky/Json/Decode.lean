-- SUMMARY: Reading typed values out of JSON texts: limits on nesting and numbers, strings, lists, integers and fields.
import Flaky.Json.Raw
import Flaky.Number.Binary64
import Flaky.Number.Power

/-!
# Values of JSON texts

A text may be well formed and still be refused where a value is built from it:
nesting is limited, numbers must fit a double or a 64-bit integer, and strings
must be text. These are the readers from which the formats are put together.
-/

namespace Flaky.Json.Raw

/-- The number of arrays and objects that may contain one another. -/
def nestingLimit : Nat := 127

def numberFits (d : Decimal) : Bool := (Binary64.ofDecimal d).isFinite

mutual

/-- Whether a value can be built, with `room` more levels of nesting. -/
def buildable (room : Nat) : Raw → Bool
  | .null | .bool _ => true
  | .number d => numberFits d
  | .string s => s.isSome
  | .array items => room != 0 && buildableItems (room - 1) items
  | .object fields => room != 0 && buildableFields (room - 1) fields

def buildableItems (room : Nat) : List Raw → Bool
  | [] => true
  | item :: rest => buildable room item && buildableItems room rest

def buildableFields (room : Nat) : List (Option String × Raw) → Bool
  | [] => true
  | (key, value) :: rest => key.isSome && buildable room value && buildableFields room rest

end

/-! ## Values -/

def string? : Raw → Option String
  | .string s => s
  | _ => none

def strings? : Raw → Option (List String)
  | .array items => items.mapM string?
  | _ => none

/-- An integer of at most `bits` bits, without sign. -/
def unsigned? (bits : Nat) : Raw → Option Nat
  | .number d => d.int?.bind fun n => if 0 ≤ n ∧ n < twoTo bits then some n.toNat else none
  | _ => none

def bool? : Raw → Option Bool
  | .bool b => some b
  | _ => none

/-- A value that may be null. -/
def optional? (read : Raw → Option α) : Raw → Option (Option α)
  | .null => some none
  | v => (read v).map some

/-! ## Fields -/

/-- The values under a key, in order. -/
def valuesAt (key : String) (fields : List (Option String × Raw)) : List Raw :=
  fields.filterMap fun (k, v) => if k = some key then some v else none

/-- The value under a key that must be there once. -/
def field? (key : String) (read : Raw → Option α) (fields : List (Option String × Raw)) : Option α :=
  match valuesAt key fields with
  | [v] => read v
  | _ => none

/-- The value under a key that may be missing. -/
def fieldOr? (key : String) (missing : α) (read : Raw → Option α)
    (fields : List (Option String × Raw)) : Option α :=
  match valuesAt key fields with
  | [] => some missing
  | [v] => read v
  | _ => none

/-- The name of a variant without contents: the name itself, or an object whose one key is the name
    and whose value satisfies `empty`. -/
def variant? (empty : Raw → Bool) (ofName? : String → Option α) : Raw → Option α
  | .string s => s.bind ofName?
  | .object [(key, value)] => if empty value then key.bind ofName? else none
  | _ => none

end Flaky.Json.Raw
