-- SUMMARY: Decimal integers as text: digits, natural numbers, and bounded integers with the four ways in which reading one fails.
import Flaky.Number.Power

/-!
# Decimal integers

Reading goes digit by digit against the bounds of the target, so the first
character that is wrong, or at which the value leaves the bounds, decides the
error.
-/

namespace Flaky.Text

/-! ## Digits -/

def digit? (c : Char) : Option Nat :=
  if '0' ≤ c ∧ c ≤ '9' then some (c.toNat - '0'.toNat) else none

def isDigit (c : Char) : Bool := (digit? c).isSome

def hexDigit? (c : Char) : Option Nat :=
  if '0' ≤ c ∧ c ≤ '9' then some (c.toNat - '0'.toNat)
  else if 'a' ≤ c ∧ c ≤ 'f' then some (c.toNat - 'a'.toNat + 10)
  else if 'A' ≤ c ∧ c ≤ 'F' then some (c.toNat - 'A'.toNat + 10)
  else none

/-- The value of a run of digits, read by `digit`; `none` where one of them is no digit. -/
def valueOf? (radix : Nat) (digit : Char → Option Nat) : List Char → Nat → Option Nat
  | [], value => some value
  | c :: rest, value =>
    match digit c with
    | some d => if d < radix then valueOf? radix digit rest (value * radix + d) else none
    | none => none

/-- A non-empty run of decimal digits. -/
def nat? : List Char → Option Nat
  | [] => none
  | cs => valueOf? 10 digit? cs 0

/-! ## Bounded integers -/

inductive IntegerError
  | empty
  | invalidDigit
  | tooLarge
  | tooSmall
deriving DecidableEq

def IntegerError.message : IntegerError → String
  | .empty => "cannot parse integer from empty string"
  | .invalidDigit => "invalid digit found in string"
  | .tooLarge => "number too large to fit in target type"
  | .tooSmall => "number too small to fit in target type"

/-- Read digits up to a greatest magnitude; `overflow` is the error past it. -/
def magnitude (bound : Nat) (overflow : IntegerError) : List Char → Nat → Except IntegerError Nat
  | [], value => .ok value
  | c :: rest, value =>
    match digit? c with
    | none => .error .invalidDigit
    | some d =>
      if value * 10 + d ≤ bound then magnitude bound overflow rest (value * 10 + d)
      else .error overflow

/-- A signed integer of `bits` bits: an optional sign and at least one digit. -/
def signed (bits : Nat) : List Char → Except IntegerError Int
  | [] => .error .empty
  | ['+'] | ['-'] => .error .invalidDigit
  | '-' :: digits => do return -(← magnitude (twoTo (bits - 1)) .tooSmall digits 0 : Nat)
  | '+' :: digits => do return (← magnitude (twoTo (bits - 1) - 1) .tooLarge digits 0 : Nat)
  | digits => do return (← magnitude (twoTo (bits - 1) - 1) .tooLarge digits 0 : Nat)

/-- An unsigned integer of `bits` bits: an optional plus sign and at least one digit. -/
def unsigned (bits : Nat) : List Char → Except IntegerError Nat
  | [] => .error .empty
  | ['+'] | ['-'] => .error .invalidDigit
  | '+' :: digits => magnitude (twoTo bits - 1) .tooLarge digits 0
  | digits => magnitude (twoTo bits - 1) .tooLarge digits 0

/-! ## Padding -/

/-- The text of `n` with zeros in front up to `width` digits. -/
def padded (width n : Nat) : String :=
  let digits := toString n
  String.ofList (List.replicate (width - digits.length) '0') ++ digits

end Flaky.Text
