-- SUMMARY: Double-precision numbers as exact values: rounding from decimal, rounding to integers, and the shortest decimal that reads back.
import Flaky.Number.Decimal
import Flaky.Number.Power

/-!
# Double-precision numbers

A finite double is `mantissa * 2 ^ exponent` with fewer than 54 bits of
mantissa and an exponent of at least -1074. Decimals are rounded to the nearest
double, a tie to the even mantissa. All arithmetic is exact, over naturals.
-/

namespace Flaky

inductive Binary64
  | finite (negative : Bool) (mantissa : Nat) (exponent : Int)
  | infinite (negative : Bool)
  | nan
deriving DecidableEq

namespace Binary64

def mantissaBits : Nat := 53

def leastExponent : Int := -1074

/-- The greatest exponent of a full mantissa. -/
def greatestExponent : Int := 971

/-! ## Reading -/

/-- `num / den` to the nearest natural, a tie to even. -/
def roundHalfEven (num den : Nat) : Nat :=
  let q := num / den
  let r := num % den
  if 2 * r < den then q else if den < 2 * r then q + 1 else if q % 2 = 0 then q else q + 1

/-- The number of decimal digits of `n`. -/
def decimalLength (n : Nat) : Nat := (Nat.toDigits 10 n).length

/-- `num / den * 2 ^ -exponent` as a fraction. -/
def scaled (num den : Nat) (exponent : Int) : Nat × Nat :=
  if 0 ≤ exponent then (num, den * twoTo exponent.toNat) else (num * twoTo (-exponent).toNat, den)

/-- The nearest double to the positive fraction `num / den`. -/
def ofFraction (negative : Bool) (num den : Nat) : Binary64 :=
  let guess : Int := (num.log2 : Int) - (den.log2 : Int) - mantissaBits
  let exponent := if twoTo mantissaBits ≤ (scaled num den guess).1 / (scaled num den guess).2
    then guess + 1 else guess
  let exponent := max exponent leastExponent
  let (n, d) := scaled num den exponent
  let m := roundHalfEven n d
  let (m, exponent) := if m = twoTo mantissaBits then (twoTo (mantissaBits - 1), exponent + 1)
    else (m, exponent)
  if greatestExponent < exponent then .infinite negative else .finite negative m exponent

/-- The nearest double to a decimal. -/
def ofDecimal (d : Decimal) : Binary64 :=
  let size : Int := d.exponent + decimalLength d.digits
  if d.digits = 0 ∨ size < -330 then .finite d.negative 0 leastExponent
  else if 310 < size then .infinite d.negative
  else if 0 ≤ d.exponent then ofFraction d.negative (d.digits * tenTo d.exponent.toNat) 1
  else ofFraction d.negative d.digits (tenTo (-d.exponent).toNat)

def isFinite : Binary64 → Bool
  | .finite .. => true
  | _ => false

def isZero : Binary64 → Bool
  | .finite _ m _ => m == 0
  | _ => false

/-! ## Integers -/

/-- The magnitude to the nearest natural, a half away from zero. -/
def roundedMagnitude (mantissa : Nat) (exponent : Int) : Nat :=
  if 0 ≤ exponent then mantissa * twoTo exponent.toNat
  else (2 * mantissa + twoTo (-exponent).toNat) / (2 * twoTo (-exponent).toNat)

/-- The nearest unsigned integer of `bits` bits, a half away from zero; what lies outside goes to
    the nearest bound and what is no number to zero. -/
def clampUnsigned (bits : Nat) : Binary64 → Nat
  | .nan => 0
  | .infinite true => 0
  | .infinite false => twoTo bits - 1
  | .finite true _ _ => 0
  | .finite false m e => min (roundedMagnitude m e) (twoTo bits - 1)

/-! ## Shortest decimals -/

/-- Whether `digits * 10 ^ power` lies in the interval of numbers that round to a double. The
    interval is given by its ends times four over `2 ^ (exponent - 2)`. -/
def inInterval (low high : Nat) (closed : Bool) (exponent power : Int) (digits : Nat) : Bool :=
  let (n, d) := if 0 ≤ power then (digits * tenTo power.toNat, 1) else (digits, tenTo (-power).toNat)
  let (n, d) := scaled n d (exponent - 2)
  if closed then low * d ≤ n && n ≤ high * d else low * d < n && n < high * d

/-- The multiple of `10 ^ power` that is nearest to a double, among its two neighbours that read
    back as it. -/
def nearestOnGrid (mantissa : Nat) (exponent power : Int) : Option Nat :=
  let (n, d) := if 0 ≤ exponent then (mantissa * twoTo exponent.toNat, 1)
    else (mantissa, twoTo (-exponent).toNat)
  let (n, d) := if 0 ≤ power then (n, d * tenTo power.toNat) else (n * tenTo (-power).toNat, d)
  let q := n / d
  let low := if mantissa = twoTo (mantissaBits - 1) ∧ leastExponent < exponent then 4 * mantissa - 1
    else 4 * mantissa - 2
  let fits := inInterval low (4 * mantissa + 2) (mantissa % 2 == 0) exponent power
  let below := 2 * (n % d) ≤ d
  match fits q, fits (q + 1) with
  | true, true => some (if below then q else q + 1)
  | true, false => some q
  | false, true => some (q + 1)
  | false, false => none

/-- Try grids from coarse to fine. -/
def shortestFrom (mantissa : Nat) (exponent : Int) : (tries : Nat) → (power : Int) → Nat × Int
  | 0, power => ((nearestOnGrid mantissa exponent power).getD 0, power)
  | tries + 1, power =>
    match nearestOnGrid mantissa exponent power with
    | some q => if q = 0 then shortestFrom mantissa exponent tries (power - 1) else (q, power)
    | none => shortestFrom mantissa exponent tries (power - 1)

/-- The digits and the power of ten of the shortest decimal that reads back as a positive double. -/
def shortest (mantissa : Nat) (exponent : Int) : Nat × Int :=
  let length : Int := if 0 ≤ exponent then decimalLength (mantissa * twoTo exponent.toNat)
    else decimalLength (mantissa * tenTo 330 / twoTo (-exponent).toNat) - 330
  let (digits, power) := shortestFrom mantissa exponent 18 length
  let zeros := ((Nat.toDigits 10 digits).reverse.takeWhile (· == '0')).length
  (digits / tenTo zeros, power + zeros)

/-! ## Text -/

def zeros (n : Nat) : String := String.ofList (List.replicate n '0')

/-- Digits and a power of ten in positional notation, with a fraction only where there is one. -/
def positional (digits : Nat) (power : Int) : String :=
  let ds := Nat.toDigits 10 digits
  if 0 ≤ power then String.ofList ds ++ zeros power.toNat
  else
    let places := (-power).toNat
    if places < ds.length then
      String.ofList (ds.take (ds.length - places)) ++ "." ++
        String.ofList (ds.drop (ds.length - places))
    else "0." ++ zeros (places - ds.length) ++ String.ofList ds

def signText (negative : Bool) : String := if negative then "-" else ""

/-- Positional notation of the shortest decimal, whatever the magnitude. -/
def plainText : Binary64 → String
  | .nan => "NaN"
  | .infinite negative => signText negative ++ "inf"
  | .finite negative m e =>
    signText negative ++
      (if m = 0 then "0"
      else
        let (digits, power) := shortest m e
        positional digits power)

/-- Plain text in which a finite number always shows a point. -/
def pointedText (x : Binary64) : String :=
  if x.isFinite ∧ x.plainText.toList.contains '.' = false then x.plainText ++ ".0"
  else x.plainText

/-- Positional below `10 ^ 16` and from `10 ^ -5` on, else with a signed exponent. -/
def exponentText : Binary64 → String
  | .finite negative m e =>
    if m = 0 then signText negative ++ "0.0"
    else
      let (digits, power) := shortest m e
      let ds := Nat.toDigits 10 digits
      let point : Int := ds.length + power
      if -5 < point ∧ point ≤ 16 then (Binary64.finite negative m e).pointedText
      else
        let tail := if ds.length = 1 then "" else "." ++ String.ofList ds.tail
        let power := point - 1
        signText negative ++ String.ofList (ds.take 1) ++ tail ++ "e" ++
          (if power < 0 then "-" else "+") ++ toString power.natAbs
  | x => x.plainText

end Binary64

end Flaky
