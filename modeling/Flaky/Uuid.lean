-- SUMMARY: UUIDs: their hyphenated text and the four forms in which one is read.
import Flaky.Number.Power
import Flaky.Text.Decimal

/-!
# UUIDs

A UUID is 128 bits. It is written as 32 lower-case hexadecimal digits in groups
of 8, 4, 4, 4 and 12, and read in four forms: without hyphens, with them, and
the hyphenated form in braces or after `urn:uuid:`; digits in either case.
-/

namespace Flaky

structure Uuid where
  bits : BitVec 128
deriving DecidableEq

namespace Uuid

instance : Ord Uuid := ⟨compareOn fun id => id.bits.toNat⟩

instance : Std.TransOrd Uuid :=
  inferInstanceAs (Std.TransCmp (compareOn fun id : Uuid => id.bits.toNat))

theorem compare_eq (a b : Uuid) : compare a b = compare a.bits.toNat b.bits.toNat := rfl

instance : Std.LawfulEqOrd Uuid where
  compare_self := Std.ReflCmp.compare_self
  eq_of_compare {a b} h := by
    rw [compare_eq, Std.LawfulEqCmp.compare_eq_iff_eq] at h
    cases a; cases b
    simpa using BitVec.eq_of_toNat_eq h

/-! ## Writing -/

def hexDigit (n : Nat) : Char :=
  if n < 10 then Char.ofNat ('0'.toNat + n) else Char.ofNat ('a'.toNat + (n - 10))

/-- The last `width` hexadecimal digits of `n`. -/
def hexDigits : (width : Nat) → (n : Nat) → List Char
  | 0, _ => []
  | width + 1, n => hexDigits width (n / 16) ++ [hexDigit (n % 16)]

/-- Put hyphens between the groups of 8, 4, 4, 4 and 12 digits. -/
def hyphenate (digits : List Char) : List Char :=
  digits.take 8 ++ '-' :: (digits.drop 8).take 4 ++ '-' :: (digits.drop 12).take 4
    ++ '-' :: (digits.drop 16).take 4 ++ '-' :: digits.drop 20

def chars (id : Uuid) : List Char := hyphenate (hexDigits 32 id.bits.toNat)

def text (id : Uuid) : String := String.ofList id.chars

/-! ## Reading -/

/-- Exactly 32 hexadecimal digits. -/
def ofSimple? (digits : List Char) : Option Uuid :=
  if digits.length = 32 then
    (Text.valueOf? 16 Text.hexDigit? digits 0).map fun n => ⟨BitVec.ofNat 128 n⟩
  else none

/-- Digits with hyphens after the 8th, 12th, 16th and 20th of them, and nowhere else. -/
def ofHyphenated? (cs : List Char) : Option Uuid :=
  let digits := cs.take 8 ++ (cs.drop 9).take 4 ++ (cs.drop 14).take 4 ++ (cs.drop 19).take 4
    ++ cs.drop 24
  if cs[8]? = some '-' ∧ cs[13]? = some '-' ∧ cs[18]? = some '-' ∧ cs[23]? = some '-' then
    ofSimple? digits
  else none

/-- What a text form puts around a hyphenated UUID. -/
def wrappings : List (List Char × List Char) :=
  [([], []), (['{'], ['}']), ("urn:uuid:".toList, [])]

/-- The text between an opening and a closing part. -/
def unwrap? (opening closing cs : List Char) : Option (List Char) :=
  if opening.length + closing.length ≤ cs.length ∧ cs.take opening.length = opening ∧
      cs.drop (cs.length - closing.length) = closing then
    some ((cs.drop opening.length).take (cs.length - opening.length - closing.length))
  else none

def ofChars? (cs : List Char) : Option Uuid :=
  (ofSimple? cs).or <| wrappings.findSome? fun (opening, closing) =>
    (unwrap? opening closing cs).bind ofHyphenated?

def ofText? (text : String) : Option Uuid := ofChars? text.toList

/-! ## Fresh ids -/

/-- The id of version 4 whose free bits are those of two random words. -/
def ofWords (high low : UInt64) : Uuid :=
  let high := (high &&& 0xFFFFFFFFFFFF0FFF) ||| 0x4000
  let low := (low &&& 0x3FFFFFFFFFFFFFFF) ||| 0x8000000000000000
  ⟨BitVec.ofNat 128 (high.toNat * twoTo 64 + low.toNat)⟩

end Uuid

end Flaky
