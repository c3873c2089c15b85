-- SUMMARY: Moments with an offset from UTC, their RFC 3339 text, and reading it.
import Flaky.Text.Decimal

/-!
# Timestamps

A moment is a date and a time of day at an offset from UTC, kept to the
millisecond.
-/

namespace Flaky

structure Timestamp where
  year : Nat
  month : Nat
  day : Nat
  hour : Nat
  minute : Nat
  second : Nat
  millisecond : Nat
  /-- East of UTC is positive. -/
  offsetMinutes : Int
deriving DecidableEq

namespace Timestamp

/-! ## Writing -/

def offsetText (minutes : Int) : String :=
  (if minutes < 0 then "-" else "+") ++ Text.padded 2 (minutes.natAbs / 60) ++ ":" ++
    Text.padded 2 (minutes.natAbs % 60)

/-- The text with milliseconds and a numeric offset. -/
def text (t : Timestamp) : String :=
  Text.padded 4 t.year ++ "-" ++ Text.padded 2 t.month ++ "-" ++ Text.padded 2 t.day ++ "T" ++
    Text.padded 2 t.hour ++ ":" ++ Text.padded 2 t.minute ++ ":" ++ Text.padded 2 t.second ++ "." ++
    Text.padded 3 t.millisecond ++ offsetText t.offsetMinutes

/-! ## Reading -/

/-- A number of exactly `width` digits, and what follows it. -/
def digits? (width : Nat) (cs : List Char) : Option (Nat × List Char) :=
  if (cs.take width).length = width then
    (Text.nat? (cs.take width)).map fun n => (n, cs.drop width)
  else none

def expect? (allowed : List Char) : List Char → Option (List Char)
  | [] => none
  | c :: rest => if allowed.contains c then some rest else none

/-- The milliseconds of a fraction of a second, if there is one. -/
def fraction? (cs : List Char) : Option (Nat × List Char) :=
  match cs with
  | '.' :: rest =>
    let ds := rest.takeWhile Text.isDigit
    if ds.isEmpty then none
    else (Text.nat? ((ds ++ ['0', '0']).take 3)).map fun n => (n, rest.dropWhile Text.isDigit)
  | _ => some (0, cs)

def offset? : List Char → Option Int
  | ['Z'] | ['z'] => some 0
  | sign :: rest => do
    let (hours, rest) ← digits? 2 rest
    let rest ← expect? [':'] rest
    let (minutes, rest) ← digits? 2 rest
    if !rest.isEmpty || 24 ≤ hours || 60 ≤ minutes then none
    else if sign = '+' then some ((hours * 60 + minutes : Nat) : Int)
    else if sign = '-' then some (-((hours * 60 + minutes : Nat) : Int))
    else none
  | [] => none

def daysIn (year month : Nat) : Nat :=
  if month = 2 then
    (if year % 4 = 0 ∧ (year % 100 ≠ 0 ∨ year % 400 = 0) then 29 else 28)
  else if [4, 6, 9, 11].contains month then 30
  else 31

/-- Read an RFC 3339 text. A second 60 is a leap second. -/
def ofText? (text : String) : Option Timestamp := do
  let (year, rest) ← digits? 4 text.toList
  let (month, rest) ← digits? 2 (← expect? ['-'] rest)
  let (day, rest) ← digits? 2 (← expect? ['-'] rest)
  let (hour, rest) ← digits? 2 (← expect? ['T', 't', ' '] rest)
  let (minute, rest) ← digits? 2 (← expect? [':'] rest)
  let (second, rest) ← digits? 2 (← expect? [':'] rest)
  let (millisecond, rest) ← fraction? rest
  let offset ← offset? rest
  if 1 ≤ month ∧ month ≤ 12 ∧ 1 ≤ day ∧ day ≤ daysIn year month ∧ hour < 24 ∧ minute < 60 ∧
      second ≤ 60 then
    some ⟨year, month, day, hour, minute, second, millisecond, offset⟩
  else none

/-! ## Days since the epoch -/

/-- The number of days of a year. -/
def daysOfYear (year : Nat) : Nat := 337 + daysIn year 2

/-- The year, and the day within it, of a day counted from the start of `year`. -/
def yearOfDay : (fuel : Nat) → (year day : Nat) → Nat × Nat
  | 0, year, day => (year, day)
  | fuel + 1, year, day =>
    if day < daysOfYear year then (year, day) else yearOfDay fuel (year + 1) (day - daysOfYear year)

/-- The month, and the day within it, of a day counted from the start of `month`. -/
def monthOfDay (year : Nat) : (fuel : Nat) → (month day : Nat) → Nat × Nat
  | 0, month, day => (month, day)
  | fuel + 1, month, day =>
    if day < daysIn year month then (month, day)
    else monthOfDay year fuel (month + 1) (day - daysIn year month)

/-- The moment a number of milliseconds after the start of 1970, at UTC. -/
def ofEpoch (milliseconds : Nat) : Timestamp :=
  let seconds := milliseconds / 1000
  let days := seconds / 86400
  let (year, day) := yearOfDay days 1970 days
  let (month, day) := monthOfDay year 12 1 day
  ⟨year, month, day + 1, seconds / 3600 % 24, seconds / 60 % 60, seconds % 60,
    milliseconds % 1000, 0⟩

end Timestamp

end Flaky
