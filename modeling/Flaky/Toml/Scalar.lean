-- SUMMARY: Scalars of TOML documents that are no strings: booleans, integers, floats, dates and times.
import Flaky.Number.Power
import Flaky.Settings.Datum
import Flaky.Timestamp
import Flaky.Toml.Lexeme

/-!
# TOML scalars

A scalar is read from its whole literal. Dates and times become texts.
-/

namespace Flaky.Toml

/-! ## Numbers -/

/-- The digits of a run in which single underscores may stand between digits. -/
def digits? (isDigit : Char → Bool) : List Char → Option (List Char)
  | [] => none
  | [c] => if isDigit c then some [c] else none
  | c :: '_' :: rest => if isDigit c then (digits? isDigit rest).map (c :: ·) else none
  | c :: rest => if isDigit c then (digits? isDigit rest).map (c :: ·) else none

/-- Decimal digits without a leading zero. -/
def wholeDigits? (cs : List Char) : Option (List Char) :=
  (digits? Text.isDigit cs).bind fun ds => if ds.head? = some '0' ∧ 1 < ds.length then none else some ds

def sign : List Char → Bool × List Char
  | '-' :: rest => (true, rest)
  | '+' :: rest => (false, rest)
  | cs => (false, cs)

def inBounds (n : Int) : Option Int := if -(twoTo 63 : Int) ≤ n ∧ n < twoTo 63 then some n else none

/-- Digits of another radix after their mark. -/
def radix? (radix : Nat) (cs : List Char) : Option Int :=
  let isDigit (c : Char) : Bool := ((Text.hexDigit? c).map fun d => decide (d < radix)).getD false
  (digits? isDigit cs).bind fun ds =>
    (Text.valueOf? radix Text.hexDigit? ds 0).bind fun n => inBounds n

def integer? (cs : List Char) : Option Int :=
  match cs with
  | '0' :: 'x' :: ds => radix? 16 ds
  | '0' :: 'o' :: ds => radix? 8 ds
  | '0' :: 'b' :: ds => radix? 2 ds
  | _ =>
    let (negative, ds) := sign cs
    (wholeDigits? ds).bind fun ds =>
      (Text.nat? ds).bind fun n => inBounds (if negative then -(n : Int) else n)

/-- The exponent after its mark. -/
def exponent? (cs : List Char) : Option Int :=
  let (negative, ds) := sign cs
  (digits? Text.isDigit ds).bind fun ds =>
    (Text.nat? ds).map fun n => if negative then -(n : Int) else n

/-- Digits, a fraction and an exponent, of which one of the last two must be there. -/
def decimal? (negative : Bool) (cs : List Char) : Option Decimal := do
  let isMark (c : Char) : Bool := c == 'e' || c == 'E'
  let before := cs.takeWhile fun c => !isMark c
  let after := cs.drop before.length
  let exponent ← if after.isEmpty then some 0 else exponent? after.tail
  let whole := before.takeWhile (· != '.')
  let fraction := before.drop whole.length
  let wholeDs ← wholeDigits? whole
  let fractionDs ← if fraction.isEmpty then some [] else digits? Text.isDigit fraction.tail
  if fraction.isEmpty && after.isEmpty then none
  else
    let value ← Text.nat? (wholeDs ++ fractionDs)
    return ⟨negative, value, exponent - fractionDs.length, false⟩

def float? (cs : List Char) : Option Binary64 :=
  let (negative, rest) := sign cs
  if rest = "inf".toList then some (.infinite negative)
  else if rest = "nan".toList then some .nan
  else
    (decimal? negative rest).bind fun d =>
      let x := Binary64.ofDecimal d
      if x.isFinite then some x else none

/-! ## Dates and times -/

/-- A date, as text. -/
def date? (cs : List Char) : Option (String × List Char) := do
  let (year, rest) ← Timestamp.digits? 4 cs
  let (month, rest) ← Timestamp.digits? 2 (← Timestamp.expect? ['-'] rest)
  let (day, rest) ← Timestamp.digits? 2 (← Timestamp.expect? ['-'] rest)
  if 1 ≤ month ∧ month ≤ 12 ∧ 1 ≤ day ∧ day ≤ Timestamp.daysIn year month then
    some (Text.padded 4 year ++ "-" ++ Text.padded 2 month ++ "-" ++ Text.padded 2 day, rest)
  else none

/-- The digits after the point, without zeros at the end, if there are any. -/
def fractionText (ds : List Char) : String :=
  let kept := ((ds.take 9).reverse.dropWhile (· == '0')).reverse
  if kept.isEmpty then "" else "." ++ String.ofList kept

/-- The seconds of a time, which may be missing. -/
def seconds? (cs : List Char) : Option (String × List Char) :=
  match cs with
  | ':' :: rest => do
    let (second, rest) ← Timestamp.digits? 2 rest
    if 60 < second then none
    else
      match rest with
      | '.' :: rest =>
        let ds := rest.takeWhile Text.isDigit
        if ds.isEmpty then none
        else some (":" ++ Text.padded 2 second ++ fractionText ds, rest.drop ds.length)
      | rest => some (":" ++ Text.padded 2 second, rest)
  | _ => some ("", cs)

/-- A time of day, as text. -/
def time? (cs : List Char) : Option (String × List Char) := do
  let (hour, rest) ← Timestamp.digits? 2 cs
  let (minute, rest) ← Timestamp.digits? 2 (← Timestamp.expect? [':'] rest)
  let (seconds, rest) ← seconds? rest
  if hour < 24 ∧ minute < 60 then
    some (Text.padded 2 hour ++ ":" ++ Text.padded 2 minute ++ seconds, rest)
  else none

/-- An offset from UTC at the end of a literal, as text; there may be none. -/
def offset? (cs : List Char) : Option String :=
  match cs with
  | [] => some ""
  | ['Z'] | ['z'] => some "Z"
  | c :: _ =>
    if c = '+' ∨ c = '-' then (Timestamp.offset? cs).map fun _ => String.ofList cs else none

/-- A date, a time, or both, as text. -/
def dateTime? (cs : List Char) : Option String :=
  match date? cs with
  | some (date, []) => some date
  | some (date, mark :: rest) =>
    if ['T', 't', ' '].contains mark then
      (time? rest).bind fun (time, rest) =>
        (offset? rest).map fun offset => date ++ "T" ++ time ++ offset
    else none
  | none =>
    match time? cs with
    | some (time, []) => some time
    | _ => none

/-! ## Literals -/

def ofLiteral? (cs : List Char) : Option Datum :=
  if cs = "true".toList then some (.bool true)
  else if cs = "false".toList then some (.bool false)
  else
    ((integer? cs).map Datum.integer).or
      (((float? cs).map Datum.float).or ((dateTime? cs).map Datum.text))

def isLiteral (c : Char) : Bool := isBare c || c == '+' || c == '.' || c == ':'

/-- The length of a literal at the start. A blank may stand between a date and a time. -/
def literalLength (cs : List Char) : Nat :=
  let first := (cs.takeWhile isLiteral).length
  match date? (cs.take first), cs.drop first with
  | some (_, []), ' ' :: rest =>
    if (rest.head?.map Text.isDigit).getD false then first + 1 + (rest.takeWhile isLiteral).length
    else first
  | _, _ => first

/-- A scalar that is no string. -/
def scalar? (cs : List Char) : Read Datum :=
  let length := literalLength cs
  (ofLiteral? (cs.take length)).map fun datum => (datum, cs.drop length)

end Flaky.Toml
