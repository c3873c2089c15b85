-- SUMMARY: JSON texts as they are written: exact numbers, strings that may not denote text, repeated keys; read character by character.
import Flaky.Json
import Flaky.Number.Decimal
import Flaky.Text.Decimal

/-!
# JSON texts

`Json.Raw` is what a JSON text says before anything is asked of it: numbers are
exact decimals, keys may repeat, nesting has no limit, and a string whose
escapes leave a lone surrogate is `none`. The reader is a machine that takes
one character at a time, so what it makes of a text is a fold over the text.
-/

namespace Flaky.Json

inductive Raw
  | null
  | bool (b : Bool)
  | number (d : Decimal)
  | string (s : Option String)
  | array (items : List Raw)
  | object (fields : List (Option String × Raw))

namespace Raw

instance : Inhabited Raw := ⟨.null⟩

/-! ## Strings -/

/-- An element of a string: a character, or a UTF-16 unit that was written as an escape. -/
inductive StringUnit
  | char (c : Char)
  | unit (n : Nat)
deriving DecidableEq

def isHighSurrogate (n : Nat) : Bool := 0xD800 ≤ n && n ≤ 0xDBFF

def isLowSurrogate (n : Nat) : Bool := 0xDC00 ≤ n && n ≤ 0xDFFF

/-- The text of a string, or `none` if a surrogate stands alone. -/
def textOf? : List StringUnit → Option (List Char)
  | [] => some []
  | .char c :: rest => (textOf? rest).map (c :: ·)
  | .unit n :: rest =>
    if isHighSurrogate n then
      match rest with
      | .unit m :: rest' =>
        if isLowSurrogate m then
          (textOf? rest').map (Char.ofNat (0x10000 + (n - 0xD800) * 0x400 + (m - 0xDC00)) :: ·)
        else none
      | _ => none
    else if isLowSurrogate n then none
    else (textOf? rest).map (Char.ofNat n :: ·)

/-- Where the reader is inside a string. -/
inductive EscapeState
  | plain
  | backslash
  | hex (value count : Nat)
deriving DecidableEq

/-- What a single-letter escape stands for. -/
def escaped? (c : Char) : Option Char :=
  match c with
  | '"' => some '"'
  | '\\' => some '\\'
  | '/' => some '/'
  | 'b' => some (Char.ofNat 8)
  | 'f' => some (Char.ofNat 12)
  | 'n' => some '\n'
  | 'r' => some '\r'
  | 't' => some '\t'
  | _ => none

/-! ## Numbers -/

/-- The part of a number that was read last. -/
inductive NumberStage
  | sign
  | zero
  | integer
  | point
  | fraction
  | mark
  | markSign
  | power
deriving DecidableEq

/-- A number read so far: its digits without the point, how many of them follow it, and the
    exponent written. -/
structure NumberState where
  stage : NumberStage
  negative : Bool
  digits : Nat
  places : Nat
  powerNegative : Bool
  power : Nat
deriving DecidableEq

namespace NumberState

def start? (c : Char) : Option NumberState :=
  if c = '-' then some ⟨.sign, true, 0, 0, false, 0⟩
  else if c = '0' then some ⟨.zero, false, 0, 0, false, 0⟩
  else (Text.digit? c).map fun d => ⟨.integer, false, d, 0, false, 0⟩

/-- Take one more character into the number, if it continues it. -/
def next? (s : NumberState) (c : Char) : Option NumberState :=
  match s.stage, Text.digit? c with
  | .sign, some d => some { s with stage := if d = 0 then .zero else .integer, digits := d }
  | .integer, some d => some { s with digits := s.digits * 10 + d }
  | .point, some d | .fraction, some d =>
    some { s with stage := .fraction, digits := s.digits * 10 + d, places := s.places + 1 }
  | .mark, some d | .markSign, some d | .power, some d =>
    some { s with stage := .power, power := s.power * 10 + d }
  | .zero, none | .integer, none =>
    if c = '.' then some { s with stage := .point }
    else if c = 'e' ∨ c = 'E' then some { s with stage := .mark }
    else none
  | .fraction, none => if c = 'e' ∨ c = 'E' then some { s with stage := .mark } else none
  | .mark, none =>
    if c = '+' then some { s with stage := .markSign }
    else if c = '-' then some { s with stage := .markSign, powerNegative := true }
    else none
  | _, _ => none

/-- The number, if what was read is a whole literal. -/
def value? (s : NumberState) : Option Decimal :=
  let power : Int := if s.powerNegative then -(s.power : Int) else s.power
  match s.stage with
  | .zero | .integer => some ⟨s.negative, s.digits, 0, true⟩
  | .fraction | .power => some ⟨s.negative, s.digits, power - s.places, false⟩
  | _ => none

end NumberState

/-! ## The reader -/

/-- A container that is still open, its contents latest first. -/
inductive Frame
  | array (items : List Raw)
  /-- `key` belongs to the value being read. -/
  | object (fields : List (Option String × Raw)) (key : Option String)

/-- What the reader is at. -/
inductive Mode
  /-- A value must follow. -/
  | value
  /-- A value, or the end of an array that is empty so far. -/
  | firstItem
  /-- A key, or the end of an object that is empty so far. -/
  | firstKey
  /-- A key must follow. -/
  | key
  /-- A key has been read. -/
  | colon
  /-- A value has been read that is part of a container. -/
  | separator
  /-- The whole value has been read. -/
  | done (result : Raw)
  /-- Inside a string; `isKey` says whether it is a key. -/
  | string (isKey : Bool) (units : List StringUnit) (escape : EscapeState)
  | number (s : NumberState)
  /-- Inside `true`, `false` or `null`. -/
  | word (left : List Char) (meaning : Raw)

structure Reader where
  frames : List Frame
  mode : Mode

def isSpace (c : Char) : Bool := c == ' ' || c == '\n' || c == '\t' || c == '\r'

/-- A complete value takes its place in the innermost container. -/
def deliver (frames : List Frame) (v : Raw) : Reader :=
  match frames with
  | [] => ⟨[], .done v⟩
  | .array items :: rest => ⟨.array (v :: items) :: rest, .separator⟩
  | .object fields key :: rest => ⟨.object ((key, v) :: fields) key :: rest, .separator⟩

/-- The first character of a value. -/
def begin? (frames : List Frame) (c : Char) : Option Reader :=
  if c = '"' then some ⟨frames, .string false [] .plain⟩
  else if c = '[' then some ⟨.array [] :: frames, .firstItem⟩
  else if c = '{' then some ⟨.object [] none :: frames, .firstKey⟩
  else if c = 't' then some ⟨frames, .word "rue".toList (.bool true)⟩
  else if c = 'f' then some ⟨frames, .word "alse".toList (.bool false)⟩
  else if c = 'n' then some ⟨frames, .word "ull".toList .null⟩
  else (NumberState.start? c).map fun s => ⟨frames, .number s⟩

/-- The end of the innermost container. -/
def close? (frames : List Frame) (c : Char) : Option Reader :=
  match frames with
  | .array items :: rest => if c = ']' then some (deliver rest (.array items.reverse)) else none
  | .object fields _ :: rest =>
    if c = '}' then some (deliver rest (.object fields.reverse)) else none
  | [] => none

/-- A character after a value. -/
def after? (r : Reader) (c : Char) : Option Reader :=
  if isSpace c then some r
  else
    match r.mode with
    | .separator =>
      if c = ',' then
        match r.frames with
        | .array _ :: _ => some { r with mode := .value }
        | .object .. :: _ => some { r with mode := .key }
        | [] => none
      else close? r.frames c
    | _ => none

/-- A string is complete. -/
def endString (frames : List Frame) (isKey : Bool) (units : List StringUnit) : Reader :=
  let s := (textOf? units.reverse).map String.ofList
  if isKey then
    match frames with
    | .object fields _ :: rest => ⟨.object fields s :: rest, .colon⟩
    | frames => ⟨frames, .colon⟩
  else deliver frames (.string s)

/-- A character inside a string. -/
def inString? (frames : List Frame) (isKey : Bool) (units : List StringUnit) (escape : EscapeState)
    (c : Char) : Option Reader :=
  match escape with
  | .plain =>
    if c = '"' then some (endString frames isKey units)
    else if c = '\\' then some ⟨frames, .string isKey units .backslash⟩
    else if c.toNat < 32 then none
    else some ⟨frames, .string isKey (.char c :: units) .plain⟩
  | .backslash =>
    if c = 'u' then some ⟨frames, .string isKey units (.hex 0 0)⟩
    else (escaped? c).map fun e => ⟨frames, .string isKey (.char e :: units) .plain⟩
  | .hex value count =>
    (Text.hexDigit? c).map fun d =>
      if count = 3 then ⟨frames, .string isKey (.unit (value * 16 + d) :: units) .plain⟩
      else ⟨frames, .string isKey units (.hex (value * 16 + d) (count + 1))⟩

/-- Take one character; `none` if no JSON text continues so. -/
def step? (r : Reader) (c : Char) : Option Reader :=
  match r.mode with
  | .value => if isSpace c then some r else begin? r.frames c
  | .firstItem =>
    if isSpace c then some r else if c = ']' then close? r.frames c else begin? r.frames c
  | .firstKey =>
    if isSpace c then some r
    else if c = '"' then some { r with mode := .string true [] .plain }
    else close? r.frames c
  | .key =>
    if isSpace c then some r
    else if c = '"' then some { r with mode := .string true [] .plain }
    else none
  | .colon =>
    if isSpace c then some r else if c = ':' then some { r with mode := .value } else none
  | .separator | .done _ => after? r c
  | .string isKey units escape => inString? r.frames isKey units escape c
  | .word [] _ => none
  | .word (w :: left) meaning =>
    if c = w then
      (if left.isEmpty then some (deliver r.frames meaning) else some ⟨r.frames, .word left meaning⟩)
    else none
  | .number s =>
    match s.next? c with
    | some s => some { r with mode := .number s }
    | none => s.value?.bind fun d => after? (deliver r.frames (.number d)) c

/-- The value at the end of a text. -/
def finish? (r : Reader) : Option Raw :=
  match r.mode, r.frames with
  | .done v, _ => some v
  | .number s, [] => s.value?.map .number
  | _, _ => none

def start : Reader := ⟨[], .value⟩

def ofChars? (cs : List Char) : Option Raw := (cs.foldlM step? start).bind finish?

def ofText? (text : String) : Option Raw := ofChars? text.toList

end Raw

end Flaky.Json
