-- SUMMARY: Terminal text: styles by control sequences, and removing control characters and sequences from a text.

/-!
# Terminal text

A style is put on by a control sequence and taken off by another. Removing
follows the states of a terminal: outside of sequences all characters but the
controls are kept, and a line feed is kept wherever a terminal obeys it. The
data of a device also end at a character whose last byte ends strings.
-/

namespace Flaky.Text

/-! ## Styles -/

inductive Color
  | red
  | green
  | yellow
  | blue
  | magenta
deriving DecidableEq

def Color.code : Color → String
  | .red => "31"
  | .green => "32"
  | .yellow => "33"
  | .blue => "34"
  | .magenta => "35"

structure Style where
  color : Option Color
  bold : Bool
  dimmed : Bool
deriving DecidableEq

namespace Style

def plain : Style := ⟨none, false, false⟩

def ofColor (color : Color) : Style := ⟨some color, false, false⟩

def bolded : Style := ⟨none, true, false⟩

def boldColor (color : Color) : Style := ⟨some color, true, false⟩

def faint : Style := ⟨none, false, true⟩

def codes (style : Style) : List String :=
  (style.color.map Color.code).toList ++ (if style.bold then ["1"] else []) ++
    (if style.dimmed then ["2"] else [])

def escapeChar : String := String.singleton (Char.ofNat 27)

/-- A text in a style. -/
def apply (style : Style) (text : String) : String :=
  if style.codes.isEmpty then text
  else escapeChar ++ "[" ++ String.intercalate ";" style.codes ++ "m" ++ text ++ escapeChar ++ "[0m"

end Style

/-! ## Removing control sequences -/

namespace Terminal

/-- Where a terminal is in its reading. -/
inductive State
  | ground
  | escape
  | escapeIntermediate
  | csiEntry
  | csiParameters
  | csiIntermediate
  | csiIgnored
  | deviceEntry
  | deviceParameters
  | deviceIntermediate
  | deviceIgnored
  | deviceData
  | command
  | string
deriving DecidableEq

def within (low high : Nat) (n : Nat) : Bool := low ≤ n && n ≤ high

/-- Controls that are obeyed inside a sequence. -/
def isObeyed (n : Nat) : Bool := within 0x00 0x17 n || n == 0x19 || within 0x1C 0x1F n

/-- The state after a character with code `n`, and whether the terminal obeys the character as a
    control. -/
def next (state : State) (n : Nat) : State × Bool :=
  if n = 0x1B then (.escape, false)
  else if state = .ground then (.ground, within 0x00 0x1F n || within 0x80 0x9F n)
  else if n = 0x18 ∨ n = 0x1A then (.ground, true)
  else
    match state with
    | .ground => (.ground, false)
    | .escape =>
      if isObeyed n then (.escape, true)
      else if within 0x20 0x2F n then (.escapeIntermediate, false)
      else if n = 0x50 then (.deviceEntry, false)
      else if n = 0x5B then (.csiEntry, false)
      else if n = 0x5D then (.command, false)
      else if n = 0x58 ∨ n = 0x5E ∨ n = 0x5F then (.string, false)
      else if within 0x30 0x7E n then (.ground, false)
      else (.escape, false)
    | .escapeIntermediate =>
      if isObeyed n then (.escapeIntermediate, true)
      else if within 0x30 0x7E n then (.ground, false)
      else (.escapeIntermediate, false)
    | .csiEntry | .csiParameters =>
      if isObeyed n then (state, true)
      else if within 0x20 0x2F n then (.csiIntermediate, false)
      else if within 0x30 0x3B n then (.csiParameters, false)
      else if within 0x3C 0x3F n then
        (if state = .csiEntry then .csiParameters else .csiIgnored, false)
      else if within 0x40 0x7E n then (.ground, false)
      else (state, false)
    | .csiIntermediate =>
      if isObeyed n then (state, true)
      else if within 0x30 0x3F n then (.csiIgnored, false)
      else if within 0x40 0x7E n then (.ground, false)
      else (state, false)
    | .csiIgnored =>
      if isObeyed n then (state, true)
      else if within 0x40 0x7E n then (.ground, false)
      else (state, false)
    | .deviceEntry | .deviceParameters =>
      if within 0x20 0x2F n then (.deviceIntermediate, false)
      else if within 0x30 0x39 n || n == 0x3B then (.deviceParameters, false)
      else if n = 0x3A then (.deviceIgnored, false)
      else if within 0x3C 0x3F n then
        (if state = .deviceEntry then .deviceParameters else .deviceIgnored, false)
      else if within 0x40 0x7E n then (.deviceData, false)
      else (state, false)
    | .deviceIntermediate =>
      if within 0x30 0x3F n then (.deviceIgnored, false)
      else if within 0x40 0x7E n then (.deviceData, false)
      else (state, false)
    | .deviceData => (if 0x80 ≤ n ∧ n % 64 = 0x1C then .ground else .deviceData, false)
    | .deviceIgnored | .string => (state, false)
    | .command => if n = 0x07 then (.ground, false) else (.command, false)

/-- What a terminal shows of a text: characters outside of sequences that are no controls, and the
    line feeds that it obeys. -/
def shown : State → List Char → List Char
  | _, [] => []
  | state, c :: rest =>
    let (state', obeyed) := next state c.toNat
    let kept := if obeyed then c == '\n' else state == .ground && state' == .ground
    if kept then c :: shown state' rest else shown state' rest

end Terminal

/-- A text without control characters and control sequences. -/
def stripControls (cs : List Char) : List Char := Terminal.shown .ground cs

end Flaky.Text
