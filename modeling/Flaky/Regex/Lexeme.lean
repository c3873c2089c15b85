-- SUMMARY: Lexical elements of regular expressions: blanks, flags, counts and escapes.
import Flaky.Number.Power
import Flaky.Regex.Property
import Flaky.Text.Blank
import Flaky.Text.Decimal

/-!
# Lexemes of regular expressions

Each reader takes the start of a text and returns what it read with the rest, or
`none` if the text does not start so. With the flag `x`, blanks and comments
between lexemes count for nothing.
-/

namespace Flaky.Regex

/-- What was read, and the text after it. -/
abbrev Read (α : Type) := Option (α × List Char)

/-! ## Flags -/

/-- The flags that decide what is accepted. -/
structure Flags where
  /-- Blanks and comments are skipped. -/
  spaced : Bool
  /-- Characters are matched, and not bytes. -/
  unicode : Bool

namespace Flags

def standard : Flags := ⟨false, true⟩

def skipSpace : (inComment : Bool) → List Char → List Char
  | _, [] => []
  | true, c :: rest => skipSpace (c != '\n') rest
  | false, c :: rest =>
    if Text.isBlank c then skipSpace false rest
    else if c = '#' then skipSpace true rest
    else c :: rest

def skip (flags : Flags) (cs : List Char) : List Char :=
  if flags.spaced then skipSpace false cs else cs

def letters : List Char := "imsUuRx".toList

/-- Flags switched on and off, in the order of their letters. -/
structure Change where
  on : List Char
  off : List Char

/-- The letters of a change of flags up to `:` or `)`. No letter and no hyphen comes twice, and
    the hyphen is not last. Also says which of the two ends it. -/
def change? : (negated dangling : Bool) → Change → List Char → Read (Change × Char)
  | _, _, _, [] => none
  | negated, dangling, change, c :: rest =>
    if c = ':' ∨ c = ')' then (if dangling then none else some ((change, c), rest))
    else if c = '-' then (if negated then none else change? true true change rest)
    else if letters.contains c && !(change.on ++ change.off).contains c then
      if negated then change? true false { change with off := c :: change.off } rest
      else change? false false { change with on := c :: change.on } rest
    else none

def Change.isEmpty (change : Change) : Bool := change.on.isEmpty && change.off.isEmpty

def apply (flags : Flags) (change : Change) : Flags :=
  let after := fun (letter : Char) (before : Bool) =>
    (before || change.on.contains letter) && !change.off.contains letter
  ⟨after 'x' flags.spaced, after 'u' flags.unicode⟩

end Flags

/-! ## Counts -/

/-- Characters that satisfy `p`, with what is skipped between them. -/
def run (flags : Flags) (p : Char → Bool) : (fuel : Nat) → List Char → List Char × List Char
  | 0, cs => ([], cs)
  | _ + 1, [] => ([], [])
  | fuel + 1, c :: rest =>
    if p c then
      let (more, rest) := run flags p fuel (flags.skip rest)
      (c :: more, rest)
    else ([], c :: rest)

/-- Skip blanks, with flag `x` or without. -/
def skipBlanks (flags : Flags) (cs : List Char) : List Char :=
  (run flags Text.isBlank cs.length cs).2

/-- A count in braces: decimal, in 32 bits, with blanks around it. -/
def count? (flags : Flags) (cs : List Char) : Read Nat :=
  let cs := cs.dropWhile Text.isBlank
  let (digits, rest) := run flags Text.isDigit cs.length cs
  match Text.nat? digits with
  | some n => if n < twoTo 32 then some (n, skipBlanks flags rest) else none
  | none => none

/-- What follows the opening brace of a repetition: its least count and, if there is one, its
    greatest. -/
def counts? (flags : Flags) (cs : List Char) : Read (Nat × Option Nat) :=
  match count? flags (flags.skip cs) with
  | none => none
  | some (least, '\x7d' :: rest) => some ((least, some least), rest)
  | some (least, ',' :: rest) =>
    match flags.skip rest with
    | '\x7d' :: rest => some ((least, none), rest)
    | rest =>
      match count? flags rest with
      | some (most, '\x7d' :: rest) => if least ≤ most then some ((least, some most), rest) else none
      | _ => none
  | some _ => none

/-! ## Escapes -/

/-- What stands for a character, for a place, or for a class of characters. -/
inductive Atom
  /-- A character; `coded` if it is written by two hexadecimal digits. -/
  | literal (c : Char) (coded : Bool)
  | assertion
  | any
  /-- A class with a letter of its own. -/
  | shorthand (negated : Bool) (size : Nat)
  | property

/-- The character of a code. -/
def charOf? (code : Nat) : Option Char :=
  if code < 0xD800 ∨ (0xDFFF < code ∧ code < 0x110000) then some (Char.ofNat code) else none

/-- A code of exactly `count` hexadecimal digits. -/
def code? (flags : Flags) : (count value : Nat) → List Char → Read Nat
  | 0, value, cs => some (value, cs)
  | _ + 1, _, [] => none
  | count + 1, value, c :: rest =>
    match Text.hexDigit? c with
    | some d => code? flags count (value * 16 + d) (flags.skip rest)
    | none => none

/-- A code in braces. -/
def bracedCode? (flags : Flags) (cs : List Char) : Read Nat :=
  let cs := flags.skip cs
  match run flags (fun c => (Text.hexDigit? c).isSome) cs.length cs with
  | ([], _) => none
  | (digits, '\x7d' :: rest) => (Text.valueOf? 16 Text.hexDigit? digits 0).map (·, rest)
  | _ => none

/-- A character written by its code, after the letter that says how many digits it has. -/
def coded? (flags : Flags) (width : Nat) (cs : List Char) : Read Atom :=
  match flags.skip cs with
  | '\x7b' :: rest =>
    (bracedCode? flags rest).bind fun (code, rest) =>
      (charOf? code).map fun c => (.literal c false, rest)
  | cs =>
    (code? flags width 0 cs).bind fun (code, rest) =>
      (charOf? code).map fun c => (.literal c (width == 2), rest)

/-- A property class, after its letter. -/
def property? (flags : Flags) (cs : List Char) : Read Atom :=
  match flags.skip cs with
  | [] => none
  | '\x7b' :: rest =>
    let rest := flags.skip rest
    match run flags (· != '\x7d') rest.length rest with
    | (name, '\x7d' :: rest) => if isClass name then some (.property, rest) else none
    | _ => none
  | c :: rest => if isClassName [c] then some (.property, rest) else none

def boundaryNames : List String := ["start", "end", "start-half", "end-half"]

/-- A word boundary, after its letter. A name in braces says which kind it is; other braces are
    left to be a repetition. -/
def boundary? (flags : Flags) (cs : List Char) : Read Atom :=
  let named := fun c : Char => c.isAlpha || c == '-'
  match cs with
  | '\x7b' :: rest =>
    match flags.skip rest with
    | [] => none
    | c :: more =>
      if named c then
        match run flags named (more.length + 1) (c :: more) with
        | (name, '\x7d' :: rest) =>
          if boundaryNames.contains (String.ofList name) then some (.assertion, rest) else none
        | _ => none
      else some (.assertion, cs)
  | cs => some (.assertion, cs)

def digitClassSize : Nat := 5000

def spaceClassSize : Nat := 400

def wordClassSize : Nat := 46000

/-- The characters that a letter stands for. -/
def controls : List (Char × Nat) := [('a', 7), ('t', 9), ('n', 10), ('v', 11), ('f', 12), ('r', 13)]

/-- What follows a backslash. -/
def escape? (flags : Flags) : List Char → Read Atom
  | [] => none
  | c :: rest =>
    match c with
    | 'x' => coded? flags 2 rest
    | 'u' => coded? flags 4 rest
    | 'U' => coded? flags 8 rest
    | 'p' | 'P' => property? flags rest
    | 'd' => some (.shorthand false digitClassSize, rest)
    | 'D' => some (.shorthand true digitClassSize, rest)
    | 's' => some (.shorthand false spaceClassSize, rest)
    | 'S' => some (.shorthand true spaceClassSize, rest)
    | 'w' => some (.shorthand false wordClassSize, rest)
    | 'W' => some (.shorthand true wordClassSize, rest)
    | 'b' => boundary? flags rest
    | 'A' | 'z' | 'B' | '<' | '>' => some (.assertion, rest)
    | c =>
      match controls.find? fun e => e.1 == c with
      | some (_, code) => some (.literal (Char.ofNat code) false, rest)
      | none => if c.toNat < 0x80 ∧ ¬c.isAlphanum then some (.literal c false, rest) else none

/-- Whether an atom is allowed where bytes are matched: it must not take a part of a character. -/
def Atom.isByteSafe : Atom → Bool
  | .literal c coded => !coded || c.toNat < 0x80
  | .assertion => true
  | .any => false
  | .shorthand negated _ => !negated
  | .property => false

def propertyClassSize : Nat := 6000

/-- The size of the class of all characters. -/
def anySize : Nat := 400

end Flaky.Regex
