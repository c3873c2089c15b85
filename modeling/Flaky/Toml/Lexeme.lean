-- SUMMARY: Lexical elements of TOML documents: blanks and comments, strings, keys.
import Flaky.Text.Decimal

/-!
# TOML lexemes

Each reader takes the start of a text and returns what it read with the rest, or
`none` if the text does not start so.
-/

namespace Flaky.Toml

/-- What was read, and the text after it. -/
abbrev Read (α : Type) := Option (α × List Char)

/-! ## Blanks, line ends and comments -/

def isBlank (c : Char) : Bool := c == ' ' || c == '\t'

def skipBlanks (cs : List Char) : List Char := cs.dropWhile isBlank

/-- The characters that may stand in comments and strings of one line. -/
def isTextual (c : Char) : Bool := c == '\t' || (' ' ≤ c && c.toNat != 0x7F)

def skipComment (cs : List Char) : List Char :=
  if cs.head? = some '#' then cs.dropWhile isTextual else cs

/-- Take a line end. -/
def lineEnd? : List Char → Option (List Char)
  | '\n' :: rest => some rest
  | '\r' :: '\n' :: rest => some rest
  | _ => none

/-- Skip blanks, line ends and comments. -/
def skipTrivia : (inComment : Bool) → List Char → List Char
  | _, [] => []
  | inComment, c :: rest =>
    if c = '\n' then skipTrivia false rest
    else if c = '\r' ∧ rest.head? = some '\n' then skipTrivia false rest
    else if inComment then (if isTextual c then skipTrivia true rest else c :: rest)
    else if isBlank c then skipTrivia false rest
    else if c = '#' then skipTrivia true rest
    else c :: rest

/-! ## Escapes -/

/-- The character with a code of exactly `width` hexadecimal digits. -/
def coded? (width : Nat) (cs : List Char) : Option Char :=
  if (cs.take width).length = width then
    (Text.valueOf? 16 Text.hexDigit? (cs.take width) 0).bind fun n =>
      if n < 0xD800 ∨ (0xDFFF < n ∧ n < 0x110000) then some (Char.ofNat n) else none
  else none

/-- What follows a backslash: the character it stands for, and how many characters it takes. -/
def escape? : List Char → Option (Char × Nat)
  | [] => none
  | c :: rest =>
    match c with
    | 'b' => some (Char.ofNat 8, 1)
    | 't' => some ('\t', 1)
    | 'n' => some ('\n', 1)
    | 'f' => some (Char.ofNat 12, 1)
    | 'r' => some ('\r', 1)
    | 'e' => some (Char.ofNat 27, 1)
    | '"' => some ('"', 1)
    | '\\' => some ('\\', 1)
    | 'x' => (coded? 2 rest).map (·, 3)
    | 'u' => (coded? 4 rest).map (·, 5)
    | 'U' => (coded? 8 rest).map (·, 9)
    | _ => none

/-! ## Strings -/

def prepend (c : Char) (r : Read (List Char)) : Read (List Char) :=
  r.map fun (s, rest) => (c :: s, rest)

/-- The rest of a string of one line between double quotes; `skip` characters belong to an escape. -/
def basicFrom : (skip : Nat) → List Char → Read (List Char)
  | _, [] => none
  | skip + 1, _ :: rest => basicFrom skip rest
  | 0, c :: rest =>
    if c = '"' then some ([], rest)
    else if c = '\\' then
      match escape? rest with
      | none => none
      | some (e, count) => prepend e (basicFrom count rest)
    else if isTextual c then prepend c (basicFrom 0 rest)
    else none

/-- The rest of a string of one line between single quotes. -/
def literalFrom : List Char → Read (List Char)
  | [] => none
  | c :: rest =>
    if c = '\'' then some ([], rest)
    else if isTextual c then prepend c (literalFrom rest)
    else none

/-- The number of times a quote stands at the start. -/
def quoteRun (quote : Char) (cs : List Char) : Nat := (cs.takeWhile (· == quote)).length

/-- The characters that a backslash at the end of a line joins away, if it is one. -/
def joined? (cs : List Char) : Option Nat :=
  let blanks := cs.takeWhile isBlank
  if (lineEnd? (cs.drop blanks.length)).isSome then
    some (cs.takeWhile fun c => isBlank c || c == '\n' || c == '\r').length
  else none

/-- The rest of a string of several lines between triple quotes; escapes hold if `escapes`. -/
def longFrom (quote : Char) (escapes : Bool) : (skip : Nat) → List Char → Read (List Char)
  | _, [] => none
  | skip + 1, _ :: rest => longFrom quote escapes skip rest
  | 0, c :: rest =>
    if c = quote then
      let run := quoteRun quote (c :: rest)
      if 3 ≤ run then
        let inside := min (run - 3) 2
        some (List.replicate inside quote, (c :: rest).drop (inside + 3))
      else prepend c (longFrom quote escapes 0 rest)
    else if c = '\\' ∧ escapes then
      match joined? rest with
      | some count => longFrom quote escapes count rest
      | none =>
        match escape? rest with
        | none => none
        | some (e, count) => prepend e (longFrom quote escapes count rest)
    else if isTextual c ∨ c = '\n' ∨ (c = '\r' ∧ rest.head? = some '\n') then
      prepend c (longFrom quote escapes 0 rest)
    else none

/-- A line end right after the opening of a long string does not belong to it. -/
def dropLineEnd (cs : List Char) : List Char := (lineEnd? cs).getD cs

/-- A string in any of the four forms. -/
def string? : List Char → Read String
  | '"' :: '"' :: '"' :: rest => text (longFrom '"' true 0 (dropLineEnd rest))
  | '"' :: rest => text (basicFrom 0 rest)
  | '\'' :: '\'' :: '\'' :: rest => text (longFrom '\'' false 0 (dropLineEnd rest))
  | '\'' :: rest => text (literalFrom rest)
  | _ => none
where
  text (r : Read (List Char)) : Read String := r.map fun (s, rest) => (String.ofList s, rest)

/-! ## Keys -/

def isBare (c : Char) : Bool := (c.isAlphanum) || c == '_' || c == '-'

/-- A key without dots. -/
def simpleKey? : List Char → Read String
  | '"' :: rest => (basicFrom 0 rest).map fun (s, rest) => (String.ofList s, rest)
  | '\'' :: rest => (literalFrom rest).map fun (s, rest) => (String.ofList s, rest)
  | cs =>
    let bare := cs.takeWhile isBare
    if bare.isEmpty then none else some (String.ofList bare, cs.drop bare.length)

/-- A key, its parts joined by dots; at most `fuel` parts. -/
def key? : (fuel : Nat) → List Char → Read (List String)
  | 0, _ => none
  | fuel + 1, cs =>
    match simpleKey? cs with
    | none => none
    | some (part, rest) =>
      match skipBlanks rest with
      | '.' :: rest => (key? fuel (skipBlanks rest)).map fun (parts, rest) => (part :: parts, rest)
      | rest => some ([part], rest)

end Flaky.Toml
