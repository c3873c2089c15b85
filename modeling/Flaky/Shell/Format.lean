-- SUMMARY: What the shell's echo and printf make of their arguments: escapes, directives, and formats that are used again.
import Flaky.Number.Power
import Flaky.Shell.Arithmetic

/-!
# Shell formats

Texts are rows of bytes here: every character is one byte.
-/

namespace Flaky.Shell.Format

/-! ## Escapes -/

/-- The characters that letters after a backslash stand for. -/
def named : List (Char × Char) :=
  [('a', '\x07'), ('b', '\x08'), ('f', '\x0c'), ('n', '\n'), ('r', '\r'), ('t', '\t'), ('v', '\x0b'),
    ('\\', '\\')]

def isOctal (c : Char) : Bool := '0' ≤ c && c ≤ '7'

/-- A byte by up to three octal digits, and what follows them. -/
def octal (cs : List Char) : Char × List Char :=
  let digits := (cs.take 3).takeWhile isOctal
  let value := (Text.valueOf? 8 Text.hexDigit? digits 0).getD 0
  (Char.ofNat (value % 256), cs.drop digits.length)

/-- A text without its escapes, and whether `\c` ended it. -/
def unescape : (fuel : Nat) → List Char → List Char × Bool
  | 0, _ => ([], false)
  | _ + 1, [] => ([], false)
  | _ + 1, '\\' :: 'c' :: _ => ([], true)
  | fuel + 1, '\\' :: '0' :: rest =>
    let (c, rest) := octal rest
    let (more, stopped) := unescape fuel rest
    (c :: more, stopped)
  | fuel + 1, '\\' :: c :: rest =>
    let (more, stopped) := unescape fuel rest
    match named.lookup c with
    | some d => (d :: more, stopped)
    | none => ('\\' :: c :: more, stopped)
  | fuel + 1, c :: rest =>
    let (more, stopped) := unescape fuel rest
    (c :: more, stopped)

/-- What `echo` prints. -/
def echo (args : List String) : List Char :=
  let (newline, args) := match args with
    | "-n" :: args => (false, args)
    | args => (true, args)
  let text := (String.intercalate " " args).toList
  let (text, stopped) := unescape (text.length + 1) text
  if newline && !stopped then text ++ ['\n'] else text

/-! ## Directives -/

structure Directive where
  left : Bool
  zero : Bool
  plus : Bool
  width : Nat
  precision : Option Nat

namespace Directive

def natOf (cs : List Char) : Nat := (Text.nat? cs).getD 0

/-- The directive after a percent sign, and the text from its letter on. -/
def read (cs : List Char) : Directive × List Char :=
  let flags := cs.takeWhile "-+ #0".toList.contains
  let rest := cs.drop flags.length
  let width := rest.takeWhile Text.isDigit
  let rest := rest.drop width.length
  let (precision, rest) := match rest with
    | '.' :: rest =>
      let digits := rest.takeWhile Text.isDigit
      (some (natOf digits), rest.drop digits.length)
    | rest => (none, rest)
  (⟨flags.contains '-', flags.contains '0', flags.contains '+', natOf width, precision⟩, rest)

def pad (d : Directive) (text : List Char) : List Char :=
  let blanks := List.replicate (d.width - text.length) ' '
  if d.left then text ++ blanks else blanks ++ text

def text (d : Directive) (value : List Char) : List Char :=
  d.pad ((d.precision.map value.take).getD value)

/-- The digits of a number with a sign in front of them. -/
def signed (d : Directive) (sign digits : List Char) : List Char :=
  let length := match d.precision with
    | some precision => precision
    | none => if d.zero && !d.left then d.width - sign.length else 0
  d.pad (sign ++ List.replicate (length - digits.length) '0' ++ digits)

def integer (d : Directive) (n : Int) : List Char :=
  let sign := if n < 0 then ['-'] else if d.plus then ['+'] else []
  d.signed sign (Nat.toDigits 10 n.natAbs)

/-- A number in a base, as a word without a sign. -/
def word (d : Directive) (base : Nat) (n : Int) : List Char :=
  d.signed [] (Nat.toDigits base (n % twoTo 64).toNat)

end Directive

/-! ## Formats -/

/-- What came of using a format once. -/
structure Printed where
  output : List Char
  rest : List String
  /-- The arguments that are no numbers where numbers were due. -/
  faults : List String
  stopped : Bool

def Printed.before (output : List Char) (p : Printed) : Printed := { p with output := output ++ p.output }

/-- What a letter makes of an argument; `none` for a letter that is no directive. -/
def convert? (d : Directive) (letter : Char) (argument : String) :
    Option (List Char × List String × Bool) :=
  let number := Sum.ofText? argument
  let faults := if number.isSome then [] else [argument]
  let n := number.getD 0
  match letter with
  | 's' => some (d.text argument.toList, [], false)
  | 'c' => some (d.text (argument.toList.take 1), [], false)
  | 'b' =>
    let (text, stopped) := unescape (argument.length + 1) argument.toList
    some (d.text text, [], stopped)
  | 'd' | 'i' => some (d.integer n, faults, false)
  | 'u' => some (d.word 10 n, faults, false)
  | 'o' => some (d.word 8 n, faults, false)
  | 'x' => some (d.word 16 n, faults, false)
  | 'X' => some ((d.word 16 n).map Char.toUpper, faults, false)
  | _ => none

/-- Use a format once. Arguments that are missing are empty. -/
def pass : (fuel : Nat) → List Char → List String → Printed
  | 0, _, args => ⟨[], args, [], false⟩
  | _ + 1, [], args => ⟨[], args, [], false⟩
  | fuel + 1, '%' :: '%' :: rest, args => (pass fuel rest args).before ['%']
  | fuel + 1, '%' :: rest, args =>
    let (directive, rest) := Directive.read rest
    match rest with
    | [] => ⟨[], args, ["%"], true⟩
    | letter :: rest =>
      match convert? directive letter (args.headD "") with
      | none => ⟨[], args, [String.ofList ['%', letter]], true⟩
      | some (output, faults, true) => ⟨output, args.tail, faults, true⟩
      | some (output, faults, false) =>
        let p := (pass fuel rest args.tail).before output
        { p with faults := faults ++ p.faults }
  | fuel + 1, '\\' :: c :: rest, args =>
    if isOctal c then
      let (d, rest) := octal (c :: rest)
      (pass fuel rest args).before [d]
    else
      match named.lookup c with
      | some d => (pass fuel rest args).before [d]
      | none => (pass fuel rest args).before ['\\', c]
  | fuel + 1, c :: rest, args => (pass fuel rest args).before [c]

/-- Use a format until no argument is left. -/
def passes (format : List Char) : (fuel : Nat) → List String → Printed
  | 0, args => ⟨[], args, [], false⟩
  | fuel + 1, args =>
    let p := pass (format.length + 1) format args
    if p.stopped || p.rest.isEmpty || p.rest.length == args.length then p
    else
      let more := passes format fuel p.rest
      { more with output := p.output ++ more.output, faults := p.faults ++ more.faults }

/-- What `printf` prints, and the arguments that are at fault. -/
def printf (format : String) (args : List String) : List Char × List String :=
  let p := passes format.toList (args.length + 1) args
  (p.output, p.faults)

end Flaky.Shell.Format
