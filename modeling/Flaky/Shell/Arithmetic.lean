-- SUMMARY: Sums in shell scripts: reading and evaluating them in one pass.
import Flaky.Number.Power
import Flaky.Shell.Token

/-!
# Shell sums

A sum is made of numbers, names, brackets and operators. Values are words of 64
bits with a sign. A name without a value counts as zero. The operators `&&` and
`||` do not look at their second side when the first one decides.
-/

namespace Flaky.Shell.Sum

/-! ## Symbols -/

inductive Symbol
  | number (value : Int)
  | name (text : String)
  | sign (text : String)
deriving DecidableEq

/-- The signs, longer ones before those that they start with. -/
def signs : List String :=
  ["||", "&&", "==", "!=", "<=", ">=", "<<", ">>", "|", "^", "&", "<", ">", "+", "-", "*", "/", "%",
    "!", "~", "(", ")", "?", ":"]

def digits? (base : Nat) (cs : List Char) : Option Int :=
  (Text.valueOf? base Text.hexDigit? cs 0).map Int.ofNat

/-- The number that a text is: decimal, octal after `0` or hexadecimal after `0x`. -/
def number? : List Char → Option Int
  | [] => none
  | ['0'] => some 0
  | '0' :: 'x' :: cs | '0' :: 'X' :: cs => if cs.isEmpty then none else digits? 16 cs
  | '0' :: cs => digits? 8 cs
  | cs => digits? 10 cs

def symbols? : (fuel : Nat) → List Char → Option (List Symbol)
  | 0, _ => none
  | _ + 1, [] => some []
  | fuel + 1, c :: rest =>
    if c = ' ' ∨ c = '\t' ∨ c = '\n' then symbols? fuel rest
    else if isNamePart c then
      let word := (c :: rest).takeWhile isNamePart
      let symbol := if c.isDigit then (number? word).map .number else some (.name (String.ofList word))
      symbol.bind fun s => (symbols? fuel ((c :: rest).drop word.length)).map (s :: ·)
    else
      match signs.find? fun s => s.toList.isPrefixOf (c :: rest) with
      | some s => (symbols? fuel ((c :: rest).drop s.length)).map (.sign s :: ·)
      | none => none

/-! ## Operators -/

/-- A value, or none after a division by zero. -/
abbrev Value := Option Int

def wrap (n : Int) : Int := n.bmod (twoTo 64)

def truth (b : Bool) : Int := if b then 1 else 0

/-- Operators with two sides by their strength, the weakest first. -/
def levels : List (List String) :=
  [["||"], ["&&"], ["|"], ["^"], ["&"], ["==", "!="], ["<=", ">=", "<", ">"], ["<<", ">>"],
    ["+", "-"], ["*", "/", "%"]]

def combine (f : Int64 → Int64 → Int64) (a b : Int) : Int := (f (Int64.ofInt a) (Int64.ofInt b)).toInt

def apply (sign : String) (a b : Int) : Value :=
  match sign with
  | "||" => some (truth (a != 0 || b != 0))
  | "&&" => some (truth (a != 0 && b != 0))
  | "|" => some (combine (· ||| ·) a b)
  | "^" => some (combine (· ^^^ ·) a b)
  | "&" => some (combine (· &&& ·) a b)
  | "==" => some (truth (a == b))
  | "!=" => some (truth (a != b))
  | "<=" => some (truth (a ≤ b))
  | ">=" => some (truth (b ≤ a))
  | "<" => some (truth (a < b))
  | ">" => some (truth (b < a))
  | "<<" => some (combine (· <<< ·) a b)
  | ">>" => some (combine (· >>> ·) a b)
  | "+" => some (wrap (a + b))
  | "-" => some (wrap (a - b))
  | "*" => some (wrap (a * b))
  | "/" => if b = 0 then none else some (wrap (a.tdiv b))
  | "%" => if b = 0 then none else some (a.tmod b)
  | _ => none

def applyValue (sign : String) (a b : Value) : Value :=
  match sign, a with
  | "||", some a => if a ≠ 0 then some 1 else b.bind (apply sign a)
  | "&&", some a => if a = 0 then some 0 else b.bind (apply sign a)
  | sign, some a => b.bind (apply sign a)
  | _, none => none

/-! ## Evaluation -/

/-- A value and the symbols after it. -/
abbrev Parse := Option (Value × List Symbol)

section

variable (values : String → Option Int)

mutual

/-- A choice between two values, or what the operators with two sides make. -/
def choice? : (fuel : Nat) → List Symbol → Parse
  | 0, _ => none
  | fuel + 1, symbols =>
    match level? fuel levels symbols with
    | some (condition, .sign "?" :: rest) =>
      match choice? fuel rest with
      | some (positive, .sign ":" :: rest) =>
        (choice? fuel rest).map fun (negative, rest) =>
          (condition.bind fun c => if c ≠ 0 then positive else negative, rest)
      | _ => none
    | other => other

def level? : (fuel : Nat) → List (List String) → List Symbol → Parse
  | 0, _, _ => none
  | fuel + 1, [], symbols => operand? fuel symbols
  | fuel + 1, signs :: tighter, symbols =>
    (level? fuel tighter symbols).bind fun (left, rest) => chain? fuel signs tighter left rest

/-- What follows the first operand of operators of one strength. -/
def chain? : (fuel : Nat) → List String → List (List String) → Value → List Symbol → Parse
  | 0, _, _, _, _ => none
  | fuel + 1, signs, tighter, left, .sign s :: rest =>
    if signs.contains s then
      (level? fuel tighter rest).bind fun (right, rest) =>
        chain? fuel signs tighter (applyValue s left right) rest
    else some (left, .sign s :: rest)
  | _ + 1, _, _, left, rest => some (left, rest)

def operand? : (fuel : Nat) → List Symbol → Parse
  | 0, _ => none
  | fuel + 1, symbols =>
    match symbols with
    | .number n :: rest => some (some (wrap n), rest)
    | .name name :: rest => some (values name, rest)
    | .sign "(" :: rest =>
      match choice? fuel rest with
      | some (value, .sign ")" :: rest) => some (value, rest)
      | _ => none
    | .sign "-" :: rest =>
      (operand? fuel rest).map fun (value, rest) => (value.map fun n => wrap (-n), rest)
    | .sign "+" :: rest => operand? fuel rest
    | .sign "!" :: rest =>
      (operand? fuel rest).map fun (value, rest) => (value.map fun n => truth (n == 0), rest)
    | .sign "~" :: rest =>
      (operand? fuel rest).map fun (value, rest) => (value.map fun n => wrap (-n - 1), rest)
    | _ => none

end

/-- The value of a sum, or none if it cannot be read or divides by zero. -/
def value? (text : List Char) : Option Int :=
  (symbols? (text.length + 1) text).bind fun symbols =>
    if symbols.isEmpty then some 0
    else
      match choice? values (16 * symbols.length + 32) symbols with
      | some (value, []) => value
      | _ => none

end

/-- The number that a value of a variable is; an empty value counts as zero. -/
def ofText? (text : String) : Option Int :=
  match (text.toList.dropWhile Char.isWhitespace).reverse.dropWhile Char.isWhitespace |>.reverse with
  | [] => some 0
  | '-' :: cs => (number? cs).map fun n => -n
  | '+' :: cs => number? cs
  | cs => number? cs

end Flaky.Shell.Sum
