-- SUMMARY: Conditions of the shell's test command: on texts, numbers and files, and joined ones.
import Flaky.Files.Disk
import Flaky.Shell.Arithmetic
import Flaky.Shell.Octets

/-!
# Shell conditions

A condition is a row of words. Conditions joined by `-a` bind more than those
joined by `-o`, and a word that could be an operator is an operand where an
operator makes no sense.
-/

namespace Flaky.Shell.Condition

/-- Why a condition cannot be judged. -/
inductive Fault
  | unexpected (word : String)
  | operandMissing (operator : String)
  | noNumber (text : String)
  | unclosed
deriving DecidableEq

def Fault.text : Fault → String
  | .unexpected word => s!"{word}: unexpected operator"
  | .operandMissing operator => s!"{operator}: argument expected"
  | .noNumber text => s!"Illegal number: {text}"
  | .unclosed => "closing paren expected"

/-! ## Operators -/

def isUnary (word : String) : Bool :=
  match word.toList with
  | ['-', c] => "bcdefghknprstuwxzGLOS".toList.contains c
  | _ => false

def isBinary (word : String) : Bool :=
  ["=", "!=", "<", ">", "-eq", "-ne", "-lt", "-le", "-gt", "-ge", "-nt", "-ot", "-ef"].contains word

/-- Whether a file is there and holds a byte. -/
def hasContent (disk : Disk) (path : String) : Bool :=
  match disk.read path with
  | .ok content => !content.isEmpty
  | .error _ => false

/-- A condition on one operand. There are no links and no terminals. -/
def unary (disk : Disk) (operator operand : String) : Bool :=
  let path := Octets.toText operand
  match operator with
  | "-n" => operand != ""
  | "-z" => operand == ""
  | "-e" | "-r" | "-w" | "-O" | "-G" => (disk.find path).toOption.isSome
  | "-f" => disk.isFile path
  | "-d" | "-x" => disk.isDirectory path
  | "-s" => hasContent disk path
  | _ => false

/-- The number that an operand is: decimal digits, perhaps with a sign and blanks around them. -/
def number (text : String) : Except Fault Int :=
  let isBlank := fun (c : Char) => c = ' ' || ('\t' ≤ c && c ≤ '\r')
  let trimmed := ((text.toList.dropWhile isBlank).reverse.dropWhile isBlank).reverse
  let value? := match trimmed with
    | '-' :: digits => (Text.nat? digits).map fun n => -(n : Int)
    | '+' :: digits => (Text.nat? digits).map fun n => (n : Int)
    | digits => (Text.nat? digits).map fun n => (n : Int)
  match value? with
  | some n => if n.toInt64.toInt = n then .ok n else .error (.noNumber text)
  | none => .error (.noNumber text)

def compare (relation : Int → Int → Bool) (a b : String) : Except Fault Bool := do
  return relation (← number a) (← number b)

/-- A condition on two operands. All files are equally old. -/
def binary (a operator b : String) : Except Fault Bool :=
  match operator with
  | "=" => .ok (a == b)
  | "!=" => .ok (a != b)
  | "<" => .ok (a < b)
  | ">" => .ok (b < a)
  | "-eq" => compare (fun m n => m == n) a b
  | "-ne" => compare (fun m n => m != n) a b
  | "-lt" => compare (fun m n => m < n) a b
  | "-le" => compare (fun m n => m ≤ n) a b
  | "-gt" => compare (fun m n => n < m) a b
  | "-ge" => compare (fun m n => n ≤ m) a b
  | _ => .ok false

/-! ## Judging -/

/-- What came of judging the words in front: the answer, the last of these words, and the rest. -/
structure Judgement where
  holds : Bool
  last : String
  rest : List String

/-- Whether the first word is an operator on the second one. -/
def startsUnary : List String → Bool
  | [operator, _] => isUnary operator
  | operator :: next :: _ => isUnary operator && !isBinary next
  | _ => false

mutual

def disjunction (disk : Disk) : (fuel : Nat) → List String → Except Fault Judgement
  | 0, _ => .error .unclosed
  | fuel + 1, words => do
    let first ← conjunction disk fuel words
    match first.rest with
    | "-o" :: rest => do
      let second ← disjunction disk fuel rest
      return { second with holds := first.holds || second.holds }
    | _ => return first

def conjunction (disk : Disk) : (fuel : Nat) → List String → Except Fault Judgement
  | 0, _ => .error .unclosed
  | fuel + 1, words => do
    let first ← single disk fuel words
    match first.rest with
    | "-a" :: rest => do
      let second ← conjunction disk fuel rest
      return { second with holds := first.holds && second.holds }
    | _ => return first

def single (disk : Disk) : (fuel : Nat) → List String → Except Fault Judgement
  | 0, _ => .error .unclosed
  | _ + 1, [] => .ok ⟨false, "", []⟩
  | fuel + 1, "!" :: rest => do
    let judged ← single disk fuel rest
    return { judged with holds := !judged.holds }
  | _ + 1, "(" :: ")" :: rest => .ok ⟨false, ")", rest⟩
  | fuel + 1, word :: rest => do
    if word = "(" && !rest.isEmpty then
      let judged ← disjunction disk fuel rest
      match judged.rest with
      | ")" :: rest => return ⟨judged.holds, ")", rest⟩
      | _ => .error .unclosed
    else if startsUnary (word :: rest) then
      let operand := rest.headD ""
      return ⟨unary disk word operand, operand, rest.tail⟩
    else match rest with
      | [] => return ⟨word != "", word, []⟩
      | operator :: operands =>
        if !isBinary operator then return ⟨word != "", word, operator :: operands⟩
        else match operands with
          | [] => .error (.operandMissing operator)
          | operand :: rest => return ⟨← binary word operator operand, operand, rest⟩

end

/-- Judge all of some words. -/
def whole (disk : Disk) (words : List String) : Except Fault Bool := do
  let judged ← disjunction disk (4 * words.length + 4) words
  if judged.rest.isEmpty then return judged.holds else .error (.unexpected judged.last)

/-- Whether a condition holds. What three or four words mean does not hang on how they bind. -/
def holds (disk : Disk) : List String → Except Fault Bool
  | [a, b, c] =>
    if isBinary b then binary a b c
    else if a = "(" && c = ")" then whole disk [b]
    else if a = "!" then (whole disk [b, c]).map not
    else whole disk [a, b, c]
  | [a, b, c, d] =>
    if a = "(" && d = ")" then whole disk [b, c]
    else if a = "!" then
      if isBinary c then (binary b c d).map not
      else if b = "(" && d = ")" then (whole disk [c]).map not
      else (whole disk [b, c, d]).map not
    else whole disk [a, b, c, d]
  | words => whole disk words

end Flaky.Shell.Condition
