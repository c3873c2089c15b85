-- SUMMARY: Tokens of shell scripts: words made of quoted and unquoted pieces, signs and redirections.
import Flaky.Shell.Pattern
import Flaky.Text.Decimal
import Flaky.Text.Lines

/-!
# Shell tokens

A word is a row of pieces: plain text, values of parameters, outputs of commands
and sums. What is quoted is not split later on. The source of an inner command or
sum is kept as text and read when it is needed. The lines of an input that stands
in the script itself become the target of its redirection.
-/

namespace Flaky.Shell

/-! ## Words -/

/-- What becomes of the value of a parameter. With `ofEmpty`, an empty value counts as none. -/
inductive ParameterForm
  | plain
  | length
  /-- A word in the stead of a missing value. -/
  | orElse (ofEmpty : Bool) (word : List Char)
  /-- A word in the stead of a value that is there. -/
  | instead (ofEmpty : Bool) (word : List Char)
  /-- A word that a missing value is set to. -/
  | settled (ofEmpty : Bool) (word : List Char)
  /-- A value that must not be missing, and what is said if it is. -/
  | demanded (ofEmpty : Bool) (word : List Char)
  /-- The value without what a pattern matches. -/
  | trimmed (cut : Pattern.Cut) (pattern : List Char)

inductive Piece
  | text (chars : List Char) (quoted : Bool)
  | parameter (name : String) (form : ParameterForm) (quoted : Bool)
  | output (source : List Char) (quoted : Bool)
  | sum (source : List Char) (quoted : Bool)

abbrev Word := List Piece

/-- The text of a word without quotes and expansions. -/
def Word.bare? : Word → Option (List Char)
  | [] => some []
  | .text chars false :: rest => (bare? rest).map (chars ++ ·)
  | _ => none

/-- Whether a part of a word is quoted. -/
def Word.isQuoted (w : Word) : Bool :=
  w.any fun
    | .text _ quoted | .parameter _ _ quoted | .output _ quoted | .sum _ quoted => quoted

inductive Token
  /-- A word, and the number of the line that it is on. -/
  | word (w : Word) (line : Nat)
  | sign (text : String)
  | redirection (descriptor : Option Nat) (sign : String)

/-- What was read, and the text after it. -/
abbrev Read (α : Type) := Option (α × List Char)

/-! ## Enclosed sources -/

/-- What stands before the bracket that closes the current one. Brackets in quotes and after
    backslashes do not count. -/
def enclosed? (left right : Char) : (depth : Nat) → (quote : Option Char) → (escaped : Bool) →
    List Char → Read (List Char)
  | _, _, _, [] => none
  | depth, quote, true, c :: rest => keep c (enclosed? left right depth quote false rest)
  | depth, some q, false, c :: rest =>
    if c = q then keep c (enclosed? left right depth none false rest)
    else keep c (enclosed? left right depth (some q) (c == '\\' && q == '"') rest)
  | depth, none, false, c :: rest =>
    if c = right then
      match depth with
      | 0 => some ([], rest)
      | depth + 1 => keep c (enclosed? left right depth none false rest)
    else if c = left then keep c (enclosed? left right (depth + 1) none false rest)
    else if c = '\'' ∨ c = '"' then keep c (enclosed? left right depth (some c) false rest)
    else keep c (enclosed? left right depth none (c == '\\') rest)
where
  keep (c : Char) (r : Read (List Char)) : Read (List Char) := r.map fun (s, rest) => (c :: s, rest)

/-! ## Parameters -/

def isNameStart (c : Char) : Bool := c.isAlpha || c == '_'

def isNamePart (c : Char) : Bool := c.isAlphanum || c == '_'

/-- The parameters with a sign for their name. -/
def specialNames : List Char := "@*#?$!-".toList

/-- The name of a parameter at the start of a text. -/
def parameterName? (braced : Bool) (cs : List Char) : Read String :=
  match cs with
  | [] => none
  | c :: rest =>
    if isNameStart c then
      let name := cs.takeWhile isNamePart
      some (String.ofList name, cs.drop name.length)
    else if Text.isDigit c then
      let name := if braced then cs.takeWhile Text.isDigit else [c]
      some (String.ofList name, cs.drop name.length)
    else if specialNames.contains c then some (String.singleton c, rest)
    else none

/-- What follows the name of a parameter in braces. -/
def form? : List Char → Option ParameterForm
  | [] => some .plain
  | ':' :: '-' :: word => some (.orElse true word)
  | '-' :: word => some (.orElse false word)
  | ':' :: '+' :: word => some (.instead true word)
  | '+' :: word => some (.instead false word)
  | ':' :: '=' :: word => some (.settled true word)
  | '=' :: word => some (.settled false word)
  | ':' :: '?' :: word => some (.demanded true word)
  | '?' :: word => some (.demanded false word)
  | '#' :: '#' :: pattern => some (.trimmed ⟨false, true⟩ pattern)
  | '#' :: pattern => some (.trimmed ⟨false, false⟩ pattern)
  | '%' :: '%' :: pattern => some (.trimmed ⟨true, true⟩ pattern)
  | '%' :: pattern => some (.trimmed ⟨true, false⟩ pattern)
  | _ => none

/-- A parameter in braces. -/
def braced? (quoted : Bool) (source : List Char) : Option Piece :=
  match source with
  | '#' :: c :: rest =>
    match parameterName? true (c :: rest) with
    | some (name, []) => some (.parameter name .length quoted)
    | _ => none
  | source =>
    (parameterName? true source).bind fun (name, rest) =>
      (form? rest).map fun form => .parameter name form quoted

/-- What stands between two outer brackets, if the text is a sum in brackets. -/
def sumSource? : List Char → Option (List Char)
  | '(' :: rest => if rest.getLast? = some ')' then some rest.dropLast else none
  | _ => none

/-- What follows a dollar sign. A dollar sign before anything else is text. -/
def dollar? (quoted : Bool) : List Char → Read Piece
  | '(' :: rest =>
    (enclosed? '(' ')' 0 none false rest).map fun (source, rest) =>
      match sumSource? source with
      | some sum => (.sum sum quoted, rest)
      | none => (.output source quoted, rest)
  | '\x7b' :: rest =>
    (enclosed? '\x7b' '\x7d' 0 none false rest).bind fun (source, rest) =>
      (braced? quoted source).map (·, rest)
  | cs =>
    match parameterName? false cs with
    | some (name, rest) => some (.parameter name .plain quoted, rest)
    | none => some (.text ['$'] quoted, cs)

def backquote : Char := Char.ofNat 96

/-- What follows a backquote up to the next one. Backslashes protect backquotes, dollar signs and
    backslashes. -/
def backquoted? : List Char → Read (List Char)
  | [] => none
  | '\\' :: c :: rest =>
    (backquoted? rest).map fun (source, after) =>
      (if c = backquote || c = '$' || c = '\\' then c :: source else '\\' :: c :: source, after)
  | c :: rest =>
    if c = backquote then some ([], rest)
    else (backquoted? rest).map fun (source, after) => (c :: source, after)

/-! ## Pieces -/

/-- The characters that end a word. -/
def breaks : List Char := " \t\n;&|()<>".toList

/-- The characters that a backslash escapes inside double quotes. -/
def escapable : List Char := ['$', backquote, '"', '\\']

def addPiece (piece : Piece) (r : Read Word) : Read Word := r.map fun (w, rest) => (piece :: w, rest)

/-- The pieces of a word up to its end, or up to the quote that ends a quoted part. -/
def pieces? : (fuel : Nat) → (quoted : Bool) → List Char → Read Word
  | 0, _, _ => none
  | _ + 1, true, [] => none
  | _ + 1, false, [] => some ([], [])
  | fuel + 1, quoted, c :: rest =>
    if c = '"' then
      if quoted then some ([], c :: rest)
      else
        match pieces? fuel true rest with
        | some (inner, _ :: rest) =>
          (pieces? fuel false rest).map fun (w, rest) => (.text [] true :: inner ++ w, rest)
        | _ => none
    else if c = '$' then
      (dollar? quoted rest).bind fun (piece, rest) => addPiece piece (pieces? fuel quoted rest)
    else if c = backquote then
      (backquoted? rest).bind fun (source, rest) =>
        addPiece (.output source quoted) (pieces? fuel quoted rest)
    else if c = '\\' then
      match rest with
      | [] => some ([.text ['\\'] true], [])
      | '\n' :: rest => pieces? fuel quoted rest
      | e :: rest =>
        if quoted && !escapable.contains e then
          addPiece (.text ['\\', e] true) (pieces? fuel quoted rest)
        else addPiece (.text [e] true) (pieces? fuel quoted rest)
    else if quoted then addPiece (.text [c] true) (pieces? fuel quoted rest)
    else if c = '\'' then
      let inner := rest.takeWhile (· != '\'')
      match rest.drop inner.length with
      | [] => none
      | _ :: rest => addPiece (.text inner true) (pieces? fuel quoted rest)
    else if breaks.contains c then some ([], c :: rest)
    else addPiece (.text [c] false) (pieces? fuel quoted rest)

/-- The pieces of a whole text, in which nothing ends a word and all is quoted. -/
def wholePieces? (text : List Char) : Option Word :=
  match pieces? (text.length + 2) true (text.filter (· != '"') ++ ['"']) with
  | some (w, _) => some w
  | none => none

/-- The pieces of a whole text, in which nothing ends a word and quotes count. -/
def loosePieces? : (fuel : Nat) → List Char → Option Word
  | 0, _ => none
  | fuel + 1, text =>
    match pieces? (text.length + 2) false text with
    | none => none
    | some (w, []) => some w
    | some (w, c :: rest) => (loosePieces? fuel rest).map fun more => w ++ .text [c] false :: more

/-! ## Inputs in the script -/

/-- A text whose double quotes are protected, so that they stand for themselves in a quoted word. -/
def protectQuotes : List Char → List Char
  | [] => []
  | '\\' :: '"' :: rest => '\\' :: '\\' :: '\\' :: '"' :: protectQuotes rest
  | '\\' :: c :: rest => '\\' :: c :: protectQuotes rest
  | '"' :: rest => '\\' :: '"' :: protectQuotes rest
  | c :: rest => c :: protectQuotes rest

/-- The word that the lines of an input make. -/
def inputWord? (literal : Bool) (body : List Char) : Option Word :=
  if literal then some [.text body true]
  else
    let text := protectQuotes body
    match pieces? (text.length + 2) true (text ++ ['"']) with
    | some (w, _) => some w
    | none => none

/-- The lines in front of a line that ends the input, and the lines after it. -/
def inputLines (tabless : Bool) (last : List Char) : List (List Char) → List Char × List (List Char)
  | [] => ([], [])
  | line :: rest =>
    let line := if tabless then line.dropWhile (· == '\t') else line
    if line = last then ([], rest)
    else
      let (body, rest) := inputLines tabless last rest
      (line ++ '\n' :: body, rest)

/-- An input that starts on the line after the current one: its lines, and the text without them. -/
def inputBelow (tabless : Bool) (last text : List Char) : List Char × List Char :=
  match Text.splitAt '\n' text with
  | [] => ([], text)
  | current :: below =>
    let (body, rest) := inputLines tabless last below
    (body, List.intercalate ['\n'] (current :: rest))

/-- The end of an input that a word names. -/
def Word.inputEnd (w : Word) : List Char :=
  w.flatMap fun
    | .text chars _ => chars
    | _ => []

/-- The input that a redirection announces, and the text without it. -/
def announced? (tabless : Bool) (text : List Char) : Read Word :=
  let text := text.dropWhile fun c => c == ' ' || c == '\t'
  (pieces? (text.length + 2) false text).bind fun (w, rest) =>
    let (body, rest) := inputBelow tabless w.inputEnd rest
    (inputWord? w.isQuoted body).map (·, rest)

/-! ## Tokens -/

/-- The signs, longer ones before those that they start with. -/
def signs : List String := ["&&", "||", ";;", ";", "&", "|", "(", ")", "\n"]

def redirectionSigns : List String := [">>", ">&", "<&", ">|", "<<-", "<<", ">", "<"]

/-- The first of some signs that a text starts with. -/
def startingSign? (signs : List String) (cs : List Char) : Read String :=
  (signs.find? fun s => s.toList.isPrefixOf cs).map fun s => (s, cs.drop s.length)

/-- A redirection, with the number in front of it if there is one. -/
def redirection? (cs : List Char) : Read (Option Nat × String) :=
  let digits := cs.takeWhile Text.isDigit
  (startingSign? redirectionSigns (cs.drop digits.length)).map fun (sign, rest) =>
    ((Text.nat? digits, sign), rest)

/-- The number of line feeds in a text before a rest of it. -/
def linesBetween (text rest : List Char) : Nat := text.count '\n' - rest.count '\n'

/-- The tokens of a text that starts on a line. -/
def tokens? : (fuel : Nat) → (line : Nat) → List Char → Option (List Token)
  | 0, _, _ => none
  | _ + 1, _, [] => some []
  | fuel + 1, line, c :: rest =>
    if c = ' ' ∨ c = '\t' then tokens? fuel line rest
    else if c = '\\' ∧ rest.head? = some '\n' then tokens? fuel (line + 1) rest.tail
    else if c = '#' then tokens? fuel line (rest.dropWhile (· != '\n'))
    else
      match redirection? (c :: rest) with
      | some ((descriptor, "<<"), after) => announced fuel line descriptor false after
      | some ((descriptor, "<<-"), after) => announced fuel line descriptor true after
      | some ((descriptor, sign), after) =>
        (tokens? fuel line after).map (.redirection descriptor sign :: ·)
      | none =>
        match startingSign? signs (c :: rest) with
        | some (sign, after) =>
          (tokens? fuel (if sign = "\n" then line + 1 else line) after).map (.sign sign :: ·)
        | none =>
          match pieces? (rest.length + 2) false (c :: rest) with
          | some (w, after) =>
            (tokens? fuel (line + linesBetween rest after) after).map (.word w line :: ·)
          | none => none
where
  announced (fuel line : Nat) (descriptor : Option Nat) (tabless : Bool) (after : List Char) :
      Option (List Token) :=
    (announced? tabless after).bind fun (w, after) =>
      (tokens? fuel line after).map (.redirection descriptor "<<" :: .word w line :: ·)

end Flaky.Shell
