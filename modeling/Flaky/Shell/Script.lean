-- SUMMARY: Shell scripts: simple commands, pipes, conditions, choices, loops, functions and redirections, and reading them.
import Flaky.Shell.Token

/-!
# Shell scripts
-/

namespace Flaky.Shell

structure Redirection where
  descriptor : Option Nat
  sign : String
  target : Word

inductive Script
  /-- A command on a line. -/
  | simple (line : Nat) (assignments : List (String × Word)) (words : List Word)
      (redirections : List Redirection)
  | sequence (parts : List Script)
  | both (first second : Script)
  | either (first second : Script)
  | negated (inner : Script)
  | pipe (first second : Script)
  | subshell (inner : Script)
  | branch (condition positive negative : Script)
  /-- Goes on as long as the condition succeeds, or as long as it fails, and ends with the status
      of the body, which was `last` when the loop came here. -/
  | loop (onSuccess : Bool) (last : Nat) (condition body : Script)
  | each (name : String) (words : List Word) (body : Script)
  /-- The first body of whose patterns one matches the subject. -/
  | choice (subject : Word) (patterns : List (List Word)) (bodies : List Script)
  | define (name : String) (body : Script)
  | redirected (inner : Script) (redirections : List Redirection)

namespace Script

instance : Inhabited Script := ⟨.sequence []⟩

/-- What was read, and the tokens after it. -/
abbrev Parse (α : Type) := Option (α × List Token)

/-! ## Simple commands -/

/-- The name and the value of a word that is an assignment. -/
def assignment? (w : Word) : Option (String × Word) :=
  let isName := fun piece : Piece => match piece with
    | .text [c] false => c != '='
    | _ => false
  let name := w.takeWhile isName
  match w.drop name.length, Word.bare? name with
  | .text ['='] false :: value, some (c :: cs) =>
    if isNameStart c && cs.all isNamePart then some (String.ofList (c :: cs), value) else none
  | _, _ => none

/-- The rest of a simple command; assignments come before all other words. -/
def simpleFrom (line : Nat) (assignments : List (String × Word)) (words : List Word)
    (redirections : List Redirection) : List Token → Script × List Token
  | .word w _ :: rest =>
    match words, assignment? w with
    | [], some assignment => simpleFrom line (assignments ++ [assignment]) [] redirections rest
    | words, _ => simpleFrom line assignments (words ++ [w]) redirections rest
  | .redirection descriptor sign :: .word target _ :: rest =>
    simpleFrom line assignments words (redirections ++ [⟨descriptor, sign, target⟩]) rest
  | rest => (.simple line assignments words redirections, rest)

/-- Redirections after a compound command. -/
def redirectionsFrom : List Token → List Redirection × List Token
  | .redirection descriptor sign :: .word target _ :: rest =>
    let (more, rest) := redirectionsFrom rest
    (⟨descriptor, sign, target⟩ :: more, rest)
  | rest => ([], rest)

def withRedirections (inner : Script) (tokens : List Token) : Script × List Token :=
  match redirectionsFrom tokens with
  | ([], rest) => (inner, rest)
  | (redirections, rest) => (.redirected inner redirections, rest)

/-! ## Reserved words -/

/-- The word that a token is, without quotes. -/
def bareWord? : Token → Option String
  | .word w _ => w.bare?.map String.ofList
  | _ => none

def expect? (word : String) : List Token → Option (List Token)
  | [] => none
  | token :: rest => if bareWord? token = some word then some rest else none

/-- The tokens, if they start with a word. -/
def expectAhead? (word : String) (tokens : List Token) : Option (List Token) :=
  (expect? word tokens).map fun _ => tokens

/-- The words that end a list of commands. -/
def closers : List String := ["then", "else", "elif", "fi", "do", "done", "esac", "\x7d"]

def isBreak : Token → Bool
  | .sign s => s == ";" || s == "\n" || s == "&"
  | _ => false

def skipBreaks (tokens : List Token) : List Token := tokens.dropWhile isBreak

/-- Whether a list of commands ends here. -/
def isEnd : List Token → Bool
  | [] => true
  | .sign s :: _ => s == ")" || s == ";;"
  | token :: _ => (bareWord? token).any closers.contains

/-- The words up to the end of a line. -/
def wordsFrom : List Token → List Word × List Token
  | .word w _ :: rest =>
    let (more, rest) := wordsFrom rest
    (w :: more, rest)
  | rest => ([], rest)

/-- The patterns in front of a body. -/
def patternsFrom? : List Token → Parse (List Word)
  | .word w _ :: .sign ")" :: rest => some ([w], rest)
  | .word w _ :: .sign "|" :: rest => (patternsFrom? rest).map fun (more, rest) => (w :: more, rest)
  | _ => none

/-! ## Lists of commands -/

mutual

/-- Commands up to the end of the list that they are in. -/
def list? : (fuel : Nat) → List Token → Parse Script
  | 0, _ => none
  | fuel + 1, tokens =>
    let tokens := skipBreaks tokens
    if isEnd tokens then some (.sequence [], tokens)
    else
      match chain? fuel none tokens with
      | none => none
      | some (first, rest) =>
        if isEnd rest then some (first, rest)
        else if (rest.head?.map isBreak).getD false then
          (list? fuel rest).map fun (others, rest) => (.sequence [first, others], rest)
        else none

/-- Pipes that are joined by `&&` and `||`, after a first part. -/
def chain? : (fuel : Nat) → Option (Script × Bool) → List Token → Parse Script
  | 0, _, _ => none
  | fuel + 1, before, tokens =>
    match pipe? fuel tokens with
    | none => none
    | some (next, rest) =>
      let whole := match before with
        | none => next
        | some (first, true) => .both first next
        | some (first, false) => .either first next
      match rest with
      | .sign "&&" :: rest => chain? fuel (some (whole, true)) (skipBreaks rest)
      | .sign "||" :: rest => chain? fuel (some (whole, false)) (skipBreaks rest)
      | rest => some (whole, rest)

def pipe? : (fuel : Nat) → List Token → Parse Script
  | 0, _ => none
  | fuel + 1, tokens =>
    match expect? "!" tokens with
    | some rest => (pipe? fuel rest).map fun (inner, rest) => (.negated inner, rest)
    | none =>
      match command? fuel tokens with
      | some (first, .sign "|" :: rest) =>
        (pipe? fuel (skipBreaks rest)).map fun (second, rest) => (.pipe first second, rest)
      | other => other

/-- A list between two reserved words, the first of which has been read. -/
def upTo? : (fuel : Nat) → (closer : String) → List Token → Parse Script
  | 0, _, _ => none
  | fuel + 1, closer, tokens =>
    match list? fuel tokens with
    | some (inner, rest) => (expect? closer rest).map (inner, ·)
    | none => none

/-- What follows `if` or `elif`. -/
def branch? : (fuel : Nat) → List Token → Parse Script
  | 0, _ => none
  | fuel + 1, tokens =>
    match upTo? fuel "then" tokens with
    | none => none
    | some (condition, rest) =>
      match list? fuel rest with
      | none => none
      | some (positive, rest) =>
        match expect? "fi" rest, expect? "else" rest, expect? "elif" rest with
        | some rest, _, _ => some (.branch condition positive (.sequence []), rest)
        | _, some rest, _ =>
          (upTo? fuel "fi" rest).map fun (negative, rest) =>
            (.branch condition positive negative, rest)
        | _, _, some rest =>
          (branch? fuel rest).map fun (negative, rest) => (.branch condition positive negative, rest)
        | none, none, none => none

/-- What follows `for`. -/
def each? : (fuel : Nat) → List Token → Parse Script
  | 0, _ => none
  | fuel + 1, tokens =>
    match tokens with
    | name :: rest =>
      match bareWord? name, expect? "in" rest with
      | some name, some rest =>
        let (words, rest) := wordsFrom rest
        match expect? "do" (skipBreaks rest) with
        | some rest =>
          (upTo? fuel "done" rest).map fun (body, rest) => (.each name words body, rest)
        | none => none
      | _, _ => none
    | [] => none

/-- What follows `case`. -/
def choice? : (fuel : Nat) → List Token → Parse Script
  | 0, _ => none
  | fuel + 1, tokens =>
    match tokens with
    | .word subject _ :: rest =>
      (expect? "in" (skipBreaks rest)).bind fun rest =>
        (clauses? fuel rest).map fun ((patterns, bodies), rest) =>
          (.choice subject patterns bodies, rest)
    | _ => none

/-- The patterns and the bodies of a choice up to its end. -/
def clauses? : (fuel : Nat) → List Token → Parse (List (List Word) × List Script)
  | 0, _ => none
  | fuel + 1, tokens =>
    let tokens := skipBreaks tokens
    match expect? "esac" tokens with
    | some rest => some (([], []), rest)
    | none =>
      match patternsFrom? (match tokens with | .sign "(" :: rest => rest | rest => rest) with
      | none => none
      | some (words, rest) =>
        match list? fuel rest with
        | none => none
        | some (body, rest) =>
          let rest := match rest with | .sign ";;" :: rest => some rest | rest => expectAhead? "esac" rest
          (rest.bind (clauses? fuel)).map fun ((patterns, bodies), rest) =>
            ((words :: patterns, body :: bodies), rest)

/-- A compound command that a reserved word begins, if the token is one. -/
def compound? : (fuel : Nat) → (word : String) → List Token → Option (Parse Script)
  | 0, _, _ => some none
  | fuel + 1, word, rest =>
    if word = "\x7b" then some (upTo? fuel "\x7d" rest)
    else if word = "if" then some (branch? fuel rest)
    else if word = "for" then some (each? fuel rest)
    else if word = "case" then some (choice? fuel rest)
    else if word = "while" ∨ word = "until" then
      some ((upTo? fuel "do" rest).bind fun (condition, rest) =>
        (upTo? fuel "done" rest).map fun (body, rest) =>
          (.loop (word == "while") 0 condition body, rest))
    else none

def command? : (fuel : Nat) → List Token → Parse Script
  | 0, _ => none
  | fuel + 1, tokens =>
    match tokens with
    | .sign "(" :: rest =>
      match list? fuel rest with
      | some (inner, .sign ")" :: rest) => some (withRedirections (.subshell inner) rest)
      | _ => none
    | .word w _ :: .sign "(" :: .sign ")" :: rest =>
      match Word.bare? w with
      | some name =>
        (command? fuel (skipBreaks rest)).map fun (body, rest) =>
          (.define (String.ofList name) body, rest)
      | none => none
    | .word w line :: rest =>
      match (Word.bare? w).bind fun name => compound? fuel (String.ofList name) rest with
      | some none => none
      | some (some (inner, rest)) => some (withRedirections inner rest)
      | none => some (simpleFrom line [] [] [] tokens)
    | .redirection _ _ :: .word _ line :: _ => some (simpleFrom line [] [] [] tokens)
    | _ => none

end

/-- The script that a text is. -/
def ofChars? (cs : List Char) : Option Script :=
  (tokens? (cs.length + 1) 1 cs).bind fun tokens =>
    match list? (8 * tokens.length + 8) tokens with
    | some (script, []) => some script
    | _ => none

end Script

end Flaky.Shell
