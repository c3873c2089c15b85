-- SUMMARY: Reading regular expressions.
import Flaky.Regex.Brackets
import Flaky.Regex.Form
import Flaky.Text.Letter
import Flaky.Text.Utf8

/-!
# Regular expressions

An expression is a choice of sequences. Groups hold expressions; flags that are
changed inside a group hold to its end. There are no look-around assertions and
no references back to a group.
-/

namespace Flaky.Regex

/-! ## Groups -/

/-- The flags in force, and the names of the groups so far. -/
structure Scope where
  flags : Flags
  names : List (List Char)

/-- What an opening parenthesis begins: a change of flags, or a group. -/
inductive Opening
  | change (flags : Flags)
  | group (captures : Bool) (inside : Scope)

def isNameStart (c : Char) : Bool := c == '_' || Text.isLetter c

def isNamePart (c : Char) : Bool :=
  "_.[]".toList.contains c || Text.isLetter c || Text.isNumeral c

def isName : List Char → Bool
  | [] => false
  | c :: rest => isNameStart c && rest.all isNamePart

/-- The name of a group and the bracket after it. No two groups have one name. -/
def named? (scope : Scope) (cs : List Char) : Read Opening :=
  let name := cs.takeWhile (· != '>')
  match cs.drop name.length with
  | '>' :: rest =>
    if isName name && !scope.names.contains name then
      some (.group true { scope with names := name :: scope.names }, rest)
    else none
  | _ => none

/-- What follows an opening parenthesis. -/
def opening? (scope : Scope) (cs : List Char) : Read Opening :=
  match scope.flags.skip cs with
  | '?' :: '=' :: _ | '?' :: '!' :: _ | '?' :: '<' :: '=' :: _ | '?' :: '<' :: '!' :: _ => none
  | '?' :: 'P' :: '<' :: rest | '?' :: '<' :: rest => named? scope rest
  | '?' :: rest =>
    match Flags.change? false false ⟨[], []⟩ rest with
    | none => none
    | some ((change, ending), rest) =>
      let flags := scope.flags.apply change
      if ending = ':' then some (.group false { scope with flags }, rest)
      else if change.isEmpty then none
      else some (.change flags, rest)
  | rest => some (.group true scope, rest)

/-! ## Items -/

/-- The expression of an atom outside brackets. -/
def ofAtom? (flags : Flags) (atom : Atom) : Option Regex :=
  if flags.unicode || atom.isByteSafe then
    match atom with
    | .literal c _ => some (.literal (Utf8.encodeChar c).length)
    | .assertion => some .assertion
    | .any => some (.characters 0 anySize)
    | .shorthand _ size => some (.characters 0 size)
    | .property => some (.characters 0 propertyClassSize)
  else none

/-- A single item that is no group and no repetition. -/
def single? (flags : Flags) : List Char → Read Regex
  | [] => none
  | c :: rest =>
    match c with
    | '[' => (class? flags rest).map fun ((depth, size), rest) => (.characters depth size, rest)
    | '\\' =>
      (escape? flags rest).bind fun (atom, rest) => (ofAtom? flags atom).map (·, rest)
    | '.' => (ofAtom? flags .any).map (·, rest)
    | '^' | '$' => some (.assertion, rest)
    | c => some (.literal (Utf8.encodeChar c).length, rest)

/-- A sign of repetition: its least and greatest counts. A question mark after it asks for few. -/
def repetition? (flags : Flags) (cs : List Char) : Option (Read (Nat × Option Nat)) :=
  let sparing := fun cs : List Char => if cs.head? = some '?' then cs.tail else cs
  match cs with
  | '*' :: rest => some (some ((0, none), sparing rest))
  | '+' :: rest => some (some ((1, none), sparing rest))
  | '?' :: rest => some (some ((0, some 1), sparing rest))
  | '\x7b' :: rest =>
    some ((counts? flags rest).map fun (counts, rest) => (counts, sparing (flags.skip rest)))
  | _ => none

/-! ## Expressions -/

/-- An expression up to the parenthesis that closes it or the end of the text, after some branches
    and some items, all last first. -/
def from? : (fuel : Nat) → Scope → (branches items : List Regex) → List Char → Read (Regex × Scope)
  | 0, _, _, _, _ => none
  | fuel + 1, scope, branches, items, cs =>
    let close := fun rest : List Char =>
      some ((ofBranches (ofItems items.reverse :: branches).reverse, scope), rest)
    match scope.flags.skip cs with
    | [] => close []
    | ')' :: rest => close (')' :: rest)
    | '|' :: rest => from? fuel scope (ofItems items.reverse :: branches) [] rest
    | '(' :: rest =>
      match opening? scope rest with
      | none => none
      | some (.change flags, rest) =>
        from? fuel { scope with flags } branches (.setting :: items) rest
      | some (.group captures inside, rest) =>
        match from? fuel inside [] [] rest with
        | some ((inner, inside), ')' :: rest) =>
          from? fuel { inside with flags := scope.flags } branches (.group captures inner :: items)
            rest
        | _ => none
    | cs =>
      match repetition? scope.flags cs with
      | some none => none
      | some (some ((least, most), rest)) =>
        match items with
        | item :: items =>
          if item.isRepeatable then
            from? fuel scope branches (.repeated least most item :: items) rest
          else none
        | [] => none
      | none =>
        match single? scope.flags cs with
        | some (item, rest) => from? fuel scope branches (item :: items) rest
        | none => none

/-- The expression that a text is. -/
def ofText? (text : String) : Option Regex :=
  let cs := text.toList
  match from? (cs.length + 1) ⟨.standard, []⟩ [] [] cs with
  | some ((regex, _), []) => if regex.isModerate then some regex else none
  | _ => none

/-- Whether a text is a regular expression. -/
def isValid (text : String) : Bool := (ofText? text).isSome

end Flaky.Regex
