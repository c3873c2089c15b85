-- SUMMARY: JSON values with fields in order, and their compact and indented text.

/-!
# JSON values

Objects keep their fields in the order of the text, repeated keys included.
Numbers here are integers; a text's other numbers are `Json.Raw`'s.
-/

namespace Flaky

inductive Json
  | null
  | bool (b : Bool)
  | number (n : Int)
  | string (s : String)
  | array (items : List Json)
  | object (fields : List (String × Json))

namespace Json

instance : Inhabited Json := ⟨.null⟩

/-! ## Strings -/

def hexDigits : List Char := "0123456789abcdef".toList

/-- The two hexadecimal digits of a small code. -/
def hexPair (n : Nat) : List Char := [hexDigits.getD (n / 16) '0', hexDigits.getD (n % 16) '0']

/-- A character inside a string: quotes, backslashes and control characters are escaped. -/
def escape (c : Char) : List Char :=
  if c = '"' then ['\\', '"']
  else if c = '\\' then ['\\', '\\']
  else if c = '\n' then ['\\', 'n']
  else if c = '\r' then ['\\', 'r']
  else if c = '\t' then ['\\', 't']
  else if c.toNat = 8 then ['\\', 'b']
  else if c.toNat = 12 then ['\\', 'f']
  else if c.toNat < 32 then '\\' :: 'u' :: '0' :: '0' :: hexPair c.toNat
  else [c]

def quote (s : String) : List Char := '"' :: (s.toList.flatMap escape ++ ['"'])

/-! ## Compact text -/

mutual

def compact : Json → List Char
  | .null => "null".toList
  | .bool b => (if b then "true" else "false").toList
  | .number n => (toString n).toList
  | .string s => quote s
  | .array items => '[' :: (compactItems items ++ [']'])
  | .object fields => '{' :: (compactFields fields ++ ['}'])

def compactItems : List Json → List Char
  | [] => []
  | [item] => compact item
  | item :: rest => compact item ++ ',' :: compactItems rest

def compactFields : List (String × Json) → List Char
  | [] => []
  | [(key, value)] => quote key ++ ':' :: compact value
  | (key, value) :: rest => quote key ++ ':' :: (compact value ++ ',' :: compactFields rest)

end

def compactText (json : Json) : String := String.ofList json.compact

/-! ## Indented text -/

/-- A new line at a depth, two blanks for each level. -/
def newLine (depth : Nat) : List Char := '\n' :: List.replicate (2 * depth) ' '

mutual

/-- One item or field a line; an empty array or object stays on its line. -/
def indented (depth : Nat) : Json → List Char
  | .array [] => ['[', ']']
  | .array (item :: rest) =>
    '[' :: (newLine (depth + 1) ++ indented (depth + 1) item ++ indentedItems (depth + 1) rest
      ++ newLine depth ++ [']'])
  | .object [] => ['{', '}']
  | .object ((key, value) :: rest) =>
    '{' :: (newLine (depth + 1) ++ quote key ++ ':' :: ' ' :: indented (depth + 1) value
      ++ indentedFields (depth + 1) rest ++ newLine depth ++ ['}'])
  | .null => "null".toList
  | .bool b => (if b then "true" else "false").toList
  | .number n => (toString n).toList
  | .string s => quote s

def indentedItems (depth : Nat) : List Json → List Char
  | [] => []
  | item :: rest => ',' :: (newLine depth ++ indented depth item ++ indentedItems depth rest)

def indentedFields (depth : Nat) : List (String × Json) → List Char
  | [] => []
  | (key, value) :: rest =>
    ',' :: (newLine depth ++ quote key ++ ':' :: ' ' :: indented depth value
      ++ indentedFields depth rest)

end

def indentedText (json : Json) : String := String.ofList (json.indented 0)

end Json

end Flaky
