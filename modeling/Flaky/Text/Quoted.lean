-- SUMMARY: Texts in double quotes, with escapes for what cannot be shown as it is.
import Flaky.Text.Shapeless

/-!
# Quoted texts

A quoted text shows quotes, backslashes and the common controls by letters, and
every other character that has no shape of its own by its code.
-/

namespace Flaky.Text

def hexText (n : Nat) : String := String.ofList (Nat.toDigits 16 n)

def quotedChar (c : Char) : String :=
  match c with
  | '"' => "\\\""
  | '\\' => "\\\\"
  | '\n' => "\\n"
  | '\r' => "\\r"
  | '\t' => "\\t"
  | c =>
    if c.toNat = 0 then "\\0"
    else if isShapeless c then "\\u\x7b" ++ hexText c.toNat ++ "\x7d"
    else String.singleton c

def quoted (text : String) : String := "\"" ++ String.join (text.toList.map quotedChar) ++ "\""

end Flaky.Text
