import ContractWrapper.Text.Hexadecimal
import ContractWrapper.Text.Invisible

/-! Text between double quotes, for messages that show a value which may hold blanks.

Backslash, double quote, tab, line feed, carriage return and NUL have short escapes.
Every other invisible character is written as its code point in braces.
-/

set_option autoImplicit false

namespace ContractWrapper.Text

def escapeChar (c : Char) : String :=
  match c with
  | '\x00' => "\\0"
  | '\t' => "\\t"
  | '\n' => "\\n"
  | '\r' => "\\r"
  | '"' => "\\\""
  | '\\' => "\\\\"
  | _ =>
    if isInvisible c then "\\u\x7b" ++ hexadecimal c.toNat ++ "\x7d" else String.singleton c

def quoted (text : String) : String :=
  "\"" ++ String.join (text.toList.map escapeChar) ++ "\""

end ContractWrapper.Text
