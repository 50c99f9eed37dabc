import ShellFailure.Text.CharClass
import ShellFailure.Text.Numeral

/-!
# Legible texts

A text that is quoted in a message is written between double quotes so that every character of it
can be told apart: `legible` escapes quotes, backslashes and all characters that would not show.
-/

namespace ShellFailure.Text

/-- A character as it is written in a legible text. -/
def legibleChar (c : Char) : String :=
  match c with
  | '\x00' => "\\0"
  | '\t' => "\\t"
  | '\r' => "\\r"
  | '\n' => "\\n"
  | '"' => "\\\""
  | '\\' => "\\\\"
  | c => if isHidden c then "\\u\x7b" ++ hexadecimal c.toNat ++ "\x7d" else String.singleton c

/-- A text between double quotes, with escapes for what would not show. -/
def legible (s : String) : String :=
  "\"" ++ String.join (s.toList.map legibleChar) ++ "\""

end ShellFailure.Text
