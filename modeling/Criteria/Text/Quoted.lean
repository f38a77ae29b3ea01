import Criteria.Json.Printer
import Criteria.Text.Alphanumeric
import Criteria.Text.EscapeTable

/-!
# Quoted text in descriptions

Text between double quotes, for descriptions meant for people. Tab, line ends and NUL have short
escapes, and a character that would not show on its own is spelled by its code point.
-/

namespace Criteria.Text

/-- Hexadecimal digits of a number, in lower case. -/
def hexDigits (n : Nat) : List Char :=
  if n < 16 then [Json.hexDigit n] else hexDigits (n / 16) ++ [Json.hexDigit (n % 16)]

/-- One character of quoted text. -/
def quoteChar (c : Char) : List Char :=
  match c with
  | '"' => ['\\', '"']
  | '\\' => ['\\', '\\']
  | '\t' => ['\\', 't']
  | '\r' => ['\\', 'r']
  | '\n' => ['\\', 'n']
  | '\x00' => ['\\', '0']
  | c =>
    if inRanges escapeRanges c then '\\' :: 'u' :: '{' :: hexDigits c.toNat ++ ['}'] else [c]

/-- A text between quotes. -/
def quoted (s : String) : String :=
  String.ofList ('"' :: s.toList.flatMap quoteChar ++ ['"'])

end Criteria.Text
