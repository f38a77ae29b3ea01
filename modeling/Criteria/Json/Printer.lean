import Criteria.Double.Shortest
import Criteria.Json.Basic

/-!
# Printing JSON

The compact form has no spaces. The pretty form indents by two spaces and leaves empty containers
closed. Both escape only the quote, the backslash and the control characters below U+0020.
-/

namespace Criteria

/-- The text of a number. -/
def Number.toText : Number → String
  | .integer i => Decimal.ofInt i
  | .double d => d.toText

namespace Json

/-! ### Strings -/

/-- A hexadecimal digit, in lower case. -/
def hexDigit (n : Nat) : Char :=
  if n < 10 then Char.ofNat ('0'.toNat + n) else Char.ofNat ('a'.toNat + (n - 10))

/-- One character between quotes. -/
def escape (c : Char) : List Char :=
  match c with
  | '"' => ['\\', '"']
  | '\\' => ['\\', '\\']
  | '\n' => ['\\', 'n']
  | '\r' => ['\\', 'r']
  | '\t' => ['\\', 't']
  | '\x08' => ['\\', 'b']
  | '\x0c' => ['\\', 'f']
  | c =>
    if c.toNat < 0x20 then ['\\', 'u', '0', '0', hexDigit (c.toNat / 16), hexDigit (c.toNat % 16)]
    else [c]

/-- A string between quotes. -/
def quote (s : String) : String :=
  String.ofList ('"' :: s.toList.flatMap escape ++ ['"'])

/-! ### Values -/

mutual
/-- The compact text of a value. -/
def compact : Json → String
  | .null => "null"
  | .bool true => "true"
  | .bool false => "false"
  | .number n => n.toText
  | .string s => quote s
  | .array xs => "[" ++ ",".intercalate (compactList xs) ++ "]"
  | .object fs => "\x7b" ++ ",".intercalate (compactFields fs) ++ "\x7d"

/-- The compact texts of elements. -/
def compactList : List Json → List String
  | [] => []
  | x :: xs => compact x :: compactList xs

/-- The compact texts of fields. -/
def compactFields : List (String × Json) → List String
  | [] => []
  | (key, x) :: fs => (quote key ++ ":" ++ compact x) :: compactFields fs
end

/-- A new line, indented by so many levels. -/
def newline (level : Nat) : String :=
  String.ofList ('\n' :: List.replicate (2 * level) ' ')

/-- Items on lines of their own between brackets, or the bare brackets if there is none. -/
def block (openMark closeMark : String) (level : Nat) (items : List String) : String :=
  if items.isEmpty then openMark ++ closeMark
  else
    openMark ++ newline (level + 1) ++ ("," ++ newline (level + 1)).intercalate items ++
      newline level ++ closeMark

mutual
/-- The indented text of a value that starts at a level. -/
def prettyAt (level : Nat) : Json → String
  | .array xs => block "[" "]" level (prettyList (level + 1) xs)
  | .object fs => block "\x7b" "\x7d" level (prettyFields (level + 1) fs)
  | other => compact other

/-- The indented texts of elements. -/
def prettyList (level : Nat) : List Json → List String
  | [] => []
  | x :: xs => prettyAt level x :: prettyList level xs

/-- The indented texts of fields. -/
def prettyFields (level : Nat) : List (String × Json) → List String
  | [] => []
  | (key, x) :: fs => (quote key ++ ": " ++ prettyAt level x) :: prettyFields level fs
end

/-- The indented text of a value. -/
def pretty (value : Json) : String :=
  prettyAt 0 value

end Json

end Criteria
