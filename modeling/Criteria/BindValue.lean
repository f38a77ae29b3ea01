import Criteria.Json.Basic
import Criteria.Timestamp.Printer

/-!
# Bind values

What a placeholder stands for. Integers, strings, timestamps and lists have a form of their own; any
other JSON value is bound as it is.
-/

namespace Criteria

/-- The value bound to a placeholder. -/
inductive BindValue where
  | integer (value : Int)
  | text (value : String)
  | timestamp (value : Timestamp)
  | list (elements : List BindValue)
  | json (value : Json)
deriving Inhabited

namespace BindValue

mutual
/-- The bind value of a JSON value: integers of 64 bits, strings and arrays take their own form. -/
def ofJson : Json → BindValue
  | .number n =>
    match n.word? with
    | some i => .integer i
    | none => .json (.number n)
  | .string s => .text s
  | .array xs => .list (ofJsonList xs)
  | .null => .json .null
  | .bool b => .json (.bool b)
  | .object fields => .json (.object fields)

/-- The bind values of elements. -/
def ofJsonList : List Json → List BindValue
  | [] => []
  | x :: xs => ofJson x :: ofJsonList xs
end

mutual
/-- How a bind value is written in JSON; a timestamp is its text. -/
def toJson : BindValue → Json
  | .integer i => .int i
  | .text s => .string s
  | .timestamp t => .string t.toText
  | .list xs => .array (toJsonList xs)
  | .json v => v

/-- How elements are written in JSON. -/
def toJsonList : List BindValue → List Json
  | [] => []
  | x :: xs => toJson x :: toJsonList xs
end

mutual
/-- Equality within each form; JSON values compare as such. -/
def beq : BindValue → BindValue → Bool
  | .integer a, .integer b => a == b
  | .text a, .text b => a == b
  | .timestamp a, .timestamp b => a == b
  | .list xs, .list ys => beqList xs ys
  | .json a, .json b => a == b
  | _, _ => false

/-- Equality of lists, element by element. -/
def beqList : List BindValue → List BindValue → Bool
  | [], [] => true
  | x :: xs, y :: ys => beq x y && beqList xs ys
  | _, _ => false
end

instance : BEq BindValue := ⟨beq⟩

end BindValue

end Criteria
