import Criteria.Assoc
import Criteria.Double.Basic
import Criteria.Text.Decimal

/-!
# JSON values

Values keep the order of object fields, and integers apart from fractions: `1` and `1.0` are two
values. Equality does not look at the order of fields. A text may repeat a key in one object;
`Json.collapse` is the rule for that: the last value wins, at the place of the first.
-/

namespace Criteria

/-- A JSON number: a literal without fraction and exponent is an integer while 64 bits hold it. -/
inductive Number where
  | integer (value : Int)
  | double (value : Double)
deriving DecidableEq

namespace Number

/-- Equality within each kind; the two zeros of the doubles are equal. -/
def beq : Number → Number → Bool
  | .integer i, .integer j => i == j
  | .double a, .double b => a.beq b
  | _, _ => false

/-- The integer, if it is one of 64 bits with a sign. -/
def word? : Number → Option Int
  | .integer i => if Decimal.fitsWord i then some i else none
  | .double _ => none

end Number

/-- A JSON value. -/
inductive Json where
  | null
  | bool (value : Bool)
  | number (value : Number)
  | string (value : String)
  | array (elements : List Json)
  | object (fields : List (String × Json))
deriving Inhabited

namespace Json

/-- An integer value. -/
def int (i : Int) : Json :=
  .number (.integer i)

/-- Whether the value is `null`. -/
def isNull : Json → Bool
  | .null => true
  | _ => false

/-- The field of an object under a key. -/
def field? (key : String) : Json → Option Json
  | .object fields => Assoc.find? key fields
  | _ => none

/-- The text of a string value. -/
def text? : Json → Option String
  | .string s => some s
  | _ => none

/-- The integer of 64 bits that a value is. -/
def word? : Json → Option Int
  | .number n => n.word?
  | _ => none

/-! ### Equality -/

mutual
/-- Equality of values, the order of object fields aside. -/
def beq : Json → Json → Bool
  | .null, .null => true
  | .bool a, .bool b => a == b
  | .number a, .number b => a.beq b
  | .string a, .string b => a == b
  | .array xs, .array ys => beqList xs ys
  | .object fs, .object gs =>
    fs.length == gs.length && beqFields [] fs gs && gs.all fun g => Assoc.hasKey g.1 fs
  | _, _ => false

/-- Equality of lists, element by element. -/
def beqList : List Json → List Json → Bool
  | [], [] => true
  | x :: xs, y :: ys => beq x y && beqList xs ys
  | _, _ => false

/-- Whether each field of the first object has an equal one in the second. Like a look-up, this sees
only the first field under a key; the first argument has the keys that came before. -/
def beqFields (seen : List String) : List (String × Json) → List (String × Json) → Bool
  | [], _ => true
  | (key, x) :: fs, gs =>
    (seen.contains key ||
      match Assoc.find? key gs with
      | some y => beq x y
      | none => false) && beqFields (key :: seen) fs gs
end

instance : BEq Json := ⟨beq⟩

/-! ### Repeated keys -/

mutual
/-- Let the last of several values under one key win, in every object of the value. -/
def collapse : Json → Json
  | .array xs => .array (collapseList xs)
  | .object fs => .object (Assoc.ofPairs (collapseFields fs))
  | other => other

/-- Settle repeated keys in every element. -/
def collapseList : List Json → List Json
  | [] => []
  | x :: xs => collapse x :: collapseList xs

/-- Settle repeated keys in every field's value. -/
def collapseFields : List (String × Json) → List (String × Json)
  | [] => []
  | (key, x) :: fs => (key, collapse x) :: collapseFields fs
end

end Json

end Criteria
