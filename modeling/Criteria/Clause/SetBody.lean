import Criteria.Error
import Criteria.Filter.Convert

/-!
# Set criteria

The value of a set filter: a list of wanted elements and a list of unwanted ones. A list or scalar
by itself is wanted, and `null` is no criterion.
-/

namespace Criteria

/-- The two lists of a set criterion, where they are given. -/
structure SetBody where
  only : Option (List Json)
  except : Option (List Json)
deriving Inhabited

namespace SetBody

/-- No criterion. -/
def none : SetBody :=
  ⟨.none, .none⟩

/-- The list of one side: `null` is no list, and a value by itself a list of one. -/
def listOf? : Json → Option (List Json)
  | .null => .none
  | .array xs => some xs
  | value => some [value]

/-- The list of one side of a mapping. -/
def side? (side : Side) (fields : List (String × Json)) : Option (List Json) :=
  (Assoc.find? side.key fields).bind listOf?

/-- Read the value of a set filter. -/
def read (filter : String) : Json → Except FilterError SetBody
  | .null => .ok none
  | .object fields => .ok ⟨side? .only fields, side? .except fields⟩
  | .bool _ => .error (.invalidValue filter .notSets)
  | value => .ok ⟨listOf? value, .none⟩

end SetBody

end Criteria
