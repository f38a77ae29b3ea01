import Criteria.Json.Printer
import Criteria.Text.Blank
import Criteria.Text.Case

/-!
# Conversions

A mapped list converts its elements before they are compared, so that elements that mean the same
are the same. A conversion may depend on which of the two lists it is given.
-/

namespace Criteria

/-- The two lists of a set criterion. -/
inductive Side where
  /-- The wanted elements. -/
  | only
  /-- The unwanted elements. -/
  | except
deriving DecidableEq

namespace Side

/-- The key of a list in a body. -/
def key : Side → String
  | .only => "only"
  | .except => "except"

end Side

/-- What is done to the elements of a list. -/
inductive Convert where
  /-- Nothing. -/
  | identity
  /-- Keep integers, read numeric strings, drop the rest. -/
  | integer
  /-- Write scalars as strings, drop the rest. -/
  | string
  /-- Put strings in lower case. -/
  | downcase
  /-- Put strings in upper case. -/
  | upcase
  /-- Any function of the list and its side. -/
  | function (f : List Json → Side → List Json)

namespace Convert

instance : Inhabited Convert := ⟨identity⟩

/-- The conversion of a name, in whatever case it is written. -/
def ofName? (name : String) : Option Convert :=
  match Text.downcase name with
  | "identity" | "none" => some .identity
  | "integer" | "to_i" => some .integer
  | "string" | "to_s" => some .string
  | "downcase" => some .downcase
  | "upcase" => some .upcase
  | _ => none

/-- The integer that an element means: itself, or what a numeric string spells. -/
def integerOf? : Json → Option Json
  | .number n => n.word?.map Json.int
  | .string s => (Decimal.wordOfChars? (Text.trim s.toList)).map Json.int
  | _ => none

/-- The string that a scalar element means. -/
def stringOf? : Json → Option Json
  | .string s => some (.string s)
  | .number n => some (.string n.toText)
  | .bool b => some (.string (if b then "true" else "false"))
  | _ => none

/-- Change strings and leave the rest alone. -/
def onString (f : String → String) : Json → Json
  | .string s => .string (f s)
  | other => other

/-- Convert the list of one side. -/
def apply (convert : Convert) (elements : List Json) (side : Side) : List Json :=
  match convert with
  | .identity => elements
  | .integer => elements.filterMap integerOf?
  | .string => elements.filterMap stringOf?
  | .downcase => elements.map (onString Text.downcase)
  | .upcase => elements.map (onString Text.upcase)
  | .function f => f elements side

/-- How a conversion is shown in descriptions. -/
def label : Convert → String
  | .identity => "Identity"
  | .integer => "Integer"
  | .string => "String"
  | .downcase => "Downcase"
  | .upcase => "Upcase"
  | .function _ => "Function(..)"

end Convert

end Criteria
