import Criteria.Filter.Kind
import Criteria.Json.Printer
import Criteria.Text.Quoted

/-!
# Errors

Each error is a cause with the data that belongs to it; `message` words it. A name that no filter
is configured for is never an error.
-/

namespace Criteria

/-- How many combinators may stand inside each other. -/
def maxBodyDepth : Nat := 32

/-! ### Bodies and values -/

/-- What is wrong with the structure of a body. -/
inductive BodyFault where
  /-- The body is not a mapping. -/
  | notMapping
  /-- A combinator holds something other than a mapping. -/
  | combinatorNotMapping (key : String)
  /-- Combinators stand too deep inside each other. -/
  | tooDeep
deriving DecidableEq

/-- What is wrong with the value of a filter. -/
inductive ValueFault where
  /-- A set filter holds a Boolean. -/
  | notSets
  /-- A timestamp filter holds no mapping. -/
  | notComparisons
  /-- A range does not hold two elements. -/
  | notPair
  /-- An operand is no timestamp. -/
  | notTimestamp (operand : Json)
  /-- Whatever a generator objects to. -/
  | other (message : String)

/-- The wording of a structural fault. -/
def BodyFault.message : BodyFault → String
  | .notMapping => "expected a key-value mapping"
  | .combinatorNotMapping key => "'" ++ key ++ "' must hold a mapping"
  | .tooDeep => "combinators nested deeper than " ++ Decimal.ofNat maxBodyDepth

/-- The wording of a fault in a value. -/
def ValueFault.message : ValueFault → String
  | .notSets => "expected \x7bonly, except\x7d lists"
  | .notComparisons => "expected a mapping of comparison to timestamp"
  | .notPair => "range expects exactly two timestamps"
  | .notTimestamp operand => "invalid timestamp: " ++ operand.compact
  | .other message => message

/-! ### Configurations -/

/-- What the description of a filter wants somewhere. -/
inductive Wanted where
  /-- The description itself: an object. -/
  | description
  /-- A kind: its name, or an object with its name as the only key. -/
  | kind
  /-- Only `null`, under the name of a kind. -/
  | nothing
  | text
deriving DecidableEq

/-- What is wrong with the description of one filter. -/
inductive DescriptorFault where
  /-- A value of another type than the wanted one. -/
  | wrongType (found : Json) (wanted : Wanted)
  /-- A kind of that name does not exist. -/
  | unknownKind (name : String)
  /-- A kind is written as a mapping without exactly one key. -/
  | kindNotSingle
  /-- No kind is given. -/
  | missingKind
  /-- A custom filter needs a generator, which a file cannot hold. -/
  | customInFile
  /-- A filter that makes predicates needs a field. -/
  | blankField (kind : Kind)
  /-- A conversion of that name does not exist. -/
  | unknownConvert (name : String)

/-- What is wrong with a configuration. -/
inductive ConfigFault where
  /-- The text is not a configuration at all. -/
  | malformed
  /-- The stem of placeholders is not an identifier. -/
  | badStem (stem : String)
  /-- One of the filters is described wrongly. -/
  | filter (name : String) (fault : DescriptorFault)

/-- What a value of a wrong type is called. -/
def nameOfFound : Json → String
  | .null => "null"
  | .bool b => "boolean `" ++ (Json.bool b).compact ++ "`"
  | .number (.integer i) => "integer `" ++ Decimal.ofInt i ++ "`"
  | .number (.double d) => "floating point `" ++ d.toText ++ "`"
  | .string s => "string " ++ Text.quoted s
  | .array _ => "sequence"
  | .object _ => "map"

/-- The wording of what is wanted. -/
def Wanted.phrase : Wanted → String
  | .description => "struct DescriptorFileConfig"
  | .kind => "string or map"
  | .nothing => "unit"
  | .text => "a string"

/-- The wording of a fault in the description of a filter. -/
def DescriptorFault.message : DescriptorFault → String
  | .wrongType found wanted => "invalid type: " ++ nameOfFound found ++ ", expected " ++ wanted.phrase
  | .unknownKind name =>
    "unknown variant `" ++ name ++ "`, expected one of " ++
      ", ".intercalate (Kind.all.map fun kind => "`" ++ kind.name ++ "`")
  | .kindNotSingle => "invalid value: map, expected map with a single key"
  | .missingKind => "missing field `type`"
  | .customInFile =>
    "custom filters need a generator function and must be registered in code"
  | .blankField kind => "'field' is required for " ++ kind.name ++ " filters"
  | .unknownConvert name =>
    "unknown convert '" ++ name ++
      "'. Valid options: identity, integer, string, downcase, upcase"

/-- The wording of a fault in a configuration. -/
def ConfigFault.message : ConfigFault → String
  | .malformed => "malformed configuration"
  | .badStem stem =>
    "Invalid placeholder prefix '" ++ stem ++ "'. Use letters, digits and underscores"
  | .filter name fault => "filter '" ++ name ++ "': " ++ fault.message

/-! ### All errors -/

/-- An error of compiling, adjusting or configuring. -/
inductive FilterError where
  /-- The body does not have the structure of a body. -/
  | invalidBody (fault : BodyFault)
  /-- A timestamp filter holds a comparison that does not exist. -/
  | unknownComparison (filter operator : String)
  /-- The value of a filter cannot be used. -/
  | invalidValue (filter : String) (fault : ValueFault)
  /-- A custom filter has no generator. -/
  | missingGenerator (filter : String)
  /-- Raised by a generator or a transform. -/
  | custom (message : String)
  /-- The configuration cannot be used. -/
  | config (fault : ConfigFault)

/-- The wording of an error. -/
def FilterError.message : FilterError → String
  | .invalidBody fault => "Invalid filter body: " ++ fault.message
  | .unknownComparison filter operator =>
    "Unknown comparison '" ++ operator ++ "' for filter '" ++ filter ++ "'"
  | .invalidValue filter fault =>
    "Invalid value for filter '" ++ filter ++ "': " ++ fault.message
  | .missingGenerator filter => "Custom filter '" ++ filter ++ "' has no generator"
  | .custom message => message
  | .config fault => "Configuration error: " ++ fault.message

end Criteria
