/-!
# Kinds of filters

The kind of a filter decides how its value is turned into a predicate.
-/

namespace Criteria

/-- How the value of a filter is read. -/
inductive Kind where
  /-- Objects of one class, by numeric id. -/
  | reference
  /-- Objects of any class, by fingerprint. -/
  | polymorphicReference
  /-- Values of any type, converted first. -/
  | mappedList
  /-- Comparisons with timestamps. -/
  | timestampRange
  /-- Whatever a generator makes of the value. -/
  | custom
  /-- Accepted, and never a restriction. -/
  | passthrough
deriving DecidableEq, Inhabited

namespace Kind

/-- The name of a kind in configurations. -/
def name : Kind → String
  | .reference => "reference"
  | .polymorphicReference => "polymorphic_reference"
  | .mappedList => "mapped_list"
  | .timestampRange => "timestamp_range"
  | .custom => "custom"
  | .passthrough => "passthrough"

/-- All kinds, in the order in which they are listed. -/
def all : List Kind :=
  [.reference, .polymorphicReference, .mappedList, .timestampRange, .custom, .passthrough]

/-- The kind of a name. -/
def ofName? (name : String) : Option Kind :=
  all.find? fun kind => kind.name == name

@[simp] theorem ofName?_name (kind : Kind) : ofName? kind.name = some kind := by
  cases kind <;> decide

end Kind

end Criteria
