import Criteria.Filter.Convert
import Criteria.Filter.Kind
import Criteria.Pass

/-!
# Descriptors

A descriptor says how one named filter works: its kind, the column or expression that it tests, and
what belongs to the kind. A custom filter makes its fragment with a generator, which binds values
in the running pass.
-/

namespace Criteria

/-- The part of a descriptor that is plain data. -/
structure FilterSpec where
  kind : Kind
  field : String
  convert : Convert
  className : Option String
deriving Inhabited

/-- Makes the fragment of a custom filter from its name, its data and its value. -/
abbrev Generator := String → FilterSpec → Json → Pass String

/-- How one named filter works. -/
structure Descriptor extends FilterSpec where
  generator : Option Generator
deriving Inhabited

namespace Descriptor

/-- A descriptor of a kind without anything optional. A passthrough filter has no field. -/
def ofKind (kind : Kind) (field : String) : Descriptor :=
  { kind
    field := if kind = .passthrough then "" else field
    convert := .identity
    className := none
    generator := none }

/-- A custom filter with its generator. -/
def custom (field : String) (generator : Generator) : Descriptor :=
  { ofKind .custom field with generator := some generator }

/-- The same with another conversion. -/
def withConvert (d : Descriptor) (convert : Convert) : Descriptor :=
  { d with convert }

/-- The same in the scope of a class. -/
def withClassName (d : Descriptor) (className : String) : Descriptor :=
  { d with className := some className }

/-- An optional text in a description. -/
def describeOption (text : Option String) : String :=
  match text with
  | some text => "Some(" ++ Text.quoted text ++ ")"
  | none => "None"

/-- The name of a kind in a description. -/
def describeKind : Kind → String
  | .reference => "Reference"
  | .polymorphicReference => "PolymorphicReference"
  | .mappedList => "MappedList"
  | .timestampRange => "TimestampRange"
  | .custom => "Custom"
  | .passthrough => "Passthrough"

/-- A description for people; of a generator it only says whether there is one. -/
def describe (d : Descriptor) : String :=
  "FilterDescriptor \x7b kind: " ++ describeKind d.kind ++ ", field: " ++ Text.quoted d.field ++
    ", convert: " ++ d.convert.label ++ ", class_name: " ++ describeOption d.className ++
    ", generator: " ++ describeOption (d.generator.map fun _ => "..") ++ " \x7d"

end Descriptor

end Criteria
