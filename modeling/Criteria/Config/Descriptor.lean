import Criteria.Filter.Descriptor

/-!
# Descriptors in configuration files

A file describes a filter by an object with a kind under `type`, a field, and optionally a
conversion and a class. Keys are read in file order and the first wrong one counts; keys that mean
nothing are reported, and never an error.
-/

namespace Criteria

/-- The description of one filter, as far as it has been read. -/
structure DescriptorConfig where
  kind : Option Kind
  field : String
  convert : Option String
  className : Option String
  /-- The keys that mean nothing here. -/
  unknown : List String
deriving Inhabited

namespace DescriptorConfig

/-- The description before anything has been read. -/
def blank : DescriptorConfig :=
  ⟨none, "", none, none, []⟩

/-- A kind by its name. -/
def kindOfName (name : String) : Except DescriptorFault Kind :=
  match Kind.ofName? name with
  | some kind => .ok kind
  | none => .error (.unknownKind name)

/-- A kind: its name, or an object with its name as the only key and nothing under it. -/
def readKind : Json → Except DescriptorFault Kind
  | .string name => kindOfName name
  | .object [(name, content)] => do
    let kind ← kindOfName name
    if content.isNull then return kind else throw (.wrongType content .nothing)
  | .object _ => .error .kindNotSingle
  | value => .error (.wrongType value .kind)

/-- A string. -/
def readText : Json → Except DescriptorFault String
  | .string s => .ok s
  | value => .error (.wrongType value .text)

/-- A string, or `null` for none. -/
def readText? : Json → Except DescriptorFault (Option String)
  | .null => .ok none
  | value => some <$> readText value

/-- Take in one key with its value. -/
def readEntry (d : DescriptorConfig) (key : String) (value : Json) :
    Except DescriptorFault DescriptorConfig :=
  match key with
  | "type" => do return { d with kind := some (← readKind value) }
  | "field" => do return { d with field := ← readText value }
  | "convert" => do return { d with convert := ← readText? value }
  | "class_name" => do return { d with className := ← readText? value }
  | key => .ok { d with unknown := d.unknown ++ [key] }

/-- Take in all keys, in order. -/
def readEntries (d : DescriptorConfig) :
    List (String × Json) → Except DescriptorFault DescriptorConfig
  | [] => .ok d
  | (key, value) :: rest =>
    match readEntry d key value with
    | .ok d => readEntries d rest
    | .error fault => .error fault

/-- Read the description of a filter. -/
def read : Json → Except DescriptorFault DescriptorConfig
  | .object fields => readEntries blank fields
  | value => .error (.wrongType value .description)

/-- The conversion that a description names, if it names one. -/
def readConvert : Option String → Except DescriptorFault Convert
  | none => .ok .identity
  | some name =>
    match Convert.ofName? name with
    | some convert => .ok convert
    | none => .error (.unknownConvert name)

/-- The kind of a description, if a file may configure it. -/
def checkedKind (d : DescriptorConfig) : Except DescriptorFault Kind :=
  match d.kind with
  | none => .error .missingKind
  | some .custom => .error .customInFile
  | some .passthrough => .ok .passthrough
  | some kind => if Text.isBlankText d.field then .error (.blankField kind) else .ok kind

/-- A report on keys that mean nothing, if there are any. -/
def unknownReport (scope : String) (unknown : List String) : List Event :=
  if unknown.isEmpty then [] else [.unknownFields scope unknown]

/-- The descriptor of a filter. -/
def toDescriptor (name : String) (d : DescriptorConfig) :
    Traced Event DescriptorFault Descriptor := do
  let kind ← .ofExcept d.checkedKind
  .tellAll (unknownReport ("filters." ++ name) d.unknown)
  let convert ← .ofExcept (readConvert d.convert)
  return { Descriptor.ofKind kind d.field with convert, className := d.className }

end DescriptorConfig

end Criteria
