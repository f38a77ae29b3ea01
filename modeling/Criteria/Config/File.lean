import Criteria.Config.Descriptor
import Criteria.Filter.Set
import Criteria.Json.Reader

/-!
# Configuration files

A configuration file is an object. It may hold the stem of placeholder names, the default
combinator and the filters; a key that means nothing is reported. One of the known keys may not be
repeated; of another repeated key, at the top or among the filters, the last value wins.
-/

namespace Criteria

/-- The contents of a configuration file. -/
structure ConfigFile where
  stem : Option String
  default : Option Combinator
  filters : List (String × Json)
  /-- What stands under keys that mean nothing. -/
  extra : List (String × Json)

namespace ConfigFile

/-- The keys that mean something. -/
def knownKeys : List String :=
  ["placeholder_prefix", "default_combinator", "filters"]

/-- A string, or `null` for none. -/
def readStem? : Json → Option (Option String)
  | .null => some none
  | .string s => some (some s)
  | _ => none

/-- A combinator: its key, an object with its key as the only one and nothing under it, or `null`
for none. -/
def readCombinator? : Json → Option (Option Combinator)
  | .null => some none
  | .string key => (Combinator.ofKey? key).map some
  | .object [(key, .null)] => (Combinator.ofKey? key).map some
  | _ => none

/-- An object. -/
def readFilters? : Json → Option (List (String × Json))
  | .object fields => some fields
  | _ => none

/-- Read what stands under a key, or take what holds without it. The key may not be repeated. -/
def readKey? {α : Type} (key : String) (absent : α) (read? : Json → Option α)
    (fields : List (String × Json)) : Option α :=
  match fields.filter fun field => field.1 == key with
  | [] => some absent
  | [(_, value)] => read? value
  | _ => none

/-- The configuration in the fields of an object, whose keys may repeat. -/
def ofFields? (fields : List (String × Json)) : Option ConfigFile := do
  let stem ← readKey? "placeholder_prefix" none readStem? fields
  let default ← readKey? "default_combinator" none readCombinator? fields
  let filters ← readKey? "filters" [] (fun value => readFilters? value.collapse) fields
  let extra := fields.filter fun field => !knownKeys.contains field.1
  return { stem, default, filters, extra := Assoc.ofPairs (Json.collapseFields extra) }

/-- Read a configuration file. -/
def parse (text : String) : Except FilterError ConfigFile :=
  match Json.parseRaw? text with
  | some (.object fields) =>
    match ofFields? fields with
    | some file => .ok file
    | none => .error (.config .malformed)
  | _ => .error (.config .malformed)

/-- The report on keys at the top that mean nothing. -/
def unknownFields (file : ConfigFile) : List Event :=
  DescriptorConfig.unknownReport "config" (Assoc.keys file.extra)

/-- The descriptor of one filter. -/
def descriptor (name : String) (value : Json) : Traced Event FilterError Descriptor :=
  Traced.mapError (fun fault => .config (.filter name fault))
    (Traced.ofExcept (DescriptorConfig.read value) >>= DescriptorConfig.toDescriptor name)

/-- Add filters to a set, in file order. -/
def addFilters (filters : FilterSet) : List (String × Json) → Traced Event FilterError FilterSet
  | [] => return filters
  | (name, value) :: rest => do
    let d ← descriptor name value
    addFilters (filters.insert name d) rest

/-- The filters of a file. -/
def filterSet (file : ConfigFile) : Traced Event FilterError FilterSet :=
  addFilters .empty file.filters

end ConfigFile

end Criteria
