import Criteria.Combinator
import Criteria.Filter.Kind
import Criteria.Json.Printer

/-!
# Events

What happens on the way to a result is reported as events, in order. An event has a level, a
message and fields.
-/

namespace Criteria

/-- How much an event matters. -/
inductive Level where
  | trace
  | debug
  | warn
deriving DecidableEq

/-- The name of a level. -/
def Level.name : Level → String
  | .trace => "TRACE"
  | .debug => "DEBUG"
  | .warn => "WARN"

/-- Something worth reporting. -/
inductive Event where
  /-- A body is about to be compiled. -/
  | bodyStarted (keys : Nat) (default : Combinator)
  /-- A body has been compiled. -/
  | bodyFinished (binds : Nat) (noMatch empty : Bool)
  /-- A name has no filter. -/
  | filterSkipped (name : String)
  /-- No row can pass a filter or a group. -/
  | filterUnmatchable (name : String)
  /-- A filter has been compiled. -/
  | filterCompiled (name : String) (kind : Kind)
  /-- An element names no object in scope. -/
  | referenceDropped (filter : String) (element : Json)
  /-- A request parameter has no name. -/
  | parameterSkipped (key : String)
  /-- The configuration is about to be looked for. -/
  | configSought
  /-- The command line that the configuration is looked for with. -/
  | configArguments
  /-- A configuration file is about to be read. -/
  | configReading (path : String)
  /-- A configuration file has been read. -/
  | configRead
  /-- A part of a configuration has keys that mean nothing. -/
  | unknownFields (scope : String) (fields : List String)
  /-- A configuration is ready for use. -/
  | configLoaded (path : String) (filters : Nat)

namespace Event

/-- How much an event matters. -/
def level : Event → Level
  | .bodyStarted .. | .bodyFinished .. | .filterUnmatchable _ | .configSought | .configReading _
  | .configLoaded .. => .debug
  | .filterSkipped _ | .filterCompiled .. | .referenceDropped .. | .parameterSkipped _
  | .configArguments | .configRead => .trace
  | .unknownFields .. => .warn

/-- What an event says. -/
def message : Event → String
  | .bodyStarted .. => "Compiling filter body"
  | .bodyFinished .. => "Compiled filter body"
  | .filterSkipped _ => "Skipping unconfigured filter"
  | .filterUnmatchable _ => "Filter cannot match any row"
  | .filterCompiled .. => "Compiled filter"
  | .referenceDropped .. => "Dropping unresolvable reference"
  | .parameterSkipped _ => "Skipping request parameter without a name"
  | .configSought => "Loading application configuration"
  | .configArguments => "CLI config"
  | .configReading _ => "Loading config file"
  | .configRead => "Parsed config file"
  | .unknownFields .. => "Unknown fields in config file (possible typos)"
  | .configLoaded .. => "Filter configuration loaded"

/-- The data of an event. -/
def fields : Event → List (String × Json)
  | .bodyStarted keys default => [("keys", .int keys), ("default", .string default.key)]
  | .bodyFinished binds noMatch empty =>
    [("binds", .int binds), ("no_match", .bool noMatch), ("empty", .bool empty)]
  | .filterSkipped name | .filterUnmatchable name => [("filter", .string name)]
  | .filterCompiled name kind => [("filter", .string name), ("kind", .string kind.name)]
  | .referenceDropped filter element =>
    [("filter", .string filter), ("element", .string element.compact)]
  | .parameterSkipped key => [("key", .string key)]
  | .configSought | .configArguments | .configRead => []
  | .configReading path => [("path", .string path)]
  | .unknownFields scope fields =>
    [("scope", .string scope), ("fields", .string (", ".intercalate fields))]
  | .configLoaded path filters => [("path", .string path), ("filters", .int filters)]

end Event

end Criteria
