import Criteria.CommandLine.Args

/-!
# Reading a command line

The program level is read up to a command, then the level of the command to the end. The path of the
configuration may be given at both levels or in the environment: the command line counts before the
environment, and the command before the program.
-/

namespace Criteria.CommandLine

/-- What to do. -/
inductive Command where
  | compile (given : Given)
  | filters

/-- A command line that can be run. -/
structure Invocation where
  command : Command
  config : Option String

/-- Where the path of the configuration comes from. -/
inductive ConfigSource where
  | environment (path : String)
  | argument (path : String)

namespace ConfigSource

/-- The path. -/
def path : ConfigSource → String
  | .environment path => path
  | .argument path => path

/-- The path that counts, of the program level and the level of the command. -/
def prefer : Option ConfigSource → Option ConfigSource → Option ConfigSource
  | some (.argument path), some (.environment _) => some (.argument path)
  | outer, none => outer
  | _, inner => inner

end ConfigSource

/-- The path of the configuration at a level; what the environment says may not be empty. -/
def configOf (given : Given) (environment : Option String) :
    Except UsageError (Option ConfigSource) :=
  match given.config, environment with
  | some path, _ => .ok (some (.argument path))
  | none, some path => do return some (.environment (← Given.readPath .config path))
  | none, none => .ok none

/-- Read the arguments of a command. -/
def readAll (level : Level) (p : Progress) : List String → Except UsageError Progress
  | [] => p.settle
  | arg :: rest =>
    match p.read level arg with
    | .ok p => readAll level p rest
    | .error e => .error e

/-- Read a command from its arguments. -/
def readCommand (level : Level) (environment : Option String) (args : List String) :
    Except UsageError (Given × Option ConfigSource) := do
  let p ← readAll level .start args
  let config ← configOf p.given environment
  p.given.checkSources
  return (p.given, config)

/-- The help that is asked for behind `help`: that of a command, if one is named. -/
def readHelp : List String → UsageError
  | [] => .helpWanted .program
  | [name] =>
    match CommandName.ofText? name with
    | some .compile => .helpWanted .compile
    | some .filters => .helpWanted .filters
    | some .help => .helpWanted .program
    | none => .unknownCommand name
  | name :: next :: _ =>
    if (CommandName.ofText? name).isSome then .unknownCommand next else .unknownCommand name

/-- Read the level of a command, and then settle what the program level has left open. -/
def finish (environment : Option String) (p : Progress) (name : CommandName)
    (args : List String) : Except UsageError Invocation := do
  let (command, inner) ← match name with
    | .compile => do
      let (given, config) ← readCommand .compile environment args
      pure (Command.compile given, config)
    | .filters => do
      let (_, config) ← readCommand .filters environment args
      pure (Command.filters, config)
    | .help => throw (readHelp args)
  let p ← p.settle
  let outer ← configOf p.given environment
  return ⟨command, (ConfigSource.prefer outer inner).map (·.path)⟩

/-- Read the program level up to a command. -/
def readProgram (environment : Option String) (p : Progress) :
    List String → Except UsageError Invocation
  | [] => do
    let p ← p.settle
    let config ← configOf p.given environment
    throw (if p.given.isNothing && config.isNone then .nothingGiven else .missingCommand)
  | arg :: rest =>
    match if p.ended || p.awaiting?.isSome then none else Level.command? .program arg with
    | some name => finish environment p name rest
    | none =>
      match p.read .program arg with
      | .ok p => readProgram environment p rest
      | .error e => .error e

/-- Read a command line, given the path of the configuration in the environment. -/
def parse (environment : Option String) (args : List String) : Except UsageError Invocation :=
  readProgram environment .start args

end Criteria.CommandLine
