import Criteria.App.EnvFile
import Criteria.App.Output
import Criteria.CommandLine.Help
import Criteria.CommandLine.Parser

/-!
# A run of the program

The environment is completed from a file in the working directory, the command line is read, the
configuration is loaded, and the command is carried out.
-/

namespace Criteria

/-- The name and version of the program. -/
def versionText : String := "filterc 0.1.0\n"

/-- The environment variable with the path of the configuration. -/
def configVariable : String := "FILTERC_CONFIG"

/-- The file that adds to the environment. -/
def envFileName : String := ".env"

/-- Why a run breaks off. -/
inductive Breakdown where
  /-- The environment cannot hold what its file says. -/
  | unsettable
  /-- The names of the filters need too wide a column. -/
  | tooWide

/-- The wording of a breakdown. -/
def Breakdown.message : Breakdown → String
  | .unsettable => "a variable cannot hold a NUL character"
  | .tooWide => "a column cannot be that wide"

/-- How a run ends. -/
inductive Ending where
  /-- With output. -/
  | done (output : String)
  /-- With a failure. -/
  | failed (e : AppError)
  /-- Without having run, because of the command line. -/
  | refused (e : CommandLine.UsageError)
  /-- In the middle. -/
  | aborted (cause : Breakdown)

/-- An ending, with the reports made on the way. -/
structure Finished where
  ending : Ending
  events : List Event

namespace Finished

/-- An ending with output, or a failure. -/
def ofTraced (outcome : Traced Event AppError String) : Finished :=
  match outcome.result with
  | .ok output => ⟨.done output, outcome.trace⟩
  | .error e => ⟨.failed e, outcome.trace⟩

end Finished

namespace Ending

/-- The exit code: zero for success and for what was asked to be shown, one for a failure, two for a
command line that cannot be run, and 101 for a run that breaks off. -/
def code : Ending → Nat
  | .done _ | .refused (.helpWanted _) | .refused .versionWanted => 0
  | .failed _ => 1
  | .refused _ => 2
  | .aborted _ => 101

/-- What is printed. -/
def output : Ending → String
  | .done output => output
  | .refused .versionWanted => versionText
  | .refused (.helpWanted level) => level.help
  | .failed _ | .refused _ | .aborted _ => ""

/-- What is printed on the side of errors. -/
def complaint : Ending → String
  | .done _ | .refused .versionWanted | .refused (.helpWanted _) => ""
  | .failed e => "\nError: " ++ e.message ++ "\n\n"
  | .refused e => e.message ++ "\n"
  | .aborted cause => cause.message ++ "\n"

end Ending

namespace CommandLine.Given

/-- Where the body comes from: the text, the file, the parameters, or else the standard input. -/
def source (given : Given) : BodySource :=
  match given.body, given.bodyFile with
  | some text, _ => .inline text
  | none, some path => .file path
  | none, none => if given.params.isEmpty then .input else .params given.params

/-- A compiled body as it is printed. -/
def render (given : Given) (output : CompileOutput) : String :=
  (if given.pretty then output.toJson.pretty else output.toJson.compact) ++ "\n"

end CommandLine.Given

/-- Carry out a command with a configuration. -/
def AppConfig.run {m : Type → Type} [Monad m] (config : AppConfig) (host : Host m) :
    CommandLine.Command → m Finished
  | .compile given => do
    let default := if given.any then Combinator.any else config.default
    let output ← config.compile host given.source default
    return .ofTraced (output >>= fun output => .pure (given.render output))
  | .filters =>
    return match config.filters.listing? with
      | some listing => ⟨.done listing, []⟩
      | none => ⟨.aborted .tooWide, []⟩

/-- What the environment has for some names. In order, so that no name stands behind one that goes on
from it. -/
def environmentOf {m : Type → Type} [Monad m] (host : Host m) (names : List String) :
    m Environment := do
  let pairs ← names.mergeSort.eraseReps.filterMapM fun name => do
    return (← host.envValue name).map ((name, ·))
  return .ofList pairs

/-- The path of the configuration in the environment, after the file in the working directory has
added to it; nothing at all where the environment cannot hold what the file says. -/
def configFromEnvironment {m : Type → Type} [Monad m] (host : Host m) :
    m (Option (Option String)) := do
  match ← host.readText envFileName with
  | .ok text =>
    let list := EnvFile.assignments text
    let environment ← environmentOf host (configVariable :: list.flatMap (·.names))
    return (EnvFile.load list environment).map (·.value? configVariable)
  | .error _ => return some (← host.envValue configVariable)

/-- Run the program. -/
def run {m : Type → Type} [Monad m] (host : Host m) (args : List String) : m Finished := do
  let some environment ← configFromEnvironment host | return ⟨.aborted .unsettable, []⟩
  match CommandLine.parse environment args with
  | .error e => return ⟨.refused e, []⟩
  | .ok invocation =>
    let loaded ← AppConfig.load host invocation.config
    match loaded.result with
    | .error e => return ⟨.failed e, loaded.trace⟩
    | .ok config =>
      let finished ← config.run host invocation.command
      return ⟨finished.ending, loaded.trace ++ finished.events⟩

end Criteria
