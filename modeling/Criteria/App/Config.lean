import Criteria.App.Error
import Criteria.Compiler
import Criteria.Config.File

/-!
# The configuration of a run

The configuration comes from the file that was asked for, or else from the one in the working
directory. Its filters must all be usable before a body is looked at.
-/

namespace Criteria

/-- The configuration of one run. -/
structure AppConfig where
  path : String
  filters : FilterSet
  stem : String
  default : Combinator

namespace AppConfig

/-- Whether a text can begin placeholder names: letters, digits and underscores, no digit first. -/
def isStem (stem : String) : Bool :=
  match stem.toList with
  | [] => false
  | c :: cs => (c.isAlpha || c == '_') && cs.all fun c => c.isAlphanum || c == '_'

/-- The configuration that a file holds. -/
def ofFile (path : String) (file : ConfigFile) : Traced Event AppError AppConfig := do
  let stem := file.stem.getD BindTable.defaultStem
  if isStem stem then
    let filters ← file.filterSet.mapError (.badFilters path)
    .tell (.configLoaded path filters.size)
    return { path, filters, stem, default := file.default.getD .all }
  else .fail (.badConfig (.config (.badStem stem)))

/-- The compiler of a configuration. -/
def compiler (config : AppConfig) : Compiler :=
  (Compiler.ofFilters config.filters).withStem config.stem

/-- The configuration in the text of a file. -/
def ofText (path : String) (text : Except ReadFault String) : Traced Event AppError AppConfig := do
  .tell (.configReading path)
  let text ← .ofExcept (text.mapError (.configUnreadable path))
  let file ← .ofExcept ((ConfigFile.parse text).mapError (.configMalformed path))
  .tell .configRead
  .tellAll file.unknownFields
  ofFile path file

/-- The path of the configuration file: the one asked for, or the one in the working directory. -/
def locate {m : Type → Type} [Monad m] (host : Host m) :
    Option String → m (Except AppError String)
  | some path => do
    return if ← host.holds path then .ok path else .error (.configNotFound path)
  | none => do
    return if ← host.holds configFileName then .ok configFileName else .error .noConfig

/-- Find and read the configuration. -/
def load {m : Type → Type} [Monad m] (host : Host m) (asked : Option String) :
    m (Traced Event AppError AppConfig) := do
  let started : Traced Event AppError Unit := .tellAll [.configSought, .configArguments]
  match ← locate host asked with
  | .error e => return started >>= fun _ => .fail e
  | .ok path =>
    let text ← host.readText path
    return started >>= fun _ => ofText path text

end AppConfig

end Criteria
