import Criteria.App.Config

/-!
# Output of a run

Compiling one body with a configuration, and listing the configured filters.
-/

namespace Criteria

/-- Where the body of a run comes from. -/
inductive BodySource where
  | inline (text : String)
  | file (path : String)
  | params (pairs : List (String × String))
  | input

/-- A compiled body with its bind values. -/
structure CompileOutput where
  predicate : Predicate
  params : Json

namespace CompileOutput

/-- Bind values are shown only where a predicate uses them. -/
def ofResult (predicate : Predicate) (table : BindTable) : CompileOutput :=
  ⟨predicate, if predicate.sql?.isSome then table.toJson else .object []⟩

/-- The output in JSON. -/
def toJson (output : CompileOutput) : Json :=
  .object [("predicate", output.predicate.toJson), ("params", output.params)]

end CompileOutput

namespace BodySource

/-- Read a body from its text, within the size limit. -/
def parseText (text : String) : Except AppError Body :=
  if maxBodySize < text.utf8ByteSize then .error .bodyTooLarge
  else match Json.parse? text with
    | some value => .ok (.json value)
    | none => .error .bodyMalformed

/-- The body that a source holds. -/
def read {m : Type → Type} [Monad m] (host : Host m) : BodySource → m (Except AppError Body)
  | .inline text => return parseText text
  | .file path => do
    let text ← host.readText path
    return text.mapError (.bodyUnreadable path) >>= parseText
  | .params pairs =>
    return if maxParams < pairs.length then .error .tooManyParams else .ok (.request ⟨pairs⟩)
  | .input => do
    let bytes ← host.readInput (maxBodySize + 1)
    return (bytes >>= decodeText).mapError .inputUnreadable >>= parseText

end BodySource

namespace AppConfig

/-- Compile a body with the configured filters. -/
def compileBody (config : AppConfig) (body : Body) (default : Combinator) :
    Traced Event AppError CompileOutput :=
  let (outcome, compiler) := config.compiler.generate body default
  outcome.mapError .body >>= fun predicate => .pure (.ofResult predicate compiler.table)

/-- Read and compile a body. -/
def compile {m : Type → Type} [Monad m] (config : AppConfig) (host : Host m)
    (source : BodySource) (default : Combinator) : m (Traced Event AppError CompileOutput) := do
  match ← source.read host with
  | .ok body => return config.compileBody body default
  | .error e => return .fail e

end AppConfig

/-! ### The listing of filters -/

namespace FilterSet

/-- A text filled up with spaces to a number of characters. -/
def padRight (width : Nat) (s : String) : String :=
  s ++ String.ofList (List.replicate (width - s.length) ' ')

/-- The width of the column of kinds. -/
def kindWidth : Nat := 21

/-- The line of one filter: name, kind, field and class. -/
def line (width : Nat) (name : String) (d : Descriptor) : String :=
  let scope := match d.className with
    | some className => "  (" ++ className ++ ")"
    | none => ""
  let text := padRight width name ++ "  " ++ padRight kindWidth d.kind.name ++ "  " ++ d.field ++
    scope
  String.ofList (Text.trimEnd text.toList) ++ "\n"

/-- The widest that a column can be. -/
def maxWidth : Nat := 65535

/-- The width of the column of names: that of the longest name in bytes. -/
def nameWidth (filters : FilterSet) : Nat :=
  filters.names.foldl (fun width name => max width name.utf8ByteSize) 0

/-- One line for each filter, unless the names need too wide a column. -/
def listing? (filters : FilterSet) : Option String :=
  let width := filters.nameWidth
  if width ≤ maxWidth then
    some (String.join (filters.entries.map fun (name, d) => line width name d))
  else none

end FilterSet

end Criteria
