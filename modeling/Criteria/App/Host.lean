/-!
# The surroundings of a run

The program looks at files, at its standard input and at the environment through a host. A host may
be the operating system, or a folder that is held in memory.
-/

namespace Criteria

/-- Why something cannot be read. -/
inductive ReadFault where
  /-- Nothing is there. -/
  | missing
  /-- A directory is there. -/
  | directory
  /-- The path goes on behind something that is no directory. -/
  | notDirectory
  /-- The path, or a name on it, is too long. -/
  | tooLong
  /-- The path holds a NUL character. -/
  | nulInPath
  /-- The bytes are no text. -/
  | notText
  /-- Whatever else the system says. -/
  | other (reason : String)

/-- The wording of a fault in reading. -/
def ReadFault.message : ReadFault → String
  | .missing => "No such file or directory (os error 2)"
  | .directory => "Is a directory (os error 21)"
  | .notDirectory => "Not a directory (os error 20)"
  | .tooLong => "File name too long (os error 36)"
  | .nulInPath => "file name contained an unexpected NUL byte"
  | .notText => "stream did not contain valid UTF-8"
  | .other reason => reason

/-- What a run can ask of its surroundings. -/
structure Host (m : Type → Type) where
  /-- Whether a path exists. -/
  isPresent : String → m Bool
  /-- The contents of a file. -/
  readFile : String → m (Except ReadFault ByteArray)
  /-- At most so many bytes of the standard input. -/
  readInput : Nat → m (Except ReadFault ByteArray)
  /-- The value of an environment variable. -/
  envValue : String → m (Option String)

/-- The text that bytes encode. -/
def decodeText (bytes : ByteArray) : Except ReadFault String :=
  match String.fromUTF8? bytes with
  | some text => .ok text
  | none => .error .notText

/-- Whether a path can be handed to a system at all. -/
def isPath (path : String) : Bool :=
  !path.toList.contains '\x00'

namespace Host

variable {m : Type → Type} [Monad m]

/-- Whether a path exists; what is no path does not. -/
def holds (host : Host m) (path : String) : m Bool :=
  if isPath path then host.isPresent path else return false

/-- The text of a file. -/
def readText (host : Host m) (path : String) : m (Except ReadFault String) := do
  if isPath path then
    let bytes ← host.readFile path
    return bytes >>= decodeText
  else return .error .nulInPath

end Host

end Criteria
