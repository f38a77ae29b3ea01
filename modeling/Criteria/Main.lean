import Criteria.App.Run

/-!
# The program

The operating system as a host, and the entry point.
-/

namespace Criteria.Main

/-- The number of a fault. Some calls report it negated. -/
def faultNumber (code : UInt32) : Nat :=
  min code.toNat (0 - code).toNat

/-- A fault by the number that the system gives it. -/
def faultOfCode (code : UInt32) (details : String) : ReadFault :=
  match faultNumber code with
  | 2 => .missing
  | 13 => .other "Permission denied (os error 13)"
  | 20 => .notDirectory
  | 21 => .directory
  | 36 => .tooLong
  | n => .other (details ++ " (os error " ++ Decimal.ofNat n ++ ")")

/-- Why a reading failed. -/
def faultOf : IO.Error → ReadFault
  | .noFileOrDirectory _ code details | .inappropriateType _ code details
  | .permissionDenied _ code details | .noSuchThing _ code details
  | .invalidArgument _ code details | .resourceExhausted _ code details
  | .otherError code details => faultOfCode code details
  | e => .other (toString e)

/-- Whether a fault says that nothing can be there. -/
def isAbsence : ReadFault → Bool
  | .missing | .notDirectory | .tooLong => true
  | _ => false

/-- At most so many bytes of a stream, in pieces; `fuel` bounds their number. -/
def readUpTo (stream : IO.FS.Stream) (limit : Nat) : Nat → ByteArray → IO ByteArray
  | 0, seen => return seen
  | fuel + 1, seen => do
    if limit ≤ seen.size then return seen
    let piece ← stream.read (limit - seen.size).toUSize
    if piece.isEmpty then return seen
    readUpTo stream limit fuel (seen ++ piece)

/-- The operating system. -/
def system : Host IO where
  isPresent path := do
    match ← (IO.FS.Handle.mk path .read).toBaseIO with
    | .ok _ => return true
    | .error e => return !isAbsence (faultOf e)
  readFile path := do
    match ← (IO.FS.readBinFile path).toBaseIO with
    | .ok bytes => return .ok bytes
    | .error e => return .error (faultOf e)
  readInput limit := do
    let stdin ← IO.getStdin
    match ← (readUpTo stdin limit (limit + 1) .empty).toBaseIO with
    | .ok bytes => return .ok bytes
    | .error e => return .error (faultOf e)
  envValue name := if isPath name then IO.getEnv name else return none

/-- An event as a line. -/
def line (event : Event) : String :=
  let fields := event.fields.map fun (key, value) => " " ++ key ++ "=" ++ value.compact
  " " ++ event.level.name ++ " " ++ event.message ++ String.join fields ++ "\n"

end Criteria.Main

/-- Run the program with its arguments. -/
def main (args : List String) : IO UInt32 := do
  let finished ← Criteria.run Criteria.Main.system args
  let stderr ← IO.getStderr
  for event in finished.events do
    if event.level = .warn then stderr.putStr (Criteria.Main.line event)
  let stdout ← IO.getStdout
  stdout.putStr finished.ending.output
  stderr.putStr finished.ending.complaint
  return finished.ending.code.toUInt32
