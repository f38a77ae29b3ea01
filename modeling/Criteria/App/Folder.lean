import Criteria.App.Environment
import Criteria.App.Host

/-!
# A folder in memory

A host that is no more than a folder, which is the working directory of the run, with a standard input
and an environment. Around the folder stands a small system: the directories that every system
has, a few of their files, and the paths that lead back to the folder and to the standard input.

The program itself is written for any `Host`, and nothing else in the library looks at this one: it
serves to run the program in memory. What stands in the files of the system is made up, and only
tells a text from what is none and a file from a directory.
-/

namespace Criteria

/-- Files by path below the working directory, the standard input, and the environment. -/
structure Folder where
  files : List (String × String)
  input : String
  environment : Environment

namespace Folder

/-! ### Places -/

/-- Where the names of a path lead. -/
inductive Place where
  /-- Below the working directory. -/
  | inside (names : List String)
  /-- Below the root of the system. -/
  | system (names : List String)

namespace Place

/-- The place that another one is a link to, or else the place itself. -/
def resolve : Place → Place
  | .system ["bin"] => .system ["usr", "bin"]
  | .system ["lib"] => .system ["usr", "lib"]
  | .system ["sbin"] => .system ["usr", "sbin"]
  | .system ["dev", "fd"] => .system ["proc", "self", "fd"]
  | .system ["dev", "stdin"] => .system ["proc", "self", "fd", "0"]
  | .system ["proc", "self", "cwd"] => .inside []
  | .system ["proc", "self", "root"] => .system []
  | place => place

/-- Go up. The working directory stands among the temporary files, and the root is above itself. -/
def parent : Place → Place
  | .inside [] => .system ["tmp"]
  | .inside names => .inside names.dropLast
  | .system names => .system names.dropLast

/-- Go down to a name. -/
def child (name : String) : Place → Place
  | .inside names => .inside (names ++ [name])
  | .system names => (Place.system (names ++ [name])).resolve

/-- Go on by one name of a path. -/
def enter (name : String) (place : Place) : Place :=
  if name = "" ∨ name = "." then place
  else if name = ".." then place.parent
  else place.child name

end Place

/-! ### What stands where -/

/-- What a path leads to. -/
inductive Entry where
  | file (text : String)
  | directory
  /-- The standard input. -/
  | input
  /-- Something that is there, and cannot be read as a text. -/
  | closed (fault : ReadFault)

/-- The directories of the system. -/
def systemDirectories : List (List String) := [
  [], ["boot"], ["dev"], ["dev", "pts"], ["dev", "shm"], ["etc"], ["home"], ["media"], ["mnt"],
  ["opt"], ["proc"], ["proc", "self"], ["proc", "self", "fd"], ["root"], ["run"], ["srv"], ["sys"],
  ["tmp"], ["usr"], ["usr", "bin"], ["usr", "lib"], ["usr", "local"], ["usr", "sbin"],
  ["usr", "share"], ["var"], ["var", "lib"], ["var", "log"], ["var", "tmp"]]

/-- What stands below the root of the system. -/
def system : List String → Except ReadFault Entry
  | ["dev", "null"] => .ok (.file "")
  | ["proc", "self", "fd", "0"] => .ok .input
  | ["dev", "tty"] => .ok (.closed (.other "No such device or address (os error 6)"))
  | ["proc", "self", "mem"] => .ok (.closed (.other "Input/output error (os error 5)"))
  | ["proc", "self", "exe"] | ["usr", "bin", "env"] | ["usr", "bin", "sh"] =>
    .ok (.closed .notText)
  | ["etc", "group"] => .ok (.file "root:x:0:\n")
  | ["etc", "hostname"] => .ok (.file "localhost\n")
  | ["etc", "hosts"] => .ok (.file "127.0.0.1 localhost\n")
  | ["etc", "passwd"] => .ok (.file "root:x:0:0:root:/root:/bin/sh\n")
  | ["proc", "self", "cmdline"] => .ok (.file "filterc\x00")
  | ["proc", "self", "environ"] => .ok (.file "PATH=/usr/bin\x00")
  | ["proc", "self", "status"] => .ok (.file "Name: filterc\n")
  | ["proc", "version"] => .ok (.file "Linux version 6\n")
  | names => if systemDirectories.contains names then .ok .directory else .error .missing

/-- The names on a path. -/
def namesOf (path : String) : List String :=
  path.splitOn "/"

/-- What stands below the working directory. -/
def inside (folder : Folder) (names : List String) : Except ReadFault Entry :=
  match folder.files.find? fun file => namesOf file.1 == names with
  | some (_, text) => .ok (.file text)
  | none =>
    if names.isEmpty || folder.files.any fun file => names.isPrefixOf (namesOf file.1) then
      .ok .directory
    else .error .missing

/-- What stands at a place. -/
def entry (folder : Folder) : Place → Except ReadFault Entry
  | .inside names => folder.inside names
  | .system names => system names

/-! ### Paths -/

/-- How many bytes a name may have. -/
def maxName : Nat := 255

/-- How many bytes a path may have. -/
def maxPath : Nat := 4095

/-- Follow names from a place. Only a directory can be gone on from. -/
def follow (folder : Folder) (place : Place) : List String → Except ReadFault Entry
  | [] => folder.entry place
  | name :: rest =>
    match folder.entry place with
    | .ok .directory =>
      if maxName < name.utf8ByteSize then .error .tooLong
      else follow folder (place.enter name) rest
    | .ok _ => .error .notDirectory
    | .error fault => .error fault

/-- What a path leads to. -/
def target (folder : Folder) (path : String) : Except ReadFault Entry :=
  if maxPath < path.utf8ByteSize then .error .tooLong
  else if path.isEmpty then .error .missing
  else folder.follow (if path.startsWith "/" then .system [] else .inside []) (namesOf path)

/-! ### The host -/

/-- What a run does to a folder: it uses up the standard input, of which the bytes that are left are
kept. -/
abbrev Session : Type → Type := StateM ByteArray

/-- The host that a folder is. -/
def host (folder : Folder) : Host Session where
  isPresent path := return (folder.target path).isOk
  readFile path :=
    match folder.target path with
    | .ok (.file text) => return .ok text.toUTF8
    | .ok .input => modifyGet fun left => (.ok left, .empty)
    | .ok .directory => return .error .directory
    | .ok (.closed fault) | .error fault => return .error fault
  readInput limit :=
    modifyGet fun left => (.ok (left.extract 0 limit), left.extract limit left.size)
  envValue name := return folder.environment.value? name

/-- What comes out of a session that starts with the whole of the standard input. -/
def perform {α : Type} (folder : Folder) (session : Session α) : α :=
  (session.run folder.input.toUTF8).1

end Folder

end Criteria
