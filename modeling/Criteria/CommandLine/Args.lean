/-!
# Arguments

The command line has a program level and one level for each command, each with settings of its own.
A setting is written in a long form or, some of them, in a short one; its value stands behind an
equals sign, behind the letter, or in the next argument. A value that stands apart is looked at when
the next setting is met or the level ends.
-/

namespace Criteria.CommandLine

/-- What may be set on the command line. -/
inductive Setting where
  | config
  | body
  | bodyFile
  | param
  | any
  | pretty
  | help
  | version
deriving DecidableEq

namespace Setting

/-- The long form. -/
def long : Setting → String
  | .config => "config"
  | .body => "body"
  | .bodyFile => "body-file"
  | .param => "param"
  | .any => "any"
  | .pretty => "pretty"
  | .help => "help"
  | .version => "version"

/-- The letter of the short form. -/
def letter? : Setting → Option Char
  | .config => some 'c'
  | .param => some 'P'
  | .help => some 'h'
  | .version => some 'V'
  | _ => none

/-- Whether a value belongs to the setting. -/
def takesValue : Setting → Bool
  | .config | .body | .bodyFile | .param => true
  | _ => false

end Setting

/-- The commands of the program. -/
inductive CommandName where
  | compile
  | filters
  | help
deriving DecidableEq

namespace CommandName

/-- How a command is written. -/
def text : CommandName → String
  | .compile => "compile"
  | .filters => "filters"
  | .help => "help"

/-- The command that an argument is. -/
def ofText? (text : String) : Option CommandName :=
  [compile, filters, help].find? fun name => name.text == text

end CommandName

/-- Where arguments are looked up. -/
inductive Level where
  | program
  | compile
  | filters
deriving DecidableEq

namespace Level

/-- The settings of a level. -/
def settings : Level → List Setting
  | .program => [.config, .help, .version]
  | .compile => [.config, .body, .bodyFile, .param, .any, .pretty, .help]
  | .filters => [.config, .help]

/-- The command that an argument starts at a level; only the program has commands. -/
def command? (level : Level) (arg : String) : Option CommandName :=
  if level = .program then CommandName.ofText? arg else none

/-- The setting of a long form. -/
def long? (level : Level) (name : String) : Option Setting :=
  level.settings.find? fun s => s.long == name

/-- The setting of a letter. -/
def letter? (level : Level) (c : Char) : Option Setting :=
  level.settings.find? fun s => s.letter? == some c

end Level

/-- Why a command line is not run. -/
inductive UsageError where
  /-- A value is missing, or empty where it may not be. -/
  | emptyValue (setting : Setting)
  /-- A request parameter is no pair. -/
  | malformedParam (text : String)
  /-- A setting is given twice. -/
  | repeated (setting : Setting)
  /-- Two settings exclude each other. -/
  | conflict (first second : Setting)
  /-- An argument means nothing here. -/
  | unknownArgument (arg : String)
  /-- A setting without a value has one. -/
  | unexpectedValue (setting : Setting)
  /-- A command of that name does not exist. -/
  | unknownCommand (arg : String)
  /-- No command is given. -/
  | missingCommand
  /-- Nothing is given at all. -/
  | nothingGiven
  /-- Help is asked for. -/
  | helpWanted (level : Level)
  /-- The version is asked for. -/
  | versionWanted

/-! ### What has been given -/

/-- The settings given at one level. -/
structure Given where
  config : Option String
  body : Option String
  bodyFile : Option String
  params : List (String × String)
  any : Bool
  pretty : Bool

namespace Given

/-- Before any argument. -/
def nothing : Given :=
  ⟨none, none, none, [], false, false⟩

/-- A request parameter: a key that is not empty, an equals sign, and a value. -/
def readParam (text : String) : Except UsageError (String × String) :=
  let cs := text.toList
  match cs.takeWhile (· != '='), cs.dropWhile (· != '=') with
  | k :: ks, _ :: value => .ok (String.ofList (k :: ks), String.ofList value)
  | _, _ => .error (.malformedParam text)

/-- A path that is not empty. -/
def readPath (setting : Setting) (text : String) : Except UsageError String :=
  if text.isEmpty then .error (.emptyValue setting) else .ok text

/-- Take in a setting with its value. All but request parameters are given at most once. -/
def setValue (given : Given) (setting : Setting) (value : String) : Except UsageError Given :=
  match setting with
  | .config =>
    if given.config.isSome then .error (.repeated .config)
    else do return { given with config := some (← readPath .config value) }
  | .body =>
    if given.body.isSome then .error (.repeated .body)
    else .ok { given with body := some value }
  | .bodyFile =>
    if given.bodyFile.isSome then .error (.repeated .bodyFile)
    else do return { given with bodyFile := some (← readPath .bodyFile value) }
  | .param => do return { given with params := given.params ++ [← readParam value] }
  | setting => .error (.unexpectedValue setting)

/-- Take in a setting without a value. -/
def raise (given : Given) (level : Level) (setting : Setting) : Except UsageError Given :=
  match setting with
  | .any => if given.any then .error (.repeated .any) else .ok { given with any := true }
  | .pretty => if given.pretty then .error (.repeated .pretty) else .ok { given with pretty := true }
  | .help => .error (.helpWanted level)
  | .version => .error .versionWanted
  | setting => .error (.emptyValue setting)

/-- Whether nothing at all is given. -/
def isNothing (given : Given) : Bool :=
  given.config.isNone && given.body.isNone && given.bodyFile.isNone && given.params.isEmpty &&
    !given.any && !given.pretty

/-- The sources of a body exclude each other. -/
def checkSources (given : Given) : Except UsageError Unit :=
  if given.body.isSome && given.bodyFile.isSome then .error (.conflict .body .bodyFile)
  else if given.body.isSome && !given.params.isEmpty then .error (.conflict .body .param)
  else if given.bodyFile.isSome && !given.params.isEmpty then .error (.conflict .bodyFile .param)
  else .ok ()

end Given

/-! ### One argument -/

/-- How far a level has been read. -/
structure Progress where
  given : Given
  /-- The setting met last whose value stands apart, and the value if it has come. -/
  pending : Option (Setting × Option String)
  /-- Whether a bare `--` has ended the settings. -/
  ended : Bool

namespace Progress

/-- At the start of a level. -/
def start : Progress :=
  ⟨.nothing, none, false⟩

/-- Look at the value that stands apart, if one is expected. -/
def settle (p : Progress) : Except UsageError Progress :=
  match p.pending with
  | none => .ok p
  | some (setting, none) => .error (.emptyValue setting)
  | some (setting, some value) => do
    return { p with given := ← p.given.setValue setting value, pending := none }

/-- The setting that waits for its value. -/
def awaiting? (p : Progress) : Option Setting :=
  match p.pending with
  | some (setting, none) => some setting
  | _ => none

/-- A setting that takes a value, with what is attached to it. -/
def openSetting (p : Progress) (setting : Setting) (attached : Option String) :
    Except UsageError Progress := do
  let p ← p.settle
  match attached with
  | some value => return { p with given := ← p.given.setValue setting value }
  | none => return { p with pending := some (setting, none) }

/-- A setting without a value. -/
def raise (p : Progress) (level : Level) (setting : Setting) : Except UsageError Progress := do
  let p ← p.settle
  return { p with given := ← p.given.raise level setting }

/-- An argument in long form: a name, and what stands behind the equals sign. -/
def readLong (p : Progress) (level : Level) (name : String) (attached : Option String) :
    Except UsageError Progress :=
  match level.long? name with
  | none => .error (.unknownArgument ("--" ++ name))
  | some setting =>
    if setting.takesValue then p.openSetting setting attached
    else if attached.isSome then .error (.unexpectedValue setting)
    else p.raise level setting

/-- The value attached to a letter; an equals sign in front of it does not count. -/
def attachedTo : List Char → Option String
  | [] => none
  | '=' :: cs => some (String.ofList cs)
  | cs => some (String.ofList cs)

/-- Letters behind one dash; the first that takes a value takes the rest. -/
def readLetters (p : Progress) (level : Level) : List Char → Except UsageError Progress
  | [] => .ok p
  | c :: cs =>
    match level.letter? c with
    | none => .error (.unknownArgument (String.ofList ['-', c]))
    | some setting =>
      if setting.takesValue then p.openSetting setting (attachedTo cs)
      else
        match p.raise level setting with
        | .ok p => readLetters p level cs
        | .error e => .error e

/-- An argument that is no setting: a value that is waited for, or one too many. -/
def readOther (p : Progress) (level : Level) (arg : String) : Except UsageError Progress :=
  match p.ended, p.awaiting? with
  | false, some setting => .ok { p with pending := some (setting, some arg) }
  | _, _ =>
    if level = .program ∧ ¬ (p.ended ∧ (level.command? arg).isSome) then
      .error (.unknownCommand arg)
    else .error (.unknownArgument arg)

/-- Take in an argument that starts no command. -/
def read (p : Progress) (level : Level) (arg : String) : Except UsageError Progress :=
  if p.ended then p.readOther level arg
  else
    match arg.toList with
    | ['-', '-'] => .ok { p with ended := true }
    | '-' :: '-' :: cs =>
      p.readLong level (String.ofList (cs.takeWhile (· != '=')))
        ((cs.dropWhile (· != '=')).tail?.map String.ofList)
    | '-' :: c :: cs => p.readLetters level (c :: cs)
    | _ => p.readOther level arg

end Progress

end Criteria.CommandLine
