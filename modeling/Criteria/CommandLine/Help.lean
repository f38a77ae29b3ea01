import Criteria.CommandLine.Args

/-!
# Help

The texts for people who ask for help, and the short ones for people who should.
-/

namespace Criteria.CommandLine

/-- How a setting is written, its value included. -/
def Setting.usage (s : Setting) : String :=
  let short := match s.letter? with
    | some c => String.ofList ['-', c, ',', ' ']
    | none => "    "
  let value := match s with
    | .config => " <CONFIG>"
    | .body => " <BODY>"
    | .bodyFile => " <BODY_FILE>"
    | .param => " <PARAM>"
    | _ => ""
  short ++ "--" ++ s.long ++ value

/-- What a setting is for. -/
def Setting.purpose : Setting → String
  | .config => "Path to filter configuration file [env: FILTERC_CONFIG=]"
  | .body => "Filter body as JSON (reads stdin when no body source is given)"
  | .bodyFile => "Read the filter body from a JSON file"
  | .param => "Request parameter in bracket notation (repeatable)"
  | .any => "Join top-level filters with OR instead of the configured default"
  | .pretty => "Pretty-print the JSON output"
  | .help => "Print help"
  | .version => "Print version"

namespace Level

/-- What a level is for. -/
def purpose : Level → String
  | .program => "Compile filter bodies into parameterized SQL predicates"
  | .compile => "Compile a filter body and print the predicate with its bind values"
  | .filters => "List configured filters"

/-- How a level is called. -/
def usage : Level → String
  | .program => "Usage: filterc [OPTIONS] <COMMAND>\n"
  | .compile => "Usage: filterc compile [OPTIONS]\n"
  | .filters => "Usage: filterc filters [OPTIONS]\n"

/-- Two columns, the first as wide as its longest text. -/
def columns (rows : List (String × String)) : String :=
  let width := rows.foldl (fun width row => max width row.1.length) 0
  String.join (rows.map fun (left, right) =>
    "  " ++ left ++ String.ofList (List.replicate (width - left.length) ' ') ++ "  " ++ right ++ "\n")

/-- The list of commands. -/
def commands : Level → String
  | .program =>
    "\nCommands:\n" ++ columns
      [("compile", purpose .compile), ("filters", purpose .filters),
        ("help", "Print this message or the help of the given subcommand(s)")]
  | _ => ""

/-- The help of a level. -/
def help (level : Level) : String :=
  level.purpose ++ "\n\n" ++ level.usage ++ level.commands ++ "\nOptions:\n" ++
    columns (level.settings.map fun s => (s.usage, s.purpose))

end Level

/-- The wording of a refusal. -/
def UsageError.message : UsageError → String
  | .emptyValue s => "error: a value is required for '--" ++ s.long ++ "' but none was supplied"
  | .malformedParam text =>
    "error: invalid value '" ++ text ++ "' for '--param': Invalid parameter '" ++ text ++
      "'. Expected key=value, e.g. author[only][]=User/1"
  | .repeated s => "error: the argument '--" ++ s.long ++ "' cannot be used multiple times"
  | .conflict a b =>
    "error: the argument '--" ++ a.long ++ "' cannot be used with '--" ++ b.long ++ "'"
  | .unknownArgument arg => "error: unexpected argument '" ++ arg ++ "' found"
  | .unexpectedValue s => "error: unexpected value for '--" ++ s.long ++ "' found"
  | .unknownCommand arg => "error: unrecognized subcommand '" ++ arg ++ "'"
  | .missingCommand => "error: 'filterc' requires a subcommand but one was not provided"
  | .nothingGiven => Level.help .program
  | .helpWanted level => level.help
  | .versionWanted => ""

end Criteria.CommandLine
