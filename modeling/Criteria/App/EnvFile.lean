import Criteria.App.Environment
import Criteria.Assoc
import Criteria.Text.Alphanumeric
import Criteria.Text.Blank

/-!
# Environment files

A file of assignments `NAME=value` that add to the environment. A value may be quoted, may go on
over several lines inside quotes, and may refer to other variables. The first line that is no
assignment ends the file. The assignments are read first, without the environment; then they are
carried out in order, and a variable that is already set stays.
-/

namespace Criteria.EnvFile

/-! ### Lines -/

/-- What a logical line is in the middle of. -/
inductive Quoting where
  | plain
  | escape
  | strong
  | strongEscape
  | weak
  | weakEscape
  /-- Behind white space, where a comment may start. -/
  | gap

/-- Take in one character of a line. -/
def Quoting.step (q : Quoting) (c : Char) : Quoting :=
  let opening : Quoting :=
    if c = '\\' then .escape
    else if c = '"' then .weak
    else if c = '\'' then .strong
    else .plain
  match q with
  | .plain => if Text.isBlank c && c != '\n' && c != '\r' then .gap else opening
  | .gap => opening
  | .escape => .plain
  | .weak => if c = '\\' then .weakEscape else if c = '"' then .plain else .weak
  | .weakEscape => .weak
  | .strong => if c = '\\' then .strongEscape else if c = '\'' then .plain else .strong
  | .strongEscape => .strong

/-- Drop a line end. -/
def withoutLineEnd (reversed : List Char) : List Char :=
  match reversed with
  | '\n' :: '\r' :: cs => cs.reverse
  | '\n' :: cs => cs.reverse
  | cs => cs.reverse

/-- The logical lines of a text; the last of them is missing where the text ends inside a quote.
`skipping` is set inside a comment, `seen` holds the line so far and `found` the lines before it, both
in reverse. -/
def lines (q : Quoting) (skipping : Bool) (seen : List Char) (found : List (Option (List Char))) :
    List Char → List (Option (List Char))
  | [] =>
    if skipping || seen.isEmpty then found.reverse
    else match q with
      | .plain => (some (withoutLineEnd seen) :: found).reverse
      | _ => (none :: found).reverse
  | c :: cs =>
    if skipping then
      if c = '\n' then lines .plain false [] found cs else lines q true seen found cs
    else if c = '#' && seen.all Text.isBlank then lines .plain true [] (some [] :: found) cs
    else
      match q, c with
      | .gap, '#' => lines .plain true [] (some seen.reverse :: found) cs
      | q, c =>
        let q := q.step c
        match q, c with
        | .plain, '\n' => lines .plain false [] (some (withoutLineEnd (c :: seen)) :: found) cs
        | q, c => lines q false (c :: seen) found cs

/-! ### Values -/

/-- A part of a value: a character, or whatever a variable holds. -/
inductive Part where
  | char (c : Char)
  | reference (name : String)

/-- What a reference to a variable is in the middle of. -/
inductive Referring where
  | none
  | bare
  | braced
deriving DecidableEq

/-- A value that is being read; the name of a variable and the parts are kept in reverse. -/
structure Value where
  strong : Bool
  weak : Bool
  escaped : Bool
  /-- Only blanks or a comment may follow. -/
  ended : Bool
  referring : Referring
  name : List Char
  parts : List Part

namespace Value

/-- Before the first character. -/
def start : Value :=
  ⟨false, false, false, false, .none, [], []⟩

/-- Put a reference to the variable whose name has been read. -/
def refer (v : Value) : Value :=
  { v with parts := .reference (String.ofList v.name.reverse) :: v.parts, name := [] }

/-- Put one character. -/
def put (v : Value) (c : Char) : Value :=
  { v with parts := .char c :: v.parts }

/-- Take in a character of a reference. A name goes on with letters and digits of any script; between
braces it goes on with anything. -/
def stepReference (v : Value) (c : Char) : Value :=
  if Text.isAlphanumeric c then { v with name := c :: v.name }
  else match v.referring with
    | .braced =>
      if c = '}' then refer { v with referring := .none } else { v with name := c :: v.name }
    | _ =>
      if c = '{' && v.name.isEmpty then { v with referring := .braced }
      else if c = '$' then { v.refer with referring := .bare }
      else ({ v.refer with referring := .none } : Value).put c

/-- Take in a character outside quotes and references. -/
def stepPlain (v : Value) (c : Char) : Value :=
  if c = '\'' then { v with strong := true }
  else if c = '"' then { v with weak := true }
  else if c = '\\' then { v with escaped := true }
  else if c = ' ' || c = '\t' then { v with ended := true }
  else v.put c

/-- The character that stands for an escaped one. -/
def unescape? (c : Char) : Option Char :=
  if c = '\\' || c = '\'' || c = '"' || c = '$' || c = ' ' then some c
  else if c = 'n' then some '\n'
  else Option.none

/-- Take in the characters of a value. -/
def read (v : Value) : List Char → Option Value
  | [] => some v
  | c :: cs =>
    if v.ended then
      if c = ' ' || c = '\t' then read v cs
      else if c = '#' then some v
      else Option.none
    else if v.escaped then
      match unescape? c with
      | some d => read ({ v with escaped := false }.put d) cs
      | Option.none => Option.none
    else if v.strong then read (if c = '\'' then { v with strong := false } else v.put c) cs
    else if v.referring ≠ .none then read (v.stepReference c) cs
    else if c = '$' then read { v with referring := .bare } cs
    else if v.weak then
      read
        (if c = '"' then { v with weak := false }
        else if c = '\\' then { v with escaped := true }
        else v.put c) cs
    else read (v.stepPlain c) cs

/-- The parts of a value in order, where nothing is left open. -/
def finish (v : Value) : Option (List Part) :=
  if v.referring = .braced || v.strong || v.weak then Option.none else some v.refer.parts.reverse

end Value

/-! ### Assignments -/

/-- A variable, and what it is to hold. -/
structure Assignment where
  name : String
  value : List Part

/-- A name at the start of a text, and the rest of the text. -/
def readName (cs : List Char) : Option (List Char × List Char) :=
  match cs with
  | c :: _ =>
    if c.isAlpha || c = '_' then
      let isNameChar (c : Char) : Bool := c.isAlphanum || c = '_' || c = '.'
      some (cs.takeWhile isNameChar, Text.trimStart (cs.dropWhile isNameChar))
    else none
  | [] => none

/-- The text behind an equals sign. -/
def behindEquals : List Char → Option (List Char)
  | '=' :: cs => some (Text.trimStart cs)
  | _ => none

/-- Read one line: an assignment, or nothing but blanks and a comment. A leading word `export` does
not count, unless it is itself assigned to. -/
def readLine (line : List Char) : Option (Option Assignment) := do
  let cs := Text.trim line
  if cs.isEmpty || cs.head? = some '#' then return none
  let (name, rest) ← readName cs
  let (name, rest) ←
    match behindEquals rest with
    | some rest => some (name, rest)
    | none =>
      if name = "export".toList then do
        let (name, rest) ← readName rest
        let rest ← behindEquals rest
        pure (name, rest)
      else none
  if rest.isEmpty || rest.head? = some '#' then return some ⟨String.ofList name, []⟩
  let v ← Value.start.read rest
  let value ← v.finish
  return some ⟨String.ofList name, value⟩

/-- The assignments of a file, up to the first line that is none. A mark of byte order in front does
not count. -/
def assignments (text : String) : List Assignment :=
  let cs := match text.toList with
    | '\ufeff' :: cs => cs
    | cs => cs
  (((lines .plain false [] [] cs).map fun line => line.bind readLine).takeWhile
    Option.isSome).filterMap Option.join

/-- The variable that a part refers to. -/
def Part.name? : Part → Option String
  | .char _ => none
  | .reference name => some name

/-- The variables that an assignment depends on. -/
def Assignment.names (a : Assignment) : List String :=
  a.name :: a.value.filterMap Part.name?

/-! ### Carrying out -/

/-- What variables hold: in the environment, and by the assignments of the file, also where the
environment does not take them over. -/
structure Variables where
  environment : Environment
  assigned : Assoc String

namespace Variables

/-- What a variable holds. -/
def value (vars : Variables) (name : String) : String :=
  ((vars.environment.value? name).orElse fun _ => Assoc.find? name vars.assigned).getD ""

/-- The text of a part. -/
def expand (vars : Variables) : Part → List Char
  | .char c => [c]
  | .reference name => (vars.value name).toList

/-- Carry out an assignment, if the environment can hold what it says. -/
def assign (vars : Variables) (a : Assignment) : Option Variables :=
  let value := String.ofList (a.value.flatMap vars.expand)
  let assigned := Assoc.insert a.name value vars.assigned
  if (vars.environment.value? a.name).isSome then some { vars with assigned }
  else (vars.environment.add? a.name value).map (⟨·, assigned⟩)

/-- Carry out assignments in order, as long as the environment can hold them. -/
def assignAll (vars : Variables) : List Assignment → Option Variables
  | [] => some vars
  | a :: rest =>
    match vars.assign a with
    | some vars => assignAll vars rest
    | none => none

end Variables

/-- The environment after assignments, or nothing where it cannot hold one of them. -/
def load (list : List Assignment) (environment : Environment) : Option Environment :=
  ((⟨environment, []⟩ : Variables).assignAll list).map (·.environment)

end Criteria.EnvFile
