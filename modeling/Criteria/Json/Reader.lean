import Criteria.Json.Basic

/-!
# Reading JSON

A text is cut into tokens by a machine that takes one character at a time, and the tokens are put
together by a machine that takes one token at a time and keeps the containers still open. Both run
over their input once, so every text has an answer. Containers nest at most `maxDepth` deep.
-/

namespace Criteria

/-! ### Numbers -/

namespace Number

/-- What a literal adds up to before it is scaled: the digits that 64 bits hold, and a power of
ten. -/
structure Reading where
  significand : Nat
  power : Int

/-- The least number that 64 bits without a sign do not hold. -/
def unsignedBound : Nat := 18446744073709551616

/-- Whether 64 bits without a sign hold a number. -/
def fitsUnsigned (n : Nat) : Bool :=
  n < unsignedBound

/-- Take in whole digits: once 64 bits are full, each further digit counts as a power of ten. -/
def readWhole (significand : Nat) : List Char → Reading
  | [] => ⟨significand, 0⟩
  | c :: cs =>
    let next := 10 * significand + Decimal.digitValue c
    if fitsUnsigned next then readWhole next cs
    else ⟨significand, (cs.length : Int) + 1⟩

/-- Take in digits of the fraction: once 64 bits are full, the rest is dropped. -/
def readFraction (r : Reading) : List Char → Reading
  | [] => r
  | c :: cs =>
    let next := 10 * r.significand + Decimal.digitValue c
    if fitsUnsigned next then readFraction ⟨next, r.power - 1⟩ cs else r

/-- The number that a sign, whole digits, a fraction and an exponent stand for, or nothing where
it is beyond the doubles. -/
def ofParts? (negative : Bool) (whole : List Char) (fraction : Option (List Char))
    (exponent : Option Int) : Option Number :=
  let value := Decimal.valueUpTo unsignedBound whole
  if fraction.isNone && exponent.isNone && !negative && fitsUnsigned value then
    some (.integer value)
  else if fraction.isNone && exponent.isNone && negative && value != 0 &&
      value ≤ 9223372036854775808 then
    some (.integer (-(value : Int)))
  else do
    let r := readFraction (readWhole 0 whole) (fraction.getD [])
    let magnitude ← (← Double.ofNat? r.significand).scaleByTen? (r.power + exponent.getD 0)
    pure (.double (magnitude.withSign negative))

/-- The part of a number behind the fraction: nothing, or an exponent with digits. One beyond the
bound is beyond the length of any text, so the bound will do in its place. -/
def readExponent? : List Char → Option (Option Int)
  | [] => some none
  | mark :: cs =>
    if mark == 'e' || mark == 'E' then (Decimal.intUpTo? unsignedBound cs).map some else none

/-- A number literal: no leading zeros, and digits around a point. -/
def ofLiteral? (cs : List Char) : Option Number :=
  let (negative, cs) := match cs with
    | '-' :: rest => (true, rest)
    | cs => (false, cs)
  let whole := cs.takeWhile Decimal.isDigit
  if whole.isEmpty || (whole.length != 1 && whole.head? == some '0') then none
  else match cs.dropWhile Decimal.isDigit with
    | '.' :: rest =>
      let fraction := rest.takeWhile Decimal.isDigit
      if fraction.isEmpty then none
      else (readExponent? (rest.dropWhile Decimal.isDigit)).bind
        (ofParts? negative whole (some fraction))
    | rest => (readExponent? rest).bind (ofParts? negative whole none)

end Number

namespace Json

/-! ### Tokens -/

/-- The lexemes of JSON. -/
inductive Token where
  | openArray
  | closeArray
  | openObject
  | closeObject
  | comma
  | colon
  | scalar (value : Json)

/-- What the scanner is in the middle of; texts are kept in reverse. -/
inductive Mode where
  | between
  | word (seen : List Char)
  | number (seen : List Char)
  | text (seen : List Char)
  | escape (seen : List Char)
  /-- Inside `\u`, with digits still to come; `high` is a surrogate that waits for its other
  half. -/
  | hex (seen : List Char) (high : Option Nat) (left value : Nat)
  /-- Behind a high surrogate, before the backslash of its other half. -/
  | paired (seen : List Char) (high : Nat)
  /-- Behind that backslash. -/
  | pairedMark (seen : List Char) (high : Nat)

/-- The value of a hexadecimal digit. -/
def hexValue? (c : Char) : Option Nat :=
  if Decimal.isDigit c then some (Decimal.digitValue c)
  else if 'a' ≤ c && c ≤ 'f' then some (c.toNat - 'a'.toNat + 10)
  else if 'A' ≤ c && c ≤ 'F' then some (c.toNat - 'A'.toNat + 10)
  else none

/-- The character that a one-letter escape stands for. -/
def unescape? : Char → Option Char
  | '"' => some '"'
  | '\\' => some '\\'
  | '/' => some '/'
  | 'b' => some '\x08'
  | 'f' => some '\x0c'
  | 'n' => some '\n'
  | 'r' => some '\r'
  | 't' => some '\t'
  | _ => none

/-- The constant that a word stands for. -/
def constant? (word : String) : Option Token :=
  match word with
  | "null" => some (.scalar .null)
  | "true" => some (.scalar (.bool true))
  | "false" => some (.scalar (.bool false))
  | _ => none

/-- Start a token, or stay between tokens. -/
def startToken (c : Char) : Option (Mode × List Token) :=
  match c with
  | ' ' | '\t' | '\n' | '\r' => some (.between, [])
  | '[' => some (.between, [.openArray])
  | ']' => some (.between, [.closeArray])
  | '{' => some (.between, [.openObject])
  | '}' => some (.between, [.closeObject])
  | ',' => some (.between, [.comma])
  | ':' => some (.between, [.colon])
  | '"' => some (.text [], [])
  | c =>
    if c == '-' || Decimal.isDigit c then some (.number [c], [])
    else if c.isAlpha then some (.word [c], [])
    else none

/-- Whether a number literal may go on with `c`. -/
def continuesNumber (c : Char) : Bool :=
  Decimal.isDigit c || c == '.' || c == 'e' || c == 'E' || c == '+' || c == '-'

/-- The token of a finished number. -/
def numberToken? (seen : List Char) : Option Token :=
  (Number.ofLiteral? seen.reverse).map fun n => .scalar (.number n)

/-- The token of a finished word. -/
def wordToken? (seen : List Char) : Option Token :=
  constant? (String.ofList seen.reverse)

/-- What follows the last digit of `\u`: a character, or the wait for the other half of a pair. -/
def finishHex (seen : List Char) (high : Option Nat) (value : Nat) : Option Mode :=
  match high with
  | some h =>
    if 0xDC00 ≤ value && value ≤ 0xDFFF then
      some (.text (Char.ofNat (0x10000 + (h - 0xD800) * 0x400 + (value - 0xDC00)) :: seen))
    else none
  | none =>
    if 0xD800 ≤ value && value ≤ 0xDBFF then some (.paired seen value)
    else if 0xDC00 ≤ value && value ≤ 0xDFFF then none
    else some (.text (Char.ofNat value :: seen))

/-- Take in one character; the tokens that it completes come out in order. -/
def Mode.step (mode : Mode) (c : Char) : Option (Mode × List Token) :=
  match mode with
  | .between => startToken c
  | .word seen =>
    if c.isAlpha then some (.word (c :: seen), [])
    else do
      let done ← wordToken? seen
      let (mode, tokens) ← startToken c
      pure (mode, done :: tokens)
  | .number seen =>
    if continuesNumber c then some (.number (c :: seen), [])
    else do
      let done ← numberToken? seen
      let (mode, tokens) ← startToken c
      pure (mode, done :: tokens)
  | .text seen =>
    if c == '"' then some (.between, [.scalar (.string (String.ofList seen.reverse))])
    else if c == '\\' then some (.escape seen, [])
    else if c.toNat < 0x20 then none
    else some (.text (c :: seen), [])
  | .escape seen =>
    if c == 'u' then some (.hex seen none 4 0, [])
    else (unescape? c).map fun d => (.text (d :: seen), [])
  | .hex seen high left value => do
    let value := 16 * value + (← hexValue? c)
    if left ≤ 1 then pure (← finishHex seen high value, [])
    else pure (.hex seen high (left - 1) value, [])
  | .paired seen high => if c == '\\' then some (.pairedMark seen high, []) else none
  | .pairedMark seen high => if c == 'u' then some (.hex seen (some high) 4 0, []) else none

/-- The tokens that the end of the text completes; there is none inside a string. -/
def Mode.finish : Mode → Option (List Token)
  | .between => some []
  | .word seen => (wordToken? seen).map ([·])
  | .number seen => (numberToken? seen).map ([·])
  | _ => none

/-- The tokens of a text; `found` are those already found, in reverse. -/
def tokens (mode : Mode) (found : List Token) : List Char → Option (List Token)
  | [] => mode.finish.map (found.reverse ++ ·)
  | c :: cs =>
    match mode.step c with
    | none => none
    | some (mode, new) => tokens mode (new.reverse ++ found) cs

/-! ### Structure -/

/-- How deep containers may nest. -/
def maxDepth : Nat := 127

/-- A container that is still open, its contents in reverse. -/
inductive Frame where
  | array (elements : List Json)
  | object (fields : List (String × Json))
  /-- An object behind the key and colon of its next field. -/
  | field (fields : List (String × Json)) (key : String)

/-- What may come next. -/
inductive Expected where
  | value
  | valueOrClose
  | key
  | keyOrClose
  | colon (key : String)
  | separator
  | nothing (result : Json)

/-- The containers still open, innermost first, and what may come next. -/
structure Builder where
  frames : List Frame
  expected : Expected

namespace Builder

/-- A value is complete: put it where it belongs. -/
def supply (frames : List Frame) (value : Json) : Builder :=
  match frames with
  | [] => ⟨[], .nothing value⟩
  | .array xs :: rest => ⟨.array (value :: xs) :: rest, .separator⟩
  | .field fs key :: rest => ⟨.object ((key, value) :: fs) :: rest, .separator⟩
  | .object fs :: rest => ⟨.object fs :: rest, .separator⟩

/-- Open a container, unless too many are open. -/
def openFrame (frames : List Frame) (frame : Frame) (expected : Expected) : Option Builder :=
  if frames.length < maxDepth then some ⟨frame :: frames, expected⟩ else none

/-- The start of a value. -/
def value (frames : List Frame) : Token → Option Builder
  | .scalar v => some (supply frames v)
  | .openArray => openFrame frames (.array []) .valueOrClose
  | .openObject => openFrame frames (.object []) .keyOrClose
  | _ => none

/-- The key of a field. -/
def key (frames : List Frame) : Token → Option Builder
  | .scalar (.string k) => some ⟨frames, .colon k⟩
  | _ => none

/-- The end of the innermost container. -/
def close : List Frame → Token → Option Builder
  | .array xs :: rest, .closeArray => some (supply rest (.array xs.reverse))
  | .object fs :: rest, .closeObject => some (supply rest (.object fs.reverse))
  | _, _ => none

/-- A comma, or the end of the innermost container. -/
def separator (frames : List Frame) (token : Token) : Option Builder :=
  match frames, token with
  | .array _ :: _, .comma => some ⟨frames, .value⟩
  | .object _ :: _, .comma => some ⟨frames, .key⟩
  | _, _ => close frames token

/-- The colon behind a key. -/
def colon (frames : List Frame) (key : String) (token : Token) : Option Builder :=
  match frames, token with
  | .object fs :: rest, .colon => some ⟨.field fs key :: rest, .value⟩
  | _, _ => none

/-- Take in one token. -/
def step (b : Builder) (token : Token) : Option Builder :=
  match b.expected with
  | .value => value b.frames token
  | .valueOrClose => close b.frames token <|> value b.frames token
  | .key => key b.frames token
  | .keyOrClose => close b.frames token <|> key b.frames token
  | .colon k => colon b.frames k token
  | .separator => separator b.frames token
  | .nothing _ => none

/-- Take in all tokens. -/
def run (b : Builder) : List Token → Option Builder
  | [] => some b
  | token :: rest =>
    match b.step token with
    | none => none
    | some b => run b rest

end Builder

/-- Read a text, leaving repeated keys of an object side by side. -/
def parseRaw? (text : String) : Option Json := do
  let found ← tokens .between [] text.toList
  match (← Builder.run ⟨[], .value⟩ found).expected with
  | .nothing result => some result
  | _ => none

/-- Read a text; of a repeated key the last value wins, at the place of the first. -/
def parse? (text : String) : Option Json :=
  (parseRaw? text).map collapse

end Json

end Criteria
