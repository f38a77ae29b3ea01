import Criteria.Json.Printer
import Criteria.Text.Blank

/-!
# Object references

A persisted object is named by its class and an id, in one of three spellings: a fingerprint such
as `Post/12`, a global identifier such as `gid://app/Post/12`, or a handle, an object with a class
and an id. A class is a path of capitalised names joined by `::`. Main statements: `cut_append` and
`eq_append_of_cut`, that a text is cut at the first of its separators.
-/

namespace Criteria

/-- An object, by class and id. -/
structure Reference where
  className : String
  id : String
deriving DecidableEq

namespace Reference

/-! ### The grammar of the parts -/

/-- An ASCII capital. -/
def isCapital (c : Char) : Bool :=
  'A' ≤ c && c ≤ 'Z'

/-- An ASCII letter, digit or underscore. -/
def isNameChar (c : Char) : Bool :=
  isCapital c || ('a' ≤ c && c ≤ 'z') || Decimal.isDigit c || c == '_'

/-- What may follow the first capital of a class: more of the name, or `::` and another name. -/
def isClassTail : List Char → Bool
  | [] => true
  | ':' :: ':' :: c :: rest => isCapital c && isClassTail rest
  | c :: rest => isNameChar c && isClassTail rest

/-- One or more capitalised names joined by `::`. -/
def isClass : List Char → Bool
  | [] => false
  | c :: rest => isCapital c && isClassTail rest

/-- Neither a slash nor white space: what app names and ids are made of. -/
def isPathChar (c : Char) : Bool :=
  c != '/' && !Text.isBlank c

/-- A non-empty run of characters of a class. -/
def isRun (p : Char → Bool) (cs : List Char) : Bool :=
  !cs.isEmpty && cs.all p

/-! ### Spellings -/

/-- The text before the first `c` and the text behind it. -/
def cut (c : Char) (cs : List Char) : Option (List Char × List Char) :=
  match cs.dropWhile (· != c) with
  | _ :: rest => some (cs.takeWhile (· != c), rest)
  | [] => none

theorem bne_of_notMem {c : Char} {cs : List Char} (h : c ∉ cs) : ∀ d ∈ cs, (d != c) = true := by
  intro d hd
  simpa using fun e : d = c => h (e ▸ hd)

theorem cut_of_notMem {c : Char} {cs : List Char} (h : c ∉ cs) : cut c cs = none := by
  have hdrop : (cs ++ []).dropWhile (· != c) = [] :=
    List.dropWhile_append_of_pos (bne_of_notMem h)
  rw [List.append_nil] at hdrop
  rw [cut, hdrop]

theorem cut_append {c : Char} {front : List Char} (h : c ∉ front) (rest : List Char) :
    cut c (front ++ c :: rest) = some (front, rest) := by
  rw [cut, List.dropWhile_append_of_pos (bne_of_notMem h),
    List.takeWhile_append_of_pos (bne_of_notMem h)]
  simp

/-- The two parts stand around the character. -/
theorem eq_append_of_cut {c : Char} {cs front rest : List Char} (h : cut c cs = some (front, rest)) :
    cs = front ++ c :: rest := by
  rw [cut] at h
  split at h
  · next d tail hdrop =>
    have hd : (d != c) = false := by
      have := List.head?_dropWhile_not (· != c) cs
      rw [hdrop] at this
      simpa using this
    obtain ⟨rfl, rfl⟩ := Prod.mk.inj (Option.some.inj h)
    rw [bne_eq_false_iff_eq.1 hd] at hdrop
    rw [← hdrop, List.takeWhile_append_dropWhile]
  · cases h

/-- A class and an id, where both are well formed. -/
def ofParts? (isIdChar : Char → Bool) (className id : List Char) : Option Reference :=
  if isClass className && isRun isIdChar id then
    some ⟨String.ofList className, String.ofList id⟩
  else none

/-- `Class/id`. -/
def ofFingerprintChars? (cs : List Char) : Option Reference :=
  (cut '/' cs).bind fun (className, id) => ofParts? isPathChar className id

/-- The scheme in front of every global identifier. -/
def scheme : List Char := "gid://".toList

/-- The id at the end of a global identifier, without a query behind it; a query holds no line
feed. -/
def idWithoutQuery? (cs : List Char) : Option (List Char) :=
  match cut '?' cs with
  | none => some cs
  | some (id, query) => if query.all (· != '\n') then some id else none

/-- `gid://app/Class/id`, with an optional query behind it. -/
def ofGlobalIdChars? (cs : List Char) : Option Reference :=
  if scheme.isPrefixOf cs then do
    let (app, rest) ← cut '/' (cs.drop scheme.length)
    let (className, rest) ← cut '/' rest
    let id ← idWithoutQuery? rest
    if isRun isPathChar app then ofParts? isPathChar className id else none
  else none

/-- A fingerprint, white space around it aside. -/
def ofFingerprint? (s : String) : Option Reference :=
  ofFingerprintChars? (Text.trim s.toList)

/-- A global identifier, white space around it aside. -/
def ofGlobalId? (s : String) : Option Reference :=
  ofGlobalIdChars? (Text.trim s.toList)

/-- The id of a handle: a number as it prints, or a string. -/
def handleId? : Json → Option String
  | .number n => some n.toText
  | .string s => some s
  | _ => none

/-- A handle: the class is under `class`, or under `type` where there is no `class`. -/
def ofHandle? (fields : List (String × Json)) : Option Reference := do
  let className ← (Assoc.find? "class" fields <|> Assoc.find? "type" fields) >>= Json.text?
  let id ← Assoc.find? "id" fields >>= handleId?
  ofParts? isPathChar className.toList id.toList

/-- Any of the spellings; a bare id names no class and is none of them. -/
def ofJson? : Json → Option Reference
  | .string s => if scheme.isPrefixOf s.toList then ofGlobalId? s else ofFingerprint? s
  | .object fields => ofHandle? fields
  | _ => none

/-! ### What a reference resolves to -/

/-- The canonical spelling, `Class/id`. -/
def fingerprint (r : Reference) : String :=
  r.className ++ "/" ++ r.id

/-- The id as an integer of 64 bits. -/
def numericId? (r : Reference) : Option Int :=
  Decimal.wordOfChars? r.id.toList

/-- Whether the object is of a class. -/
def isA (r : Reference) (className : String) : Bool :=
  r.className == className

/-- Whether the object is in the scope of a class, if one is given. -/
def inScope (r : Reference) : Option String → Bool
  | some className => r.isA className
  | none => true

/-- The number of an element as an id by itself: an integer, or a string that spells one. -/
def bareId? : Json → Option Int
  | .number n => n.word?
  | .string s => Decimal.wordOfChars? (Text.trim s.toList)
  | _ => none

/-- The numeric id of an element. A bare id is taken to be of the class in scope; a reference to
another class has none. -/
def resolveId (scope : Option String) (element : Json) : Option Int :=
  bareId? element <|> do
    let r ← ofJson? element
    if r.inScope scope then r.numericId? else none

/-- The fingerprint of an element. -/
def resolveFingerprint (element : Json) : Option String :=
  (ofJson? element).map fingerprint

end Reference

end Criteria
