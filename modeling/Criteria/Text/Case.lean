import Criteria.Text.Alphanumeric
import Criteria.Text.CaseTable

/-!
# Case conversion

Full Unicode case mapping, independent of language. Most characters map on their own, a few to
several characters. A capital sigma becomes the final form where a cased letter stands before it
and none behind it, characters without case aside.
-/

namespace Criteria.Text

/-- The code point that a list of ranges maps one to, if any of them holds it; the first that begins
behind it ends the search. -/
def mapCode? : List CaseRange → Nat → Option Nat
  | [], _ => none
  | r :: rest, n =>
    if n < r.first then none
    else if n ≤ r.last && (n - r.first) % r.stride == 0 then some ((n : Int) + r.delta).toNat
    else mapCode? rest n

/-- Map a character by its sequence, else by its range, else to itself. -/
def mapChar (sequences : List (Nat × List Nat)) (ranges : List CaseRange) (c : Char) : List Char :=
  match sequences.lookup c.toNat with
  | some codes => codes.map Char.ofNat
  | none => [((mapCode? ranges c.toNat).map Char.ofNat).getD c]

/-- Whether the first character that counts is cased. -/
def startsCased (cs : List Char) : Bool :=
  match (cs.dropWhile (inRanges caseIgnorableRanges)).head? with
  | some c => inRanges casedRanges c
  | none => false

/-- Lower case; `before` holds what has been read, in reverse. -/
def lowerFrom (before : List Char) : List Char → List Char
  | [] => []
  | c :: cs =>
    let mapped :=
      if c == '\u03a3' then
        [if startsCased before && !startsCased cs then '\u03c2' else '\u03c3']
      else mapChar lowerSequences lowerRanges c
    mapped ++ lowerFrom (c :: before) cs

/-- A text in lower case. -/
def downcase (s : String) : String :=
  String.ofList (lowerFrom [] s.toList)

/-- A text in upper case. -/
def upcase (s : String) : String :=
  String.ofList (s.toList.flatMap (mapChar upperSequences upperRanges))

end Criteria.Text
