import Criteria.Proofs.Condition
import Criteria.Text.Alphanumeric

/-!
# Reading SQL conditions

A text is cut into tokens, and tokens are read by a grammar of three levels: tests and parentheses,
conjunctions of those, disjunctions of conjunctions. So `AND` binds tighter than `OR`, and the `AND`
of a range belongs to its test. Main statement: `reads_unique`, no text has two readings.
-/

namespace Criteria.Sql

/-! ### Tokens -/

/-- A token of a condition. -/
inductive Token where
  | opening
  | closing
  | and
  | or
  | not
  | inside
  | between
  | relation (relation : Relation)
  | column (name : String)
  | placeholder (name : String)
deriving DecidableEq

/-- The characters of names: letters, digits and the underscore. -/
def isNameChar (c : Char) : Bool :=
  Text.isAlphanumeric c || c == '_'

/-- The characters of words: a column may be qualified. -/
def isWordChar (c : Char) : Bool :=
  isNameChar c || c == '.'

/-- A word is a keyword or a column. -/
def Token.ofWord (word : String) : Token :=
  match word with
  | "AND" => .and
  | "OR" => .or
  | "NOT" => .not
  | "IN" => .inside
  | "BETWEEN" => .between
  | _ => .column word

/-- The token of a sign in front, and the text behind it. -/
def sign? : List Char → Option (Token × List Char)
  | '(' :: cs => some (.opening, cs)
  | ')' :: cs => some (.closing, cs)
  | '=' :: cs => some (.relation .equal, cs)
  | '!' :: '=' :: cs => some (.relation .unequal, cs)
  | '>' :: '=' :: cs => some (.relation .notEarlier, cs)
  | '>' :: cs => some (.relation .later, cs)
  | '<' :: '=' :: cs => some (.relation .notLater, cs)
  | '<' :: cs => some (.relation .earlier, cs)
  | _ => none

/-- The token in front, and the text behind it. Words and names reach as far as they can. -/
def token? : List Char → Option (Token × List Char)
  | [] => none
  | c :: cs =>
    if isWordChar c then
      some (.ofWord (String.ofList (c :: cs.takeWhile isWordChar)), cs.dropWhile isWordChar)
    else if c = ':' then
      match cs.takeWhile isNameChar with
      | [] => none
      | name => some (.placeholder (String.ofList name), cs.dropWhile isNameChar)
    else sign? (c :: cs)

theorem length_sign? {cs rest : List Char} {t : Token} (h : sign? cs = some (t, rest)) :
    rest.length < cs.length := by
  unfold sign? at h
  split at h <;> cases h <;> simp only [List.length_cons] <;> omega

theorem length_token? {cs rest : List Char} {t : Token} (h : token? cs = some (t, rest)) :
    rest.length < cs.length := by
  cases cs with
  | nil => cases h
  | cons c cs =>
    have hdrop (p : Char → Bool) : (cs.dropWhile p).length < (c :: cs).length :=
      Nat.lt_succ_of_le (List.dropWhile_sublist p).length_le
    rw [token?] at h
    split at h
    · cases h
      exact hdrop _
    · split at h
      · split at h
        · cases h
        · cases h
          exact hdrop _
      · exact length_sign? h

/-- The tokens of a text, if it has nothing but tokens and spaces. -/
def scan : List Char → Option (List Token)
  | [] => some []
  | c :: cs =>
    if c = ' ' then scan cs
    else
      match _ : token? (c :: cs) with
      | some (t, rest) => (scan rest).map (t :: ·)
      | none => none
termination_by cs => cs.length
decreasing_by
  · exact Nat.lt_succ_self _
  · exact length_token? ‹_›

/-! ### Grammar -/

/-- What is read: tests, with the operators between them. -/
inductive Expr (α : Type) where
  | test (t : Test α)
  | and (e f : Expr α)
  | or (e f : Expr α)

/-- The tokens of a test. -/
def testTokens : Test String → List Token
  | .membership field negated set =>
    .column field :: (if negated then [.not] else []) ++
      [.inside, .opening, .placeholder set, .closing]
  | .relation field r bound => [.column field, .relation r, .placeholder bound]
  | .range field negated low high =>
    .column field :: (if negated then [.not] else []) ++
      [.between, .placeholder low, .and, .placeholder high]

mutual
/-- A test, or a disjunction in parentheses. -/
inductive IsPrimary : List Token → Expr String → Prop
  | test (t : Test String) : IsPrimary (testTokens t) (.test t)
  | parens {ts : List Token} {e : Expr String} (h : IsDisjunction ts e) :
    IsPrimary (.opening :: ts ++ [.closing]) e

/-- Primaries with `AND` between them. -/
inductive IsConjunction : List Token → Expr String → Prop
  | primary {ts : List Token} {e : Expr String} (h : IsPrimary ts e) : IsConjunction ts e
  | and {ts us : List Token} {e f : Expr String} (h : IsPrimary ts e) (k : IsConjunction us f) :
    IsConjunction (ts ++ .and :: us) (.and e f)

/-- Conjunctions with `OR` between them. -/
inductive IsDisjunction : List Token → Expr String → Prop
  | conjunction {ts : List Token} {e : Expr String} (h : IsConjunction ts e) : IsDisjunction ts e
  | or {ts us : List Token} {e f : Expr String} (h : IsConjunction ts e) (k : IsDisjunction us f) :
    IsDisjunction (ts ++ .or :: us) (.or e f)
end

/-- A text is read as an expression. -/
def Reads (text : String) (e : Expr String) : Prop :=
  ∃ ts, scan text.toList = some ts ∧ IsDisjunction ts e

/-! ### Unique reading -/

/-- The tokens of a test show where it ends. -/
theorem testTokens_unique {t t' : Test String} {rest rest' : List Token}
    (h : testTokens t ++ rest = testTokens t' ++ rest') : t = t' ∧ rest = rest' := by
  cases t with
  | membership field negated set =>
    cases t' with
    | membership field' negated' set' =>
      cases negated <;> cases negated' <;> cases h <;> exact ⟨rfl, rfl⟩
    | relation field' r bound => cases negated <;> cases h
    | range field' negated' low high => cases negated <;> cases negated' <;> cases h
  | relation field r bound =>
    cases t' with
    | membership field' negated' set => cases negated' <;> cases h
    | relation field' r' bound' =>
      cases h
      exact ⟨rfl, rfl⟩
    | range field' negated' low high => cases negated' <;> cases h
  | range field negated low high =>
    cases t' with
    | membership field' negated' set => cases negated <;> cases negated' <;> cases h
    | relation field' r bound => cases negated <;> cases h
    | range field' negated' low' high' =>
      cases negated <;> cases negated' <;> cases h <;> exact ⟨rfl, rfl⟩

mutual
/-- A primary ends where it ends, whatever follows. -/
theorem IsPrimary.unique {ts us rest rest' : List Token} {e f : Expr String} (h : IsPrimary ts e)
    (k : IsPrimary us f) (heq : ts ++ rest = us ++ rest') : e = f ∧ rest = rest' := by
  match h, k with
  | .test t, .test t' =>
    obtain ⟨rfl, hrest⟩ := testTokens_unique heq
    exact ⟨rfl, hrest⟩
  | .test t, .parens k => cases t <;> cases heq
  | .parens h, .test t => cases t <;> cases heq
  | .parens h, .parens k =>
    simp only [List.cons_append, List.append_assoc, List.cons.injEq, true_and] at heq
    obtain ⟨hexpr, htail⟩ := IsDisjunction.unique h k heq (by simp) (by simp) (by simp) (by simp)
    exact ⟨hexpr, (List.cons.inj htail).2⟩

/-- A conjunction that no `AND` follows. -/
theorem IsConjunction.unique {ts us rest rest' : List Token} {e f : Expr String}
    (h : IsConjunction ts e) (k : IsConjunction us f) (heq : ts ++ rest = us ++ rest')
    (hand : rest.head? ≠ some .and) (hand' : rest'.head? ≠ some .and) : e = f ∧ rest = rest' := by
  match h, k with
  | .primary h, .primary k => exact h.unique k heq
  | .primary h, .and k l =>
    rw [List.append_assoc] at heq
    obtain ⟨-, rfl⟩ := h.unique k heq
    exact absurd rfl hand
  | .and h l, .primary k =>
    rw [List.append_assoc] at heq
    obtain ⟨-, rfl⟩ := h.unique k heq
    exact absurd rfl hand'
  | .and h l, .and k m =>
    rw [List.append_assoc, List.append_assoc] at heq
    obtain ⟨rfl, htail⟩ := h.unique k heq
    obtain ⟨rfl, hrest⟩ := l.unique m (List.cons.inj htail).2 hand hand'
    exact ⟨rfl, hrest⟩

/-- A disjunction that no operator follows. -/
theorem IsDisjunction.unique {ts us rest rest' : List Token} {e f : Expr String}
    (h : IsDisjunction ts e) (k : IsDisjunction us f) (heq : ts ++ rest = us ++ rest')
    (hand : rest.head? ≠ some .and) (hand' : rest'.head? ≠ some .and)
    (hor : rest.head? ≠ some .or) (hor' : rest'.head? ≠ some .or) : e = f ∧ rest = rest' := by
  match h, k with
  | .conjunction h, .conjunction k => exact h.unique k heq hand hand'
  | .conjunction h, .or k l =>
    rw [List.append_assoc] at heq
    obtain ⟨-, rfl⟩ := h.unique k heq hand (by simp)
    exact absurd rfl hor
  | .or h l, .conjunction k =>
    rw [List.append_assoc] at heq
    obtain ⟨-, rfl⟩ := h.unique k heq (by simp) hand'
    exact absurd rfl hor'
  | .or h l, .or k m =>
    rw [List.append_assoc, List.append_assoc] at heq
    obtain ⟨rfl, htail⟩ := h.unique k heq (by simp) (by simp)
    obtain ⟨rfl, hrest⟩ := l.unique m (List.cons.inj htail).2 hand hand' hor hor'
    exact ⟨rfl, hrest⟩
end

/-- No text has two readings. -/
theorem reads_unique {text : String} {e f : Expr String} (h : Reads text e) (k : Reads text f) :
    e = f := by
  obtain ⟨ts, hts, he⟩ := h
  obtain ⟨us, hus, hf⟩ := k
  cases hts.symm.trans hus
  exact (he.unique hf (congrArg (· ++ []) rfl) nofun nofun nofun nofun).1

end Criteria.Sql
