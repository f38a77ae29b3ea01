import Criteria.App.Config
import Criteria.Proofs.Sql.Evaluation

/-!
# Written conditions read back

The text of a condition, whose fields are plain columns and whose operands are names, is cut into
the tokens of the condition, and these are read as its expression. Main statement:
`Condition.reads_text`.
-/

namespace Criteria

open Sql

namespace Sql

/-! ### Words and names -/

/-- The words that are no columns. -/
def keywords : List String := ["AND", "OR", "NOT", "IN", "BETWEEN"]

/-- A column that needs no quotes. -/
def IsColumn (field : String) : Prop :=
  field.toList ≠ [] ∧ field.toList.all isWordChar = true ∧ field ∉ keywords

/-- A name that may follow a colon. -/
def IsName (name : String) : Prop :=
  name.toList ≠ [] ∧ name.toList.all isNameChar = true

/-- A text does not begin with a character of a class. -/
def Stops (p : Char → Bool) (cs : List Char) : Prop :=
  ∀ c ∈ cs.head?, p c = false

theorem stops_nil (p : Char → Bool) : Stops p [] := nofun

theorem stops_cons {p : Char → Bool} {c : Char} (h : p c = false) (cs : List Char) :
    Stops p (c :: cs) := by
  intro d hd
  cases hd
  exact h

/-- A run ends where the next character is of another class. -/
theorem takeWhile_append_stops {p : Char → Bool} {cs rest : List Char} (hcs : cs.all p = true)
    (hrest : Stops p rest) : (cs ++ rest).takeWhile p = cs := by
  rw [List.takeWhile_append_of_pos (List.all_eq_true.1 hcs)]
  cases rest with
  | nil => simp
  | cons c rest => simp [hrest c rfl]

theorem dropWhile_append_stops {p : Char → Bool} {cs rest : List Char} (hcs : cs.all p = true)
    (hrest : Stops p rest) : (cs ++ rest).dropWhile p = rest := by
  rw [List.dropWhile_append_of_pos (List.all_eq_true.1 hcs)]
  cases rest with
  | nil => simp
  | cons c rest => simp [hrest c rfl]

/-! ### Scanning -/

@[simp] theorem scan_nil : scan [] = some [] := by
  rw [scan]

@[simp] theorem scan_space (cs : List Char) : scan (' ' :: cs) = scan cs := by
  rw [scan, if_pos rfl]

theorem scan_token {c : Char} {cs rest : List Char} {t : Token} (hc : c ≠ ' ')
    (h : token? (c :: cs) = some (t, rest)) : scan (c :: cs) = (scan rest).map (t :: ·) := by
  rw [scan, if_neg hc]
  split
  · next heq =>
    cases h.symm.trans heq
    rfl
  · next heq => cases h.symm.trans heq

/-- A sign stands for itself, whatever follows. -/
theorem scan_sign {c : Char} {cs rest : List Char} {t : Token}
    (hc : isWordChar c = false ∧ c ≠ ':' ∧ c ≠ ' ') (h : sign? (c :: cs) = some (t, rest)) :
    scan (c :: cs) = (scan rest).map (t :: ·) := by
  apply scan_token hc.2.2
  rw [token?, if_neg (by simp [hc.1]), if_neg hc.2.1, h]

@[simp] theorem scan_opening (cs : List Char) :
    scan ('(' :: cs) = (scan cs).map (.opening :: ·) :=
  scan_sign (by decide) rfl

@[simp] theorem scan_closing (cs : List Char) :
    scan (')' :: cs) = (scan cs).map (.closing :: ·) :=
  scan_sign (by decide) rfl

/-- A relation is read off its symbol when a space follows. -/
theorem scan_symbol (r : Relation) (cs : List Char) :
    scan (r.symbol.toList ++ ' ' :: cs) = (scan cs).map (.relation r :: ·) := by
  rw [← scan_space cs]
  cases r <;> exact scan_sign (by decide) rfl

/-- A word is one token when no character of a word follows. -/
theorem scan_word {word : String} (hne : word.toList ≠ [])
    (hword : word.toList.all isWordChar = true) {rest : List Char} (hrest : Stops isWordChar rest) :
    scan (word.toList ++ rest) = (scan rest).map (.ofWord word :: ·) := by
  have hlist : String.ofList word.toList = word := String.ofList_toList
  cases hcs : word.toList with
  | nil => exact absurd hcs hne
  | cons c cs =>
    rw [hcs] at hword hlist
    rw [List.all_cons, Bool.and_eq_true] at hword
    obtain ⟨hc, hcs⟩ := hword
    rw [List.cons_append]
    refine scan_token (fun h => absurd (h ▸ hc) (by decide)) ?_
    rw [token?, if_pos hc, takeWhile_append_stops hcs hrest, dropWhile_append_stops hcs hrest,
      hlist]

theorem scan_column {field : String} (h : IsColumn field) {rest : List Char}
    (hrest : Stops isWordChar rest) :
    scan (field.toList ++ rest) = (scan rest).map (.column field :: ·) := by
  obtain ⟨hne, hword, hkeyword⟩ := h
  simp only [keywords, List.mem_cons, not_or] at hkeyword
  obtain ⟨hand, hor, hnot, hin, hbetween, -⟩ := hkeyword
  rw [scan_word hne hword hrest, Token.ofWord]
  · exact hand
  · exact hor
  · exact hnot
  · exact hin
  · exact hbetween

/-- A colon and a name are one token when no character of a name follows. -/
theorem scan_placeholder {name : String} (h : IsName name) {rest : List Char}
    (hrest : Stops isNameChar rest) :
    scan (':' :: (name.toList ++ rest)) = (scan rest).map (.placeholder name :: ·) := by
  obtain ⟨hne, hname⟩ := h
  apply scan_token (by decide)
  rw [token?, if_neg (by decide), if_pos rfl, takeWhile_append_stops hname hrest,
    dropWhile_append_stops hname hrest]
  split
  · next heq => exact absurd heq hne
  · rw [String.ofList_toList]

/-! ### Tests -/

theorem scan_keyword {word : String} (hne : word.toList ≠ [])
    (hword : word.toList.all isWordChar = true) (cs : List Char) :
    scan (word.toList ++ ' ' :: cs) = (scan cs).map (.ofWord word :: ·) := by
  rw [scan_word hne hword (stops_cons (by decide) cs), scan_space]

/-- An operator that may be negated. -/
theorem scan_operator (negated : Bool) {word : String} (hne : word.toList ≠ [])
    (hword : word.toList.all isWordChar = true) (cs : List Char) :
    scan ((if negated then "NOT ".toList else []) ++ (word.toList ++ ' ' :: cs)) =
      (scan cs).map ((if negated then [.not] else []) ++ .ofWord word :: ·) := by
  cases negated with
  | false => exact scan_keyword hne hword cs
  | true =>
    have hnot := @scan_keyword "NOT" (by decide) (by decide) (word.toList ++ ' ' :: cs)
    rw [scan_keyword hne hword, Option.map_map] at hnot
    exact hnot

/-- The text of a test is cut into its tokens. -/
theorem scan_test {t : Test String} (hfield : IsColumn t.field) (hvalues : ∀ v ∈ t.values, IsName v)
    {rest : List Char} (hrest : Stops isNameChar rest) :
    scan (t.text.toList ++ rest) = (scan rest).map (testTokens t ++ ·) := by
  have hspace (cs : List Char) : Stops isWordChar (' ' :: cs) := stops_cons (by decide) cs
  -- a token ends at a blank, at a parenthesis, or at what follows the test
  cases t with
  | membership field negated set =>
    have hcolumn : IsColumn field := hfield
    have hset : IsName set := hvalues set (List.mem_singleton.2 rfl)
    have hclosing : Stops isNameChar (')' :: rest) := stops_cons (by decide) rest
    have htext : (Test.membership field negated set).text.toList ++ rest =
        field.toList ++ ' ' :: ((if negated then "NOT ".toList else []) ++
          ("IN".toList ++ ' ' :: '(' :: ':' :: (set.toList ++ ')' :: rest))) := by
      cases negated <;> simp [Test.text]
    rw [htext, scan_column hcolumn (hspace _), scan_space,
      scan_operator negated (by decide) (by decide), scan_opening, scan_placeholder hset hclosing,
      scan_closing]
    simp only [Option.map_map, testTokens, Function.comp_def, List.cons_append, List.append_assoc]
    rfl
  | relation field r bound =>
    have hcolumn : IsColumn field := hfield
    have hbound : IsName bound := hvalues bound (List.mem_singleton.2 rfl)
    have htext : (Test.relation field r bound).text.toList ++ rest =
        field.toList ++ ' ' :: (r.symbol.toList ++ ' ' :: ':' :: (bound.toList ++ rest)) := by
      simp [Test.text]
    rw [htext, scan_column hcolumn (hspace _), scan_space, scan_symbol,
      scan_placeholder hbound hrest]
    simp only [Option.map_map]
    rfl
  | range field negated low high =>
    have hcolumn : IsColumn field := hfield
    have hlow : IsName low := hvalues low List.mem_cons_self
    have hhigh : IsName high := hvalues high (List.mem_cons_of_mem _ List.mem_cons_self)
    have htext : (Test.range field negated low high).text.toList ++ rest =
        field.toList ++ ' ' :: ((if negated then "NOT ".toList else []) ++
          ("BETWEEN".toList ++ ' ' :: ':' :: (low.toList ++ ' ' ::
            ("AND".toList ++ ' ' :: ':' :: (high.toList ++ rest))))) := by
      cases negated <;> simp [Test.text]
    rw [htext, scan_column hcolumn (hspace _), scan_space,
      scan_operator negated (by decide) (by decide),
      scan_placeholder hlow (stops_cons (by decide) _), scan_space,
      scan_keyword (by decide) (by decide), scan_placeholder hhigh hrest]
    simp only [Option.map_map, testTokens, Function.comp_def, List.cons_append, List.append_assoc]
    rfl

/-! ### Conditions -/

/-- The token of a combinator. -/
def combinatorToken : Combinator → Token
  | .all => .and
  | .any => .or

end Sql

namespace Condition

mutual
/-- The tokens of a condition. -/
def tokens : Condition String → List Token
  | .test t => testTokens t
  | .group combinator first rest =>
    .opening :: (first.tokens ++ tokensAfter combinator rest) ++ [.closing]

/-- The tokens of conditions that follow another one. -/
def tokensAfter (combinator : Combinator) : List (Condition String) → List Token
  | [] => []
  | c :: cs => combinatorToken combinator :: c.tokens ++ tokensAfter combinator cs
end

/-- The text of conditions that follow another one. -/
def textAfter (combinator : Combinator) (texts : List String) : List Char :=
  texts.flatMap fun text => ' ' :: combinator.sql.toList ++ ' ' :: text.toList

theorem text_group (combinator : Combinator) (first : Condition String)
    (rest : List (Condition String)) :
    (group combinator first rest).text.toList =
      '(' :: (first.text.toList ++ textAfter combinator (texts rest)) ++ [')'] := by
  have hjoin (separator x : List Char) (xs : List (List Char)) :
      separator.intercalate (x :: xs) = x ++ xs.flatMap (separator ++ ·) := by
    induction xs generalizing x with
    | nil => simp [List.intercalate]
    | cons y xs ih =>
      rw [List.intercalate_cons_cons, ih, List.flatMap_cons]
      simp
  rw [text, Predicate.parenthesized, String.toList_append, String.toList_append,
    String.toList_intercalate, List.map_cons, hjoin, textAfter, List.flatMap_map]
  simp

/-- What follows a condition in a group. -/
theorem stops_textAfter (combinator : Combinator) (texts : List String) {rest : List Char}
    (h : Stops isNameChar rest) : Stops isNameChar (textAfter combinator texts ++ rest) := by
  cases texts with
  | nil => exact h
  | cons text texts => exact stops_cons (by decide) _

mutual
/-- The text of a condition is cut into its tokens. -/
theorem scan_text {c : Condition String} (hfields : ∀ f ∈ c.fields, IsColumn f)
    (hvalues : ∀ v ∈ c.values, IsName v) {rest : List Char} (hrest : Stops isNameChar rest) :
    scan (c.text.toList ++ rest) = (scan rest).map (c.tokens ++ ·) := by
  match c with
  | .test t => exact scan_test (hfields t.field (List.mem_singleton.2 rfl)) hvalues hrest
  | .group combinator first others =>
    simp only [fields, List.forall_mem_append] at hfields
    simp only [values, List.forall_mem_append] at hvalues
    have hclosing : Stops isNameChar (')' :: rest) := stops_cons (by decide) rest
    have hothers := scan_textAfter combinator hfields.2 hvalues.2 hclosing
    have hfirst := scan_text hfields.1 hvalues.1
      (stops_textAfter combinator (texts others) hclosing)
    simp only [text_group, List.cons_append, List.append_assoc, List.nil_append, scan_opening,
      hfirst, hothers, scan_closing, Option.map_map, tokens]
    rfl

theorem scan_textAfter (combinator : Combinator) {cs : List (Condition String)}
    (hfields : ∀ f ∈ fieldsAll cs, IsColumn f) (hvalues : ∀ v ∈ valuesAll cs, IsName v)
    {rest : List Char} (hrest : Stops isNameChar rest) :
    scan (textAfter combinator (texts cs) ++ rest) =
      (scan rest).map (tokensAfter combinator cs ++ ·) := by
  match cs with
  | [] => simp [texts, textAfter, tokensAfter]
  | c :: cs =>
    simp only [fieldsAll, List.forall_mem_append] at hfields
    simp only [valuesAll, List.forall_mem_append] at hvalues
    have hothers := scan_textAfter combinator hfields.2 hvalues.2 hrest
    have hfirst := scan_text hfields.1 hvalues.1 (stops_textAfter combinator (texts cs) hrest)
    have hword (cs : List Char) : scan (combinator.sql.toList ++ ' ' :: cs) =
        (scan cs).map (combinatorToken combinator :: ·) := by
      cases combinator <;> exact scan_keyword (by decide) (by decide) cs
    rw [texts, textAfter, List.flatMap_cons, ← textAfter]
    simp only [List.cons_append, List.append_assoc, scan_space, hword, hfirst, hothers,
      Option.map_map, tokensAfter]
    rfl
end

mutual
/-- The tokens of a condition are read as its expression. -/
theorem isPrimary_tokens (c : Condition String) : IsPrimary c.tokens c.expr := by
  match c with
  | .test t => exact .test t
  | .group .all first rest =>
    exact .parens (.conjunction (isConjunction_tokens (isPrimary_tokens first) rest))
  | .group .any first rest =>
    exact .parens (isDisjunction_tokens (isPrimary_tokens first) rest)

theorem isConjunction_tokens {ts : List Token} {e : Expr String} (h : IsPrimary ts e)
    (cs : List (Condition String)) :
    IsConjunction (ts ++ tokensAfter .all cs) (.chain .all e (exprs cs)) := by
  match cs with
  | [] =>
    rw [tokensAfter, List.append_nil]
    exact .primary h
  | c :: cs => exact .and h (isConjunction_tokens (isPrimary_tokens c) cs)

theorem isDisjunction_tokens {ts : List Token} {e : Expr String} (h : IsPrimary ts e)
    (cs : List (Condition String)) :
    IsDisjunction (ts ++ tokensAfter .any cs) (.chain .any e (exprs cs)) := by
  match cs with
  | [] =>
    rw [tokensAfter, List.append_nil]
    exact .conjunction (.primary h)
  | c :: cs => exact .or (.primary h) (isDisjunction_tokens (isPrimary_tokens c) cs)
end

/-- A written condition reads back. -/
theorem reads_text {c : Condition String} (hfields : ∀ f ∈ c.fields, IsColumn f)
    (hvalues : ∀ v ∈ c.values, IsName v) : Reads c.text c.expr := by
  have hscan := scan_text hfields hvalues (stops_nil isNameChar)
  rw [List.append_nil, scan_nil, Option.map_some, List.append_nil] at hscan
  exact ⟨c.tokens, hscan, .conjunction (.primary (isPrimary_tokens c))⟩

end Condition

/-! ### The names of a table -/

theorem Sql.isNameChar_of_isAlphanum {c : Char} (h : c.isAlphanum = true) :
    isNameChar c = true := by
  have hascii : ∀ n : Fin 128,
      (Char.ofNat n).isAlphanum = true → isNameChar (Char.ofNat n) = true := by
    decide
  have hclasses : c.isAlphanum = (decide (c.val ≥ 65 ∧ c.val ≤ 90) ||
      (decide (c.val ≥ 97) && decide (c.val ≤ 122)) ||
      (decide (c.val ≥ 48) && decide (c.val ≤ 57))) := rfl
  -- the classes hold ASCII characters only, and these are few
  have hbound : c.toNat < 128 := by
    simp [hclasses, UInt32.le_iff_toNat_le] at h
    omega
  have hc := hascii ⟨c.toNat, hbound⟩
  simp only [Char.ofNat_toNat] at hc
  exact hc h

/-- A stem that configurations may ask for is made of the characters of names. -/
theorem isNameChar_of_mem_stem {stem : String} (h : AppConfig.isStem stem = true) :
    ∀ c ∈ stem.toList, isNameChar c = true := by
  have hchar (c : Char) (hc : c.isAlphanum = true ∨ c = '_') : isNameChar c = true := by
    rcases hc with hc | rfl
    · exact isNameChar_of_isAlphanum hc
    · decide
  unfold AppConfig.isStem at h
  split at h
  · cases h
  · next c cs heq =>
    simp only [Bool.and_eq_true, Bool.or_eq_true, beq_iff_eq, List.all_eq_true] at h
    rw [heq]
    intro d hd
    rcases List.mem_cons.1 hd with rfl | hd
    · exact hchar d (h.1.imp_left fun hd => by simp [Char.isAlphanum, hd])
    · exact hchar d (h.2 d hd)

/-- With such a stem, every name of a table may follow a colon. -/
theorem isName_nth {stem : String} (h : AppConfig.isStem stem = true) (i : Nat) :
    IsName (BindTable.nth stem i) := by
  have hname : (BindTable.nth stem i).toList = stem.toList ++ Decimal.digits (i + 1) := by
    rw [BindTable.nth, BindTable.nameAt, String.toList_append, Decimal.ofNat, String.toList_ofList]
  constructor
  · rw [hname]
    exact List.append_ne_nil_of_right_ne_nil _ (Decimal.digits_ne_nil _)
  · rw [hname, List.all_eq_true]
    intro c hc
    rcases List.mem_append.1 hc with hc | hc
    · exact isNameChar_of_mem_stem h c hc
    · have hdigit : c.isDigit = true := Decimal.isDigit_of_mem_digits _ c hc
      exact isNameChar_of_isAlphanum (by simp [Char.isAlphanum, hdigit])

end Criteria
