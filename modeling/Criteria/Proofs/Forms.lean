import Criteria.Timestamp.Parser
import Mathlib.Computability.Language

/-!
# The spellings of an instant

A text may spell an instant in four forms, and the readers of the forms are tried in turn.
`Form.language` says which characters a form consists of, whatever numbers they make. The readers
keep to their languages, and the colons, the dashes and the last character of a text tell to which of
the languages it can belong. So no text has two readings, and the turn does not matter. Main
statements: `Form.mem_language` and `Form.ofMarks_eq`, and from them `Timestamp.forms_disjoint`.
-/

namespace Criteria.Timestamp

/-- A form in which an instant is spelled. -/
inductive Form
  /-- A date, a time of day and an offset from UTC, all fields at full width. -/
  | rfc3339
  /-- A date and a time of day in UTC. -/
  | dateTime
  /-- A date. -/
  | date
  /-- A number of seconds. -/
  | seconds
deriving DecidableEq

namespace Form

/-- The reader of a form. -/
def read : Form → List Char → Option Timestamp
  | rfc3339 => ofRfc3339?
  | dateTime => ofDateTime?
  | date => ofDate?
  | seconds => ofUnixText?

/-! ### Languages -/

/-- One of some characters. -/
def symbol (alphabet : List Char) : Language Char :=
  {cs | ∃ c ∈ alphabet, cs = [c]}

/-- Digits, as many as one of some numbers says. -/
def digits (lengths : Set Nat) : Language Char :=
  {cs | cs.length ∈ lengths ∧ ∀ c ∈ cs, Decimal.isDigit c = true}

/-- Any number of blanks. -/
def blanks : Language Char :=
  {cs | ∀ c ∈ cs, Text.isBlank c = true}

/-- A number of one or two digits, blanks in front. -/
def number : Language Char :=
  blanks * digits (Set.Icc 1 2)

/-- A year, blanks in front: up to four digits, or any number of them behind a sign. -/
def year : Language Char :=
  blanks * (symbol ['-', '+'] * digits (Set.Ici 1) + digits (Set.Icc 1 4))

/-- A year and two fields between dashes. -/
def calendarDay (year field : Language Char) : Language Char :=
  year * symbol ['-'] * field * symbol ['-'] * field

/-- Three fields between colons. -/
def timeOfDay (field : Language Char) : Language Char :=
  field * symbol [':'] * field * symbol [':'] * field

/-- An optional point with digits behind it. -/
def point : Language Char :=
  1 + symbol ['.'] * digits (Set.Ici 1)

/-- A date and a time of day with all fields at full width. -/
def localTime : Language Char :=
  calendarDay (digits {4}) (digits {2}) * symbol ['T', 't', ' '] * timeOfDay (digits {2}) * point

/-- The letter that stands for UTC. -/
def utc : Language Char :=
  symbol ['Z', 'z']

/-- Hours and minutes ahead of UTC or behind it. -/
def offset : Language Char :=
  symbol ['+', '-', '\u2212'] * digits {2} * symbol [':'] * digits {2}

/-- The texts that have the characters of a form. -/
def language : Form → Language Char
  | rfc3339 => localTime * (utc + offset)
  | dateTime => calendarDay year number * timeOfDay number
  | date => calendarDay year number
  | seconds => (1 + symbol ['-', '+']) * digits (Set.Ici 1)

end Form

/-! ### Readers keep to the languages -/

/-- A text begins with a word of a language, and the rest is left. -/
def Takes (l : Language Char) (cs rest : List Char) : Prop :=
  ∃ front ∈ l, front ++ rest = cs

namespace Takes

variable {l m : Language Char} {cs mid rest : List Char}

theorem trans (h : Takes l cs mid) (h' : Takes m mid rest) : Takes (l * m) cs rest := by
  obtain ⟨front, hfront, rfl⟩ := h
  obtain ⟨back, hback, rfl⟩ := h'
  exact ⟨front ++ back, Language.append_mem_mul hfront hback, List.append_assoc ..⟩

theorem mem_mul (h : Takes l cs rest) (h' : rest ∈ m) : cs ∈ l * m := by
  obtain ⟨front, hfront, rfl⟩ := h
  exact Language.append_mem_mul hfront h'

/-- A word with nothing behind it is the text. -/
theorem mem (h : Takes l cs []) : cs ∈ l := by
  obtain ⟨front, hfront, rfl⟩ := h
  rwa [List.append_nil]

theorem left (h : Takes l cs rest) : Takes (l + m) cs rest := by
  obtain ⟨front, hfront, heq⟩ := h
  exact ⟨front, Or.inl hfront, heq⟩

theorem right (h : Takes m cs rest) : Takes (l + m) cs rest := by
  obtain ⟨front, hfront, heq⟩ := h
  exact ⟨front, Or.inr hfront, heq⟩

theorem one (cs : List Char) : Takes 1 cs cs :=
  ⟨[], Language.nil_mem_one, rfl⟩

end Takes

section Readers

open Form

variable {cs rest : List Char}

theorem takes_cons {alphabet : List Char} {c : Char} (h : c ∈ alphabet) (rest : List Char) :
    Takes (symbol alphabet) (c :: rest) rest :=
  ⟨[c], ⟨c, h, rfl⟩, rfl⟩

theorem takes_literal {c : Char} (h : literal c cs = some rest) : Takes (symbol [c]) cs rest := by
  cases cs with
  | nil => cases h
  | cons d cs =>
    rw [literal, Option.ite_none_right_eq_some] at h
    obtain ⟨rfl, h⟩ := h
    cases h
    exact takes_cons List.mem_cons_self rest

theorem takes_separator {a b c : Char}
    (h : (literal a cs <|> literal b cs <|> literal c cs) = some rest) :
    Takes (symbol [a, b, c]) cs rest := by
  have hwiden {d : Char} (hd : d ∈ [a, b, c]) (h : literal d cs = some rest) :
      Takes (symbol [a, b, c]) cs rest := by
    obtain ⟨front, ⟨e, he, hfront⟩, happend⟩ := takes_literal h
    exact ⟨front, ⟨e, List.mem_singleton.1 he ▸ hd, hfront⟩, happend⟩
  simp only [Option.orElse_eq_orElse, Option.orElse_eq_or, Option.or_eq_some_iff] at h
  rcases h with h | ⟨-, h | ⟨-, h⟩⟩
  · exact hwiden (by simp) h
  · exact hwiden (by simp) h
  · exact hwiden (by simp) h

theorem takes_fixedDigits {count n : Nat} (h : fixedDigits count cs = some (n, rest)) :
    Takes (digits {count}) cs rest := by
  simp only [fixedDigits, Option.ite_none_right_eq_some, Option.some.injEq, Prod.mk.injEq] at h
  obtain ⟨⟨hlength, hdigits⟩, -, rfl⟩ := h
  exact ⟨cs.take count, ⟨hlength, List.all_eq_true.1 hdigits⟩, List.take_append_drop count cs⟩

/-- All the digits in front, if there are any. -/
theorem takes_dropWhile (h : (cs.takeWhile Decimal.isDigit).isEmpty = false) :
    Takes (digits (Set.Ici 1)) cs (cs.dropWhile Decimal.isDigit) := by
  refine ⟨cs.takeWhile Decimal.isDigit, ⟨?_, ?_⟩, List.takeWhile_append_dropWhile⟩
  · rw [List.isEmpty_eq_false_iff] at h
    exact List.length_pos_iff.2 h
  · exact List.all_eq_true.1 List.all_takeWhile

theorem takes_allDigits {n : Nat} (h : allDigits cs = some (n, rest)) :
    Takes (digits (Set.Ici 1)) cs rest := by
  simp only [allDigits, Option.ite_none_left_eq_some, Option.some.injEq, Prod.mk.injEq,
    Bool.not_eq_true] at h
  obtain ⟨hne, -, rfl⟩ := h
  exact takes_dropWhile hne

theorem takes_someDigits {most n : Nat} (h : someDigits most cs = some (n, rest)) :
    Takes (digits (Set.Icc 1 most)) cs rest := by
  simp only [someDigits, Option.ite_none_left_eq_some, Option.some.injEq, Prod.mk.injEq,
    List.isEmpty_iff] at h
  obtain ⟨hne, -, rfl⟩ := h
  have htake : (cs.take most).takeWhile Decimal.isDigit <+: cs :=
    (List.takeWhile_prefix _).trans (List.take_prefix most cs)
  refine ⟨_, ⟨⟨List.length_pos_iff.2 hne, ?_⟩, List.all_eq_true.1 List.all_takeWhile⟩,
    List.prefix_append_drop htake ▸ ?_⟩
  · exact (List.takeWhile_prefix _).length_le.trans (List.length_take_le most cs)
  · rfl

theorem takes_trimStart (cs : List Char) : Takes blanks cs (Text.trimStart cs) :=
  ⟨cs.takeWhile Text.isBlank, List.all_eq_true.1 List.all_takeWhile,
    List.takeWhile_append_dropWhile⟩

theorem takes_looseNumber {n : Nat} (h : looseNumber cs = some (n, rest)) :
    Takes number cs rest :=
  (takes_trimStart cs).trans (takes_someDigits h)

theorem takes_looseYear {n : Int} (h : looseYear cs = some (n, rest)) : Takes year cs rest := by
  refine (takes_trimStart cs).trans ?_
  rw [looseYear] at h
  split at h
  · next heq =>
    obtain ⟨⟨n, rest⟩, hread, hsome⟩ := Option.map_eq_some_iff.1 h
    cases hsome
    exact heq ▸ ((takes_cons (by simp) _).trans (takes_allDigits hread)).left
  · next heq =>
    obtain ⟨⟨n, rest⟩, hread, hsome⟩ := Option.map_eq_some_iff.1 h
    cases hsome
    exact heq ▸ ((takes_cons (by simp) _).trans (takes_allDigits hread)).left
  · obtain ⟨⟨n, rest⟩, hread, hsome⟩ := Option.map_eq_some_iff.1 h
    cases hsome
    exact (takes_someDigits hread).right

theorem takes_fraction {n : Nat} (h : fraction cs = some (n, rest)) : Takes point cs rest := by
  rw [fraction.eq_def] at h
  split at h
  · simp only [Option.ite_none_left_eq_some, Option.some.injEq, Prod.mk.injEq,
      Bool.not_eq_true] at h
    obtain ⟨hne, -, rfl⟩ := h
    exact ((takes_cons (by simp) _).trans (takes_dropWhile hne)).right
  · cases h
    exact (Takes.one cs).left

theorem mem_of_offset? {n : Int} (h : offset? cs = some n) : cs ∈ utc + offset := by
  unfold offset? at h
  split at h
  · exact Or.inl (takes_cons (by simp) []).mem
  · exact Or.inl (takes_cons (by simp) []).mem
  · next sign cs _ _ =>
    obtain ⟨⟨hours, cs⟩, hhours, h⟩ := Option.bind_eq_some_iff.1 h
    obtain ⟨cs, hcolon, h⟩ := Option.bind_eq_some_iff.1 h
    obtain ⟨⟨minutes, cs⟩, hminutes, h⟩ := Option.bind_eq_some_iff.1 h
    have hrest : cs = [] ∧ sign ∈ ['+', '-', '\u2212'] := by grind
    obtain ⟨rfl, hsign⟩ := hrest
    exact Or.inr ((((takes_cons hsign _).trans (takes_fixedDigits hhours)).trans
      (takes_literal hcolon)).trans (takes_fixedDigits hminutes)).mem
  · cases h

theorem takes_looseDate {d : Date} (h : looseDate cs = some (d, rest)) :
    Takes (calendarDay year number) cs rest := by
  rw [looseDate] at h
  obtain ⟨⟨year, cs⟩, hyear, h⟩ := Option.bind_eq_some_iff.1 h
  obtain ⟨cs, hdash, h⟩ := Option.bind_eq_some_iff.1 h
  obtain ⟨⟨month, cs⟩, hmonth, h⟩ := Option.bind_eq_some_iff.1 h
  obtain ⟨cs, hdash', h⟩ := Option.bind_eq_some_iff.1 h
  obtain ⟨⟨day, cs⟩, hday, h⟩ := Option.bind_eq_some_iff.1 h
  cases h
  exact ((((takes_looseYear hyear).trans (takes_literal hdash)).trans
    (takes_looseNumber hmonth)).trans (takes_literal hdash')).trans (takes_looseNumber hday)

variable {t : Timestamp}

theorem mem_of_ofRfc3339? (h : ofRfc3339? cs = some t) : cs ∈ Form.rfc3339.language := by
  rw [ofRfc3339?] at h
  obtain ⟨⟨year, cs⟩, hyear, h⟩ := Option.bind_eq_some_iff.1 h
  obtain ⟨cs, hdash, h⟩ := Option.bind_eq_some_iff.1 h
  obtain ⟨⟨month, cs⟩, hmonth, h⟩ := Option.bind_eq_some_iff.1 h
  obtain ⟨cs, hdash', h⟩ := Option.bind_eq_some_iff.1 h
  obtain ⟨⟨day, cs⟩, hday, h⟩ := Option.bind_eq_some_iff.1 h
  obtain ⟨cs, hseparator, h⟩ := Option.bind_eq_some_iff.1 h
  obtain ⟨⟨hour, cs⟩, hhour, h⟩ := Option.bind_eq_some_iff.1 h
  obtain ⟨cs, hcolon, h⟩ := Option.bind_eq_some_iff.1 h
  obtain ⟨⟨minute, cs⟩, hminute, h⟩ := Option.bind_eq_some_iff.1 h
  obtain ⟨cs, hcolon', h⟩ := Option.bind_eq_some_iff.1 h
  obtain ⟨⟨second, cs⟩, hsecond, h⟩ := Option.bind_eq_some_iff.1 h
  obtain ⟨⟨nanos, cs⟩, hfraction, h⟩ := Option.bind_eq_some_iff.1 h
  obtain ⟨offset, hoffset, -⟩ := Option.bind_eq_some_iff.1 h
  have hday := ((((takes_fixedDigits hyear).trans (takes_literal hdash)).trans
    (takes_fixedDigits hmonth)).trans (takes_literal hdash')).trans (takes_fixedDigits hday)
  have htime := ((((takes_fixedDigits hhour).trans (takes_literal hcolon)).trans
    (takes_fixedDigits hminute)).trans (takes_literal hcolon')).trans (takes_fixedDigits hsecond)
  exact (((hday.trans (takes_separator hseparator)).trans htime).trans
    (takes_fraction hfraction)).mem_mul (mem_of_offset? hoffset)

theorem mem_of_ofDateTime? (h : ofDateTime? cs = some t) : cs ∈ Form.dateTime.language := by
  rw [ofDateTime?] at h
  obtain ⟨⟨date, cs⟩, hdate, h⟩ := Option.bind_eq_some_iff.1 h
  obtain ⟨⟨hour, cs⟩, hhour, h⟩ := Option.bind_eq_some_iff.1 h
  obtain ⟨cs, hcolon, h⟩ := Option.bind_eq_some_iff.1 h
  obtain ⟨⟨minute, cs⟩, hminute, h⟩ := Option.bind_eq_some_iff.1 h
  obtain ⟨cs, hcolon', h⟩ := Option.bind_eq_some_iff.1 h
  obtain ⟨⟨second, cs⟩, hsecond, h⟩ := Option.bind_eq_some_iff.1 h
  have htime := ((((takes_looseNumber hhour).trans (takes_literal hcolon)).trans
    (takes_looseNumber hminute)).trans (takes_literal hcolon')).trans (takes_looseNumber hsecond)
  rw [Option.ite_none_right_eq_some, List.isEmpty_iff] at h
  obtain ⟨rfl, -⟩ := h
  exact (takes_looseDate hdate).mem_mul htime.mem

theorem mem_of_ofDate? (h : ofDate? cs = some t) : cs ∈ Form.date.language := by
  rw [ofDate?] at h
  obtain ⟨⟨date, cs⟩, hdate, h⟩ := Option.bind_eq_some_iff.1 h
  rw [Option.ite_none_right_eq_some, List.isEmpty_iff] at h
  obtain ⟨rfl, -⟩ := h
  exact (takes_looseDate hdate).mem

theorem mem_digits_of_natOfDigits? {n : Nat} (h : Decimal.natOfDigits? cs = some n) :
    cs ∈ digits (Set.Ici 1) := by
  rw [Decimal.natOfDigits?, Option.ite_none_right_eq_some, Bool.and_eq_true,
    Bool.not_eq_true', List.isEmpty_eq_false_iff] at h
  exact ⟨List.length_pos_iff.2 h.1.1, List.all_eq_true.1 h.1.2⟩

theorem mem_of_wordOfChars? {n : Int} (h : Decimal.wordOfChars? cs = some n) :
    cs ∈ Form.seconds.language := by
  rw [Decimal.wordOfChars?_eq, Option.filter_eq_some_iff] at h
  obtain ⟨hint, -⟩ := h
  rw [Decimal.intOfChars?.eq_def] at hint
  split at hint
  all_goals
    obtain ⟨_, hdigits, -⟩ := Option.map_eq_some_iff.1 hint
    obtain ⟨_, hdigits, -⟩ := Option.bind_eq_some_iff.1 hdigits
  · exact (takes_cons (by simp) _).right.mem_mul (mem_digits_of_natOfDigits? hdigits)
  · exact (takes_cons (by simp) _).right.mem_mul (mem_digits_of_natOfDigits? hdigits)
  · exact (Takes.one cs).left.mem_mul (mem_digits_of_natOfDigits? hdigits)

theorem mem_of_ofUnixText? (h : ofUnixText? cs = some t) : cs ∈ Form.seconds.language := by
  obtain ⟨n, hword, -⟩ := Option.bind_eq_some_iff.1 h
  exact mem_of_wordOfChars? hword

/-- A reader takes nothing but texts of its form. -/
theorem Form.mem_language {f : Form} (h : f.read cs = some t) : cs ∈ f.language := by
  cases f with
  | rfc3339 => exact mem_of_ofRfc3339? h
  | dateTime => exact mem_of_ofDateTime? h
  | date => exact mem_of_ofDate? h
  | seconds => exact mem_of_ofUnixText? h

end Readers

/-! ### What tells the languages apart -/

/-- How often a character stands in the words of a language. -/
def Occurs (c : Char) (least most : Nat) (l : Language Char) : Prop :=
  ∀ cs ∈ l, least ≤ cs.count c ∧ cs.count c ≤ most

namespace Occurs

variable {c : Char} {least most least' most' : Nat} {l m : Language Char}

theorem mul (h : Occurs c least most l) (h' : Occurs c least' most' m) :
    Occurs c (least + least') (most + most') (l * m) := by
  intro cs hcs
  obtain ⟨front, hfront, back, hback, rfl⟩ := Language.mem_mul.1 hcs
  have hl := h front hfront
  have hm := h' back hback
  rw [List.count_append]
  exact ⟨Nat.add_le_add hl.1 hm.1, Nat.add_le_add hl.2 hm.2⟩

theorem add (h : Occurs c least most l) (h' : Occurs c least most m) :
    Occurs c least most (l + m) := by
  intro cs hcs
  rcases hcs with hcs | hcs
  · exact h cs hcs
  · exact h' cs hcs

theorem one : Occurs c 0 0 1 := by
  intro cs hcs
  rw [(Language.mem_one cs).1 hcs]
  exact ⟨Nat.le_refl 0, Nat.le_refl 0⟩

theorem mono (h : Occurs c least most l) (hleast : least' ≤ least) (hmost : most ≤ most') :
    Occurs c least' most' l :=
  fun cs hcs => ⟨hleast.trans (h cs hcs).1, (h cs hcs).2.trans hmost⟩

/-- A character of another kind than those of the words stands nowhere. -/
theorem zero {p : Char → Bool} (hl : ∀ cs ∈ l, ∀ d ∈ cs, p d = true) (h : p c = false) :
    Occurs c 0 0 l := by
  intro cs hcs
  have hmem : c ∉ cs := fun hmem => Bool.false_ne_true (h.symm.trans (hl cs hcs c hmem))
  rw [List.count_eq_zero.2 hmem]
  exact ⟨Nat.le_refl 0, Nat.le_refl 0⟩

open Form

theorem digits (h : Decimal.isDigit c = false) (lengths : Set Nat) :
    Occurs c 0 0 (digits lengths) :=
  zero (fun _ hcs => hcs.2) h

theorem blanks (h : Text.isBlank c = false) : Occurs c 0 0 blanks :=
  zero (fun _ hcs => hcs) h

theorem symbol {alphabet : List Char} (h : c ∉ alphabet) : Occurs c 0 0 (symbol alphabet) := by
  rintro _ ⟨d, hd, rfl⟩
  have hmem : c ∉ [d] := fun hmem => h (List.mem_singleton.1 hmem ▸ hd)
  rw [List.count_eq_zero.2 hmem]
  exact ⟨Nat.le_refl 0, Nat.le_refl 0⟩

theorem symbol_self : Occurs c 1 1 (Form.symbol [c]) := by
  rintro _ ⟨d, hd, rfl⟩
  rw [List.mem_singleton.1 hd, List.count_singleton_self]
  exact ⟨Nat.le_refl 1, Nat.le_refl 1⟩

theorem symbol_le (alphabet : List Char) : Occurs c 0 1 (Form.symbol alphabet) := by
  rintro _ ⟨d, -, rfl⟩
  exact ⟨Nat.zero_le _, List.count_le_length⟩

theorem number (hdigit : Decimal.isDigit c = false) (hblank : Text.isBlank c = false) :
    Occurs c 0 0 number :=
  (blanks hblank).mul (digits hdigit _)

variable {year field : Language Char}

theorem colon_calendarDay (hyear : Occurs ':' 0 0 year) (hfield : Occurs ':' 0 0 field) :
    Occurs ':' 0 0 (calendarDay year field) :=
  (((hyear.mul (symbol (by decide))).mul hfield).mul (symbol (by decide))).mul hfield

theorem dash_calendarDay (hyear : Occurs '-' least most year) (hfield : Occurs '-' 0 0 field) :
    Occurs '-' (least + 2) (most + 2) (calendarDay year field) :=
  (((hyear.mul symbol_self).mul hfield).mul symbol_self).mul hfield

theorem colon_timeOfDay (hfield : Occurs ':' 0 0 field) : Occurs ':' 2 2 (timeOfDay field) :=
  (((hfield.mul symbol_self).mul hfield).mul symbol_self).mul hfield

theorem colon_year : Occurs ':' 0 0 Form.year :=
  (blanks (by decide)).mul
    (((symbol (by decide)).mul (digits (by decide) _)).add (digits (by decide) _))

theorem dash_year : Occurs '-' 0 1 Form.year :=
  (blanks (by decide)).mul
    (((symbol_le _).mul (digits (by decide) _)).add
      ((digits (by decide) _).mono (Nat.le_refl 0) (Nat.zero_le 1)))

theorem colon_localTime : Occurs ':' 2 2 localTime := by
  have hfield (lengths : Set Nat) : Occurs ':' 0 0 (Form.digits lengths) := digits (by decide) _
  have hpoint : Occurs ':' 0 0 point := one.add ((symbol (by decide)).mul (hfield _))
  exact (((colon_calendarDay (hfield _) (hfield _)).mul (symbol (by decide))).mul
    (colon_timeOfDay (hfield _))).mul hpoint

theorem colon_offset : Occurs ':' 1 1 offset :=
  (((symbol (by decide)).mul (digits (by decide) _)).mul symbol_self).mul (digits (by decide) _)

end Occurs

/-- Whether a text ends with a digit. -/
def endsInDigit (cs : List Char) : Bool :=
  cs.getLast?.any Decimal.isDigit

theorem endsInDigit_append {cs : List Char} (h : cs ≠ []) (front : List Char) :
    endsInDigit (front ++ cs) = endsInDigit cs := by
  rw [endsInDigit, endsInDigit, List.getLast?_append_of_ne_nil _ h]

theorem endsInDigit_of_mem_utc {cs : List Char} (h : cs ∈ Form.utc) :
    cs ≠ [] ∧ endsInDigit cs = false := by
  obtain ⟨c, hc, rfl⟩ := h
  simp only [List.mem_cons, List.not_mem_nil, or_false] at hc
  rcases hc with rfl | rfl
  · decide
  · decide

theorem endsInDigit_of_mem_number {cs : List Char} (h : cs ∈ Form.number) :
    cs ≠ [] ∧ endsInDigit cs = true := by
  obtain ⟨front, -, ds, ⟨hlength, hdigits⟩, rfl⟩ := Language.mem_mul.1 h
  have hne : ds ≠ [] := List.length_pos_iff.1 hlength.1
  refine ⟨List.append_ne_nil_of_right_ne_nil _ hne, ?_⟩
  rw [endsInDigit_append hne, endsInDigit, List.getLast?_eq_some_getLast hne]
  exact hdigits _ (List.getLast_mem hne)

theorem endsInDigit_of_mem_timeOfDay {cs : List Char} (h : cs ∈ Form.timeOfDay Form.number) :
    cs ≠ [] ∧ endsInDigit cs = true := by
  obtain ⟨front, -, second, hsecond, rfl⟩ := Language.mem_mul.1 h
  obtain ⟨hne, hdigit⟩ := endsInDigit_of_mem_number hsecond
  exact ⟨List.append_ne_nil_of_right_ne_nil _ hne, (endsInDigit_append hne _).trans hdigit⟩

namespace Form

/-- The only form that a text can have. Dates with a time have two colons and dates more than one
dash; an offset brings a third colon, and without it the text ends in a letter. -/
def ofMarks (cs : List Char) : Form :=
  if cs.count ':' = 0 then if 2 ≤ cs.count '-' then date else seconds
  else if cs.count ':' = 2 ∧ endsInDigit cs = true then dateTime
  else rfc3339

theorem ofMarks_eq {f : Form} {cs : List Char} (h : cs ∈ f.language) : ofMarks cs = f := by
  rw [ofMarks]
  -- the marks are counted part by part, along the product that each form is
  cases f with
  | rfc3339 =>
    obtain ⟨front, hfront, zone, hzone, rfl⟩ := Language.mem_mul.1 h
    have hlocal := Occurs.colon_localTime front hfront
    -- the zone is a letter or an offset
    rcases hzone with hzone | hzone
    · have hletter := (Occurs.symbol (by decide) : Occurs ':' 0 0 utc) zone hzone
      obtain ⟨hne, hend⟩ := endsInDigit_of_mem_utc hzone
      rw [List.count_append, endsInDigit_append hne, hend, if_neg (by omega), if_neg (by simp)]
    · have hcolon := Occurs.colon_offset zone hzone
      rw [List.count_append, if_neg (by omega), if_neg (by omega)]
  | dateTime =>
    obtain ⟨front, hfront, time, htime, rfl⟩ := Language.mem_mul.1 h
    have hday := Occurs.colon_calendarDay Occurs.colon_year
      (Occurs.number (by decide) (by decide)) front hfront
    have hcolons := Occurs.colon_timeOfDay (Occurs.number (by decide) (by decide)) time htime
    obtain ⟨hne, hend⟩ := endsInDigit_of_mem_timeOfDay htime
    rw [List.count_append, endsInDigit_append hne, hend, if_neg (by omega),
      if_pos ⟨by omega, rfl⟩]
  | date =>
    have hcolons := Occurs.colon_calendarDay Occurs.colon_year
      (Occurs.number (by decide) (by decide)) cs h
    have hdashes := Occurs.dash_calendarDay Occurs.dash_year
      (Occurs.number (by decide) (by decide)) cs h
    rw [if_pos (by omega), if_pos (by omega)]
  | seconds =>
    have hcolons : Occurs ':' 0 0 seconds.language :=
      (Occurs.one.add (Occurs.symbol (by decide))).mul (Occurs.digits (by decide) _)
    have hdashes : Occurs '-' 0 1 seconds.language :=
      ((Occurs.one.mono (Nat.le_refl 0) (Nat.zero_le 1)).add (Occurs.symbol_le _)).mul
        (Occurs.digits (by decide) _)
    have hcolons := hcolons cs h
    have hdashes := hdashes cs h
    rw [if_pos (by omega), if_neg (by omega)]

/-- No text belongs to two forms. -/
theorem eq_of_mem_language {f g : Form} {cs : List Char} (hf : cs ∈ f.language)
    (hg : cs ∈ g.language) : f = g :=
  (ofMarks_eq hf).symm.trans (ofMarks_eq hg)

/-- A text that one reader takes is left by the others. -/
theorem read_eq_none {f g : Form} (hne : g ≠ f) {cs : List Char} {t : Timestamp}
    (h : f.read cs = some t) : g.read cs = none := by
  rw [Option.eq_none_iff_forall_ne_some]
  exact fun u hu => hne (eq_of_mem_language (mem_language hu) (mem_language h))

/-- Whichever form is tried first, the one reader that takes a text is found. -/
theorem findSome?_read {f : Form} {forms : List Form} (hmem : f ∈ forms) {cs : List Char}
    {t : Timestamp} (h : f.read cs = some t) : forms.findSome? (·.read cs) = some t := by
  induction forms with
  | nil => cases hmem
  | cons g forms ih =>
    rw [List.findSome?_cons]
    by_cases heq : g = f
    · rw [heq, h]
    · rw [read_eq_none heq h]
      exact ih (List.mem_of_ne_of_mem (Ne.symm heq) hmem)

theorem findSome?_read_iff {forms : List Form} {cs : List Char} {t : Timestamp} :
    forms.findSome? (·.read cs) = some t ↔ ∃ f ∈ forms, f.read cs = some t := by
  constructor
  · exact List.exists_of_findSome?_eq_some
  · rintro ⟨f, hmem, h⟩
    exact findSome?_read hmem h

theorem ofChars?_eq_some_iff {cs : List Char} {t : Timestamp} :
    ofChars? cs = some t ↔ ∃ f : Form, f.read cs = some t := by
  have horder : ofChars? cs = [rfc3339, dateTime, date, seconds].findSome? (·.read cs) := by
    simp only [ofChars?, List.findSome?_cons, List.findSome?_nil, read]
    cases ofRfc3339? cs <;> cases ofDateTime? cs <;> cases ofDate? cs <;> cases ofUnixText? cs <;>
      rfl
  have hall (f : Form) : f ∈ [rfc3339, dateTime, date, seconds] := by cases f <;> decide
  rw [horder, findSome?_read_iff]
  exact exists_congr fun f => and_iff_right (hall f)

/-- A text of a form is read by the reader of the form. -/
theorem ofChars?_of_mem {f : Form} {cs : List Char} (h : cs ∈ f.language) :
    ofChars? cs = f.read cs := by
  refine Option.ext fun t => ?_
  rw [ofChars?_eq_some_iff]
  constructor
  · rintro ⟨g, hg⟩
    rwa [eq_of_mem_language h (mem_language hg)]
  · exact fun hf => ⟨f, hf⟩

end Form

/-- The four forms do not overlap. At most one reader takes a text without its outer blanks, so they
may be tried in any order, even more than once; the characters alone leave at most one form, and
what is read of a text of a form is what the reader of the form reads. -/
theorem forms_disjoint (s : String) :
    (∀ f g : Form, (f.read (Text.trim s.toList)).isSome = true →
      (g.read (Text.trim s.toList)).isSome = true → f = g) ∧
    (∀ forms : List Form, (∀ f, f ∈ forms) →
      forms.findSome? (·.read (Text.trim s.toList)) = ofJson? (.string s)) ∧
    (∀ f g : Form, Text.trim s.toList ∈ f.language → Text.trim s.toList ∈ g.language → f = g) ∧
    ∀ (f : Form) (t : Timestamp), f.read (Text.trim s.toList) = some t ↔
      Text.trim s.toList ∈ f.language ∧ ofJson? (.string s) = some t := by
  refine ⟨fun f g hf hg => ?_, fun forms hall => ?_, fun f g => Form.eq_of_mem_language,
    fun f t => ⟨fun h => ?_, fun ⟨hmem, h⟩ => ?_⟩⟩
  · obtain ⟨t, hf⟩ := Option.isSome_iff_exists.1 hf
    obtain ⟨u, hg⟩ := Option.isSome_iff_exists.1 hg
    exact Form.eq_of_mem_language (Form.mem_language hf) (Form.mem_language hg)
  · refine Option.ext fun t => ?_
    rw [Form.findSome?_read_iff, ofJson?, Form.ofChars?_eq_some_iff]
    exact exists_congr fun f => and_iff_right (hall f)
  · have hmem := Form.mem_language h
    exact ⟨hmem, (Form.ofChars?_of_mem hmem).trans h⟩
  · exact (Form.ofChars?_of_mem hmem).symm.trans h

theorem forms_disjoint_lenient :
    [Form.seconds, .date, .dateTime, .rfc3339].findSome?
        (·.read (Text.trim " 2024-03-01 12:00:00+02:00".toList)) = some ⟨1709287200, 0⟩ ∧
    [Form.seconds, .date, .dateTime, .rfc3339].findSome?
        (·.read (Text.trim "+2024-3- 1 8:05:00".toList)) = some ⟨1709280300, 0⟩ ∧
    Text.trim "-1-1-1".toList ∉ Form.seconds.language ∧
    (Form.date.read (Text.trim "-11".toList)).isSome = false ∧
    ofJson? (.string "-11") = some ⟨-11, 0⟩ := by
  have hall (f : Form) : f ∈ [Form.seconds, .date, .dateTime, .rfc3339] := by cases f <;> decide
  have hdate : Form.date.read (Text.trim "-1-1-1".toList) = some ⟨-62198755200, 0⟩ := by
    decide +kernel
  have hseconds : Form.seconds.read (Text.trim "-11".toList) = some ⟨-11, 0⟩ := by decide +kernel
  refine ⟨((forms_disjoint " 2024-03-01 12:00:00+02:00").2.1 _ hall).trans (by decide +kernel),
    ((forms_disjoint "+2024-3- 1 8:05:00").2.1 _ hall).trans (by decide +kernel), fun hmem => ?_,
    ?_, (((forms_disjoint "-11").2.2.2 .seconds _).1 hseconds).2⟩
  · have hform := ((forms_disjoint "-1-1-1").2.2.2 .date _).1 hdate
    exact absurd ((forms_disjoint "-1-1-1").2.2.1 .date .seconds hform.1 hmem) (by decide)
  · rw [Bool.eq_false_iff]
    intro h
    have hsome : (Form.seconds.read (Text.trim "-11".toList)).isSome = true := by rw [hseconds]; rfl
    exact absurd ((forms_disjoint "-11").1 .date .seconds h hsome) (by decide)

end Criteria.Timestamp
