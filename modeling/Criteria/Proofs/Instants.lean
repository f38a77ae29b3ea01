import Criteria.Clause.TimestampRange
import Criteria.Proofs.Dates
import Criteria.Proofs.Digits
import Criteria.Timestamp.Printer

/-!
# Texts of instants

An RFC 3339 text says when it is in some place, and how far that place is from UTC. `Rfc3339` holds
the parts of such a text: every text of this form is read as the instant that its parts mean, and
every instant that is ever read has one for each offset under which its year has four digits. Main
statements: `Timestamp.ofJson?_rfc3339`, `Timestamp.exists_rfc3339`, and from them
`Timestamp.texts_read_back`.
-/

namespace Criteria

/-! ### Numbers of a fixed width -/

namespace Decimal

theorem length_digits_le {width n : Nat} (hwidth : width ≠ 0) (h : n < 10 ^ width) :
    (digits n).length ≤ width := by
  induction width generalizing n with
  | zero => exact absurd rfl hwidth
  | succ width ih =>
    rw [digits]
    split
    · exact Nat.succ_le_succ (Nat.zero_le _)
    · next hn =>
      have hwidth' : width ≠ 0 := by
        rintro rfl
        exact hn h
      have hdiv : n / 10 < 10 ^ width := by
        rw [Nat.pow_succ] at h
        omega
      rw [List.length_append, List.length_singleton]
      exact Nat.succ_le_succ (ih hwidth' hdiv)

theorem valueOf_zeros (k : Nat) (cs : List Char) :
    valueOf (List.replicate k '0' ++ cs) = valueOf cs := by
  induction k with
  | zero => rfl
  | succ k ih => rw [List.replicate_succ, List.cons_append, ← ih]; rfl

theorem length_padded {width n : Nat} (hwidth : width ≠ 0) (h : n < 10 ^ width) :
    (padded width n).toList.length = width := by
  rw [padded, String.toList_ofList, List.length_append, List.length_replicate]
  exact Nat.sub_add_cancel (length_digits_le hwidth h)

theorem valueOf_padded (width n : Nat) : valueOf (padded width n).toList = n := by
  rw [padded, String.toList_ofList, valueOf_zeros, valueOf_digits]

theorem isDigit_of_mem_padded {width n : Nat} {c : Char} (h : c ∈ (padded width n).toList) :
    isDigit c = true := by
  rw [padded, String.toList_ofList, List.mem_append] at h
  rcases h with h | h
  · rw [List.eq_of_mem_replicate h]
    decide
  · exact isDigit_of_mem_digits n c h

theorem padded_ne_nil (width n : Nat) : (padded width n).toList ≠ [] := by
  rw [padded, String.toList_ofList]
  exact List.append_ne_nil_of_right_ne_nil _ (digits_ne_nil n)

/-- So many digits have a value below that power of ten. -/
theorem valueOf_lt {ds : List Char} (h : ∀ c ∈ ds, isDigit c = true) :
    valueOf ds < 10 ^ ds.length := by
  induction ds using List.reverseRecOn with
  | nil => decide
  | append_singleton ds d ih =>
    have hd := toNat_of_isDigit (h d (by simp))
    have hds := ih fun c hc => h c (by simp [hc])
    have hvalue : digitValue d ≤ 9 := by
      show d.toNat - 48 ≤ 9
      omega
    rw [valueOf_append_singleton, List.length_append, List.length_singleton, Nat.pow_succ]
    omega

end Decimal

namespace Timestamp

theorem fixedDigits_padded {width n : Nat} (hwidth : width ≠ 0) (h : n < 10 ^ width)
    (rest : List Char) :
    fixedDigits width ((Decimal.padded width n).toList ++ rest) = some (n, rest) := by
  have hlength := Decimal.length_padded hwidth h
  have hdigits : (Decimal.padded width n).toList.all Decimal.isDigit = true :=
    List.all_eq_true.2 fun _ => Decimal.isDigit_of_mem_padded
  rw [fixedDigits, List.take_left' hlength, List.drop_left' hlength]
  simp only [hlength, hdigits, Decimal.valueOf_padded, and_self, if_true]

theorem fixedDigits_two {n : Nat} (h : n < 100) (rest : List Char) :
    fixedDigits 2 ((Decimal.padded 2 n).toList ++ rest) = some (n, rest) :=
  fixedDigits_padded (by decide) h rest

theorem literal_cons (c : Char) (rest : List Char) : literal c (c :: rest) = some rest := by
  rw [literal, if_pos rfl]

end Timestamp

/-! ### Parts of a text -/

/-- A text for the offset from UTC, which is given in minutes. -/
inductive IsOffset : Int → List Char → Prop
  | utc {c : Char} (h : c = 'Z' ∨ c = 'z') : IsOffset 0 [c]
  | ahead {hours minutes : Nat} (hhours : hours < 24) (hminutes : minutes < 60) :
      IsOffset (hours * 60 + minutes : Nat)
        ('+' :: ((Decimal.padded 2 hours).toList ++ ':' :: (Decimal.padded 2 minutes).toList))
  | behind {sign : Char} (hsign : sign = '-' ∨ sign = '\u2212') {hours minutes : Nat}
      (hhours : hours < 24) (hminutes : minutes < 60) :
      IsOffset (-(hours * 60 + minutes : Nat))
        (sign :: ((Decimal.padded 2 hours).toList ++ ':' :: (Decimal.padded 2 minutes).toList))

/-- The parts of an RFC 3339 text. -/
structure Rfc3339 where
  date : Date
  date_isValid : date.isValid = true
  year_mem : 0 ≤ date.year ∧ date.year ≤ 9999
  separator : Char
  separator_mem : separator = 'T' ∨ separator = 't' ∨ separator = ' '
  hour : Nat
  hour_lt : hour < 24
  minute : Nat
  minute_lt : minute < 60
  /-- The second of the minute; 60 is a leap second. -/
  second : Nat
  second_le : second ≤ 60
  /-- The digits behind the point; without any there is no point. -/
  digits : List Char
  digits_isDigit : ∀ c ∈ digits, Decimal.isDigit c = true
  /-- How many minutes local time is ahead of UTC. -/
  offset : Int
  zone : List Char
  zone_isOffset : IsOffset offset zone

namespace Rfc3339

/-- The digits of a fraction behind their point. -/
def pointed : List Char → List Char
  | [] => []
  | d :: ds => '.' :: d :: ds

/-- The text of the parts. -/
def text (a : Rfc3339) : String :=
  Decimal.padded 4 a.date.year.natAbs ++ "-" ++ Decimal.padded 2 a.date.month ++ "-" ++
    Decimal.padded 2 a.date.day ++ String.ofList [a.separator] ++ Decimal.padded 2 a.hour ++ ":" ++
    Decimal.padded 2 a.minute ++ ":" ++ Decimal.padded 2 a.second ++
    String.ofList (pointed a.digits) ++ String.ofList a.zone

/-- The instant that the parts mean. A leap second is a fraction of second 59. -/
def instant (a : Rfc3339) : Timestamp where
  seconds := a.date.toDays * 86400 + (a.hour * 3600 + a.minute * 60 + min a.second 59 : Nat) -
    a.offset * 60
  nanos := Timestamp.nanosOfDigits a.digits +
    if a.second = 60 then Timestamp.nanosPerSecond else 0

end Rfc3339

namespace IsOffset

variable {offset : Int} {zone : List Char}

/-- An offset begins with something that is neither a digit nor a point. -/
theorem exists_cons (h : IsOffset offset zone) :
    ∃ c rest, zone = c :: rest ∧ Decimal.isDigit c = false ∧ c ≠ '.' := by
  cases h with
  | utc h => exact ⟨_, _, rfl, by rcases h with rfl | rfl <;> decide⟩
  | ahead => exact ⟨_, _, rfl, by decide⟩
  | behind hsign => exact ⟨_, _, rfl, by rcases hsign with rfl | rfl <;> decide⟩

/-- An offset ends with a letter or a digit. -/
theorem isBlank_of_getLast? (h : IsOffset offset zone) :
    ∀ c ∈ zone.getLast?, Text.isBlank c = false := by
  have hminutes {front : List Char} {minutes : Nat} :
      ∀ c ∈ (front ++ (Decimal.padded 2 minutes).toList).getLast?, Text.isBlank c = false := by
    intro c hc
    rw [List.getLast?_append_of_ne_nil _ (Decimal.padded_ne_nil _ _)] at hc
    exact Decimal.isBlank_of_isDigit (Decimal.isDigit_of_mem_padded (List.mem_of_getLast? hc))
  cases h with
  | utc h =>
    intro c hc
    obtain rfl := Option.some.inj hc
    rcases h with rfl | rfl <;> decide
  | @ahead hours minutes =>
    rw [List.append_cons, ← List.cons_append]
    exact hminutes
  | @behind sign _ hours minutes =>
    rw [List.append_cons, ← List.cons_append]
    exact hminutes

/-- Hours and minutes behind a sign, with nothing behind them. -/
theorem offset?_signed {sign : Char} (hsign : sign ≠ 'Z' ∧ sign ≠ 'z') {hours minutes : Nat}
    (hhours : hours < 24) (hminutes : minutes < 60) :
    Timestamp.offset? (sign :: ((Decimal.padded 2 hours).toList ++
        ':' :: (Decimal.padded 2 minutes).toList)) =
      if sign = '+' then some ((hours * 3600 + minutes * 60 : Nat) : Int)
      else if sign = '-' ∨ sign = '\u2212' then some (-((hours * 3600 + minutes * 60 : Nat) : Int))
      else none := by
  have hfirst := Timestamp.fixedDigits_two (n := hours) (by omega)
  have hsecond := Timestamp.fixedDigits_two (n := minutes) (by omega) []
  rw [List.append_nil] at hsecond
  rw [Timestamp.offset?]
  · simp [hfirst, hsecond, Timestamp.literal_cons, hhours, hminutes]
  · rintro rfl
    simp at hsign
  · rintro rfl
    simp at hsign

/-- An offset is read in seconds. -/
theorem offset?_eq (h : IsOffset offset zone) : Timestamp.offset? zone = some (offset * 60) := by
  cases h with
  | utc h => rcases h with rfl | rfl <;> rfl
  | @ahead hours minutes hhours hminutes =>
    rw [offset?_signed (by decide) hhours hminutes, if_pos rfl]
    congr 1
    omega
  | @behind sign hsign hours minutes hhours hminutes =>
    have hplus : sign ≠ '+' := by rcases hsign with rfl | rfl <;> decide
    have hletter : sign ≠ 'Z' ∧ sign ≠ 'z' := by rcases hsign with rfl | rfl <;> decide
    rw [offset?_signed hletter hhours hminutes, if_neg hplus, if_pos hsign]
    congr 1
    omega

end IsOffset

/-! ### Reading a text -/

namespace Timestamp

/-- Digits behind a point are read to the last, and no point is needed without them. -/
theorem fraction_pointed {ds : List Char} (hds : ∀ c ∈ ds, Decimal.isDigit c = true) {c : Char}
    (hc : Decimal.isDigit c = false) (hpoint : c ≠ '.') (rest : List Char) :
    fraction (Rfc3339.pointed ds ++ c :: rest) = some (nanosOfDigits ds, c :: rest) := by
  have hstop : ¬ Decimal.isDigit c = true := by rw [hc]; exact Bool.false_ne_true
  cases ds with
  | nil =>
    rw [Rfc3339.pointed, List.nil_append, fraction]
    · rfl
    · rintro _ heq
      exact hpoint (List.cons.inj heq).1
  | cons d ds =>
    have htake : (d :: ds ++ c :: rest).takeWhile Decimal.isDigit = d :: ds := by
      rw [List.takeWhile_append_of_pos hds, List.takeWhile_cons_of_neg hstop, List.append_nil]
    have hdrop : (d :: ds ++ c :: rest).dropWhile Decimal.isDigit = c :: rest := by
      rw [List.dropWhile_append_of_pos hds, List.dropWhile_cons_of_neg hstop]
    rw [Rfc3339.pointed, List.cons_append, fraction]
    simp only [htake, hdrop, List.isEmpty_cons, Bool.false_eq_true, if_false]

theorem ofFields?_eq {date : Date} (hdate : date.isValid = true) {hour minute second : Nat}
    (hhour : hour < 24) (hminute : minute < 60) (hsecond : second ≤ 60) (fraction : Nat) :
    ofFields? date hour minute second fraction =
      some ⟨date.toDays * 86400 + (hour * 3600 + minute * 60 + min second 59 : Nat),
        fraction + if second = 60 then nanosPerSecond else 0⟩ := by
  have hleap : second - second / 60 = min second 59 := by omega
  have hnanos : second / 60 * nanosPerSecond = if second = 60 then nanosPerSecond else 0 := by
    split
    · next h => rw [h, Nat.div_self (by decide), Nat.one_mul]
    · rw [Nat.div_eq_of_lt (by omega), Nat.zero_mul]
  rw [ofFields?, if_pos (by simp [hdate, hhour, hminute, hsecond])]
  simp only [hleap, hnanos, secondsPerDay]

theorem bind_of_eq_some {α β : Type} {x : Option α} {a : α} {f : α → Option β} {b : β}
    (h : x = some a) (hf : f a = some b) : (x >>= f) = some b :=
  Option.bind_eq_some_iff.2 ⟨a, h, hf⟩

/-- A text of the form is read as the instant that its parts mean. -/
theorem ofRfc3339?_text (a : Rfc3339) : ofRfc3339? a.text.toList = some a.instant := by
  obtain ⟨hmonth, hday⟩ := Date.lt_of_isValid a.date_isValid
  obtain ⟨c, rest, hzone, hc, hpoint⟩ := a.zone_isOffset.exists_cons
  have hyear : a.date.year.natAbs < 10 ^ 4 := by
    have := a.year_mem
    omega
  have hminute := a.minute_lt
  have hhour := a.hour_lt
  have hsecond := a.second_le
  have hseparator (cs : List Char) : (literal 'T' (a.separator :: cs) <|>
      literal 't' (a.separator :: cs) <|> literal ' ' (a.separator :: cs)) = some cs := by
    rcases a.separator_mem with h | h | h <;> rw [h] <;> simp [literal]
  have hfraction : fraction (Rfc3339.pointed a.digits ++ a.zone) =
      some (nanosOfDigits a.digits, a.zone) := by
    rw [hzone, fraction_pointed a.digits_isDigit hc hpoint]
  have hdate : (⟨(a.date.year.natAbs : Int), a.date.month, a.date.day⟩ : Date) = a.date := by
    rw [Int.natAbs_of_nonneg a.year_mem.1]
  rw [Rfc3339.text, ofRfc3339?]
  simp only [String.toList_append, String.toList_ofList, List.append_assoc]
  -- one step of the reader for each part of the text
  refine bind_of_eq_some (fixedDigits_padded (by decide) hyear _) ?_
  refine bind_of_eq_some (literal_cons _ _) ?_
  refine bind_of_eq_some (fixedDigits_two hmonth _) ?_
  refine bind_of_eq_some (literal_cons _ _) ?_
  refine bind_of_eq_some (fixedDigits_two hday _) ?_
  refine bind_of_eq_some (hseparator _) ?_
  refine bind_of_eq_some (fixedDigits_two (by omega) _) ?_
  refine bind_of_eq_some (literal_cons _ _) ?_
  refine bind_of_eq_some (fixedDigits_two (by omega) _) ?_
  refine bind_of_eq_some (literal_cons _ _) ?_
  refine bind_of_eq_some (fixedDigits_two (by omega) _) ?_
  refine bind_of_eq_some hfraction ?_
  refine bind_of_eq_some a.zone_isOffset.offset?_eq ?_
  rw [hdate]
  exact bind_of_eq_some (ofFields?_eq a.date_isValid hhour hminute hsecond _) rfl

/-- A text of the form has no blanks around it. -/
theorem trim_text (a : Rfc3339) : Text.trim a.text.toList = a.text.toList := by
  refine Text.trim_of_ends (fun c hc => ?_) fun c hc => ?_
  · simp only [Rfc3339.text, String.toList_append, List.append_assoc] at hc
    rw [List.head?_append_of_ne_nil _ (Decimal.padded_ne_nil _ _)] at hc
    exact Decimal.isBlank_of_isDigit (Decimal.isDigit_of_mem_padded (List.mem_of_head? hc))
  · obtain ⟨c, rest, hzone, -⟩ := a.zone_isOffset.exists_cons
    rw [Rfc3339.text, String.toList_append, String.toList_ofList,
      List.getLast?_append_of_ne_nil _ (by simp [hzone])] at hc
    exact a.zone_isOffset.isBlank_of_getLast? _ hc

theorem ofJson?_rfc3339 (a : Rfc3339) : ofJson? (.string a.text) = some a.instant := by
  rw [ofJson?, trim_text, ofChars?, ofRfc3339?_text]
  rfl

/-! ### Instants that are read -/

/-- An instant as readers give it: only second 59 of a minute is followed by a leap second. -/
def IsProper (t : Timestamp) : Prop :=
  t.nanos < nanosPerSecond ∨ (t.nanos < 2 * nanosPerSecond ∧ t.seconds % 60 = 59)

theorem isProper_ofSeconds? {seconds : Int} {t : Timestamp} (h : ofSeconds? seconds = some t) :
    t.IsProper := by
  rw [ofSeconds?] at h
  split at h
  · cases h
    exact Or.inl (by simp [nanosPerSecond])
  · cases h

theorem nanosOfDigits_lt {ds : List Char} (h : ∀ c ∈ ds, Decimal.isDigit c = true) :
    nanosOfDigits ds < nanosPerSecond := by
  have hlength : (ds.take 9).length ≤ 9 := by
    rw [List.length_take]
    exact Nat.min_le_left _ _
  have hvalue : Decimal.valueOf (ds.take 9) < 10 ^ (ds.take 9).length :=
    Decimal.valueOf_lt fun c hc => h c (List.mem_of_mem_take hc)
  calc nanosOfDigits ds
      < 10 ^ (ds.take 9).length * 10 ^ (9 - (ds.take 9).length) :=
        Nat.mul_lt_mul_of_pos_right hvalue (Nat.pow_pos (by decide))
    _ = nanosPerSecond := by
        rw [← Nat.pow_add, Nat.add_sub_cancel' hlength]
        rfl

theorem fraction_lt {cs rest : List Char} {n : Nat} (h : fraction cs = some (n, rest)) :
    n < nanosPerSecond := by
  unfold fraction at h
  split at h
  · dsimp only at h
    split at h
    · cases h
    · cases h
      refine nanosOfDigits_lt fun c hc => ?_
      exact List.all_eq_true.1 (List.all_takeWhile) c hc
  · cases h
    decide

theorem isProper_ofFields? {date : Date} {hour minute second fraction : Nat} {t : Timestamp}
    (hfraction : fraction < nanosPerSecond)
    (h : ofFields? date hour minute second fraction = some t) : t.IsProper := by
  have hcond : date.isValid = true ∧ hour < 24 ∧ minute < 60 ∧ second ≤ 60 := by
    rw [ofFields?] at h
    split at h
    · next hcond => simpa [and_assoc] using hcond
    · cases h
  obtain ⟨hdate, hhour, hminute, hsecond⟩ := hcond
  rw [ofFields?_eq hdate hhour hminute hsecond] at h
  cases h
  rw [IsProper]
  dsimp only
  split
  · next hleap =>
    rw [hleap]
    exact Or.inr ⟨by omega, by omega⟩
  · exact Or.inl hfraction

/-- Offsets are whole minutes. -/
theorem offset?_eq_some {cs : List Char} {offset : Int} (h : offset? cs = some offset) :
    offset % 60 = 0 := by
  unfold offset? at h
  split at h
  · cases h
    rfl
  · cases h
    rfl
  · obtain ⟨⟨hours, rest⟩, -, h⟩ := Option.bind_eq_some_iff.1 h
    obtain ⟨rest, -, h⟩ := Option.bind_eq_some_iff.1 h
    obtain ⟨⟨minutes, rest⟩, -, h⟩ := Option.bind_eq_some_iff.1 h
    grind
  · cases h

theorem isProper_ofRfc3339? {cs : List Char} {t : Timestamp} (h : ofRfc3339? cs = some t) :
    t.IsProper := by
  rw [ofRfc3339?] at h
  obtain ⟨⟨year, cs⟩, -, h⟩ := Option.bind_eq_some_iff.1 h
  obtain ⟨cs, -, h⟩ := Option.bind_eq_some_iff.1 h
  obtain ⟨⟨month, cs⟩, -, h⟩ := Option.bind_eq_some_iff.1 h
  obtain ⟨cs, -, h⟩ := Option.bind_eq_some_iff.1 h
  obtain ⟨⟨day, cs⟩, -, h⟩ := Option.bind_eq_some_iff.1 h
  obtain ⟨cs, -, h⟩ := Option.bind_eq_some_iff.1 h
  obtain ⟨⟨hour, cs⟩, -, h⟩ := Option.bind_eq_some_iff.1 h
  obtain ⟨cs, -, h⟩ := Option.bind_eq_some_iff.1 h
  obtain ⟨⟨minute, cs⟩, -, h⟩ := Option.bind_eq_some_iff.1 h
  obtain ⟨cs, -, h⟩ := Option.bind_eq_some_iff.1 h
  obtain ⟨⟨second, cs⟩, -, h⟩ := Option.bind_eq_some_iff.1 h
  obtain ⟨⟨nanos, cs⟩, hfraction, h⟩ := Option.bind_eq_some_iff.1 h
  obtain ⟨offset, hoffset, h⟩ := Option.bind_eq_some_iff.1 h
  obtain ⟨u, hfields, h⟩ := Option.bind_eq_some_iff.1 h
  have hu := isProper_ofFields? (fraction_lt hfraction) hfields
  have hminutes := offset?_eq_some hoffset
  cases h
  refine hu.imp_right fun hleap => ⟨hleap.1, ?_⟩
  have hsecond := hleap.2
  dsimp only
  omega

theorem isProper_ofDateTime? {cs : List Char} {t : Timestamp} (h : ofDateTime? cs = some t) :
    t.IsProper := by
  rw [ofDateTime?] at h
  obtain ⟨⟨date, cs⟩, -, h⟩ := Option.bind_eq_some_iff.1 h
  obtain ⟨⟨hour, cs⟩, -, h⟩ := Option.bind_eq_some_iff.1 h
  obtain ⟨cs, -, h⟩ := Option.bind_eq_some_iff.1 h
  obtain ⟨⟨minute, cs⟩, -, h⟩ := Option.bind_eq_some_iff.1 h
  obtain ⟨cs, -, h⟩ := Option.bind_eq_some_iff.1 h
  obtain ⟨⟨second, cs⟩, -, h⟩ := Option.bind_eq_some_iff.1 h
  dsimp only at h
  split at h
  · exact isProper_ofFields? (by decide) h
  · cases h

theorem isProper_ofDate? {cs : List Char} {t : Timestamp} (h : ofDate? cs = some t) :
    t.IsProper := by
  rw [ofDate?] at h
  obtain ⟨⟨date, cs⟩, -, h⟩ := Option.bind_eq_some_iff.1 h
  dsimp only at h
  split at h
  · exact isProper_ofFields? (by decide) h
  · cases h

/-- Whatever is read is a proper instant. -/
theorem isProper_ofJson? {v : Json} {t : Timestamp} (h : ofJson? v = some t) : t.IsProper := by
  unfold ofJson? at h
  split at h
  · simp only [ofChars?, Option.orElse_eq_orElse, Option.orElse_eq_or, Option.or_eq_some_iff] at h
    rcases h with h | ⟨-, h | ⟨-, h | ⟨-, h⟩⟩⟩
    · exact isProper_ofRfc3339? h
    · exact isProper_ofDateTime? h
    · exact isProper_ofDate? h
    · obtain ⟨seconds, -, h⟩ := Option.bind_eq_some_iff.1 h
      exact isProper_ofSeconds? h
  · obtain ⟨seconds, -, h⟩ := Option.bind_eq_some_iff.1 h
    exact isProper_ofSeconds? h
  · cases h

/-! ### Texts of an instant -/

/-- An instant as a clock shows it that is so many minutes ahead of UTC. -/
def shifted (t : Timestamp) (offset : Int) : Timestamp :=
  { t with seconds := t.seconds + offset * 60 }

/-- The text of an offset in minutes. -/
def offsetText (offset : Int) : String :=
  (if offset < 0 then "-" else "+") ++ Decimal.padded 2 (offset.natAbs / 60) ++ ":" ++
    Decimal.padded 2 (offset.natAbs % 60)

/-- The RFC 3339 text of an instant at an offset from UTC in minutes. -/
def textAt (t : Timestamp) (offset : Int) : String :=
  (t.shifted offset).localText ++ offsetText offset

theorem isOffset_offsetText {offset : Int} (hlow : -1440 < offset) (hhigh : offset < 1440) :
    IsOffset offset (offsetText offset).toList := by
  have hhours : offset.natAbs / 60 < 24 := by omega
  have hminutes : offset.natAbs % 60 < 60 := Nat.mod_lt _ (by decide)
  rw [offsetText]
  split
  · have h := IsOffset.behind (Or.inl rfl) hhours hminutes
    rw [show -((offset.natAbs / 60 * 60 + offset.natAbs % 60 : Nat) : Int) = offset by omega] at h
    simpa using h
  · have h := IsOffset.ahead hhours hminutes
    rw [show ((offset.natAbs / 60 * 60 + offset.natAbs % 60 : Nat) : Int) = offset by omega] at h
    simpa using h

theorem nanosOfDigits_padded {width n : Nat} (hwidth : width ≠ 0) (hle : width ≤ 9)
    (h : n < 10 ^ width) :
    nanosOfDigits (Decimal.padded width n).toList = n * 10 ^ (9 - width) := by
  have hlength := Decimal.length_padded hwidth h
  rw [nanosOfDigits, List.take_of_length_le (by omega), Decimal.valueOf_padded, hlength]
  rfl

/-- The digits of a printed fraction. -/
theorem exists_digits {nanos : Nat} (h : nanos < nanosPerSecond) :
    ∃ ds, (∀ c ∈ ds, Decimal.isDigit c = true) ∧
      (fractionText nanos).toList = Rfc3339.pointed ds ∧ nanosOfDigits ds = nanos := by
  have hdigits {width n : Nat} (hwidth : width ≠ 0) (hle : width ≤ 9) (hn : n < 10 ^ width)
      (hnanos : n * 10 ^ (9 - width) = nanos) :
      ∃ ds, (∀ c ∈ ds, Decimal.isDigit c = true) ∧
        ("." ++ Decimal.padded width n).toList = Rfc3339.pointed ds ∧
        nanosOfDigits ds = nanos := by
    refine ⟨_, fun _ => Decimal.isDigit_of_mem_padded, ?_,
      (nanosOfDigits_padded hwidth hle hn).trans hnanos⟩
    rw [String.toList_append]
    cases hlist : (Decimal.padded width n).toList with
    | nil => exact absurd hlist (Decimal.padded_ne_nil width n)
    | cons d ds => rfl
  -- no fraction, or as many digits as the nanoseconds need: three, six or nine
  rw [nanosPerSecond] at h
  rw [fractionText]
  split
  · next hzero =>
    rw [beq_iff_eq] at hzero
    exact ⟨[], by simp, rfl, hzero ▸ rfl⟩
  · split
    · next hmillis =>
      rw [beq_iff_eq] at hmillis
      exact hdigits (by decide) (by decide) (by omega) (by omega)
    · split
      · next hmicros =>
        rw [beq_iff_eq] at hmicros
        exact hdigits (by decide) (by decide) (by omega) (by omega)
      · exact hdigits (by decide) (by decide) (by omega) (by omega)

/-- An instant printed at an offset is a text of the form, and means the instant. -/
theorem exists_rfc3339 {t : Timestamp} (h : t.IsProper) {offset : Int} {zone : String}
    (hzone : IsOffset offset zone.toList) (hmin : 0 ≤ (Date.ofDays (t.shifted offset).day).year)
    (hmax : (Date.ofDays (t.shifted offset).day).year ≤ 9999) :
    ∃ a : Rfc3339, a.text = (t.shifted offset).localText ++ zone ∧ a.instant = t := by
  obtain ⟨seconds, nanos⟩ := t
  obtain ⟨ds, hds, htext, hnanos⟩ :=
    exists_digits (Nat.mod_lt nanos (by decide : 0 < nanosPerSecond))
  obtain ⟨s, hs⟩ : ∃ s, s = (shifted ⟨seconds, nanos⟩ offset).secondOfDay := ⟨_, rfl⟩
  have hday : (seconds + offset * 60) / 86400 * 86400 + (s : Int) = seconds + offset * 60 := by
    rw [hs]
    simp only [shifted, secondOfDay, secondsPerDay]
    omega
  -- a leap second is the last second of its minute
  have hleap : nanos / nanosPerSecond = 0 ∨ nanos / nanosPerSecond = 1 ∧ s % 60 = 59 := by
    simp only [IsProper, nanosPerSecond] at h ⊢
    omega
  have hparts : nanos % nanosPerSecond +
      (if s % 60 + nanos / nanosPerSecond = 60 then nanosPerSecond else 0) = nanos := by
    have hdivide := Nat.mod_add_div nanos nanosPerSecond
    rcases hleap with hzero | ⟨hone, hlast⟩
    · rw [hzero, Nat.mul_zero] at hdivide
      rw [hzero, if_neg (by omega), hdivide]
    · rw [hone, Nat.mul_one] at hdivide
      rw [hone, hlast, if_pos rfl, hdivide]
  refine ⟨⟨Date.ofDays (shifted ⟨seconds, nanos⟩ offset).day,
    Date.isValid_ofDays (by rw [Calendar.minYear]; omega) (by rw [Calendar.maxYear]; omega),
    ⟨hmin, hmax⟩, 'T', Or.inl rfl, s / 3600, by omega, s / 60 % 60, by omega,
    s % 60 + nanos / nanosPerSecond, by omega, ds, hds, offset, zone.toList, hzone⟩, ?_, ?_⟩
  · have hyear : yearText (Date.ofDays (shifted ⟨seconds, nanos⟩ offset).day).year =
        Decimal.padded 4 (Date.ofDays (shifted ⟨seconds, nanos⟩ offset).day).year.natAbs := by
      rw [yearText, if_pos (by simp [hmin, hmax])]
    have hfraction :
        String.ofList (Rfc3339.pointed ds) = fractionText (nanos % nanosPerSecond) := by
      rw [← htext, String.ofList_toList]
    simp only [Rfc3339.text, localText, hyear, hfraction, ← hs, String.ofList_toList]
    rfl
  · rw [Rfc3339.instant, hnanos, Date.toDays_ofDays]
    simp only [shifted, day, secondsPerDay]
    congr 1
    omega

/-- A text of the form means its instant to every comparison. -/
theorem instant_text (filter : String) (a : Rfc3339) :
    Clause.instant filter (.string a.text) = .ok a.instant := by
  rw [Clause.instant, ofJson?_rfc3339]

/-- Timestamps survive printing. An instant that was read is read again from its text at any offset
below a day, and from the text under which it is bound, as long as the year has four digits; and
comparisons bind the same, by whichever of its texts an instant is given, alone or in a pair. -/
theorem texts_read_back {v : Json} {t : Timestamp} (h : ofJson? v = some t) :
    (∀ offset : Int, -1440 < offset → offset < 1440 →
      0 ≤ (Date.ofDays (t.shifted offset).day).year →
      (Date.ofDays (t.shifted offset).day).year ≤ 9999 →
        ofJson? (.string (t.textAt offset)) = some t) ∧
    (0 ≤ (Date.ofDays t.day).year → (Date.ofDays t.day).year ≤ 9999 →
      ofJson? (BindValue.timestamp t).toJson = some t) ∧
    ∀ a b : Rfc3339, a.instant = t → b.instant = t →
      ∀ (filter field : String) (op : Comparison) (table : BindTable),
        (op.isRange = false → ∀ c ∈ [a, b],
          (Clause.comparison filter field op (.string c.text)).outcome table =
            (.ok (field ++ " " ++ op.sql ++ " " ++ (":" ++ table.nextName)),
              table.push (.timestamp t))) ∧
        (op.isRange = true → ∀ other : Json,
          (Clause.comparison filter field op (.array [.string a.text, other])).outcome table =
            (Clause.comparison filter field op (.array [.string b.text, other])).outcome table ∧
          (Clause.comparison filter field op (.array [other, .string a.text])).outcome table =
            (Clause.comparison filter field op
              (.array [other, .string b.text])).outcome table) := by
  -- what was read is an instant of the calendar, so all its texts are of the form
  have hproper := isProper_ofJson? h
  refine ⟨fun offset hlow hhigh hmin hmax => ?_, fun hmin hmax => ?_, ?_⟩
  · obtain ⟨a, htext, hinstant⟩ :=
      exists_rfc3339 hproper (isOffset_offsetText hlow hhigh) hmin hmax
    rw [textAt, ← htext, ofJson?_rfc3339, hinstant]
  · -- a bound instant is printed at the offset zero
    have hshifted : t.shifted 0 = t := by rw [shifted, Int.zero_mul, Int.add_zero]
    have hutc : IsOffset 0 "Z".toList := .utc (Or.inl rfl)
    obtain ⟨a, htext, hinstant⟩ :=
      exists_rfc3339 hproper hutc (hshifted.symm ▸ hmin) (hshifted.symm ▸ hmax)
    rw [hshifted] at htext
    rw [BindValue.toJson, toText, ← htext, ofJson?_rfc3339, hinstant]
  · intro a b ha hb filter field op table
    have hinstant : ∀ c ∈ [a, b], Clause.instant filter (.string c.text) = .ok t := by
      simp only [List.forall_mem_cons, instant_text, ha, hb]
      simp
    refine ⟨fun hop c hc => ?_, fun hop other => ?_⟩
    · rw [Clause.comparison, if_neg (by simp [hop]), hinstant c hc]
      rfl
    · rw [Clause.comparison, Clause.comparison, Clause.comparison, Clause.comparison, if_pos hop,
        if_pos hop, if_pos hop, if_pos hop]
      simp only [Clause.bounds, hinstant a (by simp), hinstant b (by simp), and_self]

/-- The middle of a leap second. -/
def leapSecond : Timestamp :=
  ⟨1483228799, 1500000000⟩

/-- The same, as a clock in India shows it. -/
def leapSecondInIndia : Rfc3339 where
  date := ⟨2017, 1, 1⟩
  date_isValid := by decide
  year_mem := by decide
  separator := 'T'
  separator_mem := Or.inl rfl
  hour := 5
  hour_lt := by decide
  minute := 29
  minute_lt := by decide
  second := 60
  second_le := by decide
  digits := ['5']
  digits_isDigit := by simp [Decimal.isDigit]
  offset := 330
  zone := '+' :: ((Decimal.padded 2 5).toList ++ ':' :: (Decimal.padded 2 30).toList)
  zone_isOffset := @IsOffset.ahead 5 30 (by decide) (by decide)

theorem texts_read_back_leap_second :
    ofJson? (.string "2016-12-31T23:59:60.5Z") = some leapSecond ∧
    leapSecond.textAt 330 = "2017-01-01T05:29:60.500+05:30" ∧
    ofJson? (.string (leapSecond.textAt 330)) = some leapSecond ∧
    ofJson? (BindValue.timestamp leapSecond).toJson = some leapSecond ∧
    leapSecondInIndia.text = "2017-01-01T05:29:60.5+05:30" ∧
    ((Clause.comparison "created" "posts.created_at" .at (.string leapSecondInIndia.text)).outcome
      (.empty "p")).2 = (BindTable.empty "p").push (.timestamp leapSecond) := by
  have hread : ofJson? (.string "2016-12-31T23:59:60.5Z") = some leapSecond := by
    decide +kernel
  obtain ⟨hoffset, hbound, hcompared⟩ := texts_read_back hread
  refine ⟨hread, by decide +kernel, hoffset 330 (by decide) (by decide) (by decide) (by decide),
    hbound (by decide) (by decide), by decide +kernel, ?_⟩
  have hinstant : leapSecondInIndia.instant = leapSecond := by decide +kernel
  have houtcome := (hcompared leapSecondInIndia leapSecondInIndia hinstant hinstant "created"
    "posts.created_at" .at (.empty "p")).1 rfl leapSecondInIndia List.mem_cons_self
  rw [houtcome]

end Timestamp

end Criteria
