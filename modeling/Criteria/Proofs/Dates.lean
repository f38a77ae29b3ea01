import Criteria.Calendar

/-!
# Days and dates

The day numbers of the calendar cut into dates and put together again. An era is taken apart as the
calendar is made, into centuries, groups of four years, years and days, each of a length that only
its last part may miss; the arithmetic of the conversion then holds of each part. Main statements:
`Date.toDays_ofDays` and `Date.isValid_ofDays`.
-/

namespace Criteria

open Calendar

/-! ### The days of an era -/

/-- A day of an era: centuries, then groups of four years, then years, then days. Years begin in
March, so a leap day ends the last year of its group; the last group of a century goes without it,
unless the century ends the era. -/
structure EraDay where
  century : Int
  group : Int
  year : Int
  day : Int
  century_mem : 0 ≤ century ∧ century ≤ 3
  group_mem : 0 ≤ group ∧ group ≤ 24
  year_mem : 0 ≤ year ∧ year ≤ 3
  day_mem : 0 ≤ day ∧ day ≤ 365
  leap : day = 365 → year = 3 ∧ (group = 24 → century = 3)

namespace EraDay

/-- The days of the era before a day. -/
def number (e : EraDay) : Int :=
  36524 * e.century + 1461 * e.group + 365 * e.year + e.day

/-- The years of the era before the year of a day. -/
def yearOfEra (e : EraDay) : Int :=
  100 * e.century + 4 * e.group + e.year

/-- Every day of an era is one of these. -/
theorem exists_number {n : Int} (h0 : 0 ≤ n) (h : n < daysPerEra) :
    ∃ e : EraDay, e.number = n := by
  -- the last century of an era and the last year of a group are a day longer than the others
  obtain ⟨c, hc⟩ : ∃ c, c = min 3 (n / 36524) := ⟨_, rfl⟩
  obtain ⟨m, hm⟩ : ∃ m, m = n - 36524 * c := ⟨_, rfl⟩
  obtain ⟨r, hr⟩ : ∃ r, r = min 3 (m % 1461 / 365) := ⟨_, rfl⟩
  rw [daysPerEra] at h
  have hcentury : 0 ≤ c ∧ c ≤ 3 := by omega
  have hrest : 0 ≤ m ∧ m ≤ 36524 ∧ (m = 36524 → c = 3) := by omega
  refine ⟨⟨c, m / 1461, r, m % 1461 - 365 * r, hcentury, ?_, ?_, ?_, ?_⟩, ?_⟩
  · omega
  · omega
  · omega
  · omega
  · simp only [number]
    omega

theorem number_mem (e : EraDay) : 0 ≤ e.number ∧ e.number < daysPerEra := by
  obtain ⟨c, q, r, d, hc, hq, hr, hd, hleap⟩ := e
  simp only [number, daysPerEra]
  omega

theorem yearOfEra_mem (e : EraDay) : 0 ≤ e.yearOfEra ∧ e.yearOfEra < 400 := by
  obtain ⟨c, q, r, d, hc, hq, hr, hd, hleap⟩ := e
  simp only [yearOfEra]
  omega

/-- Without its leap days an era would have years of 365 days. -/
theorem yearOfEra_number (e : EraDay) :
    (e.number - e.number / 1460 + e.number / 36524 - e.number / 146096) / 365 = e.yearOfEra := by
  obtain ⟨c, q, r, d, hc, hq, hr, hd, hleap⟩ := e
  simp only [number, yearOfEra]
  generalize hn : 36524 * c + 1461 * q + 365 * r + d = n
  have hcentury : n / 36524 - n / 146096 = c := by
    by_cases hlast : 1461 * q + 365 * r + d = 36524
    · have : c = 3 := by omega
      omega
    · have : n / 36524 = c := by omega
      have : n / 146096 = 0 := by omega
      omega
  -- of every group one day is left over, and of the years in front of a day less than one
  obtain ⟨w, hw⟩ : ∃ w, w = (24 * c + q + 365 * r + d) / 1460 := ⟨_, rfl⟩
  have hgroup : n / 1460 = 25 * c + q + w := by omega
  have hday : 0 ≤ d - w ∧ d - w < 365 := by omega
  rw [hgroup, Int.add_sub_assoc, hcentury, ← hn]
  clear hw hgroup hcentury hleap hn
  omega

theorem day_eq (e : EraDay) :
    e.number - (365 * e.yearOfEra + e.yearOfEra / 4 - e.yearOfEra / 100) = e.day := by
  obtain ⟨c, q, r, d, hc, hq, hr, hd, hleap⟩ := e
  simp only [number, yearOfEra]
  omega

end EraDay

/-! ### Dates of days -/

namespace Date

/-- Every day is one of an era. -/
theorem exists_eraDay (days : Int) :
    ∃ (era : Int) (e : EraDay), days + epochOffset = era * daysPerEra + e.number := by
  have hpos : 0 < daysPerEra := by decide
  obtain ⟨e, he⟩ := EraDay.exists_number (Int.emod_nonneg (days + epochOffset) (Int.ne_of_gt hpos))
    (Int.emod_lt_of_pos (days + epochOffset) hpos)
  exact ⟨(days + epochOffset) / daysPerEra, e, by rw [he, Int.ediv_mul_add_emod]⟩

/-- A day of a year that begins in March lies in one of its months. -/
theorem exists_month {day : Int} (h0 : 0 ≤ day) (h : day ≤ 365) :
    ∃ month k : Nat, month ≤ 11 ∧ (5 * day + 2) / 153 = month ∧
      day = ((153 * month + 2) / 5 + k : Nat) ∧
      (153 * month + 2) / 5 + k < (153 * (month + 1) + 2) / 5 := by
  obtain ⟨month, hmonth⟩ := Int.eq_ofNat_of_zero_le (a := (5 * day + 2) / 153) (by omega)
  obtain ⟨k, hk⟩ := Int.eq_ofNat_of_zero_le (a := day - (153 * month + 2) / 5) (by omega)
  have hstart : (153 * (month : Int) + 2) / 5 = ((153 * month + 2) / 5 : Nat) := by omega
  exact ⟨month, k, by omega, hmonth, by omega, by omega⟩

/-- The date of a day of an era: of the twelve months from March on, the last two belong to the
next year. -/
def ofEra (era : Int) (e : EraDay) (month k : Nat) : Date :=
  if month < 10 then ⟨e.yearOfEra + era * 400, month + 3, k + 1⟩
  else ⟨e.yearOfEra + era * 400 + 1, month - 9, k + 1⟩

theorem ofDays_eq {days era : Int} {e : EraDay} {month k : Nat}
    (h : days + epochOffset = era * daysPerEra + e.number)
    (hmonth : (5 * e.day + 2) / 153 = month) (hday : e.day = ((153 * month + 2) / 5 + k : Nat)) :
    ofDays days = ofEra era e month k := by
  have hmem := e.number_mem
  have hera : (days + epochOffset) / daysPerEra = era := by
    rw [daysPerEra] at h hmem ⊢
    omega
  have hnumber : (days + epochOffset) % daysPerEra = e.number := by
    rw [daysPerEra] at h hmem ⊢
    omega
  have hk : (e.day - (153 * (month : Int) + 2) / 5 + 1).toNat = k + 1 := by omega
  simp only [ofDays, hera, hnumber, e.yearOfEra_number, e.day_eq, hmonth, hk, ofEra]
  by_cases hm : month < 10
  · rw [if_pos hm, if_pos (by omega)]
    congr 1
  · rw [if_neg hm, if_neg (by omega)]
    congr 1
    omega

theorem toDays_ofEra {era : Int} {e : EraDay} {month k : Nat} (hm : month ≤ 11)
    (hday : e.day = ((153 * month + 2) / 5 + k : Nat)) :
    (ofEra era e month k).toDays = era * daysPerEra + e.number - epochOffset := by
  have hmem := e.yearOfEra_mem
  have hd := e.day_eq
  have hera : (e.yearOfEra + era * 400) / 400 = era := by omega
  have hyear : (e.yearOfEra + era * 400) % 400 = e.yearOfEra := by omega
  rw [ofEra]
  split
  · have hlate : ¬ month + 3 ≤ 2 := by omega
    have hmonth : (month + 3 + 9) % 12 = month := by omega
    simp only [toDays, hlate, if_false, hera, hyear, hmonth]
    omega
  · have hearly : month - 9 ≤ 2 := by omega
    have hmonth : (month - 9 + 9) % 12 = month := by omega
    simp only [toDays, hearly, if_true, Int.add_sub_cancel, hera, hyear, hmonth]
    omega

/-- A day is found again from its date. -/
theorem toDays_ofDays (days : Int) : (ofDays days).toDays = days := by
  obtain ⟨era, e, h⟩ := exists_eraDay days
  obtain ⟨month, k, hm, hmonth, hday, -⟩ := exists_month e.day_mem.1 e.day_mem.2
  rw [ofDays_eq h hmonth hday, toDays_ofEra hm hday]
  omega

/-- A month from March to January ends before the first of the next one; the leap day, the last of
February, needs a leap year. -/
theorem le_daysInMonth_ofEra (era : Int) {e : EraDay} {month k : Nat} (hm : month ≤ 11)
    (hday : e.day = ((153 * month + 2) / 5 + k : Nat))
    (hk : (153 * month + 2) / 5 + k < (153 * (month + 1) + 2) / 5) :
    (ofEra era e month k).day ≤
      daysInMonth (ofEra era e month k).year (ofEra era e month k).month := by
  obtain ⟨c, q, r, d, hc, hq, hr, hd, hleap⟩ := e
  simp only [ofEra, EraDay.yearOfEra] at hday ⊢
  split
  · simp only [daysInMonth, beq_iff_eq, Bool.or_eq_true]
    rw [if_neg (by omega)]
    split <;> omega
  · simp only [daysInMonth, beq_iff_eq, Bool.or_eq_true]
    by_cases hl : d = 365
    · have hyear : isLeapYear (100 * c + 4 * q + r + era * 400 + 1) = true := by
        simp only [isLeapYear, Bool.and_eq_true, Bool.or_eq_true, beq_iff_eq, bne_iff_ne]
        omega
      rw [hyear, if_pos rfl]
      split <;> omega
    · split
      · split <;> omega
      · rw [if_neg (by omega)]
        omega

/-- The date of a day is one of the calendar, in the years for which there is one. -/
theorem isValid_ofDays {days : Int} (hmin : minYear ≤ (ofDays days).year)
    (hmax : (ofDays days).year ≤ maxYear) : (ofDays days).isValid = true := by
  obtain ⟨era, e, h⟩ := exists_eraDay days
  obtain ⟨month, k, hm, hmonth, hday, hk⟩ := exists_month e.day_mem.1 e.day_mem.2
  have hlast := le_daysInMonth_ofEra era hm hday hk
  rw [ofDays_eq h hmonth hday] at hmin hmax ⊢
  have hmonth : 1 ≤ (ofEra era e month k).month ∧ (ofEra era e month k).month ≤ 12 ∧
      1 ≤ (ofEra era e month k).day := by
    rw [ofEra]
    split <;> dsimp only <;> omega
  simp only [isValid, Bool.and_eq_true, decide_eq_true_eq]
  exact ⟨⟨⟨⟨⟨hmin, hmax⟩, hmonth.1⟩, hmonth.2.1⟩, hmonth.2.2⟩, hlast⟩

/-- The month and the day of a date of the calendar have at most two digits. -/
theorem lt_of_isValid {d : Date} (h : d.isValid = true) : d.month < 100 ∧ d.day < 100 := by
  simp only [isValid, Bool.and_eq_true, decide_eq_true_eq] at h
  have hlast : daysInMonth d.year d.month ≤ 31 := by
    rw [daysInMonth]
    split
    · split <;> decide
    · split <;> decide
  omega

end Date

end Criteria
