import Criteria.BindTable

/-!
# Names of bound values

The name of a value is the stem of the table and the decimal notation of its position. Main
statements: `nth_injective`, no two positions share a name whatever the stem is, and `find?_nth`, a
name finds the value at its position.
-/

namespace Criteria

theorem Decimal.ofNat_injective {m n : Nat} (h : ofNat m = ofNat n) : m = n := by
  have hdigits : digits m = digits n := String.ofList_injective h
  have hvalue := natOfDigits?_digits m
  rw [hdigits, natOfDigits?_digits] at hvalue
  exact (Option.some.inj hvalue).symm

namespace BindTable

/-- The name of a value, its place counted from zero. -/
def nth (stem : String) (i : Nat) : String :=
  nameAt stem (i + 1)

/-- The first names of a stem. -/
def names (stem : String) (n : Nat) : List String :=
  (List.range n).map (nth stem)

theorem nextName_eq_nth (table : BindTable) : table.nextName = nth table.stem table.size := rfl

/-- A stem that ends in a digit does not make two names the same either. -/
theorem nth_injective {stem : String} {i j : Nat} (h : nth stem i = nth stem j) : i = j := by
  have hdecimal : Decimal.ofNat (i + 1) = Decimal.ofNat (j + 1) := by
    apply String.toList_injective
    have hchars := congrArg String.toList h
    simp only [nth, nameAt, String.toList_append] at hchars
    exact List.append_cancel_left hchars
  exact Nat.succ.inj (Decimal.ofNat_injective hdecimal)

theorem keys_named (stem : String) (i : Nat) (values : List BindValue) :
    (named stem (i + 1) values).keys = (List.range' i values.length).map (nth stem) := by
  induction values generalizing i with
  | nil => rfl
  | cons v values ih =>
    rw [named, Assoc.keys_cons, ih, List.length_cons, List.range'_succ, List.map_cons]
    rfl

/-- The names of a table are the first ones, in order. -/
theorem keys_entries (table : BindTable) : table.entries.keys = names table.stem table.size := by
  rw [entries, keys_named, names, List.range_eq_range', Array.length_toList]
  rfl

theorem nodup_names (stem : String) (n : Nat) : (names stem n).Nodup :=
  List.pairwise_map.2 (List.nodup_range.imp fun hij => mt nth_injective hij)

theorem find?_named (stem : String) (i j : Nat) (values : List BindValue) :
    Assoc.find? (nth stem (i + j)) (named stem (i + 1) values) = values[j]? := by
  induction values generalizing i j with
  | nil => rfl
  | cons v values ih =>
    rw [named, Assoc.find?_cons]
    cases j with
    | zero => rw [Nat.add_zero, nth, if_pos rfl, List.getElem?_cons_zero]
    | succ j =>
      have hne : nameAt stem (i + 1) ≠ nth stem (i + (j + 1)) := fun h => by
        have := nth_injective (i := i) (j := i + (j + 1)) h
        omega
      rw [if_neg hne, List.getElem?_cons_succ, ← ih (i + 1) j]
      congr 2
      omega

/-- A name finds the value at its place. -/
theorem find?_nth (table : BindTable) (i : Nat) :
    table.find? (nth table.stem i) = table.values.toList[i]? := by
  rw [find?, entries, ← find?_named table.stem 0 i]
  rw [Nat.zero_add]

end BindTable

end Criteria
