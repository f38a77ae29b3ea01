/-!
# Decimal notation of integers

Writing integers in base ten, and reading them back within 64 bits: an optional sign, then ASCII
digits only. Main statements: `natOfDigits?_digits` and `intOfChars?_ofInt`, a printed integer reads
back, and `wordOfChars?_eq`, the reader of 64 bits, which stops counting early, gives the exact value.
-/

namespace Criteria.Decimal

/-! ### Digits -/

/-- Whether `c` is one of `0` to `9`. -/
def isDigit (c : Char) : Bool :=
  '0' ≤ c && c ≤ '9'

/-- The number that a digit stands for. -/
def digitValue (c : Char) : Nat :=
  c.toNat - '0'.toNat

/-- The digit that stands for a number below ten. -/
def digitChar (n : Nat) : Char :=
  Char.ofNat ('0'.toNat + n)

/-- The digits of a number, without leading zeros. -/
def digits (n : Nat) : List Char :=
  if n < 10 then [digitChar n] else digits (n / 10) ++ [digitChar (n % 10)]

/-- The value of a run of digits, most significant first. -/
def valueOf (cs : List Char) : Nat :=
  cs.foldl (fun value c => 10 * value + digitValue c) 0

/-- A number in decimal notation. -/
def ofNat (n : Nat) : String :=
  String.ofList (digits n)

/-- An integer in decimal notation, a minus sign in front where it is negative. -/
def ofInt (i : Int) : String :=
  if i < 0 then String.ofList ('-' :: digits i.natAbs) else ofNat i.natAbs

/-- At least `width` digits, zeros in front. -/
def padded (width n : Nat) : String :=
  let ds := digits n
  String.ofList (List.replicate (width - ds.length) '0' ++ ds)

/-! ### Reading -/

/-- Whether an integer fits into 64 bits with a sign. -/
def fitsWord (i : Int) : Bool :=
  -9223372036854775808 ≤ i && i ≤ 9223372036854775807

/-- A non-empty run of digits and nothing else. -/
def natOfDigits? (cs : List Char) : Option Nat :=
  if !cs.isEmpty && cs.all isDigit then some (valueOf cs) else none

/-- An integer with at most one sign, of any size. -/
def intOfChars? : List Char → Option Int
  | '-' :: cs => (natOfDigits? cs).map fun n => -(n : Int)
  | '+' :: cs => (natOfDigits? cs).map fun n => (n : Int)
  | cs => (natOfDigits? cs).map fun n => (n : Int)

/-! ### Reading with a bound

The value of a long run of digits takes long to compute, and a reader that would refuse it anyway
need not know it.
-/

/-- The value of a run of digits, or the bound where the value is beyond it. -/
def valueUpTo (bound : Nat) (cs : List Char) : Nat :=
  cs.foldl (fun value c => min (10 * value + digitValue c) bound) 0

/-- A non-empty run of digits and nothing else, up to a bound. -/
def natUpTo? (bound : Nat) (cs : List Char) : Option Nat :=
  if !cs.isEmpty && cs.all isDigit then some (valueUpTo bound cs) else none

/-- An integer with at most one sign, its magnitude up to a bound. -/
def intUpTo? (bound : Nat) : List Char → Option Int
  | '-' :: cs => (natUpTo? bound cs).map fun n => -(n : Int)
  | '+' :: cs => (natUpTo? bound cs).map fun n => (n : Int)
  | cs => (natUpTo? bound cs).map fun n => (n : Int)

/-- The least magnitude that 64 bits hold with neither sign. -/
def wordBound : Nat := 9223372036854775809

/-- An integer of 64 bits: one optional sign, ASCII digits, nothing around them. -/
def wordOfChars? (cs : List Char) : Option Int :=
  (intUpTo? wordBound cs).filter fitsWord

/-! ### Reading what was written -/

theorem isDigit_digitChar (n : Nat) (h : n < 10) : isDigit (digitChar n) = true := by
  have : ∀ m : Fin 10, isDigit (digitChar m) = true := by decide
  exact this ⟨n, h⟩

theorem digitValue_digitChar (n : Nat) (h : n < 10) : digitValue (digitChar n) = n := by
  have : ∀ m : Fin 10, digitValue (digitChar m) = m := by decide
  exact this ⟨n, h⟩

theorem digits_ne_nil (n : Nat) : digits n ≠ [] := by
  rw [digits]; split <;> simp

theorem isDigit_of_mem_digits (n : Nat) : ∀ c ∈ digits n, isDigit c = true := by
  induction n using Nat.strongRecOn with
  | _ n ih =>
    rw [digits]
    split
    · next h => simpa using isDigit_digitChar n h
    · next h =>
      intro c hc
      rcases List.mem_append.1 hc with hc | hc
      · exact ih (n / 10) (by omega) c hc
      · rw [List.mem_singleton.1 hc]
        exact isDigit_digitChar _ (Nat.mod_lt _ (by decide))

theorem valueOf_append_singleton (cs : List Char) (c : Char) :
    valueOf (cs ++ [c]) = 10 * valueOf cs + digitValue c := by
  simp [valueOf]

theorem valueOf_digits (n : Nat) : valueOf (digits n) = n := by
  induction n using Nat.strongRecOn with
  | _ n ih =>
    rw [digits]
    split
    · next h => simp [valueOf, digitValue_digitChar n h]
    · next h =>
      rw [valueOf_append_singleton, ih (n / 10) (by omega),
        digitValue_digitChar _ (Nat.mod_lt _ (by decide))]
      omega

theorem natOfDigits?_digits (n : Nat) : natOfDigits? (digits n) = some n := by
  have h : (digits n).all isDigit = true := List.all_eq_true.2 (isDigit_of_mem_digits n)
  simp [natOfDigits?, digits_ne_nil, h, valueOf_digits]

theorem intOfChars?_of_isDigit (c : Char) (cs : List Char) (h : isDigit c = true) :
    intOfChars? (c :: cs) = (natOfDigits? (c :: cs)).map fun n => (n : Int) := by
  unfold intOfChars?
  split
  · next heq => obtain ⟨rfl, -⟩ := List.cons.inj heq; simp [isDigit] at h
  · next heq => obtain ⟨rfl, -⟩ := List.cons.inj heq; simp [isDigit] at h
  · rfl

/-- A printed integer reads back. -/
theorem intOfChars?_ofInt (i : Int) : intOfChars? (ofInt i).toList = some i := by
  have hd := isDigit_of_mem_digits i.natAbs
  have hv := natOfDigits?_digits i.natAbs
  unfold ofInt
  split
  · next h =>
    rw [String.toList_ofList, intOfChars?, hv]
    show some (-(i.natAbs : Int)) = some i
    rw [show -(i.natAbs : Int) = i by omega]
  · next h =>
    rw [ofNat, String.toList_ofList]
    cases hc : digits i.natAbs with
    | nil => exact absurd hc (digits_ne_nil _)
    | cons c cs =>
      rw [hc] at hd hv
      rw [intOfChars?_of_isDigit c cs (hd c (by simp)), hv]
      show some (i.natAbs : Int) = some i
      rw [show (i.natAbs : Int) = i by omega]

/-! ### The bound does not show -/

theorem valueUpTo_eq (bound : Nat) (cs : List Char) :
    valueUpTo bound cs = min (valueOf cs) bound := by
  have step : ∀ v w : Nat, v = min w bound →
      cs.foldl (fun value c => min (10 * value + digitValue c) bound) v =
        min (cs.foldl (fun value c => 10 * value + digitValue c) w) bound := by
    induction cs with
    | nil => intro v w h; exact h
    | cons c cs ih => intro v w h; exact ih _ _ (by dsimp only; omega)
  exact step 0 0 (by omega)

theorem natUpTo?_eq (bound : Nat) (cs : List Char) :
    natUpTo? bound cs = (natOfDigits? cs).map (min · bound) := by
  unfold natUpTo? natOfDigits?
  split <;> simp [valueUpTo_eq]

/-- Reading 64 bits never sees the bound. -/
theorem wordOfChars?_eq (cs : List Char) : wordOfChars? cs = (intOfChars? cs).filter fitsWord := by
  have low (n : Nat) : (some (-(min n wordBound : Nat) : Int)).filter fitsWord =
      (some (-(n : Int))).filter fitsWord := by
    simp only [Option.filter, fitsWord, wordBound, decide_eq_true_eq, Bool.and_eq_true]
    grind
  have high (n : Nat) : (some ((min n wordBound : Nat) : Int)).filter fitsWord =
      (some (n : Int)).filter fitsWord := by
    simp only [Option.filter, fitsWord, wordBound, decide_eq_true_eq, Bool.and_eq_true]
    grind
  unfold wordOfChars? intUpTo? intOfChars?
  split <;> simp only [natUpTo?_eq]
  · cases natOfDigits? _ with
    | none => rfl
    | some n => exact low n
  · cases natOfDigits? _ with
    | none => rfl
    | some n => exact high n
  · cases natOfDigits? _ with
    | none => rfl
    | some n => exact high n

end Criteria.Decimal
