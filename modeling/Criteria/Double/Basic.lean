/-!
# Finite binary64 numbers

A finite double is a sign and a significand times a power of two. The representation is canonical,
so two doubles are numerically equal when they are the same or both zero. Arithmetic is exact on
rationals and then rounded once, to the nearest double, a tie to the even significand.
-/

namespace Criteria

/-- The leading of the 53 bits of a significand. -/
def Double.leadingBit : Nat := 4503599627370496

/-- The significands and exponents of finite doubles: 53 bits, the leading one set unless the
number is subnormal. -/
def Double.Canonical (significand : Nat) (exponent : Int) : Prop :=
  significand < 2 * leadingBit ∧ -1074 ≤ exponent ∧ exponent ≤ 971 ∧
    (leadingBit ≤ significand ∨ exponent = -1074)

instance (significand : Nat) (exponent : Int) : Decidable (Double.Canonical significand exponent) :=
  inferInstanceAs (Decidable (_ ∧ _ ∧ _ ∧ _))

/-- A finite double, `± significand * 2 ^ exponent`. -/
structure Double where
  negative : Bool
  significand : Nat
  exponent : Int
  canonical : Double.Canonical significand exponent
deriving DecidableEq

namespace Double

/-- Zero, with a sign. -/
def zero (negative : Bool) : Double :=
  ⟨negative, 0, -1074, by decide⟩

instance : Inhabited Double := ⟨zero false⟩

/-- Whether the number is zero, of either sign. -/
def isZero (d : Double) : Bool :=
  d.significand == 0

/-- Numerical equality: the two zeros are equal. -/
def beq (a b : Double) : Bool :=
  (a.isZero && b.isZero) || a == b

/-- The same magnitude with another sign. -/
def withSign (d : Double) (negative : Bool) : Double :=
  { d with negative }

/-! ### Magnitudes as fractions -/

/-- A non-negative fraction; the denominator is never zero where one is built. -/
structure Fraction where
  num : Nat
  den : Nat

/-- The fraction `n * base ^ power`. -/
def Fraction.scaled (n base : Nat) (power : Int) : Fraction :=
  if 0 ≤ power then ⟨n * Nat.pow base power.toNat, 1⟩ else ⟨n, Nat.pow base (-power).toNat⟩

/-- Whether the first fraction is at most the second. -/
def Fraction.le (a b : Fraction) : Bool :=
  a.num * b.den ≤ b.num * a.den

/-- Whether the first fraction is less than the second. -/
def Fraction.lt (a b : Fraction) : Bool :=
  a.num * b.den < b.num * a.den

/-- The magnitude of a double. -/
def magnitude (d : Double) : Fraction :=
  Fraction.scaled d.significand 2 d.exponent

/-! ### Rounding -/

/-- The nearest integer to a quotient, a tie to the even one. -/
def roundHalfEven (num den : Nat) : Nat :=
  let q := num / den
  let r := num % den
  if 2 * r < den then q
  else if den < 2 * r then q + 1
  else q + q % 2

/-- The binary exponent `k` with `2 ^ k ≤ num / den < 2 ^ (k + 1)`, for a positive fraction. -/
def binaryExponent (f : Fraction) : Int :=
  let k : Int := (Nat.log2 f.num : Int) - (Nat.log2 f.den : Int)
  if Fraction.le (.scaled 1 2 k) f then k else k - 1

/-- The double nearest to a fraction, or nothing where that is beyond the largest one. -/
def ofFraction? (negative : Bool) (f : Fraction) : Option Double :=
  if f.num = 0 then some (zero negative)
  else
    let q := max (-1074) (binaryExponent f - 52)
    let m :=
      if 0 ≤ q then roundHalfEven f.num (f.den * Nat.pow 2 q.toNat)
      else roundHalfEven (f.num * Nat.pow 2 (-q).toNat) f.den
    let (m, q) := if m = 2 * leadingBit then (leadingBit, q + 1) else (m, q)
    if h : Canonical m q then some ⟨negative, m, q, h⟩ else none

/-- The double nearest to a natural number. -/
def ofNat? (n : Nat) : Option Double :=
  ofFraction? false ⟨n, 1⟩

/-! ### Arithmetic on magnitudes -/

/-- The rounded product; the sign is that of the first factor. -/
def mul? (a b : Double) : Option Double :=
  let x := a.magnitude
  let y := b.magnitude
  ofFraction? a.negative ⟨x.num * y.num, x.den * y.den⟩

/-- The rounded quotient by a number other than zero; the sign is that of the dividend. -/
def div? (a b : Double) : Option Double :=
  let x := a.magnitude
  let y := b.magnitude
  if y.num = 0 then none else ofFraction? a.negative ⟨x.num * y.den, x.den * y.num⟩

/-- The largest power of ten that is a finite double. -/
def maxPowerOfTen : Nat := 308

/-- The double nearest to a power of ten. -/
def powerOfTen? (n : Nat) : Option Double :=
  ofNat? (Nat.pow 10 n)

/-- Scale by a power of ten, in one rounded step where the power is a finite double. A number too
small for that loses `308` powers at a time, each step rounded; one too large has no value. -/
def scaleByTen? (d : Double) (power : Int) : Option Double :=
  if power.natAbs ≤ maxPowerOfTen then
    if 0 ≤ power then (powerOfTen? power.toNat).bind d.mul?
    else (powerOfTen? (-power).toNat).bind d.div?
  else if d.isZero then some d
  else if _h : 0 ≤ power then none
  else
    ((powerOfTen? maxPowerOfTen).bind d.div?).bind fun smaller =>
      scaleByTen? smaller (power + (maxPowerOfTen : Nat))
termination_by (-power).toNat
decreasing_by
  have : maxPowerOfTen = 308 := rfl
  omega

end Double

end Criteria
