import Criteria.Double.Basic
import Criteria.Text.Decimal

/-!
# The shortest decimal text of a double

Among the decimals that round to a double, those with the fewest digits are found, and of these the
one nearest to the double. The text is positional for leading exponents from `-5` to `15`, always
with a fraction, and scientific otherwise, always with a sign in the exponent.
-/

namespace Criteria.Double

/-! ### The digits -/

/-- The exponent `k` of the leading digit: `10 ^ k ≤ f < 10 ^ (k + 1)`, for a positive fraction. -/
def decimalExponent (f : Fraction) : Int :=
  if f.den ≤ f.num then ((Decimal.digits (f.num / f.den)).length : Int) - 1
  else
    let inverse := (f.den + f.num - 1) / f.num
    Int.negOfNat (Decimal.digits (inverse - 1)).length

/-- Whether a decimal rounds to the double: it lies between the midpoints to the two neighbours,
or on one of them where the significand is even. -/
def roundsTo (d : Double) (decimal : Fraction) : Bool :=
  let m := 4 * d.significand
  let unit := d.exponent - 2
  let below := if d.significand = leadingBit ∧ -1074 < d.exponent then m - 1 else m - 2
  let low := Fraction.scaled below 2 unit
  let high := Fraction.scaled (m + 2) 2 unit
  if d.significand % 2 = 0 then low.le decimal && decimal.le high
  else low.lt decimal && decimal.lt high

/-- The decimal `n * 10 ^ power` nearest to the double among its two neighbours on that grid that
round to it, if one of them does; a tie goes to the even one. -/
def nearestOnGrid? (d : Double) (power : Int) : Option Nat :=
  let v := d.magnitude
  let unit := Fraction.scaled 1 10 power
  let num := v.num * unit.den
  let den := v.den * unit.num
  let low := num / den
  let hit (n : Nat) : Bool := d.roundsTo (.scaled n 10 power)
  match hit low, hit (low + 1) with
  | true, true => some (roundHalfEven num den)
  | true, false => some low
  | false, true => some (low + 1)
  | false, false => none

/-- The fewest digits that read back, and the power of ten of the last of them. -/
def shortest (d : Double) : Nat × Int :=
  let k := decimalExponent d.magnitude
  let found := (List.range 17).findSome? fun (extra : Nat) =>
    let power := k - (extra : Int)
    (d.nearestOnGrid? power).map (·, power)
  found.getD (0, 0)

/-! ### The text -/

/-- Whether a leading exponent is written positionally. -/
def isPositional (exponent : Int) : Bool :=
  -5 ≤ exponent && exponent < 16

/-- Drop zeros behind. -/
def dropTrailingZeros (cs : List Char) : List Char :=
  (cs.reverse.dropWhile (· == '0')).reverse

/-- The text of a positive double with the given digits, the first of them worth
`10 ^ exponent`. -/
def layout (ds : List Char) (exponent : Int) : List Char :=
  if isPositional exponent then
    if exponent < 0 then
      '0' :: '.' :: List.replicate (-exponent - 1).toNat '0' ++ ds
    else
      let whole := exponent.toNat + 1
      let fraction := ds.drop whole
      ds.take whole ++ List.replicate (whole - ds.length) '0' ++ '.' ::
        (if fraction.isEmpty then ['0'] else fraction)
  else
    let sign := if exponent < 0 then '-' else '+'
    let fraction := ds.drop 1
    ds.take 1 ++ (if fraction.isEmpty then [] else '.' :: fraction) ++
      'e' :: sign :: Decimal.digits exponent.natAbs

/-- The text of a double. -/
def toText (d : Double) : String :=
  let sign := if d.negative then ['-'] else []
  if d.isZero then String.ofList (sign ++ ['0', '.', '0'])
  else
    let (n, power) := d.shortest
    let ds := Decimal.digits n
    let exponent := power + ds.length - 1
    String.ofList (sign ++ layout (dropTrailingZeros ds) exponent)

end Criteria.Double
