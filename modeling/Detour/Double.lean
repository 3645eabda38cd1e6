import Detour.Text.Numeral
/-!
# Numbers of 64 bits with a floating point

A finite number is a mantissa below 2^53 times a power of two whose exponent is at least -1074.
`ofDecimal` takes the number nearest to a decimal, and `text` shows the shortest decimal that leads
back to a number, positionally and always with a point. All sums are exact, in natural numbers.
-/

namespace Detour

/-- A number of 64 bits with a floating point. -/
inductive Double where
  /-- No number. -/
  | nan
  /-- More than all finite numbers, or less. -/
  | infinite (negative : Bool)
  /-- The mantissa times two to the exponent. -/
  | finite (negative : Bool) (mantissa : Nat) (exponent : Int)
  deriving DecidableEq, Repr

namespace Double

/-- All mantissas are below this number, which has 54 bits. -/
def mantissaEnd : Nat := 1 <<< 53

/-- The quotient of two numbers, rounded to the nearest number and from a half to the even one. -/
def nearest (n d : Nat) : Nat :=
  let q := n / d
  let r := n % d
  if 2 * r < d ∨ (2 * r = d ∧ q % 2 = 0) then q else q + 1

/-- Rounding is off by half a unit at most, downwards. -/
theorem two_mul_le_nearest {n d : Nat} (hd : 0 < d) : 2 * n ≤ (2 * nearest n d + 1) * d := by
  have parts := Nat.div_add_mod n d
  have small := Nat.mod_lt n hd
  simp only [nearest]
  split
  · rename_i h
    have : 2 * (n % d) ≤ d := by omega
    calc 2 * n = 2 * (d * (n / d)) + 2 * (n % d) := by omega
      _ ≤ 2 * (d * (n / d)) + d := by omega
      _ = (2 * (n / d) + 1) * d := by
        rw [Nat.add_mul, Nat.mul_assoc, Nat.mul_comm (n / d) d, Nat.one_mul]
  · calc 2 * n = 2 * (d * (n / d)) + 2 * (n % d) := by omega
      _ ≤ 2 * (d * (n / d)) + 3 * d := by omega
      _ = (2 * (n / d + 1) + 1) * d := by
        rw [Nat.add_mul, Nat.mul_assoc, Nat.add_mul (n / d), Nat.mul_add, Nat.mul_comm (n / d) d,
          Nat.one_mul]
        omega

/-- A power of ten. -/
def tenTo (n : Nat) : Nat := Nat.pow 10 n

/-- The quotient of two numbers divided by a power of two, rounded. -/
def nearestAt (n d : Nat) (exponent : Int) : Nat :=
  nearest (n <<< (-exponent).toNat) (d <<< exponent.toNat)

/-- The exponent with which the quotient of two numbers has a mantissa of 53 bits, or the least
exponent that there is. -/
def exponentOf (n d : Nat) : Int :=
  let low : Int := Nat.log2 n - Nat.log2 d - 53
  let whole := (n <<< (-low).toNat) / (d <<< low.toNat)
  max (if whole < mantissaEnd then low else low + 1) (-1074)

/-- The number nearest to the quotient of two positive numbers. -/
def ofQuotient (negative : Bool) (n d : Nat) : Double :=
  let exponent := exponentOf n d
  let mantissa := nearestAt n d exponent
  let (mantissa, exponent) :=
    if mantissa = mantissaEnd then (mantissaEnd / 2, exponent + 1) else (mantissa, exponent)
  if 971 < exponent then .infinite negative else .finite negative mantissa exponent

/-- The number nearest to a whole number times a power of ten. Far outside of the range the powers
are not computed. -/
def ofDecimal (negative : Bool) (n : Nat) (exponent : Int) : Double :=
  let size : Int := (Text.decimal n).length + exponent
  if n = 0 ∨ size < -400 then .finite negative 0 (-1074)
  else if 400 < size then .infinite negative
  else ofQuotient negative (n * tenTo exponent.toNat) (tenTo (-exponent).toNat)

/-- The decimals that lead back to a number: those between two bounds, over a common unit. -/
structure Interval where
  /-- Four times the lower bound. -/
  low : Nat
  /-- Four times the number. -/
  middle : Nat
  /-- Four times the upper bound. -/
  high : Nat
  /-- Whether the bounds belong to it. -/
  closed : Bool
  /-- The exponent of the power of two that is the unit. -/
  exponent : Int

/-- The decimals that lead back to a mantissa times a power of two. The gap below a power of two is
half as wide as the one above it, and a tie goes to the even mantissa. -/
def Interval.of (mantissa : Nat) (exponent : Int) : Interval where
  low := 4 * mantissa - (if mantissa = mantissaEnd / 2 ∧ -1074 < exponent then 1 else 2)
  middle := 4 * mantissa
  high := 4 * mantissa + 2
  closed := mantissa % 2 = 0
  exponent := exponent - 2

namespace Interval

/-- Whether `n` times `unit` lies between the bounds, which are counted in `scale`. -/
def holds (i : Interval) (scale unit n : Nat) : Bool :=
  if i.closed then i.low * scale ≤ n * unit && n * unit ≤ i.high * scale
  else i.low * scale < n * unit && n * unit < i.high * scale

/-- The whole number that, times ten to the `power`, lies between the bounds, and of two such numbers
the one that is nearer to the middle. -/
def onGrid (i : Interval) (power : Int) : Option Nat :=
  let scale := tenTo (-power).toNat <<< i.exponent.toNat
  let unit := tenTo power.toNat <<< (-i.exponent).toNat
  let n := i.middle * scale / unit
  match i.holds scale unit n, i.holds scale unit (n + 1) with
  | true, true => if 2 * (i.middle * scale) < (2 * n + 1) * unit then some n else some (n + 1)
  | true, false => some n
  | false, true => some (n + 1)
  | false, false => none

/-- The first decimal between the bounds, from the widest grid to narrower ones. -/
def shortestFrom (i : Interval) (power : Int) : Nat → Nat × Int
  | 0 => (0, 0)
  | grids + 1 =>
    match i.onGrid power with
    | some n => (n, power)
    | none => i.shortestFrom (power - 1) grids

/-- The shortest decimal between the bounds: a whole number and a power of ten. -/
def shortest (i : Interval) : Nat × Int := i.shortestFrom 309 650

end Interval

/-- A whole number times a power of ten, positionally and with a digit on both sides of the point. -/
def positional (n : Nat) (power : Int) : List Char :=
  let digits := Text.decimal n ++ List.replicate power.toNat '0'
  let places := (-power).toNat
  let digits := List.replicate (places + 1 - digits.length) '0' ++ digits
  let whole := digits.length - places
  digits.take whole ++ '.' :: (if places = 0 then ['0'] else digits.drop whole)

/-- The text of a number. -/
def text : Double → List Char
  | .nan => "NaN".toList
  | .infinite negative => (if negative then ['-'] else []) ++ "inf".toList
  | .finite negative mantissa exponent =>
    let (n, power) := if mantissa = 0 then (0, 0) else (Interval.of mantissa exponent).shortest
    (if negative then ['-'] else []) ++ positional n power

end Double

end Detour
