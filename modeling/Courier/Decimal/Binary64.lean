/-!
# Finite binary64 numbers

A finite double is a sign and a magnitude `significand * 2 ^ exponent`. Every operation computes
the exact result as a quotient of natural numbers and rounds it once, to nearest with ties to the
even significand.
-/

namespace Courier

/-- A finite binary64 number. Its significand has 53 bits, or fewer at the least exponent. -/
structure Binary64 where
  negative : Bool
  significand : Nat
  exponent : Int
  deriving DecidableEq, Repr, Inhabited

namespace Binary64

def leastExponent : Int := -1074

def greatestExponent : Int := 971

/-- Zero with a sign. -/
def zero (negative : Bool) : Binary64 := ⟨negative, 0, leastExponent⟩

/-- Whether a number is zero, whatever its sign. -/
def isZero (number : Binary64) : Bool := number.significand == 0

/-- The same number with the other sign. -/
def neg (number : Binary64) : Binary64 := { number with negative := !number.negative }

/-- Equality of values: the two zeros are the same number. -/
def sameValue (left right : Binary64) : Bool :=
  left == right || (left.isZero && right.isZero)

/-- The magnitude as a quotient of two natural numbers. -/
def magnitude (number : Binary64) : Nat × Nat :=
  match number.exponent with
  | .ofNat up => (number.significand * Nat.pow 2 up, 1)
  | .negSucc down => (number.significand, Nat.pow 2 (down + 1))

/-- A quotient rounded to the nearest natural number, a tie to the even one. -/
def nearest (numerator denominator : Nat) : Nat :=
  let floor := numerator / denominator
  let twice := 2 * (numerator % denominator)
  if twice < denominator then floor
  else if denominator < twice then floor + 1
  else if floor % 2 = 0 then floor else floor + 1

/-- The quotient of a fraction by `2 ^ exponent`, again as a fraction. -/
def scaled (numerator denominator : Nat) (exponent : Int) : Nat × Nat :=
  match exponent with
  | .ofNat up => (numerator, denominator * Nat.pow 2 up)
  | .negSucc down => (numerator * Nat.pow 2 (down + 1), denominator)

/-- The exponent at which a positive fraction has a significand of 53 bits, or the least one. -/
def unitExponent (numerator denominator : Nat) : Int :=
  let guess : Int := (numerator.log2 : Int) - (denominator.log2 : Int) - 53
  let (top, bottom) := scaled numerator denominator guess
  let exact := if top / bottom < Nat.pow 2 53 then guess else guess + 1
  max exact leastExponent

/-- The finite number nearest to a fraction, or `none` if it is too large. -/
def ofFraction (negative : Bool) (numerator denominator : Nat) : Option Binary64 :=
  if numerator = 0 then some (zero negative)
  else
    let exponent := unitExponent numerator denominator
    let (top, bottom) := scaled numerator denominator exponent
    let significand := nearest top bottom
    let (significand, exponent) :=
      if significand = Nat.pow 2 53 then (Nat.pow 2 52, exponent + 1) else (significand, exponent)
    if greatestExponent < exponent then none else some ⟨negative, significand, exponent⟩

/-- The number nearest to a natural number below `2 ^ 64`. -/
def ofNat (value : Nat) : Binary64 :=
  (ofFraction false value 1).getD (zero false)

/-- The product of two numbers, or `none` if it is too large. -/
def mul? (left right : Binary64) : Option Binary64 :=
  let (leftTop, leftBottom) := left.magnitude
  let (rightTop, rightBottom) := right.magnitude
  ofFraction (left.negative != right.negative) (leftTop * rightTop) (leftBottom * rightBottom)

/-- The quotient by a number that is not zero, or `none` if it is too large. -/
def div? (left right : Binary64) : Option Binary64 :=
  let (leftTop, leftBottom) := left.magnitude
  let (rightTop, rightBottom) := right.magnitude
  ofFraction (left.negative != right.negative) (leftTop * rightBottom) (leftBottom * rightTop)

/-- The number nearest to a power of ten up to `10 ^ 308`. -/
def powerOfTen (power : Nat) : Binary64 :=
  (ofFraction false (Nat.pow 10 power) 1).getD (zero false)

/-- The largest power of ten that is a finite number. -/
def greatestPower : Nat := 308

/-- Divides by `10 ^ 308` until the remaining power of ten is in range or nothing is left. -/
def scaleDown (number : Binary64) (power : Nat) : Nat → Binary64
  | 0 => zero number.negative
  | rounds + 1 =>
      if number.isZero then number
      else if power ≤ greatestPower then (number.div? (powerOfTen power)).getD number
      else
        scaleDown ((number.div? (powerOfTen greatestPower)).getD number) (power - greatestPower)
          rounds

/-- Reads decimal digits `significand * 10 ^ power`: the significand is rounded to a double and
then scaled by a power of ten, which rounds a second time. `none` if the number is too large. -/
def ofDecimal (negative : Bool) (significand : Nat) (power : Int) : Option Binary64 :=
  let unsigned :=
    match power with
    | .ofNat up =>
        if up ≤ greatestPower then (ofNat significand).mul? (powerOfTen up)
        else if significand = 0 then some (zero false) else none
    | .negSucc down => some (scaleDown (ofNat significand) (down + 1) 4)
  unsigned.map fun number => if negative then number.neg else number

end Binary64

end Courier
