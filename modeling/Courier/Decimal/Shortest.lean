import Courier.Decimal.Binary64

/-!
# Shortest decimals

The fewest decimal digits that read back as a given double; of two candidates with that many
digits the nearer one. The digits are found by trying, for one digit after another, the two
neighbours of the exact value on the decimal grid.
-/

namespace Courier

/-- A positive decimal `digits * 10 ^ power`. -/
structure Decimal where
  digits : Nat
  power : Int
  deriving DecidableEq, Repr

namespace Decimal

def width (value : Nat) : Nat := (Nat.toDigits 10 value).length

/-- Drops trailing zeros, at most `rounds` of them. -/
def trim (decimal : Decimal) : Nat → Decimal
  | 0 => decimal
  | rounds + 1 =>
      if decimal.digits % 10 = 0 ∧ decimal.digits ≠ 0 then
        trim ⟨decimal.digits / 10, decimal.power + 1⟩ rounds
      else decimal

def fraction (decimal : Decimal) : Nat × Nat :=
  match decimal.power with
  | .ofNat up => (decimal.digits * Nat.pow 10 up, 1)
  | .negSucc down => (decimal.digits, Nat.pow 10 (down + 1))

end Decimal

namespace Binary64

/-- The magnitude and the bounds of the interval that rounds to it, in quarters of the unit of
the last place. The lower bound is nearer at a power of two. -/
def quarters (number : Binary64) : Nat × Nat × Nat :=
  let centre := 4 * number.significand
  let below :=
    if number.significand = Nat.pow 2 52 ∧ leastExponent < number.exponent then 1 else 2
  (centre - below, centre, centre + 2)

def quarterFraction (number : Binary64) (count : Nat) : Nat × Nat :=
  match number.exponent - 2 with
  | .ofNat up => (count * Nat.pow 2 up, 1)
  | .negSucc down => (count, Nat.pow 2 (down + 1))

/-- Whether a decimal reads back as the magnitude of a number: it lies in the interval that rounds
to it, ends included when the significand is even. -/
def admits (number : Binary64) (decimal : Decimal) : Bool :=
  let (low, _, high) := number.quarters
  let (lowTop, lowBottom) := number.quarterFraction low
  let (highTop, highBottom) := number.quarterFraction high
  let (top, bottom) := decimal.fraction
  if number.significand % 2 = 0 then
    lowTop * bottom ≤ top * lowBottom && top * highBottom ≤ highTop * bottom
  else
    lowTop * bottom < top * lowBottom && top * highBottom < highTop * bottom

/-- The power of ten of the leading digit of a positive number. -/
def leadingPower (number : Binary64) : Int :=
  let (top, bottom) := number.magnitude
  if bottom ≤ top then (Decimal.width (top / bottom) : Int) - 1
  else
    -- the quotient of the inverse tells how many zeros follow the point
    let inverse := bottom / top
    let places := Decimal.width inverse
    if top * Nat.pow 10 (places - 1) = bottom then -((places : Int) - 1) else -(places : Int)

/-- The neighbours of a positive number on the grid of multiples of `10 ^ power`, the nearer one
first; an exact tie goes to the even one. -/
def neighbours (number : Binary64) (power : Int) : Decimal × Decimal :=
  let (top, bottom) := number.magnitude
  let (top, bottom) :=
    match power with
    | .ofNat up => (top, bottom * Nat.pow 10 up)
    | .negSucc down => (top * Nat.pow 10 (down + 1), bottom)
  let floor := top / bottom
  let close := nearest top bottom
  if close = floor then (⟨floor, power⟩, ⟨floor + 1, power⟩)
  else (⟨floor + 1, power⟩, ⟨floor, power⟩)

/-- The first hit on ever finer grids, starting at `power` and going down. -/
def searchShortest (number : Binary64) (power : Int) : Nat → Decimal
  | 0 => (number.neighbours power).1
  | rounds + 1 =>
      let (close, far) := number.neighbours power
      if close.digits ≠ 0 ∧ number.admits close then close
      else if far.digits ≠ 0 ∧ number.admits far then far
      else searchShortest number (power - 1) rounds

/-- The shortest decimal that reads back as the magnitude of a number that is not zero. -/
def shortest (number : Binary64) : Decimal :=
  (searchShortest number number.leadingPower 17).trim 17

end Binary64

end Courier
