import Courier.Document.Basic

/-!
# The sense of plain scalars

A scalar that is written without quotes stands for nothing, for a truth value, for a number or for
its own words, depending on how it looks.
-/

namespace Courier.Sense

def digit? (base : Nat) (c : Char) : Option Nat :=
  let value :=
    if '0' ≤ c ∧ c ≤ '9' then c.toNat - '0'.toNat
    else if 'a' ≤ c ∧ c ≤ 'f' then c.toNat - 'a'.toNat + 10
    else if 'A' ≤ c ∧ c ≤ 'F' then c.toNat - 'A'.toNat + 10
    else base
  if value < base then some value else none

/-- The value of digits in a base, continuing a value. -/
def digitsFrom (base : Nat) : Nat → List Char → Option Nat
  | value, [] => some value
  | value, c :: rest =>
      match digit? base c with
      | none => none
      | some digit => digitsFrom base (value * base + digit) rest

def digits? (base : Nat) (chars : List Char) : Option Nat :=
  if chars.isEmpty then none else digitsFrom base 0 chars

/-- A scalar without its sign. -/
def unsigned : List Char → List Char
  | '-' :: rest => rest
  | '+' :: rest => rest
  | chars => chars

/-- Digits that do not make a number because they begin with a needless zero. -/
def zeroLed (chars : List Char) : Bool :=
  match unsigned chars with
  | '0' :: c :: rest => (c :: rest).all Char.isDigit
  | _ => false

/-- The number that unsigned digits stand for, in the base that their first characters name. -/
def natural? : List Char → Option Nat
  | '0' :: 'x' :: rest => digits? 16 rest
  | '0' :: 'o' :: rest => digits? 8 rest
  | '0' :: 'b' :: rest => digits? 2 rest
  | chars => digits? 10 chars

def integer? (chars : List Char) : Option Int :=
  if zeroLed chars then none
  else
    match chars with
    | '-' :: rest => (natural? rest).map fun value => -Int.ofNat value
    | _ => (natural? (if chars.head? = some '+' then chars.drop 1 else chars)).map Int.ofNat

/-- What is left of an exponent. -/
def isExponent : List Char → Bool
  | [] => true
  | c :: rest =>
      (c = 'e' || c = 'E') &&
        let digits := unsigned rest
        !digits.isEmpty && digits.all Char.isDigit

/-- Whether a scalar stands for a number with a fraction or an exponent, or for none of the finite
numbers. -/
def isFraction (chars : List Char) : Bool :=
  let body := unsigned chars
  let whole := body.takeWhile Char.isDigit
  let rest := body.drop whole.length
  let (part, exponent) :=
    match rest with
    | '.' :: after => (after.takeWhile Char.isDigit, after.dropWhile Char.isDigit)
    | _ => ([], rest)
  let special := [".inf", ".Inf", ".INF", "-.inf", "-.Inf", "-.INF", "+.inf", "+.Inf", "+.INF",
    ".nan", ".NaN", ".NAN"]
  special.contains (String.ofList chars) ||
    (!zeroLed chars && !(whole ++ part).isEmpty && isExponent exponent)

def ofPlain (text : String) : Sense :=
  if ["", "~", "null", "Null", "NULL"].contains text then .nothing
  else if ["true", "True", "TRUE", "false", "False", "FALSE"].contains text then .truth
  else
    match integer? text.toList with
    | some value => .number value
    | none => if isFraction text.toList then .fraction else .words

end Courier.Sense

namespace Courier.Document

/-- A scalar that is written without quotes. -/
def plain (text : String) : Document := .scalar (some text) (.ofPlain text)

def quoted (text : String) : Document := .scalar (some text) .words

end Courier.Document
