import Courier.Json.Basic
import Courier.Decimal.Shortest

/-!
# Printing JSON

Compact text: no blanks, fields in order. Strings escape the quotation mark, the backslash and
the control characters below a space; everything else stands for itself.
-/

namespace Courier.Json

/-- How doubles are written: decimals whose leading digit stands between these powers of ten are
written in full, and all others with an exponent. -/
structure FloatLayout where
  leastPlainPower : Int
  greatestPlainPower : Int
  plusSign : Bool

/-- Numbers from a hundred-thousandth up to sixteen digits are written in full, and an exponent
always carries its sign. -/
def floatLayout : FloatLayout := ⟨-5, 15, true⟩

def digits (value : Nat) : List Char := Nat.toDigits 10 value

/-- A decimal point after the first digit, or none behind a single digit. -/
def withPoint : List Char → List Char
  | [] => []
  | [digit] => [digit]
  | digit :: rest => digit :: '.' :: rest

def decimalChars (layout : FloatLayout) (decimal : Decimal) : List Char :=
  let figures := digits decimal.digits
  let leading : Int := decimal.power + figures.length - 1
  if layout.leastPlainPower ≤ leading ∧ leading ≤ layout.greatestPlainPower then
    if 0 ≤ decimal.power then
      figures ++ List.replicate decimal.power.toNat '0' ++ ['.', '0']
    else if 0 ≤ leading then
      figures.take (leading.toNat + 1) ++ '.' :: figures.drop (leading.toNat + 1)
    else
      '0' :: '.' :: (List.replicate ((-leading).toNat - 1) '0' ++ figures)
  else
    let sign := if leading < 0 then ['-'] else if layout.plusSign then ['+'] else []
    withPoint figures ++ 'e' :: (sign ++ digits leading.natAbs)

/-- A double: the shortest decimal that reads back. -/
def floatChars (value : Binary64) : List Char :=
  let magnitude :=
    if value.isZero then ['0', '.', '0'] else decimalChars floatLayout value.shortest
  if value.negative then '-' :: magnitude else magnitude

def integerChars : Int → List Char
  | .ofNat value => digits value
  | .negSucc value => '-' :: digits (value + 1)

def hexDigit (value : Nat) : Char :=
  if value < 10 then Char.ofNat (48 + value) else Char.ofNat (87 + value)

def escape (c : Char) : List Char :=
  if c = '"' then ['\\', '"']
  else if c = '\\' then ['\\', '\\']
  else if c = '\x08' then ['\\', 'b']
  else if c = '\x0c' then ['\\', 'f']
  else if c = '\n' then ['\\', 'n']
  else if c = '\r' then ['\\', 'r']
  else if c = '\t' then ['\\', 't']
  else if c.toNat < 32 then
    ['\\', 'u', '0', '0', hexDigit (c.toNat / 16), hexDigit (c.toNat % 16)]
  else [c]

def escapeAll (chars : List Char) : List Char := chars.flatMap escape

/-- A string with its quotation marks. -/
def textChars (value : String) : List Char := '"' :: (escapeAll value.toList ++ ['"'])

mutual

def chars : Json → List Char
  | .null => ['n', 'u', 'l', 'l']
  | .bool true => ['t', 'r', 'u', 'e']
  | .bool false => ['f', 'a', 'l', 's', 'e']
  | .integer value => integerChars value
  | .float value => floatChars value
  | .text value => textChars value
  | .array items => '[' :: (charsItems items ++ [']'])
  | .object fields => '\x7b' :: (charsFields fields ++ ['\x7d'])

/-- The items of an array, with a comma between two. -/
def charsItems : List Json → List Char
  | [] => []
  | [item] => item.chars
  | item :: next :: rest => item.chars ++ ',' :: charsItems (next :: rest)

/-- The fields of an object, with a comma between two. -/
def charsFields : List (String × Json) → List Char
  | [] => []
  | [(name, value)] => textChars name ++ ':' :: value.chars
  | (name, value) :: next :: rest =>
      textChars name ++ ':' :: (value.chars ++ ',' :: charsFields (next :: rest))

end

def render (value : Json) : String := String.ofList value.chars

end Courier.Json
