import Courier.Text.Utf8

/-!
# Form encoding

Names and values in the form of a query string: pairs between ampersands, cut at the first equals
sign, a plus sign for a space and any byte as a percent sign with two hexadecimal digits. Reading
never fails: an incomplete escape stands for itself and broken UTF-8 is replaced.
-/

namespace Courier.Text.Form

def hexValue? (byte : UInt8) : Option Nat :=
  if 0x30 ≤ byte ∧ byte ≤ 0x39 then some (byte.toNat - 0x30)
  else if 0x41 ≤ byte ∧ byte ≤ 0x46 then some (byte.toNat - 0x37)
  else if 0x61 ≤ byte ∧ byte ≤ 0x66 then some (byte.toNat - 0x57)
  else none

def decodeBytes : List UInt8 → List UInt8
  | [] => []
  | 0x2B :: rest => 0x20 :: decodeBytes rest
  | 0x25 :: high :: low :: rest =>
      match hexValue? high, hexValue? low with
      | some upper, some lower => UInt8.ofNat (upper * 16 + lower) :: decodeBytes rest
      | _, _ => 0x25 :: decodeBytes (high :: low :: rest)
  | byte :: rest => byte :: decodeBytes rest

def decodePart (part : List UInt8) : String := Utf8.decodeLossy (decodeBytes part)

/-- The parts between separators; there is always at least one. -/
def splitAt (separator : UInt8) : List UInt8 → List (List UInt8)
  | [] => [[]]
  | byte :: rest =>
      if byte = separator then [] :: splitAt separator rest
      else
        match splitAt separator rest with
        | [] => [[byte]]
        | part :: parts => (byte :: part) :: parts

/-- A pair: its name up to the first equals sign, and its value, which may be missing. -/
def decodePair (part : List UInt8) : String × String :=
  (decodePart (part.takeWhile (· != 0x3D)), decodePart ((part.dropWhile (· != 0x3D)).drop 1))

/-- The pairs of an encoded text, in order; empty parts are skipped. -/
def decode (input : List UInt8) : List (String × String) :=
  ((splitAt 0x26 input).filter fun part => !part.isEmpty).map decodePair

end Courier.Text.Form
