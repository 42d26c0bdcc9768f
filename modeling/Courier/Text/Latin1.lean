/-!
# Latin-1

Bytes as text in which every byte is the character of the same number, so that arbitrary bytes
survive as text.
-/

namespace Courier.Latin1

def decodeByte (byte : UInt8) : Char := Char.ofNat byte.toNat

def decode (bytes : List UInt8) : String := String.ofList (bytes.map decodeByte)

/-- The byte of a character up to U+00FF. -/
def encodeChar? (c : Char) : Option UInt8 :=
  if c.toNat < 256 then some (UInt8.ofNat c.toNat) else none

/-- The bytes of a text; `none` if one of its characters lies beyond U+00FF. -/
def encode? (text : String) : Option (List UInt8) := text.toList.mapM encodeChar?

theorem decodeByte_toNat (byte : UInt8) : (decodeByte byte).toNat = byte.toNat := by
  have small : byte.toNat < 256 := byte.toNat_lt
  have valid : byte.toNat.isValidChar := .inl (by omega)
  rw [decodeByte, Char.ofNat, dif_pos valid]
  rfl

theorem encodeChar?_decodeByte (byte : UInt8) : encodeChar? (decodeByte byte) = some byte := by
  have small : byte.toNat < 256 := byte.toNat_lt
  simp [encodeChar?, decodeByte_toNat, small]

end Courier.Latin1
