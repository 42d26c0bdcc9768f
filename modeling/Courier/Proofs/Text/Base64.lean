import Courier.Text.Base64
import Courier.Text.Utf8

/-!
# Reading back base64

Every byte string is read back from its text. The text is made of groups of four symbols, so no
symbol is left over at its end, and only its last group is read by the rules for padding. Three
bytes are four six-bit numbers and back, which is arithmetic.

The text is ASCII, so its characters and its bytes are the same.
-/

namespace Courier.Base64

/-! ## Symbols -/

theorem value?_symbol {value : Nat} (small : value < 64) : value? (symbol value) = some value := by
  have all : ∀ number < 64, value? (symbol number) = some number := by decide
  exact all value small

theorem valueAt_symbol (offset : Nat) {value : Nat} (small : value < 64) :
    valueAt offset (symbol value) = .ok value := by
  simp only [valueAt, value?_symbol small]

theorem symbol_ne_pad {value : Nat} (small : value < 64) : symbol value ≠ pad := by
  have all : ∀ number < 64, symbol number ≠ pad := by decide
  exact all value small

theorem symbol_lt {value : Nat} (small : value < 64) : (symbol value).toNat < 128 := by
  have all : ∀ number < 64, (symbol number).toNat < 128 := by decide
  exact all value small

theorem byte_eq {value : Nat} {byte : UInt8} (same : value = byte.toNat) :
    UInt8.ofNat value = byte := by
  rw [same, UInt8.ofNat_toNat]

/-! ## Groups -/

/-- A last group of four symbols without padding. -/
theorem decodeLast_three (offset : Nat) (a b c : UInt8) :
    decodeLast offset (encodeBytes [a, b, c]) = .ok [a, b, c] := by
  have boundA := a.toNat_lt
  have boundB := b.toNat_lt
  have boundC := c.toNat_lt
  have first : a.toNat / 4 < 64 := by omega
  have second : a.toNat % 4 * 16 + b.toNat / 16 < 64 := by omega
  have third : b.toNat % 16 * 4 + c.toNat / 64 < 64 := by omega
  have fourth : c.toNat % 64 < 64 := by omega
  simp only [encodeBytes, decodeLast, valueAt_symbol, first, second, third, fourth, symbol_ne_pad,
    bind, Except.bind, if_false, join]
  rw [byte_eq (show _ = a.toNat by omega), byte_eq (show _ = b.toNat by omega),
    byte_eq (show _ = c.toNat by omega)]

/-- A last group with one sign of padding. -/
theorem decodeLast_two (offset : Nat) (a b : UInt8) :
    decodeLast offset (encodeBytes [a, b]) = .ok [a, b] := by
  have boundA := a.toNat_lt
  have boundB := b.toNat_lt
  have first : a.toNat / 4 < 64 := by omega
  have second : a.toNat % 4 * 16 + b.toNat / 16 < 64 := by omega
  have third : b.toNat % 16 * 4 < 64 := by omega
  have noBits : b.toNat % 16 * 4 % 4 = 0 := by omega
  simp only [encodeBytes, decodeLast, valueAt_symbol, first, second, third, symbol_ne_pad, bind,
    Except.bind, if_false, if_true, joinTwo, noBits]
  rw [byte_eq (show _ = a.toNat by omega), byte_eq (show _ = b.toNat by omega)]

/-- A last group with two signs of padding. -/
theorem decodeLast_one (offset : Nat) (a : UInt8) :
    decodeLast offset (encodeBytes [a]) = .ok [a] := by
  have boundA := a.toNat_lt
  have first : a.toNat / 4 < 64 := by omega
  have second : a.toNat % 4 * 16 < 64 := by omega
  have noBits : a.toNat % 4 * 16 % 16 = 0 := by omega
  simp only [encodeBytes, decodeLast, valueAt_symbol, first, second, bind, Except.bind, if_true,
    joinOne, noBits]
  rw [byte_eq (show _ = a.toNat by omega)]

/-- A group that is not the last one. -/
theorem decodeGroups_three (offset : Nat) (a b c : UInt8) {rest : List UInt8} (more : rest ≠ []) :
    decodeGroups offset (encodeBytes [a, b, c] ++ rest) =
      (decodeGroups (offset + 4) rest).map ([a, b, c] ++ ·) := by
  have boundA := a.toNat_lt
  have boundB := b.toNat_lt
  have boundC := c.toNat_lt
  have first : a.toNat / 4 < 64 := by omega
  have second : a.toNat % 4 * 16 + b.toNat / 16 < 64 := by omega
  have third : b.toNat % 16 * 4 + c.toNat / 64 < 64 := by omega
  have fourth : c.toNat % 64 < 64 := by omega
  rcases List.exists_cons_of_ne_nil more with ⟨next, tail, rfl⟩
  simp only [encodeBytes, List.cons_append, List.nil_append, decodeGroups, valueAt_symbol, first,
    second, third, fourth, bind, Except.bind, join]
  rw [byte_eq (show _ = a.toNat by omega), byte_eq (show _ = b.toNat by omega),
    byte_eq (show _ = c.toNat by omega)]
  cases decodeGroups (offset + 4) (next :: tail) <;> rfl

/-! ## Whole texts -/

theorem encodeBytes_ne_nil {bytes : List UInt8} (nonempty : bytes ≠ []) :
    encodeBytes bytes ≠ [] := by
  match bytes with
  | [] => exact absurd rfl nonempty
  | [_] | [_, _] | _ :: _ :: _ :: _ => simp [encodeBytes]

theorem length_encodeBytes_mod (bytes : List UInt8) : (encodeBytes bytes).length % 4 = 0 := by
  induction bytes using encodeBytes.induct with
  | case1 => rfl
  | case2 => simp [encodeBytes]
  | case3 => simp [encodeBytes]
  | case4 a b c rest ih =>
      simp only [encodeBytes, List.length_cons]
      omega

theorem decodeGroups_encodeBytes (offset : Nat) (bytes : List UInt8) :
    decodeGroups offset (encodeBytes bytes) = .ok bytes := by
  induction bytes using encodeBytes.induct generalizing offset with
  | case1 => rfl
  | case2 a => exact decodeLast_one offset a
  | case3 a b => exact decodeLast_two offset a b
  | case4 a b c rest ih =>
      by_cases last : rest = []
      · rw [last]
        exact decodeLast_three offset a b c
      · have groups := decodeGroups_three offset a b c (encodeBytes_ne_nil last)
        rw [ih] at groups
        exact groups

theorem decodeBytes_encodeBytes (bytes : List UInt8) :
    decodeBytes (encodeBytes bytes) = .ok bytes := by
  have noStray : strayLast? (encodeBytes bytes) = none := by
    have notOne : ¬(encodeBytes bytes).length % 4 = 1 := by
      rw [length_encodeBytes_mod]
      decide
    rw [strayLast?]
    split
    · rfl
    · simp only [notOne, false_and, if_false]
  rw [decodeBytes, noStray]
  exact decodeGroups_encodeBytes 0 bytes

/-! ## Characters -/

theorem lt_of_mem_encodeBytes {bytes : List UInt8} {byte : UInt8}
    (mem : byte ∈ encodeBytes bytes) : byte.toNat < 128 := by
  induction bytes using encodeBytes.induct with
  | case1 => simp [encodeBytes] at mem
  | case2 a =>
      have boundA := a.toNat_lt
      simp only [encodeBytes, List.mem_cons, List.not_mem_nil, or_false] at mem
      rcases mem with rfl | rfl | rfl | rfl
      · exact symbol_lt (by omega)
      · exact symbol_lt (by omega)
      · decide
      · decide
  | case3 a b =>
      have boundA := a.toNat_lt
      have boundB := b.toNat_lt
      simp only [encodeBytes, List.mem_cons, List.not_mem_nil, or_false] at mem
      rcases mem with rfl | rfl | rfl | rfl
      · exact symbol_lt (by omega)
      · exact symbol_lt (by omega)
      · exact symbol_lt (by omega)
      · decide
  | case4 a b c rest ih =>
      have boundA := a.toNat_lt
      have boundB := b.toNat_lt
      have boundC := c.toNat_lt
      simp only [encodeBytes, List.mem_cons] at mem
      rcases mem with rfl | rfl | rfl | rfl | mem
      · exact symbol_lt (by omega)
      · exact symbol_lt (by omega)
      · exact symbol_lt (by omega)
      · exact symbol_lt (by omega)
      · exact ih mem

end Courier.Base64

namespace Courier

/-- A byte below 128 is the whole of its character. -/
theorem Utf8.encodeChar_ofNat {byte : UInt8} (ascii : byte.toNat < 128) :
    Utf8.encodeChar (Char.ofNat byte.toNat) = [byte] := by
  have all : ∀ code < 128, (Char.ofNat code).toNat = code := by decide
  simp only [Utf8.encodeChar, all _ ascii, ascii, if_true, UInt8.ofNat_toNat]

theorem Utf8.encodeChars_ofAscii {bytes : List UInt8} (ascii : ∀ byte ∈ bytes, byte.toNat < 128) :
    Utf8.encodeChars (bytes.map fun byte => Char.ofNat byte.toNat) = bytes := by
  induction bytes with
  | nil => rfl
  | cons byte rest ih =>
      have tail := ih fun other mem => ascii other (List.mem_cons_of_mem byte mem)
      rw [Utf8.encodeChars] at tail ⊢
      rw [List.map_cons, List.flatMap_cons, Utf8.encodeChar_ofNat (ascii byte List.mem_cons_self),
        tail]
      rfl

/-- The bytes of the text of a byte string. -/
theorem Base64.utf8_encode (bytes : List UInt8) :
    Utf8.encode (Base64.encode bytes) = Base64.encodeBytes bytes := by
  rw [Utf8.encode, Base64.encode, String.toList_ofList]
  exact Utf8.encodeChars_ofAscii fun _ mem => Base64.lt_of_mem_encodeBytes mem

end Courier
