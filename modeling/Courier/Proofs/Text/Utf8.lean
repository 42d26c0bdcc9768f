import Courier.Proofs.Text.Canonical

/-!
# Reading UTF-8 back

The bytes of a character are one whole piece, whatever follows them. So the bytes of a text are read
as this text, by strict and by forgiving reading.
-/

namespace Courier.Utf8

/-! ## Bytes by their values -/

section Bytes

variable {bound : UInt8} {value : Nat}

theorem ofNat_lt_iff (fits : value < 256) : UInt8.ofNat value < bound ↔ value < bound.toNat := by
  rw [UInt8.lt_iff_toNat_lt, Base64.toNat_byte fits]

theorem ofNat_le_iff (fits : value < 256) : UInt8.ofNat value ≤ bound ↔ value ≤ bound.toNat := by
  rw [UInt8.le_iff_toNat_le, Base64.toNat_byte fits]

theorem le_ofNat_iff (fits : value < 256) : bound ≤ UInt8.ofNat value ↔ bound.toNat ≤ value := by
  rw [UInt8.le_iff_toNat_le, Base64.toNat_byte fits]

theorem ofNat_eq_iff (fits : value < 256) : UInt8.ofNat value = bound ↔ value = bound.toNat := by
  rw [← UInt8.toNat_inj, Base64.toNat_byte fits]

theorem continues_ofNat (small : value < 64) : continues (UInt8.ofNat (0x80 + value)) = true := by
  have fits : 0x80 + value < 256 := by omega
  simp only [continues, le_ofNat_iff fits, ofNat_le_iff fits, UInt8.reduceToNat, Bool.and_eq_true,
    decide_eq_true_eq]
  omega

theorem payload_ofNat (small : value < 64) : payload (UInt8.ofNat (0x80 + value)) = value := by
  have fits : 0x80 + value < 256 := by omega
  unfold payload
  rw [Base64.toNat_byte fits]
  exact Nat.add_sub_cancel_left 0x80 value

end Bytes

/-! ## Pieces -/

section Pieces

variable {code : Nat}

theorem pieces_one (low : code < 0x80) (rest : List UInt8) :
    pieces (UInt8.ofNat code :: rest) = some (Char.ofNat code) :: pieces rest := by
  have fits : code < 256 := by omega
  rw [pieces.eq_def]
  simp only [ofNat_lt_iff fits, UInt8.reduceToNat, low, if_true, Base64.toNat_byte fits]

theorem pieces_two (low : 0x80 ≤ code) (high : code < 0x800) (rest : List UInt8) :
    pieces (UInt8.ofNat (0xC0 + code / 64) :: UInt8.ofNat (0x80 + code % 64) :: rest) =
      some (Char.ofNat code) :: pieces rest := by
  have fits : 0xC0 + code / 64 < 256 := by omega
  have lead : ¬0xC0 + code / 64 < 0x80 ∧ 0xC2 ≤ 0xC0 + code / 64 ∧ 0xC0 + code / 64 ≤ 0xDF := by
    omega
  have small : code % 64 < 64 := by omega
  have value : (0xC0 + code / 64 - 0xC0) * 64 + code % 64 = code := by omega
  rw [pieces.eq_def]
  simp only [ofNat_lt_iff fits, ofNat_le_iff fits, le_ofNat_iff fits, UInt8.reduceToNat, lead,
    decide_true, Bool.and_self, if_true, if_false, continues_ofNat small, payload_ofNat small,
    Base64.toNat_byte fits, value]

theorem secondOfThree_ofNat (low : 0x800 ≤ code) (high : code < 0x10000)
    (valid : code < 0xD800 ∨ 0xDFFF < code) :
    secondOfThree (UInt8.ofNat (0xE0 + code / 4096)) (UInt8.ofNat (0x80 + code / 64 % 64)) =
      true := by
  have fits : 0xE0 + code / 4096 < 256 := by omega
  have small : code / 64 % 64 < 64 := by omega
  have secondFits : 0x80 + code / 64 % 64 < 256 := by omega
  simp only [secondOfThree, ofNat_eq_iff fits, le_ofNat_iff secondFits, ofNat_le_iff secondFits,
    UInt8.reduceToNat, continues_ofNat small]
  split
  case isTrue => simp only [Bool.and_eq_true, decide_eq_true_eq]; omega
  case isFalse =>
      split
      case isTrue => simp only [Bool.and_eq_true, decide_eq_true_eq]; omega
      case isFalse => rfl

theorem pieces_three (low : 0x800 ≤ code) (high : code < 0x10000)
    (valid : code < 0xD800 ∨ 0xDFFF < code) (rest : List UInt8) :
    pieces (UInt8.ofNat (0xE0 + code / 4096) :: UInt8.ofNat (0x80 + code / 64 % 64) ::
        UInt8.ofNat (0x80 + code % 64) :: rest) =
      some (Char.ofNat code) :: pieces rest := by
  have fits : 0xE0 + code / 4096 < 256 := by omega
  have lead : ¬0xE0 + code / 4096 < 0x80 ∧ ¬0xE0 + code / 4096 ≤ 0xDF ∧
      0xE0 ≤ 0xE0 + code / 4096 ∧ 0xE0 + code / 4096 ≤ 0xEF := by
    omega
  have second : code / 64 % 64 < 64 := by omega
  have third : code % 64 < 64 := by omega
  have value : ((0xE0 + code / 4096 - 0xE0) * 64 + code / 64 % 64) * 64 + code % 64 = code := by
    omega
  rw [pieces.eq_def]
  simp only [ofNat_lt_iff fits, ofNat_le_iff fits, le_ofNat_iff fits, UInt8.reduceToNat, lead,
    decide_true, decide_false, Bool.and_self, Bool.and_false, Bool.false_eq_true, if_true, if_false,
    secondOfThree_ofNat low high valid, continues_ofNat third, payload_ofNat second,
    payload_ofNat third, Base64.toNat_byte fits, value]

theorem secondOfFour_ofNat (low : 0x10000 ≤ code) (high : code < 0x110000) :
    secondOfFour (UInt8.ofNat (0xF0 + code / 262144)) (UInt8.ofNat (0x80 + code / 4096 % 64)) =
      true := by
  have fits : 0xF0 + code / 262144 < 256 := by omega
  have small : code / 4096 % 64 < 64 := by omega
  have secondFits : 0x80 + code / 4096 % 64 < 256 := by omega
  simp only [secondOfFour, ofNat_eq_iff fits, le_ofNat_iff secondFits, ofNat_le_iff secondFits,
    UInt8.reduceToNat, continues_ofNat small]
  split
  case isTrue => simp only [Bool.and_eq_true, decide_eq_true_eq]; omega
  case isFalse =>
      split
      case isTrue => simp only [Bool.and_eq_true, decide_eq_true_eq]; omega
      case isFalse => rfl

theorem pieces_four (low : 0x10000 ≤ code) (high : code < 0x110000) (rest : List UInt8) :
    pieces (UInt8.ofNat (0xF0 + code / 262144) :: UInt8.ofNat (0x80 + code / 4096 % 64) ::
        UInt8.ofNat (0x80 + code / 64 % 64) :: UInt8.ofNat (0x80 + code % 64) :: rest) =
      some (Char.ofNat code) :: pieces rest := by
  have fits : 0xF0 + code / 262144 < 256 := by omega
  have lead : ¬0xF0 + code / 262144 < 0x80 ∧ ¬0xF0 + code / 262144 ≤ 0xDF ∧
      ¬0xF0 + code / 262144 ≤ 0xEF ∧ 0xF0 ≤ 0xF0 + code / 262144 ∧
      0xF0 + code / 262144 ≤ 0xF4 := by
    omega
  have second : code / 4096 % 64 < 64 := by omega
  have third : code / 64 % 64 < 64 := by omega
  have fourth : code % 64 < 64 := by omega
  have value : (((0xF0 + code / 262144 - 0xF0) * 64 + code / 4096 % 64) * 64 + code / 64 % 64) * 64 +
      code % 64 = code := by
    omega
  rw [pieces.eq_def]
  simp only [ofNat_lt_iff fits, ofNat_le_iff fits, le_ofNat_iff fits, UInt8.reduceToNat, lead,
    decide_true, decide_false, Bool.and_self, Bool.and_false, Bool.false_eq_true, if_true, if_false,
    secondOfFour_ofNat low high, continues_ofNat third, continues_ofNat fourth,
    payload_ofNat second, payload_ofNat third, payload_ofNat fourth, Base64.toNat_byte fits, value]

end Pieces

theorem pieces_encodeChar_append (c : Char) (rest : List UInt8) :
    pieces (encodeChar c ++ rest) = some c :: pieces rest := by
  have same : some (Char.ofNat c.toNat) = some c := by rw [Char.ofNat_toNat]
  rw [← same]
  simp only [encodeChar]
  split
  case isTrue low => exact pieces_one low rest
  case isFalse low =>
      split
      case isTrue high => exact pieces_two (Nat.not_lt.mp low) high rest
      case isFalse middle =>
          split
          case isTrue high =>
              have valid : c.toNat < 0xD800 ∨ 0xDFFF < c.toNat := by
                rcases c.valid with below | ⟨above, -⟩
                · exact Or.inl below
                · exact Or.inr above
              exact pieces_three (Nat.not_lt.mp middle) high valid rest
          case isFalse low =>
              have high : c.toNat < 0x110000 := by
                rcases c.valid with below | ⟨-, above⟩
                · exact Nat.lt_trans below (by decide)
                · exact above
              exact pieces_four (Nat.not_lt.mp low) high rest

theorem pieces_encodeChars (chars : List Char) : pieces (encodeChars chars) = chars.map some := by
  induction chars with
  | nil => rfl
  | cons c rest ih =>
      rw [encodeChars] at ih ⊢
      rw [List.flatMap_cons, pieces_encodeChar_append, ih, List.map_cons]

theorem decodeLossy_encode (text : String) : decodeLossy (encode text) = text := by
  simp [decodeLossy, encode, pieces_encodeChars, Function.comp_def]

theorem allChars_map_some (chars : List Char) : allChars (chars.map some) = some chars := by
  induction chars with
  | nil => rfl
  | cons c rest ih => rw [List.map_cons, allChars, ih, Option.map_some]

theorem decode?_encode (text : String) : decode? (encode text) = some text := by
  simp [decode?, encode, pieces_encodeChars, allChars_map_some]

end Courier.Utf8
