import Courier.Proofs.Results
import Courier.Proofs.Text.Base64

/-!
# One text for each byte string

The text of a byte string in base64 is the only one that is read as this byte string. Each symbol
stands for its own six bits, the bits that are left over must be zero, and the padding fills the last
group up, so no two texts have the same bytes. A character that is not ASCII is no symbol.
-/

namespace Courier.Base64

variable {offset a b c d : Nat} {bytes : List UInt8}

/-! ## Symbols -/

theorem symbol_of_value? {byte : UInt8} {value : Nat} (read : value? byte = some value) :
    value < 64 ∧ symbol value = byte := by
  simp only [value?] at read
  split at read
  · cases read
    refine ⟨by omega, ?_⟩
    rw [symbol, if_pos (by omega)]
    exact byte_eq (by omega)
  split at read
  · cases read
    refine ⟨by omega, ?_⟩
    rw [symbol, if_neg (by omega), if_pos (by omega)]
    exact byte_eq (by omega)
  split at read
  · cases read
    refine ⟨by omega, ?_⟩
    rw [symbol, if_neg (by omega), if_neg (by omega), if_pos (by omega)]
    exact byte_eq (by omega)
  split at read
  · rename_i plus
    cases read
    exact ⟨by decide, UInt8.toNat_inj.mp plus.symm⟩
  split at read
  · rename_i slash
    cases read
    exact ⟨by decide, UInt8.toNat_inj.mp slash.symm⟩
  · cases read

theorem symbol_of_valueAt {byte : UInt8} {value : Nat} (read : valueAt offset byte = .ok value) :
    value < 64 ∧ symbol value = byte := by
  rw [valueAt] at read
  cases found : value? byte with
  | none =>
      rw [found] at read
      cases read
  | some number =>
      rw [found] at read
      cases read
      exact symbol_of_value? found

/-! ## Groups -/

theorem toNat_byte {value : Nat} (small : value < 256) : (UInt8.ofNat value).toNat = value :=
  UInt8.toNat_ofNat_of_lt' small

theorem encodeBytes_join (boundA : a < 64) (boundB : b < 64) (boundC : c < 64) (boundD : d < 64)
    (rest : List UInt8) :
    encodeBytes (join a b c d ++ rest) =
      symbol a :: symbol b :: symbol c :: symbol d :: encodeBytes rest := by
  simp only [join, List.cons_append, List.nil_append, encodeBytes]
  rw [toNat_byte (by omega), toNat_byte (by omega), toNat_byte (by omega)]
  have first : (a * 4 + b / 16) / 4 = a := by omega
  have second : (a * 4 + b / 16) % 4 * 16 + (b % 16 * 16 + c / 4) / 16 = b := by omega
  have third : (b % 16 * 16 + c / 4) % 16 * 4 + (c % 4 * 64 + d) / 64 = c := by omega
  have fourth : (c % 4 * 64 + d) % 64 = d := by omega
  rw [first, second, third, fourth]

theorem encodeBytes_of_joinOne {last : UInt8} (boundA : a < 64) (boundB : b < 64)
    (joined : joinOne offset a b last = .ok bytes) :
    encodeBytes bytes = [symbol a, symbol b, pad, pad] := by
  rw [joinOne] at joined
  split at joined
  · cases joined
    rw [encodeBytes, toNat_byte (by omega)]
    have first : (a * 4 + b / 16) / 4 = a := by omega
    have second : (a * 4 + b / 16) % 4 * 16 = b := by omega
    rw [first, second]
  · cases joined

theorem encodeBytes_of_joinTwo {last : UInt8} (boundA : a < 64) (boundB : b < 64)
    (boundC : c < 64) (joined : joinTwo offset a b c last = .ok bytes) :
    encodeBytes bytes = [symbol a, symbol b, symbol c, pad] := by
  rw [joinTwo] at joined
  split at joined
  · cases joined
    rw [encodeBytes, toNat_byte (by omega), toNat_byte (by omega)]
    have first : (a * 4 + b / 16) / 4 = a := by omega
    have second : (a * 4 + b / 16) % 4 * 16 + (b % 16 * 16 + c / 4) / 16 = b := by omega
    have third : (b % 16 * 16 + c / 4) % 16 * 4 = c := by omega
    rw [first, second, third]
  · cases joined

theorem encodeBytes_of_decodeLast {input : List UInt8} (short : input.length ≤ 4)
    (decoded : decodeLast offset input = .ok bytes) : encodeBytes bytes = input := by
  match input, short with
  | [], _ =>
      cases decoded
      rfl
  | [first], _ =>
      rcases eq_ok_of_bind decoded with ⟨a, _, refused⟩
      cases refused
  | [first, second], _ =>
      rcases eq_ok_of_bind decoded with ⟨a, _, decoded⟩
      rcases eq_ok_of_bind decoded with ⟨b, _, refused⟩
      cases refused
  | [first, second, third], _ =>
      rcases eq_ok_of_bind decoded with ⟨a, _, decoded⟩
      rcases eq_ok_of_bind decoded with ⟨b, _, decoded⟩
      dsimp only at decoded
      split at decoded
      · cases decoded
      · rcases eq_ok_of_bind decoded with ⟨c, _, refused⟩
        cases refused
  | [first, second, third, fourth], _ =>
      rcases eq_ok_of_bind decoded with ⟨a, readA, decoded⟩
      rcases eq_ok_of_bind decoded with ⟨b, readB, decoded⟩
      rcases symbol_of_valueAt readA with ⟨boundA, isA⟩
      rcases symbol_of_valueAt readB with ⟨boundB, isB⟩
      dsimp only at decoded
      split at decoded
      · rename_i thirdPad
        split at decoded
        · rename_i fourthPad
          rw [encodeBytes_of_joinOne boundA boundB decoded, isA, isB, thirdPad, fourthPad]
        · cases decoded
      · rcases eq_ok_of_bind decoded with ⟨c, readC, decoded⟩
        rcases symbol_of_valueAt readC with ⟨boundC, isC⟩
        split at decoded
        · rename_i fourthPad
          rw [encodeBytes_of_joinTwo boundA boundB boundC decoded, isA, isB, isC, fourthPad]
        · rcases eq_ok_of_bind decoded with ⟨d, readD, decoded⟩
          rcases symbol_of_valueAt readD with ⟨boundD, isD⟩
          cases decoded
          have group := encodeBytes_join boundA boundB boundC boundD []
          rw [isA, isB, isC, isD] at group
          exact group

theorem encodeBytes_of_decodeGroups {input : List UInt8}
    (decoded : decodeGroups offset input = .ok bytes) : encodeBytes bytes = input := by
  induction offset, input using decodeGroups.induct generalizing bytes with
  | case1 offset first second third fourth next rest ih =>
      rw [decodeGroups] at decoded
      rcases eq_ok_of_bind decoded with ⟨a, readA, decoded⟩
      rcases eq_ok_of_bind decoded with ⟨b, readB, decoded⟩
      rcases eq_ok_of_bind decoded with ⟨c, readC, decoded⟩
      rcases eq_ok_of_bind decoded with ⟨d, readD, decoded⟩
      rcases eq_ok_of_bind decoded with ⟨others, behind, decoded⟩
      cases decoded
      rcases symbol_of_valueAt readA with ⟨boundA, rfl⟩
      rcases symbol_of_valueAt readB with ⟨boundB, rfl⟩
      rcases symbol_of_valueAt readC with ⟨boundC, rfl⟩
      rcases symbol_of_valueAt readD with ⟨boundD, rfl⟩
      rw [encodeBytes_join boundA boundB boundC boundD, ih behind]
  | case2 offset last short =>
      have four : last.length ≤ 4 := by
        rcases last with _ | ⟨first, _ | ⟨second, _ | ⟨third, _ | ⟨fourth, _ | ⟨next, rest⟩⟩⟩⟩⟩
        iterate 5 · simp
        · exact absurd rfl (short first second third fourth next rest)
      rw [decodeGroups] at decoded
      · exact encodeBytes_of_decodeLast four decoded
      · exact short

/-- What is read is the text of the bytes that come of it. -/
theorem decodeBytes_eq_ok_iff {input : List UInt8} :
    decodeBytes input = .ok bytes ↔ input = encodeBytes bytes := by
  constructor
  · intro decoded
    rw [decodeBytes] at decoded
    split at decoded
    · cases decoded
    · exact (encodeBytes_of_decodeGroups decoded).symm
  · rintro rfl
    exact decodeBytes_encodeBytes bytes

end Courier.Base64

namespace Courier

/-! ## Characters -/

/-- A character whose bytes are all ASCII is one of them. -/
theorem Utf8.encodeChar_of_ascii {c : Char} (ascii : ∀ byte ∈ Utf8.encodeChar c, byte.toNat < 128) :
    (Utf8.encodeChar c).map (fun byte => Char.ofNat byte.toNat) = [c] := by
  have bound : c.toNat < 0x110000 := by
    rcases c.valid with low | ⟨_, high⟩
    · exact Nat.lt_trans low (by decide)
    · exact high
  simp only [Utf8.encodeChar] at ascii ⊢
  split at ascii
  · rename_i low
    simp only [low, if_true, List.map_singleton]
    rw [Base64.toNat_byte (by omega), Char.ofNat_toNat]
  split at ascii
  · have lead := ascii _ List.mem_cons_self
    rw [Base64.toNat_byte (by omega)] at lead
    omega
  split at ascii
  · have lead := ascii _ List.mem_cons_self
    rw [Base64.toNat_byte (by omega)] at lead
    omega
  · have lead := ascii _ List.mem_cons_self
    rw [Base64.toNat_byte (by omega)] at lead
    omega

theorem Utf8.encodeChars_of_ascii {chars : List Char}
    (ascii : ∀ byte ∈ Utf8.encodeChars chars, byte.toNat < 128) :
    (Utf8.encodeChars chars).map (fun byte => Char.ofNat byte.toNat) = chars := by
  induction chars with
  | nil => rfl
  | cons c rest ih =>
      rw [Utf8.encodeChars, List.flatMap_cons] at ascii ⊢
      have first := Utf8.encodeChar_of_ascii fun byte mem =>
        ascii byte (List.mem_append_left _ mem)
      have others := ih fun byte mem => ascii byte (List.mem_append_right _ mem)
      rw [List.map_append, first]
      exact congrArg (c :: ·) others

namespace Base64

/-- A text is that of a byte string if its bytes are. -/
theorem utf8_eq_iff {text : String} {bytes : List UInt8} :
    Utf8.encode text = encodeBytes bytes ↔ text = encode bytes := by
  constructor
  · intro same
    have ascii : ∀ byte ∈ Utf8.encode text, byte < 128 := by
      rw [same]
      exact fun _ mem => lt_of_mem_encodeBytes mem
    have chars := Utf8.encodeChars_of_ascii ascii
    change (Utf8.encode text).map _ = _ at chars
    rw [same] at chars
    rw [encode, chars, String.ofList_toList]
  · rintro rfl
    exact utf8_encode bytes

end Base64

end Courier
