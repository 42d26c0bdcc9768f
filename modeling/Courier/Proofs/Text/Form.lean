import Courier.Proofs.Text.Parts
import Courier.Proofs.Text.Utf8
import Courier.Text.Form

/-!
# Form encoding read back

Names and values are written byte by byte: letters, digits and four marks stand for themselves, a
space is a plus sign, and every other byte is escaped. What is written has no ampersand and no equals
sign of its own, so the parts and the pairs are cut where they were joined, and each of them is read
as it was.
-/

namespace Courier.Text.Form

/-! ## Writing -/

/-- Whether a byte stands for itself: an ASCII letter or digit, or one of the marks `*-._`. -/
def isPlain (byte : UInt8) : Bool :=
  (0x30 ≤ byte && byte ≤ 0x39) || (0x41 ≤ byte && byte ≤ 0x5A) || (0x61 ≤ byte && byte ≤ 0x7A) ||
    [0x2A, 0x2D, 0x2E, 0x5F].contains byte

/-- The hexadecimal digit of a value below 16, in upper case. -/
def hexDigit (value : Nat) : UInt8 := UInt8.ofNat (if value < 10 then 0x30 + value else 0x37 + value)

def escape (byte : UInt8) : List UInt8 :=
  if byte = 0x20 then [0x2B]
  else if isPlain byte then [byte]
  else [0x25, hexDigit (byte.toNat / 16), hexDigit (byte.toNat % 16)]

def encodePart (text : String) : List UInt8 := (Utf8.encode text).flatMap escape

def encodePair (pair : String × String) : List UInt8 :=
  encodePart pair.1 ++ 0x3D :: encodePart pair.2

/-- Pairs as the bytes of a query or of a form. -/
def encode (pairs : List (String × String)) : List UInt8 :=
  List.intercalate [0x26] (pairs.map encodePair)

/-- Pairs as the text of a query. -/
def encodeText (pairs : List (String × String)) : String :=
  String.ofList ((encode pairs).map fun byte => Char.ofNat byte.toNat)

/-! ## Bytes -/

theorem hexValue?_hexDigit {value : Nat} (small : value < 16) :
    hexValue? (hexDigit value) = some value := by
  have all : ∀ digit < 16, hexValue? (hexDigit digit) = some digit := by decide
  exact all value small

/-- The bytes that are written for a byte are ASCII, and neither an ampersand nor an equals sign. -/
theorem escape_bounds {byte written : UInt8} (mem : written ∈ escape byte) :
    written.toNat < 128 ∧ written ≠ 0x26 ∧ written ≠ 0x3D := by
  have all : ∀ value < 256, (escape (UInt8.ofNat value)).all (fun written =>
      written.toNat < 128 && written != 0x26 && written != 0x3D) = true := by decide +kernel
  have known := List.all_eq_true.mp (all byte.toNat byte.toNat_lt) written
  rw [UInt8.ofNat_toNat] at known
  simpa [and_assoc] using known mem

theorem decodeBytes_plain {byte : UInt8} (noPlus : byte ≠ 0x2B) (noPercent : byte ≠ 0x25)
    (rest : List UInt8) : decodeBytes (byte :: rest) = byte :: decodeBytes rest := by
  rw [decodeBytes]
  · exact noPlus
  · rintro _ _ _ rfl
    exact absurd rfl noPercent

theorem decodeBytes_escape_append (byte : UInt8) (rest : List UInt8) :
    decodeBytes (escape byte ++ rest) = byte :: decodeBytes rest := by
  rw [escape]
  split
  case isTrue space =>
      subst space
      rfl
  case isFalse =>
      split
      case isTrue plain =>
          apply decodeBytes_plain
          · rintro rfl
            exact absurd plain (by decide)
          · rintro rfl
            exact absurd plain (by decide)
      case isFalse =>
          have bound := byte.toNat_lt
          simp only [List.cons_append, List.nil_append, decodeBytes,
            hexValue?_hexDigit (show byte.toNat / 16 < 16 by omega),
            hexValue?_hexDigit (show byte.toNat % 16 < 16 by omega), Nat.div_add_mod',
            UInt8.ofNat_toNat]

theorem decodeBytes_flatMap_escape (bytes : List UInt8) :
    decodeBytes (bytes.flatMap escape) = bytes := by
  induction bytes with
  | nil => rfl
  | cons byte rest ih => rw [List.flatMap_cons, decodeBytes_escape_append, ih]

theorem decodePart_encodePart (text : String) : decodePart (encodePart text) = text := by
  rw [decodePart, encodePart, decodeBytes_flatMap_escape, Utf8.decodeLossy_encode]

theorem encodePart_bounds {text : String} {byte : UInt8} (mem : byte ∈ encodePart text) :
    byte.toNat < 128 ∧ byte ≠ 0x26 ∧ byte ≠ 0x3D := by
  rcases List.mem_flatMap.mp mem with ⟨original, -, written⟩
  exact escape_bounds written

/-! ## Pairs -/

theorem decodePair_encodePair (pair : String × String) : decodePair (encodePair pair) = pair := by
  have clear : ∀ byte ∈ encodePart pair.1, (byte != 0x3D) = true := by
    intro byte mem
    exact bne_iff_ne.mpr (encodePart_bounds mem).2.2
  rw [decodePair, encodePair, List.takeWhile_append_of_pos clear,
    List.dropWhile_append_of_pos clear]
  simp [decodePart_encodePart]

theorem encodePair_bounds {pair : String × String} {byte : UInt8} (mem : byte ∈ encodePair pair) :
    byte.toNat < 128 ∧ byte ≠ 0x26 := by
  rcases List.mem_append.mp mem with inName | inValue
  · exact ⟨(encodePart_bounds inName).1, (encodePart_bounds inName).2.1⟩
  · rcases List.mem_cons.mp inValue with rfl | inValue
    · decide
    · exact ⟨(encodePart_bounds inValue).1, (encodePart_bounds inValue).2.1⟩

theorem encodePair_ne_nil (pair : String × String) : encodePair pair ≠ [] := by
  simp [encodePair]

theorem splitAt_eq_splitOn (separator : UInt8) (input : List UInt8) :
    splitAt separator input = input.splitOn separator := by
  apply eq_splitOn
  · rfl
  · intro rest
    rw [splitAt, if_pos rfl]
  · intro byte rest part parts differ divided
    rw [splitAt, if_neg differ, divided]

theorem decode_encode (pairs : List (String × String)) : decode (encode pairs) = pairs := by
  cases pairs with
  | nil => rfl
  | cons first rest =>
      have clear : ∀ part ∈ (first :: rest).map encodePair, 0x26 ∉ part := by
        intro part mem stands
        rcases List.mem_map.mp mem with ⟨pair, -, rfl⟩
        exact (encodePair_bounds stands).2 rfl
      have nonempty : ∀ part ∈ (first :: rest).map encodePair, (!part.isEmpty) = true := by
        intro part mem
        rcases List.mem_map.mp mem with ⟨pair, -, rfl⟩
        simp [encodePair_ne_nil pair]
      rw [decode, encode, splitAt_eq_splitOn, List.splitOn_intercalate 0x26 clear (by simp),
        List.filter_eq_self.mpr nonempty, List.map_map]
      simp [Function.comp_def, decodePair_encodePair]

theorem lt_of_mem_encode {pairs : List (String × String)} {byte : UInt8}
    (mem : byte ∈ encode pairs) : byte.toNat < 128 := by
  have inParts : ∀ part ∈ pairs.map encodePair, ∀ byte ∈ part, byte.toNat < 128 := by
    intro part partMem byte inPart
    rcases List.mem_map.mp partMem with ⟨pair, -, rfl⟩
    exact (encodePair_bounds inPart).1
  exact forall_mem_intercalate (List.forall_mem_singleton.mpr (by decide)) inParts byte mem

theorem utf8_encodeText (pairs : List (String × String)) :
    Utf8.encode (encodeText pairs) = encode pairs := by
  rw [Utf8.encode, encodeText, String.toList_ofList]
  exact Utf8.encodeChars_ofAscii fun _ mem => lt_of_mem_encode mem

end Courier.Text.Form
