import Courier.Proofs.Payload.Values
import Courier.Socket.Payload

/-!
# Byte strings in payloads

A byte string travels as text in base64, and this text is the only one from which it is read, in the
fields of payloads as well as in binary content. The texts that are read at all are described here
by the alphabet alone: whole groups of four symbols, and behind them at most one group that padding
fills up and whose bits that are left over are zero. Every other text is refused: padding that is
missing or too much, padding in front of a symbol, bits that should be zero, and characters that are
no symbols, blanks among them.
-/

namespace Courier

namespace Base64

/-- The symbols in the order of the numbers that they stand for. -/
def alphabet : List Char := "ABCDEFGHIJKLMNOPQRSTUVWXYZabcdefghijklmnopqrstuvwxyz0123456789+/".toList

/-- What may stand behind the whole groups of a text: nothing, or a last group for one byte or two,
with padding and without bits left over. -/
inductive Ending : List Char → Prop where
  | whole : Ending []
  | one {first second : Char} {a b : Nat} (isFirst : alphabet[a]? = some first)
      (isSecond : alphabet[b]? = some second) (noBits : b % 16 = 0) :
      Ending [first, second, '=', '=']
  | two {first second third : Char} {a b c : Nat} (isFirst : alphabet[a]? = some first)
      (isSecond : alphabet[b]? = some second) (isThird : alphabet[c]? = some third)
      (noBits : c % 4 = 0) : Ending [first, second, third, '=']

/-- A text of whole groups of symbols and an ending. -/
def Canonical (chars : List Char) : Prop :=
  ∃ full ending, chars = full ++ ending ∧ full.length % 4 = 0 ∧ (∀ c ∈ full, c ∈ alphabet) ∧
    Ending ending

/-- What can be wrong with a text. -/
inductive Flaw : List Char → Prop where
  | unpadded {chars : List Char} {count : Nat} (data : List UInt8) (pos : 0 < count)
      (missing : chars ++ List.replicate count '=' = (encode data).toList) : Flaw chars
  | overPadded {count : Nat} (data : List UInt8) (pos : 0 < count) :
      Flaw ((encode data).toList ++ List.replicate count '=')
  | bitsBehindOne {front : List Char} {first second : Char} {b : Nat}
      (isSecond : alphabet[b]? = some second) (bits : b % 16 ≠ 0) :
      Flaw (front ++ [first, second, '=', '='])
  | bitsBehindTwo {front : List Char} {first second third : Char} {c : Nat}
      (isThird : alphabet[c]? = some third) (bits : c % 4 ≠ 0) :
      Flaw (front ++ [first, second, third, '='])
  | foreign {chars : List Char} {c : Char} (mem : c ∈ chars) (noSymbol : c ∉ alphabet)
      (noPadding : c ≠ '=') : Flaw chars
  | embedded {before after : List Char} {c : Char} (behind : c ≠ '=') :
      Flaw (before ++ '=' :: c :: after)

/-! ## Symbols as characters -/

/-- The character of a byte of ASCII. -/
def charOf (byte : UInt8) : Char := Char.ofNat byte.toNat

theorem toList_encode (data : List UInt8) : (encode data).toList = (encodeBytes data).map charOf :=
  String.toList_ofList

theorem charOf_symbol {value : Nat} (small : value < 64) :
    alphabet[value]? = some (charOf (symbol value)) := by
  have all : ∀ number < 64, alphabet[number]? = some (charOf (symbol number)) := by decide
  exact all value small

theorem charOf_symbol_of_alphabet {value : Nat} {c : Char} (isSymbol : alphabet[value]? = some c) :
    value < 64 ∧ charOf (symbol value) = c := by
  have small : value < 64 := (List.getElem?_eq_some_iff.mp isSymbol).1
  refine ⟨small, ?_⟩
  rw [charOf_symbol small] at isSymbol
  exact Option.some.inj isSymbol

theorem exists_of_mem_alphabet {c : Char} (mem : c ∈ alphabet) :
    ∃ value < 64, charOf (symbol value) = c := by
  rcases List.mem_iff_getElem?.mp mem with ⟨value, isSymbol⟩
  exact ⟨value, charOf_symbol_of_alphabet isSymbol⟩

theorem mem_alphabet {value : Nat} {c : Char} (isSymbol : alphabet[value]? = some c) :
    c ∈ alphabet :=
  List.mem_of_getElem? isSymbol

theorem charOf_symbol_mem {value : Nat} (small : value < 64) : charOf (symbol value) ∈ alphabet :=
  mem_alphabet (charOf_symbol small)

theorem padding_notMem_alphabet : '=' ∉ alphabet := by decide

theorem ne_padding {value : Nat} {c : Char} (isSymbol : alphabet[value]? = some c) : c ≠ '=' := by
  rintro rfl
  exact padding_notMem_alphabet (mem_alphabet isSymbol)

/-! ## The texts of byte strings -/

theorem canonical_encode (data : List UInt8) : Canonical (encode data).toList := by
  rw [toList_encode]
  induction data using encodeBytes.induct with
  | case1 => exact ⟨[], [], rfl, rfl, by simp, .whole⟩
  | case2 a =>
      have boundA := a.toNat_lt
      refine ⟨[], _, rfl, rfl, by simp, ?_⟩
      exact .one (charOf_symbol (by omega)) (charOf_symbol (by omega)) (by omega)
  | case3 a b =>
      have boundA := a.toNat_lt
      have boundB := b.toNat_lt
      refine ⟨[], _, rfl, rfl, by simp, ?_⟩
      exact .two (charOf_symbol (by omega)) (charOf_symbol (by omega)) (charOf_symbol (by omega))
        (by omega)
  | case4 a b c rest ih =>
      have boundA := a.toNat_lt
      have boundB := b.toNat_lt
      have boundC := c.toNat_lt
      rcases ih with ⟨full, ending, split, whole, symbols, ends⟩
      rw [encodeBytes, List.map_cons, List.map_cons, List.map_cons, List.map_cons, split]
      refine ⟨_ :: _ :: _ :: _ :: full, ending, rfl, ?_, ?_, ends⟩
      · simp only [List.length_cons]
        omega
      · intro symbol mem
        simp only [List.mem_cons] at mem
        rcases mem with rfl | rfl | rfl | rfl | mem
        · exact charOf_symbol_mem (by omega)
        · exact charOf_symbol_mem (by omega)
        · exact charOf_symbol_mem (by omega)
        · exact charOf_symbol_mem (by omega)
        · exact symbols symbol mem

/-- An ending is the text of two bytes at most. -/
theorem Ending.exists_encode {ending : List Char} (ends : Ending ending) :
    ∃ data, (encodeBytes data).map charOf = ending := by
  cases ends with
  | whole => exact ⟨[], rfl⟩
  | @one first second a b isFirst isSecond noBits =>
      rcases charOf_symbol_of_alphabet isFirst with ⟨boundA, rfl⟩
      rcases charOf_symbol_of_alphabet isSecond with ⟨boundB, rfl⟩
      have joined : joinOne 0 a b pad = .ok [UInt8.ofNat (a * 4 + b / 16)] := if_pos noBits
      exact ⟨_, congrArg (List.map charOf) (encodeBytes_of_joinOne boundA boundB joined)⟩
  | @two first second third a b c isFirst isSecond isThird noBits =>
      rcases charOf_symbol_of_alphabet isFirst with ⟨boundA, rfl⟩
      rcases charOf_symbol_of_alphabet isSecond with ⟨boundB, rfl⟩
      rcases charOf_symbol_of_alphabet isThird with ⟨boundC, rfl⟩
      have joined : joinTwo 0 a b c pad =
          .ok [UInt8.ofNat (a * 4 + b / 16), UInt8.ofNat (b % 16 * 16 + c / 4)] := if_pos noBits
      exact ⟨_, congrArg (List.map charOf) (encodeBytes_of_joinTwo boundA boundB boundC joined)⟩

/-- Whole groups in front of a text are three bytes each. -/
theorem exists_encode_append : (full : List Char) → full.length % 4 = 0 →
    (∀ c ∈ full, c ∈ alphabet) → (data : List UInt8) →
      ∃ more, (encodeBytes more).map charOf = full ++ (encodeBytes data).map charOf
  | [], _, _, data => ⟨data, rfl⟩
  | [_], whole, _, _ => by simp at whole
  | [_, _], whole, _, _ => by simp at whole
  | [_, _, _], whole, _, _ => by simp at whole
  | first :: second :: third :: fourth :: rest, whole, symbols, data => by
      have restWhole : rest.length % 4 = 0 := by
        simp only [List.length_cons] at whole
        omega
      rcases exists_encode_append rest restWhole (fun c mem => symbols c (by simp [mem])) data with
        ⟨more, isRest⟩
      rcases exists_of_mem_alphabet (symbols first (by simp)) with ⟨a, boundA, rfl⟩
      rcases exists_of_mem_alphabet (symbols second (by simp)) with ⟨b, boundB, rfl⟩
      rcases exists_of_mem_alphabet (symbols third (by simp)) with ⟨c, boundC, rfl⟩
      rcases exists_of_mem_alphabet (symbols fourth (by simp)) with ⟨d, boundD, rfl⟩
      refine ⟨join a b c d ++ more, ?_⟩
      rw [encodeBytes_join boundA boundB boundC boundD]
      simp only [List.map_cons, isRest, List.cons_append]

/-- The canonical texts are those of byte strings. -/
theorem exists_encode_iff {text : String} :
    (∃ data, text = encode data) ↔ Canonical text.toList := by
  constructor
  · rintro ⟨data, rfl⟩
    exact canonical_encode data
  · rintro ⟨full, ending, split, whole, symbols, ends⟩
    rcases ends.exists_encode with ⟨data, rfl⟩
    rcases exists_encode_append full whole symbols data with ⟨more, isText⟩
    refine ⟨more, String.toList_inj.mp ?_⟩
    rw [toList_encode, isText, split]

/-! ## Flaws -/

theorem Ending.exists_symbols {ending : List Char} (ends : Ending ending) :
    ∃ symbols count, ending = symbols ++ List.replicate count '=' ∧ (∀ c ∈ symbols, c ∈ alphabet) ∧
      count ≤ 2 ∧ ending.length % 4 = 0 := by
  cases ends with
  | whole => exact ⟨[], 0, rfl, by simp, by decide, rfl⟩
  | @one first second a b isFirst isSecond noBits =>
      refine ⟨[first, second], 2, rfl, ?_, Nat.le_refl 2, by simp⟩
      simp [mem_alphabet isFirst, mem_alphabet isSecond]
  | @two first second third a b c isFirst isSecond isThird noBits =>
      refine ⟨[first, second, third], 1, rfl, ?_, Nat.le_succ 1, by simp⟩
      simp [mem_alphabet isFirst, mem_alphabet isSecond, mem_alphabet isThird]

/-- Padding stands at the end, is no longer than two characters, and fills the last group up. -/
theorem Canonical.exists_body {chars : List Char} (canonical : Canonical chars) :
    ∃ body count, chars = body ++ List.replicate count '=' ∧ (∀ c ∈ body, c ∈ alphabet) ∧
      count ≤ 2 ∧ chars.length % 4 = 0 := by
  rcases canonical with ⟨full, ending, rfl, whole, symbols, ends⟩
  rcases ends.exists_symbols with ⟨last, count, rfl, lastSymbols, few, lastWhole⟩
  refine ⟨full ++ last, count, (List.append_assoc full last _).symm, ?_, few, ?_⟩
  · intro c mem
    exact (List.mem_append.mp mem).elim (symbols c) (lastSymbols c)
  · rw [List.length_append]
    omega

/-- No padding can be added to a canonical text or taken from it. -/
theorem Canonical.no_more_padding {chars : List Char} {count : Nat} (canonical : Canonical chars)
    (padded : Canonical (chars ++ List.replicate count '=')) : count = 0 := by
  rcases canonical.exists_body with ⟨-, -, -, -, -, whole⟩
  rcases padded.exists_body with ⟨body, signs, split, symbols, few, paddedWhole⟩
  have noPadding : List.count '=' body = 0 := by
    rw [List.count_eq_zero]
    intro mem
    exact padding_notMem_alphabet (symbols '=' mem)
  have counted := congrArg (List.count '=') split
  rw [List.count_append, List.count_append, List.count_replicate_self, List.count_replicate_self,
    noPadding] at counted
  rw [List.length_append, List.length_replicate] at paddedWhole
  omega

theorem Canonical.eq_padding_of_behind {before after : List Char} {c : Char}
    (canonical : Canonical (before ++ '=' :: c :: after)) : c = '=' := by
  rcases canonical.exists_body with ⟨body, signs, split, symbols, -, -⟩
  rcases List.append_eq_append_iff.mp split with ⟨between, rfl, rest⟩ | ⟨between, rfl, rest⟩
  · -- the padding in question ends the body, or stands in it
    cases between with
    | nil =>
        apply List.eq_of_mem_replicate (n := signs)
        rw [List.nil_append] at rest
        rw [← rest]
        simp
    | cons sign others =>
        rw [List.cons_append, List.cons.injEq] at rest
        rw [← rest.1] at symbols
        exact absurd (symbols '=' (by simp)) padding_notMem_alphabet
  · apply List.eq_of_mem_replicate (n := signs)
    rw [rest]
    simp

/-- The last group of a canonical text is its ending, if it ends in padding. -/
theorem Canonical.ending {front : List Char} {first second third : Char}
    (canonical : Canonical (front ++ [first, second, third, '='])) :
    Ending [first, second, third, '='] := by
  rcases canonical with ⟨full, ending, split, -, symbols, ends⟩
  have lastGroup : ending.length = 4 → Ending [first, second, third, '='] := by
    intro length
    rw [(List.append_inj' split (by rw [length]; rfl)).2]
    exact ends
  cases ends with
  | whole =>
      rw [List.append_nil] at split
      exact absurd (symbols '=' (by simp [← split])) padding_notMem_alphabet
  | one => exact lastGroup rfl
  | two => exact lastGroup rfl

theorem number_unique {a b : Nat} {c : Char} (isSymbol : alphabet[a]? = some c)
    (alsoSymbol : alphabet[b]? = some c) : a = b := by
  have inRange : a < alphabet.length := (List.getElem?_eq_some_iff.mp isSymbol).1
  have distinct : alphabet.Nodup := by decide
  exact (List.getElem?_inj inRange distinct).mp (isSymbol.trans alsoSymbol.symm)

theorem Ending.noBits_one {first second : Char} {b : Nat}
    (ends : Ending [first, second, '=', '=']) (isSecond : alphabet[b]? = some second) :
    b % 16 = 0 := by
  cases ends with
  | one _ isSymbol noBits => rwa [number_unique isSecond isSymbol]
  | two _ _ isThird _ => exact absurd rfl (ne_padding isThird)

theorem Ending.noBits_two {first second third : Char} {c : Nat}
    (ends : Ending [first, second, third, '=']) (isThird : alphabet[c]? = some third) :
    c % 4 = 0 := by
  cases ends with
  | one _ _ _ => exact absurd rfl (ne_padding isThird)
  | two _ _ isSymbol noBits => rwa [number_unique isThird isSymbol]

theorem Flaw.not_canonical {chars : List Char} (flaw : Flaw chars) : ¬Canonical chars := by
  intro canonical
  cases flaw with
  | unpadded data pos missing =>
      have padded := canonical_encode data
      rw [← missing] at padded
      exact absurd (canonical.no_more_padding padded) (Nat.ne_of_gt pos)
  | overPadded data pos =>
      exact absurd ((canonical_encode data).no_more_padding canonical) (Nat.ne_of_gt pos)
  | bitsBehindOne isSecond bits => exact bits (canonical.ending.noBits_one isSecond)
  | bitsBehindTwo isThird bits => exact bits (canonical.ending.noBits_two isThird)
  | foreign mem noSymbol noPadding =>
      rcases canonical.exists_body with ⟨body, signs, rfl, symbols, -, -⟩
      rcases List.mem_append.mp mem with inBody | inPadding
      · exact noSymbol (symbols _ inBody)
      · exact noPadding (List.eq_of_mem_replicate inPadding)
  | embedded behind => exact behind canonical.eq_padding_of_behind

end Base64

/-! ## Fields and binary content -/

open Socket (contentBytes)

/-- A text is refused in a field of bytes and as binary content, for the same reason. -/
def Unreadable (text : String) : Prop :=
  ∃ reason : Base64.DecodeError,
    Reader.bytes (.text text) = .error (.invalidContent reason.message) ∧
      contentBytes text true =
        .error (.malformedMessage ("Invalid binary content: " ++ reason.message))

theorem contentBytes_eq_ok_iff {text : String} {data : List UInt8} :
    contentBytes text true = .ok data ↔ text = Base64.encode data := by
  rw [← Base64.utf8_eq_iff, ← Base64.decodeBytes_eq_ok_iff, contentBytes, if_pos rfl]
  cases decoded : Base64.decodeBytes (Utf8.encode text) <;> simp

theorem refused_of_not_canonical {text : String} (flawed : ¬Base64.Canonical text.toList) :
    Unreadable text := by
  cases decoded : Base64.decodeBytes (Utf8.encode text) with
  | ok data =>
      have isText := Base64.utf8_eq_iff.mp (Base64.decodeBytes_eq_ok_iff.mp decoded)
      exact absurd (Base64.exists_encode_iff.mp ⟨data, isText⟩) flawed
  | error reason =>
      refine ⟨reason, ?_, ?_⟩
      · simp only [Reader.bytes, Reader.text, decoded]
      · simp only [contentBytes, if_true, decoded]

/-- A byte string has exactly one text: it is read back from this text and from no other value, in a
field of bytes and as binary content. The texts of byte strings are the canonical ones, every other
text is refused, and no canonical text has any of the flaws. -/
theorem byte_strings_have_one_text :
    (∀ data, Reader.bytes (.text (Base64.encode data)) = .ok data) ∧
      (∀ json data, Reader.bytes json = .ok data ↔ json = .text (Base64.encode data)) ∧
      (∀ text data, contentBytes text true = .ok data ↔ text = Base64.encode data) ∧
      (∀ text : String, (∃ data, text = Base64.encode data) ↔ Base64.Canonical text.toList) ∧
      (∀ text : String, ¬Base64.Canonical text.toList → Unreadable text) ∧
      ∀ text : String, Base64.Flaw text.toList → ¬Base64.Canonical text.toList := by
  refine ⟨Reader.bytes_encode, Reader.inverts_bytes, ?_, ?_, ?_, ?_⟩
  · exact fun _ _ => contentBytes_eq_ok_iff
  · exact fun _ => Base64.exists_encode_iff
  · exact fun _ => refused_of_not_canonical
  · exact fun _ flaw => flaw.not_canonical

/-- Padding that is missing or too much, a bit that is left over, a symbol of another alphabet, a
blank, and padding in the middle. -/
theorem byte_strings_have_one_text_flawed :
    (∀ text ∈ ["AA", "AA===", "AB==", "AAB=", "__==", "AA==\n", "AA==AA=="],
        Base64.Flaw text.toList) ∧
      ∀ text ∈ ["AA", "AA===", "AB==", "AAB=", "__==", "AA==\n", "AA==AA=="], Unreadable text := by
  have flawed : ∀ text ∈ ["AA", "AA===", "AB==", "AAB=", "__==", "AA==\n", "AA==AA=="],
      Base64.Flaw text.toList := by
    intro text mem
    simp only [List.mem_cons, List.not_mem_nil, or_false] at mem
    rcases mem with rfl | rfl | rfl | rfl | rfl | rfl | rfl
    · exact @Base64.Flaw.unpadded _ 2 [0] (by decide) rfl
    · exact @Base64.Flaw.overPadded 1 [0] (by decide)
    · exact @Base64.Flaw.bitsBehindOne [] 'A' 'B' 1 rfl (by decide)
    · exact @Base64.Flaw.bitsBehindTwo [] 'A' 'A' 'B' 1 rfl (by decide)
    · exact @Base64.Flaw.foreign _ '_' (by decide) (by decide) (by decide)
    · exact @Base64.Flaw.foreign _ '\n' (by decide) (by decide) (by decide)
    · exact @Base64.Flaw.embedded ['A', 'A', '='] ['A', '=', '='] 'A' (by decide)
  rcases byte_strings_have_one_text with ⟨-, -, -, -, refused, flaws⟩
  exact ⟨flawed, fun text mem => refused text (flaws text (flawed text mem))⟩

end Courier
