import Courier.Channel.Name
import Mathlib

/-!
# Cutting names at their last separator

A name is cut at its last separator. A suffix that is drawn for a new name holds no separator, so
the cut gives back what stood in front of it, whatever that is: it may hold separators itself, or
look like a name with a suffix. Conversely a name is cut only where its last separator is followed
by so many bytes.

The length of a suffix is counted in bytes, which need not be so many characters. For letters and
digits of ASCII they are.
-/

namespace Courier

/-! ## Lengths in bytes -/

namespace Utf8

theorem length_encodeChar (c : Char) : (encodeChar c).length = c.utf8Size := by
  have value : c.val.toNat = c.toNat := rfl
  have one : c.toNat < 0x80 ↔ c.toNat ≤ 127 := Nat.lt_succ_iff
  have two : c.toNat < 0x800 ↔ c.toNat ≤ 2047 := Nat.lt_succ_iff
  have three : c.toNat < 0x10000 ↔ c.toNat ≤ 65535 := Nat.lt_succ_iff
  rw [← String.length_utf8EncodeChar]
  simp only [encodeChar, String.utf8EncodeChar, value, one, two, three]
  split
  · rfl
  split
  · rfl
  split
  · rfl
  · rfl

theorem length_encodeChars (chars : List Char) :
    (encodeChars chars).length = (String.ofList chars).utf8ByteSize := by
  induction chars with
  | nil => rfl
  | cons c rest ih =>
      rw [String.ofList_cons, String.utf8ByteSize_append, String.utf8ByteSize_singleton, ← ih,
        ← length_encodeChar, ← List.length_append]
      rfl

end Utf8

/-! ## The last separator -/

namespace Channel

theorem cutLast_eq_none_iff {chars : List Char} : cutLast chars = none ↔ separator ∉ chars := by
  induction chars with
  | nil => simp [cutLast]
  | cons c rest ih =>
      rw [List.mem_cons, not_or, ← ih, cutLast]
      cases cutLast rest with
      | none => simp [eq_comm]
      | some parts => simp

theorem cutLast_append {before after : List Char} (last : separator ∉ after) :
    cutLast (before ++ separator :: after) = some (before, after) := by
  induction before with
  | nil =>
      rw [List.nil_append, cutLast, cutLast_eq_none_iff.mpr last]
      exact if_pos rfl
  | cons c rest ih => rw [List.cons_append, cutLast, ih]

/-- A text is cut where the last separator stands. -/
theorem cutLast_eq_some_iff {chars before after : List Char} :
    cutLast chars = some (before, after) ↔
      chars = before ++ separator :: after ∧ separator ∉ after := by
  constructor
  · intro cut
    induction chars generalizing before with
    | nil => cases cut
    | cons c rest ih =>
        rw [cutLast] at cut
        cases behind : cutLast rest with
        | some parts =>
            rw [behind] at cut
            cases cut
            rcases ih behind with ⟨split, last⟩
            exact ⟨congrArg (c :: ·) split, last⟩
        | none =>
            rw [behind] at cut
            dsimp only at cut
            split at cut
            · rename_i isSeparator
              cases cut
              exact ⟨congrArg (· :: after) isSeparator, cutLast_eq_none_iff.mp behind⟩
            · cases cut
  · rintro ⟨rfl, last⟩
    exact cutLast_append last

/-! ## Names -/

theorem join_eq (base suffix : String) : join base suffix = base ++ "!" ++ suffix := by
  apply String.toList_inj.mp
  rw [join, String.toList_ofList, String.toList_append, String.toList_append, List.append_assoc]
  rfl

theorem base?_eq_some_iff {name base : String} :
    base? name = some base ↔
      ∃ suffix : String, name = join base suffix ∧ suffix.utf8ByteSize = suffixLength ∧
        separator ∉ suffix.toList := by
  constructor
  · intro found
    rw [base?] at found
    cases cut : cutLast name.toList with
    | none =>
        rw [cut] at found
        cases found
    | some parts =>
        rcases parts with ⟨before, after⟩
        rw [cut] at found
        dsimp only at found
        split at found
        · rename_i length
          cases found
          rcases cutLast_eq_some_iff.mp cut with ⟨split, last⟩
          refine ⟨String.ofList after, ?_, ?_, ?_⟩
          · rw [join, String.toList_ofList, String.toList_ofList, ← split, String.ofList_toList]
          · rw [← Utf8.length_encodeChars, length]
          · rwa [String.toList_ofList]
        · cases found
  · rintro ⟨suffix, rfl, length, last⟩
    have bytes : (Utf8.encodeChars suffix.toList).length = suffixLength := by
      rw [Utf8.length_encodeChars, String.ofList_toList, length]
    rw [base?, join, String.toList_ofList, cutLast_append last]
    dsimp only
    rw [if_pos bytes, String.ofList_toList]

/-- Suffixes without a separator tell two names apart, and so do first parts. -/
theorem join_inj {base other suffix otherSuffix : String} (last : separator ∉ suffix.toList)
    (otherLast : separator ∉ otherSuffix.toList)
    (same : join base suffix = join other otherSuffix) : base = other ∧ suffix = otherSuffix := by
  have cuts := congrArg (fun name => cutLast name.toList) same
  simp only [join, String.toList_ofList, cutLast_append last, cutLast_append otherLast,
    Option.some.injEq, Prod.mk.injEq, String.toList_inj] at cuts
  exact cuts

/-! ## Drawn suffixes -/

/-- What is drawn as the suffix of a new name: so many letters and digits of ASCII. -/
structure Drawn (suffix : String) : Prop where
  length : suffix.length = suffixLength
  alphanumeric : ∀ c ∈ suffix.toList, c.isAlphanum = true

theorem utf8Size_of_isAlphanum {c : Char} (alphanumeric : c.isAlphanum = true) :
    c.utf8Size = 1 := by
  simp only [Char.isAlphanum, Char.isAlpha, Char.isUpper, Char.isLower, Char.isDigit,
    Bool.or_eq_true, Bool.and_eq_true, decide_eq_true_eq, ge_iff_le, UInt32.le_iff_toNat_le]
    at alphanumeric
  rw [Char.utf8Size_eq_one_iff, UInt32.le_iff_toNat_le]
  have bounds : 'Z'.val.toNat ≤ 127 ∧ 'z'.val.toNat ≤ 127 ∧ '9'.val.toNat ≤ 127 := by decide
  change c.val.toNat ≤ 127
  omega

theorem utf8ByteSize_of_alphanumeric {chars : List Char}
    (alphanumeric : ∀ c ∈ chars, c.isAlphanum = true) :
    (String.ofList chars).utf8ByteSize = chars.length := by
  induction chars with
  | nil => rfl
  | cons c rest ih =>
      have others := ih fun other mem => alphanumeric other (List.mem_cons_of_mem c mem)
      rw [String.ofList_cons, String.utf8ByteSize_append, String.utf8ByteSize_singleton, others,
        utf8Size_of_isAlphanum (alphanumeric c List.mem_cons_self), List.length_cons, Nat.add_comm]

namespace Drawn

variable {suffix : String}

theorem last (drawn : Drawn suffix) : separator ∉ suffix.toList := by
  intro mem
  exact absurd (drawn.alphanumeric separator mem) (by decide)

theorem utf8ByteSize (drawn : Drawn suffix) : suffix.utf8ByteSize = suffixLength := by
  have bytes := utf8ByteSize_of_alphanumeric drawn.alphanumeric
  rw [String.ofList_toList, String.length_toList, drawn.length] at bytes
  exact bytes

end Drawn

/-- The digits of a number that is not too large fill a suffix up. -/
theorem drawn_padded {number : Nat} (small : number < 10 ^ suffixLength) :
    Drawn (Supply.padded suffixLength number) := by
  have digits : (Nat.toDigits 10 number).length ≤ suffixLength :=
    (Nat.length_toDigits_le_iff (by decide) (by decide)).mpr small
  refine ⟨?_, ?_⟩
  · rw [Supply.padded, String.length_ofList, List.length_append, List.length_replicate]
    exact Nat.sub_add_cancel digits
  · intro c mem
    rw [Supply.padded, String.toList_ofList, List.mem_append] at mem
    rw [Char.isAlphanum, Bool.or_eq_true]
    right
    rcases mem with zero | digit
    · rw [List.eq_of_mem_replicate zero]
      rfl
    · exact Nat.isDigit_of_mem_toDigits (by decide) (by decide) digit

/-! ## New names -/

/-- A new name is its first part, a separator and the drawn suffix, and gives its first part back,
whatever that is. Names with different parts differ. A name has a first part exactly if its last
separator stands in front of twenty-four bytes, and this is what stands in front of that
separator. -/
theorem names_give_back_their_base :
    (∀ base suffix, join base suffix = base ++ "!" ++ suffix) ∧
      (∀ base suffix, Drawn suffix → base? (join base suffix) = some base) ∧
      (∀ base suffix other otherSuffix, Drawn suffix → Drawn otherSuffix →
        (base, suffix) ≠ (other, otherSuffix) → join base suffix ≠ join other otherSuffix) ∧
      (∀ name base, base? name = some base ↔
        ∃ suffix : String, name = base ++ "!" ++ suffix ∧ suffix.utf8ByteSize = 24 ∧
          '!' ∉ suffix.toList) ∧
      (∀ name, base? name = none ↔
        ¬∃ base suffix : String, name = base ++ "!" ++ suffix ∧ suffix.utf8ByteSize = 24 ∧
          '!' ∉ suffix.toList) ∧
      ∀ (supply : Supply) (base : String), supply.used < 10 ^ 24 →
        ∃ suffix, Drawn suffix ∧ (supply.freshName base).1 = join base suffix := by
  have isCut : ∀ name base, base? name = some base ↔
      ∃ suffix : String, name = base ++ "!" ++ suffix ∧ suffix.utf8ByteSize = 24 ∧
        '!' ∉ suffix.toList := by
    intro name base
    simp only [← join_eq]
    exact base?_eq_some_iff
  refine ⟨join_eq, ?_, ?_, isCut, ?_, ?_⟩
  · intro base suffix drawn
    exact base?_eq_some_iff.mpr ⟨suffix, rfl, drawn.utf8ByteSize, drawn.last⟩
  · intro base suffix other otherSuffix drawn otherDrawn differ same
    rcases join_inj drawn.last otherDrawn.last same with ⟨rfl, rfl⟩
    exact differ rfl
  · intro name
    rw [Option.eq_none_iff_forall_ne_some]
    simp only [ne_eq, isCut, not_exists]
  · intro supply base small
    exact ⟨_, drawn_padded small, rfl⟩

/-- The first part holds a separator, looks like a name with a suffix, and is not ASCII. -/
theorem names_give_back_their_base_nested :
    Drawn "0123456789abcdefGHIJKLMN" ∧
      base? "☃!0123456789abcdefGHIJKLMN!0123456789abcdefGHIJKLMN" =
        some "☃!0123456789abcdefGHIJKLMN" ∧
      base? "☃!☃☃☃☃☃☃☃☃" = some "☃" ∧ base? "a!b!0123456789abcdefGHIJKL" = none := by
  have drawn : Drawn "0123456789abcdefGHIJKLMN" := ⟨by decide, List.all_eq_true.mp (by decide)⟩
  rcases names_give_back_their_base with ⟨joined, back, -, isCut, -, -⟩
  refine ⟨drawn, ?_, ?_, ?_⟩
  · have cut := back "☃!0123456789abcdefGHIJKLMN" _ drawn
    rw [joined] at cut
    exact cut
  · exact (isCut _ _).mpr ⟨"☃☃☃☃☃☃☃☃", by decide, by decide, by decide⟩
  · rfl

end Channel

end Courier
