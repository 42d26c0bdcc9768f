import Courier.Json.Parser
import Courier.Json.Printer

/-!
# Reading back strings and integers

What the printer writes for a string is read back as that string, and what it writes for an integer
in range as that integer, whatever follows. Behind a string anything may follow. Behind an integer
no character may follow that would go on with the number, which is what `Closes` rules out.
-/

namespace Courier.Json

/-! ## Strings -/

theorem hexValue?_hexDigit {value : Nat} (small : value < 16) :
    hexValue? (hexDigit value) = some value := by
  have all : ∀ digit < 16, hexValue? (hexDigit digit) = some digit := by decide
  exact all value small

/-- The two digits of a control character are its number. -/
theorem unit?_hexDigits {code : Nat} (small : code < 32) :
    unit? '0' '0' (hexDigit (code / 16)) (hexDigit (code % 16)) = some code := by
  have zero : hexValue? '0' = some 0 := by decide
  simp only [unit?, zero, hexValue?_hexDigit (show code / 16 < 16 by omega),
    hexValue?_hexDigit (show code % 16 < 16 by omega)]
  simp only [Option.bind_eq_bind, Option.bind_some, Option.pure_def, Option.some.injEq]
  omega

theorem stringBody_cons {c : Char} (notQuote : c ≠ '"') (notBackslash : c ≠ '\\')
    (notControl : ¬c.toNat < 32) (rest : List Char) :
    stringBody (c :: rest) = consChar c (stringBody rest) := by
  rw [stringBody]
  · simp only [notBackslash, if_false, notControl]
  · exact notQuote
  · intro _ _ _ _ _ same
    exact absurd same notBackslash
  · intro _ _ same
    exact absurd same notBackslash

theorem stringBody_escape (c : Char) (rest : List Char) :
    stringBody (escape c ++ rest) = consChar c (stringBody rest) := by
  by_cases quote : c = '"'
  · subst quote
    rfl
  by_cases backslash : c = '\\'
  · subst backslash
    rfl
  by_cases backspace : c = '\x08'
  · subst backspace
    rfl
  by_cases formFeed : c = '\x0c'
  · subst formFeed
    rfl
  by_cases newline : c = '\n'
  · subst newline
    rfl
  by_cases return_ : c = '\r'
  · subst return_
    rfl
  by_cases tab : c = '\t'
  · subst tab
    rfl
  by_cases control : c.toNat < 32
  · -- the remaining control characters are written with their number
    have notLow : isLow c.toNat = false := by simp [isLow]; omega
    have notHigh : isHigh c.toNat = false := by simp [isHigh]; omega
    simp [escape, quote, backslash, backspace, formFeed, newline, return_, tab, control, stringBody,
      unit?_hexDigits control, notLow, notHigh]
  · simp [escape, quote, backslash, backspace, formFeed, newline, return_, tab, control,
      stringBody_cons quote backslash control]

/-- The inside of a string is read back up to its closing quotation mark. -/
theorem stringBody_escapeAll (chars rest : List Char) :
    stringBody (escapeAll chars ++ '"' :: rest) = .ok (chars, rest) := by
  induction chars with
  | nil => rfl
  | cons c chars ih =>
      have split : escapeAll (c :: chars) ++ '"' :: rest =
          escape c ++ (escapeAll chars ++ '"' :: rest) := by
        simp [escapeAll]
      rw [split, stringBody_escape, ih]
      rfl

/-! ## Integers -/

/-- What may follow a value: nothing, or what goes on with the array or object around it. -/
def Closes (rest : List Char) : Prop :=
  rest = [] ∨ ∃ c tail, rest = c :: tail ∧ (c = ',' ∨ c = ']' ∨ c = '\x7d')

theorem Closes.nil : Closes [] := Or.inl rfl

theorem Closes.comma (rest : List Char) : Closes (',' :: rest) :=
  Or.inr ⟨',', rest, rfl, Or.inl rfl⟩

theorem Closes.bracket (rest : List Char) : Closes (']' :: rest) :=
  Or.inr ⟨']', rest, rfl, Or.inr (Or.inl rfl)⟩

theorem Closes.brace (rest : List Char) : Closes ('\x7d' :: rest) :=
  Or.inr ⟨'\x7d', rest, rfl, Or.inr (Or.inr rfl)⟩

/-- The exact integers fit into sixty-four bits, with or without a sign. -/
theorem integral_iff {value : Int} :
    integral value = true ↔ -9223372036854775808 ≤ value ∧ value < 18446744073709551616 := by
  rw [integral, Bool.and_eq_true, decide_eq_true_eq, decide_eq_true_eq]
  rfl

theorem significandBound_eq : significandBound = 18446744073709551616 := rfl

/-- A negative integer in range is not read as a double. -/
theorem integer?_negative {value : Nat} (pos : 0 < value) (inRange : value ≤ 9223372036854775808) :
    integer? true value = .ok (.integer (-value)) := by
  have notZero : decide (value = 0) = false := decide_eq_false (Nat.pos_iff_ne_zero.mp pos)
  have notBelow : decide (Nat.pow 2 63 < value) = false := decide_eq_false (Nat.not_lt.mpr inRange)
  simp only [integer?, notZero, notBelow, Bool.not_true, Bool.or_self, Bool.false_eq_true, if_false]

/-- Digits in front of the end of a value are read as a whole while they stay in bounds. -/
theorem readDigits_append {rest : List Char} (closes : Closes rest) (figures : List Char)
    (allDigits : ∀ c ∈ figures, isDigit c = true) (significand : Nat)
    (bounded : Nat.ofDigitChars 10 figures significand < significandBound) :
    readDigits significand (figures ++ rest) =
      (Nat.ofDigitChars 10 figures significand, figures.length, rest) := by
  induction figures generalizing significand with
  | nil =>
      rcases closes with rfl | ⟨c, tail, rfl, rfl | rfl | rfl⟩ <;> simp [readDigits, isDigit]
  | cons c figures ih =>
      rw [Nat.ofDigitChars_cons] at bounded
      have next : significand * 10 + digitValue c = 10 * significand + (c.toNat - '0'.toNat) := by
        rw [digitValue, Nat.mul_comm]
        rfl
      have grows : 10 * significand + (c.toNat - '0'.toNat) < significandBound := by
        apply Nat.lt_of_le_of_lt _ bounded
        rw [Nat.ofDigitChars_eq_ofDigitChars_zero]
        apply Nat.le_trans _ (Nat.le_add_right _ _)
        exact Nat.le_mul_of_pos_left _ (Nat.pow_pos (by decide))
      have isFigure : isDigit c = true := allDigits c List.mem_cons_self
      simp only [List.cons_append, readDigits, next, isFigure, grows, Bool.true_and,
        decide_true, if_true]
      rw [ih (fun other mem => allDigits other (List.mem_cons_of_mem c mem)) _ bounded]
      simp [Nat.ofDigitChars_cons]

theorem isDigit_of_mem_digits {value : Nat} {c : Char} (mem : c ∈ digits value) :
    isDigit c = true :=
  Nat.isDigit_of_mem_toDigits (by decide) (by decide) mem

theorem digits_of_pos {value : Nat} (pos : 0 < value) :
    ∃ c figures, digits value = c :: figures ∧ c ≠ '0' := by
  induction value using Nat.strongRecOn with
  | _ value ih =>
      by_cases small : value < 10
      · refine ⟨value.digitChar, [], Nat.toDigits_of_lt_base small, ?_⟩
        rw [ne_eq, Nat.digitChar_eq_zero]
        omega
      · rcases ih (value / 10) (by omega) (by omega) with ⟨c, figures, front, notZero⟩
        refine ⟨c, figures ++ [(value % 10).digitChar], ?_, notZero⟩
        rw [digits, Nat.toDigits_of_base_le (by decide) (by omega), ← digits, front]
        rfl

/-- An integer is read back behind its sign. -/
theorem unsignedNumber_digits {rest : List Char} (closes : Closes rest) (negative : Bool)
    {value : Nat} (bounded : value < significandBound) :
    unsignedNumber negative (digits value ++ rest) =
      (integer? negative value).map fun value => (value, rest) := by
  by_cases pos : 0 < value
  · rcases digits_of_pos pos with ⟨c, figures, front, notZero⟩
    have isFigure : isDigit c = true := isDigit_of_mem_digits (front ▸ List.mem_cons_self)
    have total : Nat.ofDigitChars 10 (digits value) 0 = value := Nat.ofDigitChars_ten_toDigits
    have whole := readDigits_append closes (digits value) (fun _ mem => isDigit_of_mem_digits mem) 0
      (by rw [total]; exact bounded)
    rw [total, front, List.cons_append] at whole
    rw [front, List.cons_append]
    simp only [unsignedNumber, isFigure, whole, notZero, Bool.not_true, Bool.false_eq_true,
      if_false, decide_false, Bool.false_and]
    rcases closes with rfl | ⟨c, tail, rfl, rfl | rfl | rfl⟩ <;> rfl
  · have zero : value = 0 := by omega
    have front : digits 0 = ['0'] := Nat.toDigits_zero 10
    rw [zero, front]
    rcases closes with rfl | ⟨c, tail, rfl, rfl | rfl | rfl⟩ <;> rfl

end Courier.Json
