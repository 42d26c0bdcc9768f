import Courier.Json.Basic

/-!
# Parsing JSON

A strict reader: no comments, no trailing commas, no raw control characters in strings, no
unpaired surrogates, and at most 127 arrays and objects around a value. `Json.parseAll` keeps
repeated fields; `Json.parse?` keeps the last value of each in its first place.
-/

namespace Courier.Json

/-- Why a text is not JSON. -/
inductive ParseError where
  | unexpectedEnd
  | unexpectedCharacter
  | invalidEscape
  | invalidNumber
  | numberTooLarge
  | tooDeep
  | trailingCharacters
  deriving DecidableEq, Repr

def depthLimit : Nat := 127

def isBlank (c : Char) : Bool := c = ' ' || c = '\n' || c = '\t' || c = '\r'

def skipBlanks (input : List Char) : List Char := input.dropWhile isBlank

def hexValue? (c : Char) : Option Nat :=
  if '0' ≤ c ∧ c ≤ '9' then some (c.toNat - 48)
  else if 'a' ≤ c ∧ c ≤ 'f' then some (c.toNat - 87)
  else if 'A' ≤ c ∧ c ≤ 'F' then some (c.toNat - 55)
  else none

def unit? (a b c d : Char) : Option Nat := do
  let first ← hexValue? a
  let second ← hexValue? b
  let third ← hexValue? c
  let fourth ← hexValue? d
  return ((first * 16 + second) * 16 + third) * 16 + fourth

def isHigh (unit : Nat) : Bool := 0xD800 ≤ unit && unit < 0xDC00

def isLow (unit : Nat) : Bool := 0xDC00 ≤ unit && unit < 0xE000

/-- The character of a surrogate pair. -/
def joinPair (high low : Nat) : Char :=
  Char.ofNat (0x10000 + (high - 0xD800) * 0x400 + (low - 0xDC00))

def shortEscape? : Char → Option Char
  | '"' => some '"'
  | '\\' => some '\\'
  | '/' => some '/'
  | 'b' => some '\x08'
  | 'f' => some '\x0c'
  | 'n' => some '\n'
  | 'r' => some '\r'
  | 't' => some '\t'
  | _ => none

def consChar (c : Char) :
    Except ParseError (List Char × List Char) → Except ParseError (List Char × List Char)
  | .ok (chars, rest) => .ok (c :: chars, rest)
  | .error error => .error error

/-- The inside of a string, from behind its opening quotation mark to behind the closing one. -/
def stringBody : List Char → Except ParseError (List Char × List Char)
  | [] => .error .unexpectedEnd
  | '"' :: rest => .ok ([], rest)
  | '\\' :: 'u' :: a :: b :: c :: d :: rest =>
      match unit? a b c d with
      | none => .error .invalidEscape
      | some unit =>
          if isLow unit then .error .invalidEscape
          else if isHigh unit then
            match rest with
            | '\\' :: 'u' :: e :: f :: g :: h :: rest =>
                match unit? e f g h with
                | none => .error .invalidEscape
                | some low =>
                    if isLow low then consChar (joinPair unit low) (stringBody rest)
                    else .error .invalidEscape
            | _ => .error .invalidEscape
          else consChar (Char.ofNat unit) (stringBody rest)
  | '\\' :: c :: rest =>
      match shortEscape? c with
      | none => .error .invalidEscape
      | some char => consChar char (stringBody rest)
  | c :: rest =>
      if c = '\\' then .error .unexpectedEnd
      else if c.toNat < 32 then .error .unexpectedCharacter
      else consChar c (stringBody rest)

def isDigit (c : Char) : Bool := '0' ≤ c && c ≤ '9'

def digitValue (c : Char) : Nat := c.toNat - 48

/-- Significands are kept below this bound; digits that would pass it are dropped. -/
def significandBound : Nat := Nat.pow 2 64

/-- Exponents are kept below this bound. -/
def exponentBound : Nat := Nat.pow 2 31

/-- A number that is not kept exact. -/
def float? (negative : Bool) (significand : Nat) (power : Int) : Except ParseError Json :=
  match Binary64.ofDecimal negative significand power with
  | none => .error .numberTooLarge
  | some value => .ok (.float value)

/-- Reads digits into a significand while it stays in bounds; the digits left over start with the
first that did not fit. -/
def readDigits (significand : Nat) : List Char → Nat × Nat × List Char
  | [] => (significand, 0, [])
  | c :: rest =>
      let next := significand * 10 + digitValue c
      if isDigit c && next < significandBound then
        let (total, count, left) := readDigits next rest
        (total, count + 1, left)
      else (significand, 0, c :: rest)

/-- Reads the digits of an exponent; `none` once it is out of bounds. -/
def readExponent (exponent : Nat) : List Char → Option Nat × List Char
  | [] => (some exponent, [])
  | c :: rest =>
      if isDigit c then
        if exponent * 10 + digitValue c < exponentBound then
          readExponent (exponent * 10 + digitValue c) rest
        else (none, rest.dropWhile isDigit)
      else (some exponent, c :: rest)

def opensExponent (c : Char) : Bool := c = 'e' || c = 'E'

/-- The exponent part behind its letter. -/
def exponentPart (negative : Bool) (significand : Nat) (power : Int) (input : List Char) :
    Except ParseError (Json × List Char) :=
  let (down, input) :=
    match input with
    | '+' :: rest => (false, rest)
    | '-' :: rest => (true, rest)
    | _ => (false, input)
  match input with
  | [] => .error .unexpectedEnd
  | c :: _ =>
      if !isDigit c then .error .invalidNumber
      else
        match readExponent 0 input with
        | (none, rest) =>
            if significand ≠ 0 && !down then .error .numberTooLarge
            else .ok (.float (.zero negative), rest)
        | (some exponent, rest) =>
            let power := if down then power - exponent else power + exponent
            (float? negative significand power).map fun value => (value, rest)

/-- What may follow the digits of a number that is not an integer. -/
def floatTail (negative : Bool) (significand : Nat) (power : Int) (input : List Char) :
    Except ParseError (Json × List Char) :=
  match input with
  | c :: rest =>
      if opensExponent c then exponentPart negative significand power rest
      else (float? negative significand power).map fun value => (value, input)
  | [] => (float? negative significand power).map fun value => (value, [])

/-- The fraction behind the decimal point. -/
def fractionPart (negative : Bool) (significand : Nat) (power : Int) (input : List Char) :
    Except ParseError (Json × List Char) :=
  match input with
  | [] => .error .unexpectedEnd
  | c :: _ =>
      if !isDigit c then .error .invalidNumber
      else
        let (significand, count, rest) := readDigits significand input
        floatTail negative significand (power - count) (rest.dropWhile isDigit)

/-- An integer, exact if it is in range. A negative zero is a double. -/
def integer? (negative : Bool) (value : Nat) : Except ParseError Json :=
  if !negative then .ok (.integer value)
  else if value = 0 || Nat.pow 2 63 < value then float? true value 0
  else .ok (.integer (-value))

/-- A number behind its sign. -/
def unsignedNumber (negative : Bool) (input : List Char) :
    Except ParseError (Json × List Char) :=
  match input with
  | [] => .error .unexpectedEnd
  | c :: rest =>
      if !isDigit c then .error .invalidNumber
      else
        let (significand, left) :=
          if c = '0' then (0, rest)
          else
            let (significand, _, left) := readDigits 0 input
            (significand, left)
        if c = '0' && (rest.head?.map isDigit).getD false then .error .invalidNumber
        else
          -- digits that did not fit count as powers of ten
          let dropped := (left.takeWhile isDigit).length
          match left.dropWhile isDigit with
          | '.' :: rest => fractionPart negative significand dropped rest
          | left =>
              if dropped = 0 then
                match left with
                | c :: rest =>
                    if opensExponent c then exponentPart negative significand 0 rest
                    else (integer? negative significand).map fun value => (value, left)
                | [] => (integer? negative significand).map fun value => (value, [])
              else floatTail negative significand dropped left

/-- A fixed word, once its first letter has been seen. -/
def word (letters : List Char) (value : Json) (input : List Char) :
    Except ParseError (Json × List Char) :=
  match letters, input with
  | [], rest => .ok (value, rest)
  | _ :: _, [] => .error .unexpectedEnd
  | letter :: letters, c :: rest =>
      if letter = c then word letters value rest else .error .unexpectedCharacter

mutual

/-- A value, blanks in front of it allowed; `fuel` bounds the recursion and `depth` the nesting. -/
def value (fuel depth : Nat) (input : List Char) : Except ParseError (Json × List Char) :=
  match fuel with
  | 0 => .error .unexpectedEnd
  | fuel + 1 =>
      match skipBlanks input with
      | [] => .error .unexpectedEnd
      | 'n' :: rest => word ['u', 'l', 'l'] .null rest
      | 't' :: rest => word ['r', 'u', 'e'] (.bool true) rest
      | 'f' :: rest => word ['a', 'l', 's', 'e'] (.bool false) rest
      | '"' :: rest =>
          match stringBody rest with
          | .error error => .error error
          | .ok (chars, rest) => .ok (.text (String.ofList chars), rest)
      | '-' :: rest => unsignedNumber true rest
      | '[' :: rest =>
          match depth with
          | 0 => .error .tooDeep
          | depth + 1 =>
              match skipBlanks rest with
              | ']' :: rest => .ok (.array [], rest)
              | rest =>
                  match items fuel depth rest with
                  | .error error => .error error
                  | .ok (items, rest) => .ok (.array items, rest)
      | '\x7b' :: rest =>
          match depth with
          | 0 => .error .tooDeep
          | depth + 1 =>
              match skipBlanks rest with
              | '\x7d' :: rest => .ok (.object [], rest)
              | rest =>
                  match fields fuel depth rest with
                  | .error error => .error error
                  | .ok (fields, rest) => .ok (.object fields, rest)
      | c :: rest =>
          if isDigit c then unsignedNumber false (c :: rest) else .error .unexpectedCharacter

/-- The items of an array that is not empty, up to behind its bracket. -/
def items (fuel depth : Nat) (input : List Char) : Except ParseError (List Json × List Char) :=
  match fuel with
  | 0 => .error .unexpectedEnd
  | fuel + 1 =>
      match value fuel depth input with
      | .error error => .error error
      | .ok (item, rest) =>
          match skipBlanks rest with
          | ']' :: rest => .ok ([item], rest)
          | ',' :: rest =>
              match items fuel depth rest with
              | .error error => .error error
              | .ok (items, rest) => .ok (item :: items, rest)
          | [] => .error .unexpectedEnd
          | _ => .error .unexpectedCharacter

/-- The fields of an object that is not empty, up to behind its brace. -/
def fields (fuel depth : Nat) (input : List Char) :
    Except ParseError (List (String × Json) × List Char) :=
  match fuel with
  | 0 => .error .unexpectedEnd
  | fuel + 1 =>
      match skipBlanks input with
      | '"' :: rest =>
          match stringBody rest with
          | .error error => .error error
          | .ok (name, rest) =>
              match skipBlanks rest with
              | ':' :: rest =>
                  match value fuel depth rest with
                  | .error error => .error error
                  | .ok (value, rest) =>
                      match skipBlanks rest with
                      | '\x7d' :: rest => .ok ([(String.ofList name, value)], rest)
                      | ',' :: rest =>
                          match fields fuel depth rest with
                          | .error error => .error error
                          | .ok (fields, rest) => .ok ((String.ofList name, value) :: fields, rest)
                      | [] => .error .unexpectedEnd
                      | _ => .error .unexpectedCharacter
              | [] => .error .unexpectedEnd
              | _ => .error .unexpectedCharacter
      | [] => .error .unexpectedEnd
      | _ => .error .unexpectedCharacter

end

/-- Reads a whole text, keeping repeated fields. -/
def parseChars (input : List Char) : Except ParseError Json :=
  match value (2 * input.length + 2) depthLimit input with
  | .error error => .error error
  | .ok (value, rest) =>
      if (skipBlanks rest).isEmpty then .ok value else .error .trailingCharacters

/-- Reads a whole text, keeping repeated fields. -/
def parseAll (text : String) : Except ParseError Json := parseChars text.toList

/-- Reads a whole text; a repeated field keeps its first place and its last value. -/
def parse (text : String) : Except ParseError Json := (parseAll text).map collapse

end Courier.Json
