/-!
# Base64

The standard alphabet, with required padding and zero trailing bits, so that every byte string
has exactly one text. A refused text is reported by the first thing wrong with it: a foreign
symbol left over at the very end counts before everything else, then symbols from left to right.
-/

namespace Courier.Base64

def pad : UInt8 := 61

def symbol (value : Nat) : UInt8 :=
  if value < 26 then UInt8.ofNat (65 + value)
  else if value < 52 then UInt8.ofNat (71 + value)
  else if value < 62 then UInt8.ofNat (value - 4)
  else if value = 62 then 43
  else 47

def value? (byte : UInt8) : Option Nat :=
  let code := byte.toNat
  if 65 ≤ code ∧ code ≤ 90 then some (code - 65)
  else if 97 ≤ code ∧ code ≤ 122 then some (code - 71)
  else if 48 ≤ code ∧ code ≤ 57 then some (code + 4)
  else if code = 43 then some 62
  else if code = 47 then some 63
  else none

/-- The text of a byte string, as bytes of ASCII. -/
def encodeBytes : List UInt8 → List UInt8
  | [] => []
  | [a] =>
      [symbol (a.toNat / 4), symbol (a.toNat % 4 * 16), pad, pad]
  | [a, b] =>
      [symbol (a.toNat / 4), symbol (a.toNat % 4 * 16 + b.toNat / 16),
        symbol (b.toNat % 16 * 4), pad]
  | a :: b :: c :: rest =>
      symbol (a.toNat / 4) :: symbol (a.toNat % 4 * 16 + b.toNat / 16) ::
        symbol (b.toNat % 16 * 4 + c.toNat / 64) :: symbol (c.toNat % 64) :: encodeBytes rest

/-- The text of a byte string. -/
def encode (bytes : List UInt8) : String :=
  String.ofList ((encodeBytes bytes).map fun byte => Char.ofNat byte.toNat)

/-- Why a text is not the text of a byte string. -/
inductive DecodeError where
  | invalidSymbol (offset : Nat) (byte : UInt8)
  | invalidLength (length : Nat)
  | invalidLastSymbol (offset : Nat) (byte : UInt8)
  | invalidPadding
  deriving DecidableEq, Repr

def DecodeError.message : DecodeError → String
  | .invalidSymbol offset byte =>
      "Invalid symbol " ++ toString byte.toNat ++ ", offset " ++ toString offset ++ "."
  | .invalidLength length => "Invalid input length: " ++ toString length
  | .invalidLastSymbol offset byte =>
      "Invalid last symbol " ++ toString byte.toNat ++ ", offset " ++ toString offset ++ "."
  | .invalidPadding => "Invalid padding"

def valueAt (offset : Nat) (byte : UInt8) : Except DecodeError Nat :=
  match value? byte with
  | none => .error (.invalidSymbol offset byte)
  | some value => .ok value

def join (a b c d : Nat) : List UInt8 :=
  [UInt8.ofNat (a * 4 + b / 16), UInt8.ofNat (b % 16 * 16 + c / 4), UInt8.ofNat (c % 4 * 64 + d)]

/-- One byte from two symbols; the bits left over must be zero. -/
def joinOne (offset : Nat) (a b : Nat) (last : UInt8) : Except DecodeError (List UInt8) :=
  if b % 16 = 0 then .ok [UInt8.ofNat (a * 4 + b / 16)]
  else .error (.invalidLastSymbol (offset + 1) last)

/-- Two bytes from three symbols; the bits left over must be zero. -/
def joinTwo (offset : Nat) (a b c : Nat) (last : UInt8) : Except DecodeError (List UInt8) :=
  if c % 4 = 0 then .ok [UInt8.ofNat (a * 4 + b / 16), UInt8.ofNat (b % 16 * 16 + c / 4)]
  else .error (.invalidLastSymbol (offset + 2) last)

/-- The last group, of at most four bytes. Padding counts only behind two symbols, and nothing
may follow it. -/
def decodeLast (offset : Nat) : List UInt8 → Except DecodeError (List UInt8)
  | [] => .ok []
  | [first] => do
      let _ ← valueAt offset first
      .error (.invalidLength (offset + 1))
  | first :: second :: rest => do
      let a ← valueAt offset first
      let b ← valueAt (offset + 1) second
      match rest with
      | [] => .error .invalidPadding
      | [third] =>
          if third = pad then .error .invalidPadding
          else
            let _ ← valueAt (offset + 2) third
            .error .invalidPadding
      | third :: fourth :: _ =>
          if third = pad then
            if fourth = pad then joinOne offset a b second
            else .error (.invalidSymbol (offset + 2) pad)
          else
            let c ← valueAt (offset + 2) third
            if fourth = pad then joinTwo offset a b c third
            else
              let d ← valueAt (offset + 3) fourth
              .ok (join a b c d)

/-- Groups of four from an offset on, the last group by its own rules. -/
def decodeGroups (offset : Nat) : List UInt8 → Except DecodeError (List UInt8)
  | first :: second :: third :: fourth :: next :: rest => do
      let a ← valueAt offset first
      let b ← valueAt (offset + 1) second
      let c ← valueAt (offset + 2) third
      let d ← valueAt (offset + 3) fourth
      let bytes ← decodeGroups (offset + 4) (next :: rest)
      .ok (join a b c d ++ bytes)
  | last => decodeLast offset last

/-- A foreign symbol that is left over behind complete groups. -/
def strayLast? (input : List UInt8) : Option DecodeError :=
  match input.getLast? with
  | none => none
  | some last =>
      if input.length % 4 = 1 ∧ last ≠ pad ∧ value? last = none then
        some (.invalidSymbol (input.length - 1) last)
      else none

def decodeBytes (input : List UInt8) : Except DecodeError (List UInt8) :=
  match strayLast? input with
  | some error => .error error
  | none => decodeGroups 0 input

end Courier.Base64
