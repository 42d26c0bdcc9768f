/-!
# UTF-8

Text as bytes and back. Reading goes piece by piece: a piece is a character or a run of bytes
that begins like one and breaks off, taken as long as possible. Strict reading refuses broken
pieces; forgiving reading puts the replacement character in their place.
-/

namespace Courier.Utf8

def encodeChar (c : Char) : List UInt8 :=
  let code := c.toNat
  if code < 0x80 then [UInt8.ofNat code]
  else if code < 0x800 then
    [UInt8.ofNat (0xC0 + code / 64), UInt8.ofNat (0x80 + code % 64)]
  else if code < 0x10000 then
    [UInt8.ofNat (0xE0 + code / 4096), UInt8.ofNat (0x80 + code / 64 % 64),
      UInt8.ofNat (0x80 + code % 64)]
  else
    [UInt8.ofNat (0xF0 + code / 262144), UInt8.ofNat (0x80 + code / 4096 % 64),
      UInt8.ofNat (0x80 + code / 64 % 64), UInt8.ofNat (0x80 + code % 64)]

def encodeChars (chars : List Char) : List UInt8 := chars.flatMap encodeChar

/-- The bytes of a text. -/
def encode (text : String) : List UInt8 := encodeChars text.toList

def continues (byte : UInt8) : Bool := 0x80 ≤ byte && byte ≤ 0xBF

def payload (byte : UInt8) : Nat := byte.toNat - 0x80

def secondOfThree (lead byte : UInt8) : Bool :=
  if lead = 0xE0 then 0xA0 ≤ byte && byte ≤ 0xBF
  else if lead = 0xED then 0x80 ≤ byte && byte ≤ 0x9F
  else continues byte

def secondOfFour (lead byte : UInt8) : Bool :=
  if lead = 0xF0 then 0x90 ≤ byte && byte ≤ 0xBF
  else if lead = 0xF4 then 0x80 ≤ byte && byte ≤ 0x8F
  else continues byte

/-- The pieces of a byte string: characters, and `none` for each broken piece. -/
def pieces : List UInt8 → List (Option Char)
  | [] => []
  | lead :: rest =>
      if lead < 0x80 then some (Char.ofNat lead.toNat) :: pieces rest
      else if 0xC2 ≤ lead && lead ≤ 0xDF then
        match rest with
        | [] => [none]
        | second :: rest =>
            if continues second then
              some (Char.ofNat ((lead.toNat - 0xC0) * 64 + payload second)) :: pieces rest
            else none :: pieces (second :: rest)
      else if 0xE0 ≤ lead && lead ≤ 0xEF then
        match rest with
        | [] => [none]
        | second :: rest =>
            if secondOfThree lead second then
              match rest with
              | [] => [none]
              | third :: rest =>
                  if continues third then
                    some (Char.ofNat
                      (((lead.toNat - 0xE0) * 64 + payload second) * 64 + payload third)) ::
                      pieces rest
                  else none :: pieces (third :: rest)
            else none :: pieces (second :: rest)
      else if 0xF0 ≤ lead && lead ≤ 0xF4 then
        match rest with
        | [] => [none]
        | second :: rest =>
            if secondOfFour lead second then
              match rest with
              | [] => [none]
              | third :: rest =>
                  if continues third then
                    match rest with
                    | [] => [none]
                    | fourth :: rest =>
                        if continues fourth then
                          some (Char.ofNat
                            ((((lead.toNat - 0xF0) * 64 + payload second) * 64 + payload third) * 64
                              + payload fourth)) :: pieces rest
                        else none :: pieces (fourth :: rest)
                  else none :: pieces (third :: rest)
            else none :: pieces (second :: rest)
      else none :: pieces rest

/-- Every piece, if none is broken. -/
def allChars : List (Option Char) → Option (List Char)
  | [] => some []
  | none :: _ => none
  | some c :: rest => (allChars rest).map (c :: ·)

def decode? (bytes : List UInt8) : Option String :=
  (allChars (pieces bytes)).map String.ofList

/-- Whether bytes begin a character of more bytes than these. -/
def opensChar : List UInt8 → Bool
  | [lead] => 0xC2 ≤ lead && lead ≤ 0xF4
  | [lead, second] =>
      if lead ≤ 0xEF then 0xE0 ≤ lead && secondOfThree lead second
      else lead ≤ 0xF4 && secondOfFour lead second
  | [lead, second, third] =>
      0xF0 ≤ lead && lead ≤ 0xF4 && secondOfFour lead second && continues third
  | _ => false

def validSoFar (bytes : List UInt8) : Bool :=
  (decode? bytes).isSome ||
    [1, 2, 3].any fun count =>
      let whole := bytes.length - count
      opensChar (bytes.drop whole) && (decode? (bytes.take whole)).isSome

def replacement : Char := '\ufffd'

def decodeLossy (bytes : List UInt8) : String :=
  String.ofList ((pieces bytes).map fun piece => piece.getD replacement)

def length (text : String) : Nat := (encode text).length

end Courier.Utf8
