import Courier.Socket.Error
import Courier.Socket.Frame
import Courier.Text.Utf8

/-!
# The wire

Frames as bytes. A frame begins with a byte that holds the final mark, three reserved bits and the
opcode, and a byte that holds the mask mark and the length; a longer length, a mask of four bytes
and the payload follow. Frames of clients are masked, those of servers are not.
-/

namespace Courier.Socket

/-- What a frame on the wire is for. -/
inductive Opcode where
  | continuation
  | text
  | binary
  | close
  | ping
  | pong
  deriving DecidableEq, Repr

namespace Opcode

def code : Opcode → Nat
  | continuation => 0
  | text => 1
  | binary => 2
  | close => 8
  | ping => 9
  | pong => 10

def ofCode? (code : Nat) : Option Opcode :=
  match code with
  | 0 => some continuation
  | 1 => some text
  | 2 => some binary
  | 8 => some close
  | 9 => some ping
  | 10 => some pong
  | _ => none

def isControl : Opcode → Bool
  | close | ping | pong => true
  | _ => false

end Opcode

/-- A frame as it comes from the wire, its payload without mask. -/
structure WireFrame where
  isFinal : Bool
  reserved : Bool
  opcode : Opcode
  masked : Bool
  payload : List UInt8
  deriving DecidableEq, Repr

namespace Wire

/-- The number that bytes stand for, the most significant first. -/
def number (bytes : List UInt8) : Nat :=
  bytes.foldl (fun value byte => value * 256 + byte.toNat) 0

/-- A number in a given count of bytes, the most significant first. -/
def numberBytes : (count : Nat) → Nat → List UInt8
  | 0, _ => []
  | count + 1, value => numberBytes count (value / 256) ++ [UInt8.ofNat value]

def extraBytes (short : Nat) : Nat :=
  if short = 126 then 2 else if short = 127 then 8 else 0

/-- The most bytes that the payload of a frame may have. -/
def maxFrameSize : Nat := 16777216

/-- The first bytes, if there are so many, and those behind them. -/
def split? (count : Nat) (bytes : List UInt8) : Option (List UInt8 × List UInt8) :=
  if count ≤ bytes.length then some (bytes.take count, bytes.drop count) else none

/-- Bytes under a mask, which is applied over and over. -/
def mask (key : List UInt8) : List UInt8 → List UInt8
  | [] => []
  | byte :: rest =>
      match key with
      | [] => byte :: rest
      | first :: others => (byte ^^^ first) :: mask (others ++ [first]) rest

/-- What is found at the beginning of bytes: not yet a whole frame, something that no frame begins
with, or a frame with the bytes behind it. -/
inductive Cut where
  | incomplete
  | broken (fault : Fault)
  | frame (frame : WireFrame) (rest : List UInt8)

def cutPayload (first : UInt8) (opcode : Opcode) (key : List UInt8) (length : Nat)
    (bytes : List UInt8) : Cut :=
  if maxFrameSize < length then .broken (.tooLong length maxFrameSize)
  else
    match split? length bytes with
    | none => .incomplete
    | some (payload, rest) =>
        .frame
          { isFinal := 128 ≤ first.toNat
            reserved := first.toNat / 16 % 8 != 0
            opcode
            masked := !key.isEmpty
            payload := mask key payload }
          rest

/-- Cuts a frame off. Its opcode is looked at when all that comes before the payload is there. -/
def cut : List UInt8 → Cut
  | first :: second :: bytes =>
      let short := second.toNat % 128
      match split? (extraBytes short) bytes with
      | none => .incomplete
      | some (extra, bytes) =>
          match split? (if 128 ≤ second.toNat then 4 else 0) bytes with
          | none => .incomplete
          | some (key, bytes) =>
              match Opcode.ofCode? (first.toNat % 16) with
              | none => .broken (.violation (.invalidOpcode (first.toNat % 16)))
              | some opcode =>
                  cutPayload first opcode key (if extra.isEmpty then short else number extra) bytes
  | _ => .incomplete

theorem length_of_split? {count : Nat} {bytes front rest : List UInt8}
    (split : split? count bytes = some (front, rest)) : rest.length ≤ bytes.length := by
  unfold split? at split
  split at split
  · cases split
    simp
  · cases split

theorem length_of_cutPayload {first : UInt8} {opcode : Opcode} {key bytes rest : List UInt8}
    {length : Nat} {frame : WireFrame}
    (cut : cutPayload first opcode key length bytes = .frame frame rest) :
    rest.length ≤ bytes.length := by
  unfold cutPayload at cut
  split at cut
  · cases cut
  · split at cut
    · cases cut
    · rename_i split
      cases cut
      exact length_of_split? split

theorem length_of_cut {bytes rest : List UInt8} {frame : WireFrame}
    (found : cut bytes = .frame frame rest) : rest.length < bytes.length := by
  unfold cut at found
  split at found
  · rename_i first second behind
    dsimp only at found
    split at found
    · cases found
    · rename_i extra behindLength splitLength
      split at found
      · cases found
      · rename_i key behindKey splitKey
        split at found
        · cases found
        · have payload := length_of_cutPayload found
          have mask := length_of_split? splitKey
          have length := length_of_split? splitLength
          simp only [List.length_cons]
          omega
  · cases found

/-- The length of a payload on the wire, with the mask mark. -/
def lengthBytes (masked : Bool) (length : Nat) : List UInt8 :=
  let mark := if masked then 128 else 0
  if length < 126 then [UInt8.ofNat (mark + length)]
  else if length < 65536 then UInt8.ofNat (mark + 126) :: numberBytes 2 length
  else UInt8.ofNat (mark + 127) :: numberBytes 8 length

/-- The key under which clients mask their frames. It hides nothing, and need not. -/
def clientKey : List UInt8 := [0, 0, 0, 0]

def frameBytes (masked : Bool) (opcode : Opcode) (payload : List UInt8) : List UInt8 :=
  UInt8.ofNat (128 + opcode.code) :: lengthBytes masked payload.length ++
    if masked then clientKey ++ mask clientKey payload else payload

def closePayload : Option CloseReason → List UInt8
  | none => []
  | some reason => numberBytes 2 reason.code ++ Utf8.encode reason.reason

/-- A frame as bytes. -/
def encode (masked : Bool) : Frame → List UInt8
  | .text content => frameBytes masked .text (Utf8.encode content)
  | .binary data => frameBytes masked .binary data
  | .ping data => frameBytes masked .ping data
  | .pong data => frameBytes masked .pong data
  | .close reason => frameBytes masked .close (closePayload reason)

end Wire

end Courier.Socket
