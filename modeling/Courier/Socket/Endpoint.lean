import Courier.Socket.Pipe
import Courier.Socket.Wire

/-!
# Endpoints

One end of a socket: it writes frames to a pipe and reads frames from another, puts fragments of
messages together, answers pings and closing, and notices when the peer breaks the rules. Once
reading has failed or has come to its end, nothing more is ever read.
-/

namespace Courier.Socket

/-- Which end of a socket. -/
inductive Role where
  | server
  | client
  deriving DecidableEq, Repr

/-- How far the closing handshake has come. -/
inductive Handshake where
  | active
  | closedByUs
  | closedByPeer
  | acknowledged
  | terminated
  deriving DecidableEq, Repr

namespace Handshake

def canRead : Handshake → Bool
  | active | closedByUs => true
  | _ => false

def agreed : Handshake → Bool
  | closedByPeer | acknowledged => true
  | _ => false

end Handshake

/-- A message of which more fragments are expected. -/
structure Assembly where
  binary : Bool
  data : List UInt8
  deriving DecidableEq, Repr

/-- One end of a socket, with the control frame that it is to send as soon as it can. -/
structure Endpoint where
  role : Role
  handshake : Handshake := .active
  reply : Option Frame := none
  assembly : Option Assembly := none
  exhausted : Bool := false
  deriving DecidableEq, Repr

/-- What reading comes to: nothing yet, a frame, a fault, or the end. -/
inductive Arrival where
  | pending
  | frame (frame : Frame)
  | fault (fault : Fault)
  | ended
  deriving DecidableEq, Repr

/-- What a fault means to a reader: being closed is no fault. -/
def Arrival.ofFault : Fault → Arrival
  | .closed | .alreadyClosed => ended
  | other => fault other

/-- The most bytes that a message may have. -/
def maxMessageSize : Nat := 67108864

/-- The most bytes that a control frame may have. -/
def maxControlSize : Nat := 125

def CloseReason.allowed (reason : CloseReason) : Bool :=
  let code := reason.code
  (1000 ≤ code && code ≤ 1003) || (1007 ≤ code && code ≤ 1013) || (3000 ≤ code && code ≤ 4999)

/-- The reason that stands for one that may not be sent. -/
def CloseReason.violation : CloseReason := ⟨1002, "Protocol violation"⟩

namespace Endpoint

def bytesOf (endpoint : Endpoint) (frame : Frame) : List UInt8 :=
  Wire.encode (endpoint.role = .client) frame

/-- Lays a control frame up. It takes the place of a pong only. -/
def setReply (endpoint : Endpoint) (frame : Frame) : Endpoint :=
  match endpoint.reply with
  | none | some (.pong _) => { endpoint with reply := some frame }
  | some _ => endpoint

/-- Closes the socket if this end is the one to do so: servers do, once the peer is done. -/
def hangUp (endpoint : Endpoint) : Except Fault Unit × Endpoint :=
  if endpoint.role = .server ∧ !endpoint.handshake.canRead then
    (.error .closed, { endpoint with handshake := .terminated })
  else (.ok (), endpoint)

def flush (endpoint : Endpoint) (outbound : Pipe) : Except Fault Unit × Endpoint × Pipe :=
  let sent : Except Fault Pipe :=
    match endpoint.reply with
    | none => .ok outbound
    | some frame => outbound.put (endpoint.bytesOf frame)
  let endpoint := { endpoint with reply := none }
  match sent with
  | .error fault => (.error fault, endpoint, outbound)
  | .ok outbound =>
      let (result, endpoint) := endpoint.hangUp
      (result, endpoint, outbound)

/-- Sends the control frame that is laid up. That the socket is closed by that is no fault. -/
def finishSending (endpoint : Endpoint) (outbound : Pipe) : Except Fault Unit × Endpoint × Pipe :=
  match endpoint.flush outbound with
  | (.error .closed, endpoint, outbound) => (.ok (), endpoint, outbound)
  | flushed => flushed

/-- Sends a frame. After a close frame of either end nothing more can be sent. -/
def send (endpoint : Endpoint) (outbound : Pipe) (frame : Frame) :
    Except Fault Unit × Endpoint × Pipe :=
  match endpoint.handshake, frame with
  | .terminated, _ => (.error .alreadyClosed, endpoint, outbound)
  | .active, .pong _ => (endpoint.setReply frame).finishSending outbound
  | .active, _ =>
      let endpoint := if frame.isClose then { endpoint with handshake := .closedByUs } else endpoint
      match outbound.put (endpoint.bytesOf frame) with
      | .error fault => (.error fault, { endpoint with reply := none }, outbound)
      | .ok outbound => endpoint.finishSending outbound
  | _, _ => (.error (.violation .sendAfterClosing), endpoint, outbound)

def closeReason : List UInt8 → Except Fault (Option CloseReason)
  | [] => .ok none
  | [_] => .error (.violation .invalidCloseSequence)
  | first :: second :: rest =>
      match Utf8.decode? rest with
      | none => .error .notUtf8
      | some reason => .ok (some ⟨Wire.number [first, second], reason⟩)

/-- Takes a close frame in: the first one is answered, and the answer to our own ends the
handshake. -/
def acceptClose (endpoint : Endpoint) (reason : Option CloseReason) : Option Frame × Endpoint :=
  match endpoint.handshake with
  | .active =>
      let reason := reason.map fun reason => if reason.allowed then reason else .violation
      (some (.close reason),
        { endpoint with handshake := .closedByPeer }.setReply (.close reason))
  | .closedByUs => (some (.close reason), { endpoint with handshake := .acknowledged })
  | _ => (none, endpoint)

def acceptControl (endpoint : Endpoint) (frame : WireFrame) :
    Except Fault (Option Frame × Endpoint) :=
  if !frame.isFinal then .error (.violation .fragmentedControl)
  else if maxControlSize < frame.payload.length then .error (.violation .controlTooBig)
  else
    match frame.opcode with
    | .close => (closeReason frame.payload).map endpoint.acceptClose
    | .ping =>
        let endpoint :=
          if endpoint.handshake = .active then endpoint.setReply (.pong frame.payload) else endpoint
        .ok (some (.ping frame.payload), endpoint)
    | _ => .ok (some (.pong frame.payload), endpoint)

/-- A message with more data, unless it gets too long or is no text any more. -/
def extend (assembly : Assembly) (data : List UInt8) : Except Fault Assembly :=
  let size := assembly.data.length + data.length
  let all := assembly.data ++ data
  if maxMessageSize < size then .error (.tooLong size maxMessageSize)
  else if assembly.binary || Utf8.validSoFar all then .ok { assembly with data := all }
  else .error .notUtf8

def complete (assembly : Assembly) : Except Fault Frame :=
  if assembly.binary then .ok (.binary assembly.data)
  else
    match Utf8.decode? assembly.data with
    | none => .error .notUtf8
    | some content => .ok (.text content)

/-- Adds the data of a frame to a message; with a final one the message is complete. -/
def acceptFragment (endpoint : Endpoint) (assembly : Assembly) (frame : WireFrame) :
    Except Fault (Option Frame × Endpoint) := do
  let assembly ← extend assembly frame.payload
  if frame.isFinal then return (some (← complete assembly), { endpoint with assembly := none })
  else return (none, { endpoint with assembly := some assembly })

/-- Takes a frame of data in: one that continues a message while there is one, and otherwise one
that begins a message. -/
def acceptData (endpoint : Endpoint) (frame : WireFrame) :
    Except Fault (Option Frame × Endpoint) :=
  match frame.opcode, endpoint.assembly with
  | .continuation, none => .error (.violation .nothingToContinue)
  | .continuation, some assembly => endpoint.acceptFragment assembly frame
  | .text, none => endpoint.acceptFragment ⟨false, []⟩ frame
  | _, none => endpoint.acceptFragment ⟨true, []⟩ frame
  | .text, some _ => .error (.violation (.expectedFragment "TEXT"))
  | _, some _ => .error (.violation (.expectedFragment "BINARY"))

/-- Takes a frame in, which must be masked if and only if a client sent it. -/
def accept (endpoint : Endpoint) (frame : WireFrame) : Except Fault (Option Frame × Endpoint) :=
  if !endpoint.handshake.canRead then .error (.violation .receivedAfterClosing)
  else if frame.reserved then .error (.violation .reservedBits)
  else
    match endpoint.role, frame.masked with
    | .server, false => .error (.violation .unmaskedFromClient)
    | .client, true => .error (.violation .maskedFromServer)
    | _, _ =>
        if frame.opcode.isControl then endpoint.acceptControl frame else endpoint.acceptData frame

def exhaust (endpoint : Endpoint) : Endpoint := { endpoint with exhausted := true }

def meetEnd (endpoint : Endpoint) : Arrival × Endpoint :=
  (if endpoint.handshake.agreed then .ended else .fault (.violation .resetWithoutHandshake),
    { endpoint with handshake := .terminated, exhausted := true })

/-- Reads up to the next whole message or control frame. -/
def read (endpoint : Endpoint) (inbound outbound : Pipe) : Arrival × Endpoint × Pipe × Pipe :=
  if endpoint.exhausted || endpoint.handshake = .terminated then
    (.ended, endpoint.exhaust, inbound, outbound)
  else
    match endpoint.flush outbound with
    | (.error fault, endpoint, outbound) => (.ofFault fault, endpoint.exhaust, inbound, outbound)
    | (.ok (), endpoint, outbound) =>
        match _ : Wire.cut inbound.bytes with
        | .broken fault => (.ofFault fault, endpoint.exhaust, inbound, outbound)
        | .incomplete =>
            if inbound.closed then
              let (arrival, endpoint) := endpoint.meetEnd
              (arrival, endpoint, inbound, outbound)
            else (.pending, endpoint, inbound, outbound)
        | .frame frame rest =>
            match endpoint.accept frame with
            | .error fault =>
                (.ofFault fault, endpoint.exhaust, { inbound with bytes := rest }, outbound)
            | .ok (some frame, endpoint) =>
                (.frame frame, endpoint, { inbound with bytes := rest }, outbound)
            | .ok (none, endpoint) => endpoint.read { inbound with bytes := rest } outbound
termination_by inbound.bytes.length
decreasing_by exact Wire.length_of_cut ‹_›

end Endpoint

end Courier.Socket
