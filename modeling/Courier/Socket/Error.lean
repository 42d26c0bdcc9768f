import Courier.Channel.Error

/-!
# Errors of sockets

What the transport of a socket reports, and what the socket interface makes of it.
-/

namespace Courier.Socket

/-- How a peer broke the rules of the protocol. -/
inductive Violation where
  | sendAfterClosing
  | receivedAfterClosing
  | resetWithoutHandshake
  | reservedBits
  | unmaskedFromClient
  | maskedFromServer
  | fragmentedControl
  | controlTooBig
  | nothingToContinue
  | expectedFragment (kind : String)
  | invalidOpcode (code : Nat)
  | invalidCloseSequence
  deriving DecidableEq, Repr

def Violation.message : Violation → String
  | sendAfterClosing => "Sending after closing is not allowed"
  | receivedAfterClosing => "Remote sent after having closed"
  | resetWithoutHandshake => "Connection reset without closing handshake"
  | reservedBits => "Reserved bits are non-zero"
  | unmaskedFromClient => "Received an unmasked frame from client"
  | maskedFromServer => "Received a masked frame from server"
  | fragmentedControl => "Fragmented control frame"
  | controlTooBig => "Control frame too big (payload must be 125 bytes or less)"
  | nothingToContinue => "Continue frame but nothing to continue"
  | expectedFragment kind => "While waiting for more fragments received: " ++ kind
  | invalidOpcode code => "Encountered invalid opcode: " ++ toString code
  | invalidCloseSequence => "Invalid close sequence"

/-- What the transport of a socket reports. -/
inductive Fault where
  | closed
  | alreadyClosed
  | violation (violation : Violation)
  | io (reason : String)
  | notUtf8
  | attack
  | tooLong (size limit : Nat)
  deriving DecidableEq, Repr

/-- What the socket interface reports. -/
inductive Error where
  | connection (reason : String)
  | protocol (reason : String)
  | io (reason : String)
  | channel (error : ChannelError)
  | connectionClosed
  | connectionGone (sendChannel : String)
  | sendQueueFull (sendChannel : String)
  deriving DecidableEq, Repr

namespace Error

def message : Error → String
  | connection reason => "Connection error: " ++ reason
  | protocol reason => "Protocol error: " ++ reason
  | io reason => "IO error: " ++ reason
  | channel error => "Channel layer error: " ++ error.message
  | connectionClosed => "Connection closed"
  | connectionGone sendChannel => "No live connection for " ++ sendChannel
  | sendQueueFull sendChannel => "Send queue full for " ++ sendChannel

/-- What the interface makes of a fault: both kinds of closing are the same to it. -/
def ofFault : Fault → Error
  | .closed | .alreadyClosed => .connectionClosed
  | .violation violation => .protocol violation.message
  | .io reason => .io reason
  | .notUtf8 => .connection "UTF-8 encoding error"
  | .attack => .connection "Attack attempt detected"
  | .tooLong size limit =>
      .connection
        ("Space limit exceeded: Message too long: " ++ toString size ++ " > " ++ toString limit)

/-- The name of the kind of an error, with the kind of its source. -/
def kind : Error → String
  | .connection _ => "Connection"
  | .protocol _ => "Protocol"
  | .io _ => "Io"
  | .channel error => "Channel/" ++ error.kind
  | .connectionClosed => "ConnectionClosed"
  | .connectionGone _ => "ConnectionGone"
  | .sendQueueFull _ => "SendQueueFull"

end Error

end Courier.Socket
