/-!
# Frames

What two ends of a socket exchange: text and binary data, and the control frames ping, pong and
close.
-/

namespace Courier.Socket

/-- Why a socket is closed. -/
structure CloseReason where
  code : Nat
  reason : String
  deriving DecidableEq, Repr

/-- A frame. -/
inductive Frame where
  | text (content : String)
  | binary (data : List UInt8)
  | ping (data : List UInt8)
  | pong (data : List UInt8)
  | close (reason : Option CloseReason)
  deriving DecidableEq, Repr

namespace Frame

def isClose : Frame → Bool
  | .close _ => true
  | _ => false

def isControl : Frame → Bool
  | .ping _ | .pong _ | .close _ => true
  | _ => false

end Frame

end Courier.Socket
