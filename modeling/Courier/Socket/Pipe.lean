import Courier.Socket.Error

/-!
# Pipes

One direction of a connection: bytes that were written and not yet read. A pipe is closed when one
of its ends is gone. What was written before can still be read; nothing more can be written.
-/

namespace Courier.Socket

/-- One direction of a connection. -/
structure Pipe where
  bytes : List UInt8 := []
  closed : Bool := false
  deriving DecidableEq, Repr

namespace Pipe

def brokenPipe : Fault := .io "broken pipe"

def put (pipe : Pipe) (bytes : List UInt8) : Except Fault Pipe :=
  if pipe.closed then .error brokenPipe else .ok { pipe with bytes := pipe.bytes ++ bytes }

def close (pipe : Pipe) : Pipe := { pipe with closed := true }

end Pipe

end Courier.Socket
