import Courier.Socket.Connection
import Courier.Socket.Endpoint
import Courier.Socket.Hub

/-!
# Desks

Where a connection works in a process: it sends and registers through the hub, and writes to one end
of a socket.
-/

namespace Courier.Socket

/-- What a connection works with: the hub, its end of the socket, and the pipe to the peer. -/
structure Desk where
  hub : Hub
  endpoint : Endpoint
  outbound : Pipe

namespace Desk

/-- Writes a frame to the socket, and tells whether that went well. -/
def write (desk : Desk) (frame : Frame) : Bool × Desk :=
  match desk.endpoint.send desk.outbound frame with
  | (.ok (), endpoint, outbound) => (true, { desk with endpoint, outbound })
  | (.error _, endpoint, outbound) => (false, { desk with endpoint, outbound })

def surroundings (now : Instant) : Surroundings Desk where
  register desk sendChannel :=
    let (outbox, hub) := desk.hub.register sendChannel
    (outbox, { desk with hub })
  unregister desk sendChannel := { desk with hub := desk.hub.unregister sendChannel }
  send desk channel message :=
    let (result, hub) := desk.hub.send now channel message
    (result, { desk with hub })
  write := write
  report desk entry := { desk with hub := desk.hub.report? (some entry) }

end Desk

end Courier.Socket
