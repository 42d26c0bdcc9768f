import Courier.Site
import Courier.Socket.Directory

/-!
# Hubs

What the socket interface of a process works with: the site, and the directory of its live sockets.
-/

namespace Courier.Socket

/-- A site together with the directory of its sockets. -/
structure Hub where
  site : Site
  directory : Directory
  deriving Inhabited

namespace Hub

/-- Adds an entry to the log, if there is one. -/
def report? (hub : Hub) (entry : Option LogEntry) : Hub :=
  { hub with site := hub.site.reportAll entry.toList }

def send (hub : Hub) (now : Instant) (channel : String) (message : Message) :
    Except ChannelError Unit × Hub :=
  let (result, backend) := hub.site.backend.send now channel message
  (result, { hub with site := { hub.site with backend } })

/-- Starts to receive from channels, waiting where nothing is found. -/
def receive (hub : Hub) (now : Instant) (channels : List String) :
    Except ChannelError Receipt × Hub :=
  let (receipt, backend) := hub.site.backend.receive now channels true
  (receipt, { hub with site := { hub.site with backend } })

def resume (hub : Hub) (now : Instant) (waiting : Waiting) : Receipt × Hub :=
  let (receipt, backend) := hub.site.backend.resume now waiting
  (receipt, { hub with site := { hub.site with backend } })

/-- Registers a channel. The result is the number of its queue. -/
def register (hub : Hub) (sendChannel : String) : Nat × Hub :=
  let (number, directory) := hub.directory.register sendChannel
  (number, { hub with directory })

def unregister (hub : Hub) (sendChannel : String) : Hub :=
  { hub with directory := (hub.directory.unregister sendChannel).2 }

def deliver (hub : Hub) (sendChannel : String) (message : Message) : Delivery × Hub :=
  let (delivery, entry, directory) := hub.directory.deliver sendChannel message
  (delivery, { hub with directory }.report? entry)

def retrieve (hub : Hub) (number : Nat) : Retrieval × Hub :=
  let (retrieval, directory) := hub.directory.receive number
  (retrieval, { hub with directory })

def detach (hub : Hub) (number : Nat) : Hub :=
  { hub with directory := hub.directory.detach number }

end Hub

end Courier.Socket
