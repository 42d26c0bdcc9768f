import Courier.Demo.Consumers
import Courier.Layers.Basic

/-!
# The demonstration catalog

The demonstration consumers by name, and a plan that serves both interfaces from one backend in
memory.
-/

namespace Courier.Demo

def catalog (settings : HttpSettings) : Dict Consumer :=
  .ofPairs [(echoName, echo), (helloName, helloConsumer settings)]

/-- The plan that hands requests to the greeting and the frames of sockets to the echo. -/
def plan : Plan :=
  Plan.standard.addBackend Backend.defaultLabel
    { routing := .ofPairs
        [(Http.RequestPayload.channel, helloName), (Socket.receiveChannel, echoName)] }

end Courier.Demo
