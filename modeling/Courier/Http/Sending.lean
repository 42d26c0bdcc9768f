import Courier.Http.Framing
import Courier.Program
import Courier.Settings.Http

/-!
# Sending responses

A response is sent message by message. A full channel is tried again after ever longer pauses. A
failure before the first message leaves nothing behind; a later one ends the body early, because the
client has a status already and must not be given a second one.
-/

namespace Courier.Http

/-- Sends a message, trying a full channel again: `attempt` attempts have been made, and `retries`
more may be. -/
def sendRetrying (settings : HttpSettings) (channel : String) (message : Message) (attempt : Nat) :
    (retries : Nat) → Program (Except ChannelError Unit)
  | 0 => Program.send channel message
  | retries + 1 => do
      match ← Program.send channel message with
      | .error (.channelFull _) =>
          Program.pause (settings.backoff attempt)
          sendRetrying settings channel message (attempt + 1) retries
      | result => return result

/-- Sends a message, trying a full channel again as often as the settings say. -/
def sendPatiently (settings : HttpSettings) (channel : String) (message : Message) :
    Program (Except ChannelError Unit) :=
  sendRetrying settings channel message 0 settings.sendRetries

/-- Ends a body that cannot be sent to its end. -/
def interrupt (settings : HttpSettings) (channel : String) (source : ChannelError) :
    Program Error := do
  match ← sendPatiently settings channel (ResponseMessage.chunk .last).toMessage with
  | .ok () => pure ()
  | .error error =>
      Program.report (.warning ("Cannot end interrupted response: " ++ error.message))
  return .responseInterrupted channel source

def sendRest (settings : HttpSettings) (channel : String) :
    List Message → Program (Except Error Unit)
  | [] => .done (.ok ())
  | message :: rest => do
      match ← sendPatiently settings channel message with
      | .ok () => sendRest settings channel rest
      | .error error => return .error (← interrupt settings channel error)

/-- Sends messages of which the first one begins a response. -/
def sendAll (settings : HttpSettings) (channel : String) :
    List Message → Program (Except Error Unit)
  | [] => .done (.ok ())
  | message :: rest => do
      match ← sendPatiently settings channel message with
      | .ok () => sendRest settings channel rest
      | .error error => return .error (.channel error)

def sendResponse (settings : HttpSettings) (channel : String) (response : Response) :
    Program (Except Error Unit) :=
  sendAll settings channel (response.encode settings.chunkSize)

end Courier.Http
