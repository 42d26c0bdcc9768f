import Courier.Channel.Error
import Courier.Http.Status

/-!
# Errors of the HTTP interface

What can go wrong between an HTTP client and a consumer, with its wording and with the status that
the client sees.
-/

namespace Courier.Http

/-- Why a request was not answered as its consumer wished. -/
inductive Error where
  | channel (error : ChannelError)
  | responseTimeout (replyChannel : String)
  | badRequest (reason : String)
  | requestTooLarge (limit : Nat)
  | invalidResponse (reason : String)
  | responseInterrupted (replyChannel : String) (source : ChannelError)
  | server (reason : String)
  deriving DecidableEq, Repr

namespace Error

def message : Error → String
  | channel error => "Channel layer error: " ++ error.message
  | responseTimeout replyChannel => "Timed out waiting for a response on " ++ replyChannel
  | badRequest reason => "Invalid request: " ++ reason
  | requestTooLarge limit => "Request body exceeds limit of " ++ toString limit ++ " bytes"
  | invalidResponse reason => "Invalid response: " ++ reason
  | responseInterrupted replyChannel source =>
      "Response on " ++ replyChannel ++ " broke off after it started: " ++ source.message
  | server reason => "Server error: " ++ reason

/-- The status for an error of the channel layer: trouble that may pass makes the service
unavailable, and a malformed message is the fault of the other side. -/
def channelStatus (error : ChannelError) : Status :=
  if error.isTransient then .serviceUnavailable
  else
    match error with
    | .malformedMessage _ => .badGateway
    | _ => .internalServerError

def status : Error → Status
  | channel error => channelStatus error
  | responseTimeout _ => .gatewayTimeout
  | badRequest _ => .badRequest
  | requestTooLarge _ => .payloadTooLarge
  | invalidResponse _ => .badGateway
  | responseInterrupted _ _ => .badGateway
  | server _ => .internalServerError

/-- The name of the kind of an error, with the kind of its source. -/
def kind : Error → String
  | .channel error => "Channel/" ++ error.kind
  | .responseTimeout _ => "ResponseTimeout"
  | .badRequest _ => "BadRequest"
  | .requestTooLarge _ => "RequestTooLarge"
  | .invalidResponse _ => "InvalidResponse"
  | .responseInterrupted _ source => "ResponseInterrupted/" ++ source.kind
  | .server _ => "Server"

end Error

end Courier.Http
