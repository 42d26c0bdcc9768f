import Courier.Http.Framing
import Courier.Scenario.Answer
import Courier.Scenario.Reading
import Courier.Socket.Payload

/-!
# Scenarios with messages

Steps on one message: it is read, built, changed and decoded by the schemas of the interfaces.
-/

namespace Courier.Scenario

def decoded {α : Type} (encode : α → Message) : Except DecodeError α → Except ChannelError Message
  | .ok value => .ok (encode value)
  | .error error => .error (Payload.malformed error)

/-- Decodes a message by the schema of a name and encodes the payload again. -/
def reencode (schema : String) (message : Message) : Except ChannelError Message :=
  match schema with
  | "http_request" =>
      decoded Http.RequestPayload.toMessage (Http.RequestPayload.ofMessage message)
  | "response" => decoded Http.ResponseMessage.toMessage (Http.ResponseMessage.ofMessage message)
  | "response_start" =>
      decoded (fun start => ⟨start.fields⟩)
        (Http.ResponseStart.ofFields Http.ResponseStart.plainExcess message.fields)
  | "response_chunk" =>
      decoded (fun chunk => ⟨chunk.fields⟩) (Http.ResponseChunk.ofFields message.fields)
  | "ws_connect" => decoded Socket.Connect.toMessage (Socket.Connect.ofMessage message)
  | "ws_receive" => decoded Socket.Receive.toMessage (Socket.Receive.ofMessage message)
  | "ws_disconnect" => decoded Socket.Disconnect.toMessage (Socket.Disconnect.ofMessage message)
  | "ws_send" => decoded Socket.Send.toMessage (Socket.Send.ofMessage message)
  | _ => .ok message

def messageStep (current : Message) (step : Json) : Message × Json :=
  let replace (next : Message) : Message × Json := (next, ok (messageText next))
  let answer (value : Json) : Message × Json := (current, ok value)
  let argument := nth step 1
  match text (nth step 0) with
  | "new" => replace .empty
  | "from_json" =>
      match Message.ofText (text argument) with
      | .ok next => replace next
      | .error (.notJson _) => (current, failure "MalformedMessage" none)
      | .error error => (current, channelFailure (.malformedMessage error.message))
  | "from_map" => replace (message argument)
  | "from_pairs" =>
      replace (.ofPairs ((items argument).map fun pair => (text (nth pair 0), nth pair 1)))
  | "from_payload" =>
      match Message.ofPayload argument with
      | .ok next => replace next
      | .error error => (current, channelFailure error)
  | "with" => replace (current.set (text argument) (nth step 2))
  | "insert" =>
      let previous := current.get? (text argument)
      (current.set (text argument) (nth step 2), ok (optional (previous.map valueText)))
  | "get" => answer (optional ((current.get? (text argument)).map valueText))
  | "get_str" => answer (optionalText (current.text? (text argument)))
  | "contains" => answer (.bool (current.has (text argument)))
  | "keys" => answer (textList current.names)
  | "len" => answer (.natural current.size)
  | "is_empty" => answer (.bool (current.size == 0))
  | "to_json" => answer (messageText current)
  | "same_as" => answer (.bool (current.same (message argument)))
  | "map" => answer (.bool true)
  | _ => (current, wrapped messageText (reencode (text argument) current))

end Courier.Scenario
