import Courier.Payload.Reader
import Courier.Socket.Frame

/-!
# Socket payloads

What messages about sockets carry: that a socket has connected, what it has received, that it has
gone, and what is to be sent to it. Binary content travels in base64.
-/

namespace Courier.Socket

def connectChannel : String := "websocket.connect"

def receiveChannel : String := "websocket.receive"

def disconnectChannel : String := "websocket.disconnect"

def sendBase : String := "websocket.send"

/-- The bytes of content: base64 if it is binary, else its text. -/
def contentBytes (content : String) (binary : Bool) : Except ChannelError (List UInt8) :=
  if binary then
    match Base64.decodeBytes (Utf8.encode content) with
    | .ok bytes => .ok bytes
    | .error error => .error (.malformedMessage ("Invalid binary content: " ++ error.message))
  else .ok (Utf8.encode content)

/-- A socket has connected. -/
structure Connect where
  sendChannel : String
  path : String
  queryString : String
  client : Option String
  deriving DecidableEq, Repr

namespace Connect

/-- The message that carries the payload; an empty query and an unknown client are left out. -/
def toMessage (payload : Connect) : Message :=
  ⟨[("send_channel", .text payload.sendChannel), ("path", .text payload.path)] ++
    (if payload.queryString = "" then [] else [("query_string", .text payload.queryString)]) ++
    match payload.client with
    | none => []
    | some client => [("client", .text client)]⟩

def ofMessage (message : Message) : Except DecodeError Connect := do
  let fields := message.fields
  Payload.check
    [Payload.declare "send_channel" .text, Payload.declare "path" .text,
      Payload.declare "query_string" .text, Payload.declare "client" (.nullable .text)] fields
  let sendChannel ← Payload.required fields "send_channel" .text
  let path ← Payload.defaulted fields "path" .text ""
  let queryString ← Payload.defaulted fields "query_string" .text ""
  let client ← Payload.defaulted fields "client" (.nullable .text) none
  return { sendChannel, path, queryString, client }

end Connect

/-- A socket has received a frame of data. -/
structure Receive where
  sendChannel : String
  content : String
  binary : Bool
  deriving DecidableEq, Repr

namespace Receive

/-- The payload for a frame of data; control frames have none. -/
def ofFrame? (sendChannel : String) : Frame → Option Receive
  | .text content => some ⟨sendChannel, content, false⟩
  | .binary data => some ⟨sendChannel, Base64.encode data, true⟩
  | _ => none

def text? (payload : Receive) : Option String :=
  if payload.binary then none else some payload.content

def bytes (payload : Receive) : Except ChannelError (List UInt8) :=
  contentBytes payload.content payload.binary

def toMessage (payload : Receive) : Message :=
  ⟨[("send_channel", .text payload.sendChannel), ("content", .text payload.content),
    ("binary", .bool payload.binary)]⟩

def ofMessage (message : Message) : Except DecodeError Receive := do
  let fields := message.fields
  Payload.check
    [Payload.declare "send_channel" .text, Payload.declare "content" .text,
      Payload.declare "binary" .bool] fields
  let sendChannel ← Payload.required fields "send_channel" .text
  let content ← Payload.required fields "content" .text
  let binary ← Payload.defaulted fields "binary" .bool false
  return { sendChannel, content, binary }

end Receive

/-- A socket has gone. -/
structure Disconnect where
  sendChannel : String
  deriving DecidableEq, Repr

namespace Disconnect

def toMessage (payload : Disconnect) : Message :=
  ⟨[("send_channel", .text payload.sendChannel)]⟩

def ofMessage (message : Message) : Except DecodeError Disconnect := do
  let fields := message.fields
  Payload.check [Payload.declare "send_channel" .text] fields
  let sendChannel ← Payload.required fields "send_channel" .text
  return { sendChannel }

end Disconnect

/-- Something is to be sent to a socket, which may be closed afterwards. -/
structure Send where
  content : String
  binary : Bool
  close : Bool
  deriving DecidableEq, Repr

namespace Send

def ofText (content : String) : Send := ⟨content, false, false⟩

def ofBytes (data : List UInt8) : Send := ⟨Base64.encode data, true, false⟩

def closing : Send := ⟨"", false, true⟩

/-- The message that carries the payload; the wish to close is left out where there is none. -/
def toMessage (payload : Send) : Message :=
  ⟨[("content", .text payload.content), ("binary", .bool payload.binary)] ++
    if payload.close then [("close", .bool true)] else []⟩

def ofMessage (message : Message) : Except DecodeError Send := do
  let fields := message.fields
  Payload.check
    [Payload.declare "content" .text, Payload.declare "binary" .bool,
      Payload.declare "close" .bool] fields
  let content ← Payload.defaulted fields "content" .text ""
  let binary ← Payload.defaulted fields "binary" .bool false
  let close ← Payload.defaulted fields "close" .bool false
  return { content, binary, close }

/-- The frames to send: the content, unless it is an empty text that only closes, and then a close
frame if one is wished for. -/
def frames (payload : Send) : Except ChannelError (List Frame) := do
  let content ←
    if payload.binary then
      match contentBytes payload.content true with
      | .ok data => .ok [Frame.binary data]
      | .error error => .error error
    else if payload.content ≠ "" || !payload.close then .ok [Frame.text payload.content]
    else .ok []
  return content ++ if payload.close then [.close none] else []

def framesOf (message : Message) : Except ChannelError (List Frame) :=
  match ofMessage message with
  | .error error => .error (Payload.malformed error)
  | .ok payload => payload.frames

end Send

end Courier.Socket
