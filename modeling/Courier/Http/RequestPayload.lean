import Courier.Data.Dict
import Courier.Payload.Reader

/-!
# Request payloads

What a message on the request channel carries: the parts of an HTTP request that consumers look at,
and the channel on which they answer. Maps are written with their names in order.
-/

namespace Courier.Http

/-- Parameters by name, each with its values in order. -/
abbrev Params := Dict (List String)

/-- An HTTP request as a message carries it. -/
structure RequestPayload where
  get : Params
  post : Params
  cookies : Dict String
  environ : Dict String
  path : String
  pathInfo : String
  method : String
  replyChannel : String
  body : List UInt8
  deriving DecidableEq

namespace RequestPayload

def channel : String := "http.request"

def texts (values : List String) : Json := .array (values.map .text)

/-- A map as an object with its names in order. -/
def dictJson {α : Type} (write : α → Json) (dict : Dict α) : Json :=
  .object (dict.entries.map fun entry => (entry.1, write entry.2))

/-- The fields of the payload; an empty body is left out. -/
def fields (payload : RequestPayload) : List (String × Json) :=
  [("get", dictJson texts payload.get), ("post", dictJson texts payload.post),
    ("cookies", dictJson .text payload.cookies), ("meta", dictJson .text payload.environ),
    ("path", .text payload.path), ("path_info", .text payload.pathInfo),
    ("method", .text payload.method), ("reply_channel", .text payload.replyChannel)] ++
  if payload.body.isEmpty then [] else [("body", .text (Base64.encode payload.body))]

def toMessage (payload : RequestPayload) : Message := ⟨payload.fields⟩

def dictReader {α : Type} (reader : Reader α) : Reader (Dict α) := fun value =>
  ((Reader.named reader) value).map Dict.ofPairs

def paramsReader : Reader Params := dictReader (.list .text)

/-- The declared fields. -/
def declared : List Payload.Declared :=
  [Payload.declare "get" paramsReader, Payload.declare "post" paramsReader,
    Payload.declare "cookies" (dictReader .text), Payload.declare "meta" (dictReader .text),
    Payload.declare "path" .text, Payload.declare "path_info" .text,
    Payload.declare "method" .text, Payload.declare "reply_channel" .text,
    Payload.declare "body" .bytes]

def ofFields (fields : List (String × Json)) : Except DecodeError RequestPayload := do
  Payload.check declared fields
  let get ← Payload.defaulted fields "get" paramsReader .empty
  let post ← Payload.defaulted fields "post" paramsReader .empty
  let cookies ← Payload.defaulted fields "cookies" (dictReader .text) .empty
  let environ ← Payload.defaulted fields "meta" (dictReader .text) .empty
  let path ← Payload.required fields "path" .text
  let pathInfo ← Payload.required fields "path_info" .text
  let method ← Payload.required fields "method" .text
  let replyChannel ← Payload.required fields "reply_channel" .text
  let body ← Payload.defaulted fields "body" .bytes []
  return { get, post, cookies, environ, path, pathInfo, method, replyChannel, body }

def ofMessage (message : Message) : Except DecodeError RequestPayload := ofFields message.fields

end RequestPayload

end Courier.Http
