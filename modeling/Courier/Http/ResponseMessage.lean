import Courier.Payload.Reader

/-!
# Response messages

A response travels as a start, which carries the status and the headers, followed by chunks of its
body. The chunk without more content behind it ends the response. A field of its own tells the two
kinds apart.
-/

namespace Courier.Http

/-- The head of a response. -/
structure ResponseStart where
  status : Nat
  headers : List (String × String)
  deriving DecidableEq, Repr

/-- A part of the body of a response. -/
structure ResponseChunk where
  content : List UInt8
  moreContent : Bool
  deriving DecidableEq, Repr

/-- A message on a reply channel. -/
inductive ResponseMessage where
  | start (head : ResponseStart)
  | chunk (part : ResponseChunk)
  deriving DecidableEq, Repr

def responseBase : String := "http.response"

/-- Statuses fit into sixteen bits. -/
def statusReader : Reader Nat := .below 65536 "u16"

namespace ResponseStart

def fields (start : ResponseStart) : List (String × Json) :=
  [("status", .natural start.status),
    ("headers", .array (start.headers.map fun header => .array [.text header.1, .text header.2]))]

/-- Headers as a list of pairs; `excess` names what was expected of a longer pair. -/
def headersReader (excess : String) : Reader (List (String × String)) :=
  .list (.pair .text .text excess)

def ofFields (excess : String) (fields : List (String × Json)) :
    Except DecodeError ResponseStart := do
  Payload.check
    [Payload.declare "status" statusReader, Payload.declare "headers" (headersReader excess)] fields
  let status ← Payload.required fields "status" statusReader
  let headers ← Payload.defaulted fields "headers" (headersReader excess) []
  return { status, headers }

/-- What is expected of a header pair in a message that is known to be a start. -/
def plainExcess : String := "fewer elements in array"

/-- What is expected of a header pair in a message whose kind was looked up first. -/
def taggedExcess : String := "2 elements in sequence"

end ResponseStart

namespace ResponseChunk

def last : ResponseChunk := ⟨[], false⟩

def fields (chunk : ResponseChunk) : List (String × Json) :=
  [("content", .text (Base64.encode chunk.content)), ("more_content", .bool chunk.moreContent)]

def ofFields (fields : List (String × Json)) : Except DecodeError ResponseChunk := do
  Payload.check
    [Payload.declare "content" .bytes, Payload.declare "more_content" .bool] fields
  let content ← Payload.defaulted fields "content" .bytes []
  let moreContent ← Payload.defaulted fields "more_content" .bool false
  return { content, moreContent }

end ResponseChunk

namespace ResponseMessage

def tag : String := "type"

def startTag : String := "http.response.start"

def chunkTag : String := "http.response.chunk"

/-- The fields of a message: its kind, then what it carries. -/
def fields : ResponseMessage → List (String × Json)
  | .start head => (tag, .text startTag) :: head.fields
  | .chunk part => (tag, .text chunkTag) :: part.fields

def toMessage (message : ResponseMessage) : Message := ⟨message.fields⟩

/-- Reads a start or a chunk: the kind is looked up first. -/
def ofFields (fields : List (String × Json)) : Except DecodeError ResponseMessage :=
  match Assoc.find? fields tag with
  | none => .error (.missingField tag)
  | some (.text kind) =>
      let rest := Assoc.erase fields tag
      if kind = startTag then
        (ResponseStart.ofFields ResponseStart.taggedExcess rest).map .start
      else if kind = chunkTag then (ResponseChunk.ofFields rest).map .chunk
      else .error (.unknownVariant kind [startTag, chunkTag])
  | some value => .error (.invalidType value "variant identifier")

def ofMessage (message : Message) : Except DecodeError ResponseMessage := ofFields message.fields

end ResponseMessage

end Courier.Http
