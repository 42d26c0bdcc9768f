import Courier.Http.Response
import Courier.Http.ResponseMessage

/-!
# Framing

A response as a sequence of messages: a start, and the body cut into chunks. A body that is known
as a whole ends with its last chunk, a streamed one with an empty chunk of its own. Collecting the
messages again is a small machine that refuses whatever does not continue the sequence, and then
stays as it was.
-/

namespace Courier.Http

/-- Data cut into pieces of `extra + 1` bytes, the last one possibly shorter. -/
def pieces (extra : Nat) (data : List UInt8) : List (List UInt8) :=
  match data with
  | [] => []
  | byte :: rest => (byte :: rest.take extra) :: pieces extra (rest.drop extra)
termination_by data.length
decreasing_by simp only [List.length_drop, List.length_cons]; omega

/-- Pieces, each with whether it is the last one. -/
def markLast : List (List UInt8) → List (List UInt8 × Bool)
  | [] => []
  | [piece] => [(piece, true)]
  | piece :: next :: rest => (piece, false) :: markLast (next :: rest)

/-- Data cut into chunks of at most `size` bytes, each with whether it is the last one. Without data
there is one empty chunk, and a size of zero counts as one. -/
def chunkBody (size : Nat) (data : List UInt8) : List (List UInt8 × Bool) :=
  match data with
  | [] => [([], true)]
  | data => markLast (pieces (size - 1) data)

namespace Body

def chunks (size : Nat) : Body → List ResponseChunk
  | .full content => (chunkBody size content).map fun piece => ⟨piece.1, !piece.2⟩
  | .streaming parts =>
      (parts.filter fun part => !part.isEmpty).flatMap
        (fun part => (chunkBody size part).map fun piece => ⟨piece.1, true⟩) ++ [.last]

end Body

namespace Response

def start (response : Response) : ResponseStart := ⟨response.status.code, response.allHeaders⟩

def frames (response : Response) (chunkSize : Nat) : List ResponseMessage :=
  .start response.start :: (response.body.chunks chunkSize).map .chunk

/-- The messages that carry a response, as they travel. -/
def encode (response : Response) (chunkSize : Nat) : List Message :=
  (response.frames chunkSize).map ResponseMessage.toMessage

end Response

/-- What has been collected of a response. -/
structure Collector where
  start : Option ResponseStart := none
  body : List UInt8 := []
  complete : Bool := false
  deriving DecidableEq, Repr

namespace Collector

def malformed (error : DecodeError) : Error := .channel (Payload.malformed error)

def add (collector : Collector) : ResponseMessage → Except Error Collector
  | .start head =>
      if collector.start.isSome then .error (.invalidResponse "Duplicate response start")
      else .ok { collector with start := some head }
  | .chunk part =>
      if collector.start.isNone then
        .error (.invalidResponse "Response chunk before response start")
      else
        .ok { collector with body := collector.body ++ part.content, complete := !part.moreContent }

/-- Adds a message; a message that is refused leaves everything as it was. -/
def push (collector : Collector) (message : Message) : Except Error Collector :=
  if collector.complete then
    .error (.invalidResponse "Message received after the response ended")
  else
    match ResponseMessage.ofMessage message with
    | .error error => .error (malformed error)
    | .ok carried => collector.add carried

/-- The status with a given code. -/
def statusOf (code : Nat) : Except Error Status :=
  match Status.ofCode? code with
  | none => .error (.invalidResponse ("Invalid status code " ++ toString code))
  | some status => .ok status

def finish (collector : Collector) : Except Error Response :=
  match collector.start, collector.complete with
  | some start, true =>
      match statusOf start.status with
      | .error error => .error error
      | .ok status => .ok (.ofHeaders status start.headers (.full collector.body))
  | _, _ => .error (.invalidResponse "Response is incomplete")

/-- Adds messages up to the one that completes the response. -/
def pushAll (collector : Collector) : List Message → Except Error Collector
  | [] => .ok collector
  | message :: rest =>
      match collector.push message with
      | .error error => .error error
      | .ok next => if next.complete then .ok next else pushAll next rest

end Collector

namespace Response

def decode (messages : List Message) : Except Error Response :=
  match Collector.pushAll {} messages with
  | .error error => .error error
  | .ok collector => collector.finish

end Response

end Courier.Http
