import Courier.Http.Framing
import Courier.Http.Request
import Courier.Settings.Http
import Courier.Site

/-!
# The HTTP interface

A client's request is put on the request channel under a fresh reply channel, and the response is
read from there message by message: first the head, then the body up to its last chunk. Every
message has to arrive in time. What arrives before the body breaks off is handed on.
-/

namespace Courier.Http

/-- How far the reading of the next reply has come: about to ask the backend, or waiting in it. -/
inductive Reading where
  | asking (deadline : Instant)
  | waiting (deadline : Instant) (receiver : Waiting)

/-- What reading the next reply came to. -/
inductive Read where
  | message (message : Message)
  | failed (error : Error)
  | reading (reading : Reading)

namespace Reading

/-- The moment at which reading gives up. -/
def deadline : Reading → Instant
  | .asking deadline => deadline
  | .waiting deadline _ => deadline

/-- What reading comes to with what the receiver brought. A receiver that waits is given up at the
deadline; one that brings nothing is asked again. -/
def accept (channel : String) (now deadline : Instant) : Receipt → Read
  | .received _ message => .message message
  | .nothing => .reading (.asking deadline)
  | .waiting receiver =>
      if deadline ≤ now then .failed (.responseTimeout channel)
      else .reading (.waiting deadline receiver)

def step (backend : Backend) (now : Instant) (channel : String) (reading : Reading) :
    Read × Backend :=
  match reading with
  | .asking deadline =>
      match backend.receive now [channel] true with
      | (.error error, backend) => (.failed (.channel error), backend)
      | (.ok receipt, backend) => (accept channel now deadline receipt, backend)
  | .waiting deadline receiver =>
      let (receipt, backend) := backend.resume now receiver
      (accept channel now deadline receipt, backend)

/-- The moment at which reading wants to be moved on, if it only waits for time to pass. -/
def wakeAt? : Reading → Option Instant
  | .asking _ => none
  | .waiting deadline receiver => some (min deadline receiver.deadline)

end Reading

/-- The head of a response as a client receives it. -/
structure Head where
  status : Status
  headers : HeaderMap

/-- How far an exchange with a client has come. -/
inductive ExchangeState where
  | awaitingHead (reading : Reading)
  | readingBody (head : Head) (body : List UInt8) (reading : Reading)
  | answered (response : NativeResponse)
  | failed (error : Error)

/-- An exchange with a client: one request and its response. -/
structure Exchange where
  settings : HttpSettings
  replyChannel : String
  state : ExchangeState

namespace Exchange

def strayChunk : Error := .invalidResponse "Response chunk before response start"

def secondStart : Error := .invalidResponse "Duplicate response start"

/-- The headers that a client can receive, and a warning for each of the others. -/
def clientHeaders (headers : List (String × String)) : HeaderMap × List LogEntry :=
  let results := headers.map fun header => headerPair header.1 header.2
  (.ofPairs (results.filterMap Except.toOption),
    results.filterMap fun result =>
      match result with
      | .ok _ => none
      | .error error => some (.warning ("Skipping response header: " ++ error.message)))

def nextReading (settings : HttpSettings) (now : Instant) : Reading :=
  .asking (now + settings.responseTimeout)

/-- Begins an exchange. A request that is too large or that cannot be encoded is not sent. -/
def start (settings : HttpSettings) (site : Site) (now : Instant) (request : Request) :
    Exchange × Site :=
  if settings.maxBodySize < request.body.length then
    (⟨settings, "", .failed (.requestTooLarge settings.maxBodySize)⟩, site)
  else
    let (replyChannel, supply) := site.supply.freshName responseBase
    let site := { site with supply }
    match request.encode replyChannel settings.rootPath with
    | .error error => (⟨settings, replyChannel, .failed error⟩, site)
    | .ok payload =>
        match site.backend.send now RequestPayload.channel payload.toMessage with
        | (.error error, backend) =>
            (⟨settings, replyChannel, .failed (.channel error)⟩, { site with backend })
        | (.ok (), backend) =>
            (⟨settings, replyChannel, .awaitingHead (nextReading settings now)⟩,
              { site with backend })

def acceptHead (exchange : Exchange) (now : Instant) (message : Message) :
    ExchangeState × List LogEntry :=
  match ResponseMessage.ofMessage message with
  | .error error => (.failed (Collector.malformed error), [])
  | .ok (.chunk _) => (.failed strayChunk, [])
  | .ok (.start start) =>
      match Collector.statusOf start.status with
      | .error error => (.failed error, [])
      | .ok status =>
          let (headers, warnings) := clientHeaders start.headers
          (.readingBody ⟨status, headers⟩ [] (nextReading exchange.settings now), warnings)

def breakOff (head : Head) (body : List UInt8) (error : Error) : ExchangeState × List LogEntry :=
  (.answered { status := head.status, headers := head.headers, body, broken := true },
    [.warning ("Response body aborted: " ++ error.message)])

def acceptBody (exchange : Exchange) (now : Instant) (head : Head) (body : List UInt8)
    (message : Message) : ExchangeState × List LogEntry :=
  match ResponseMessage.ofMessage message with
  | .error error => breakOff head body (Collector.malformed error)
  | .ok (.start _) => breakOff head body secondStart
  | .ok (.chunk chunk) =>
      let body := body ++ chunk.content
      if chunk.moreContent then
        (.readingBody head body (nextReading exchange.settings now), [])
      else (.answered { status := head.status, headers := head.headers, body }, [])

def accept (exchange : Exchange) (now : Instant) : Read → ExchangeState × List LogEntry
  | .reading reading =>
      match exchange.state with
      | .awaitingHead _ => (.awaitingHead reading, [])
      | .readingBody head body _ => (.readingBody head body reading, [])
      | state => (state, [])
  | .failed error =>
      match exchange.state with
      | .awaitingHead _ => (.failed error, [])
      | .readingBody head body _ => breakOff head body error
      | state => (state, [])
  | .message message =>
      match exchange.state with
      | .awaitingHead _ => exchange.acceptHead now message
      | .readingBody head body _ => exchange.acceptBody now head body message
      | state => (state, [])

/-- The reading of an exchange that is not over. -/
def reading? (exchange : Exchange) : Option Reading :=
  match exchange.state with
  | .awaitingHead reading => some reading
  | .readingBody _ _ reading => some reading
  | .answered _ | .failed _ => none

def step (exchange : Exchange) (site : Site) (now : Instant) : Exchange × Site :=
  match exchange.reading? with
  | none => (exchange, site)
  | some reading =>
      let (read, backend) := reading.step site.backend now exchange.replyChannel
      let (state, entries) := exchange.accept now read
      ({ exchange with state }, { site with backend }.reportAll entries)

/-- The result of an exchange that is over. -/
def result? (exchange : Exchange) : Option (Except Error NativeResponse) :=
  match exchange.state with
  | .answered response => some (.ok response)
  | .failed error => some (.error error)
  | _ => none

end Exchange

/-- The headers of a response that a server of its own sets. -/
def routedHeaders (headers : HeaderMap) : HeaderMap :=
  ⟨Assoc.erase headers.entries "content-length"⟩

/-- What a client sees of an exchange behind a router, with what is to be logged: errors become
plain answers. -/
def routed : Except Error NativeResponse → NativeResponse × List LogEntry
  | .ok response => ({ response with headers := routedHeaders response.headers }, [])
  | .error error =>
      (.ofError error, [.warning ("HTTP request failed: " ++ error.message)])

end Courier.Http
