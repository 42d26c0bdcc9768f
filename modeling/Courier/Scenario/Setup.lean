import Courier.Backend
import Courier.Http.Request
import Courier.Http.Response
import Courier.Scenario.Reading
import Courier.Settings.Http
import Courier.Settings.Socket
import Courier.Settings.Worker
import Courier.Simulation.Bench
import Courier.Simulation.Script

/-!
# Setting scenarios up

The settings, backends, consumers, requests, responses and errors that a scenario describes.
-/

namespace Courier.Scenario

def preset (name : String) : Preset :=
  match name with
  | "development" => .development
  | "production" => .production
  | "testing" => .testing
  | _ => .standard

/-- Settings of a store with some fields set. -/
def storeSettings (base : StoreSettings) (set : Json) : StoreSettings :=
  { capacity := natOr (field set "capacity") base.capacity
    messageExpiry := millisOr (field set "message_expiry") base.messageExpiry
    groupExpiry := millisOr (field set "group_expiry") base.groupExpiry
    receiveTimeout := millisOr (field set "receive_timeout") base.receiveTimeout }

/-- Settings of a Redis store with some fields set. -/
def redisSettings (base : RedisSettings) (set : Json) : RedisSettings :=
  { url := (field set "url").text?.getD base.url
    keyBase := (field set "key_prefix").text?.getD base.keyBase
    store := storeSettings base.store set }

/-- Settings of a worker with some fields set. -/
def workerSettings (base : WorkerSettings) (set : Json) : WorkerSettings :=
  { idleInterval := millisOr (field set "idle_interval") base.idleInterval
    errorBackoff := millisOr (field set "error_backoff") base.errorBackoff
    block := boolOr (field set "block") base.block }

/-- Settings of the HTTP interface with some fields set. -/
def httpSettings (base : HttpSettings) (set : Json) : HttpSettings :=
  { chunkSize := natOr (field set "chunk_size") base.chunkSize
    responseTimeout := millisOr (field set "response_timeout") base.responseTimeout
    rootPath := (field set "root_path").text?.getD base.rootPath
    sendRetries := natOr (field set "send_retries") base.sendRetries
    retryBackoff := millisOr (field set "retry_backoff") base.retryBackoff
    maxBodySize := natOr (field set "max_body_size") base.maxBodySize }

/-- Settings of the socket interface with some fields set. -/
def socketSettings (base : SocketSettings) (set : Json) : SocketSettings :=
  { outboundQueue := natOr (field set "outbound_queue") base.outboundQueue
    idleInterval := millisOr (field set "idle_interval") base.idleInterval
    errorBackoff := millisOr (field set "error_backoff") base.errorBackoff
    maxMessageSize := natOr (field set "max_message_size") base.maxMessageSize
    maxFrameSize := natOr (field set "max_frame_size") base.maxFrameSize }

def memorySettings (input : Json) : StoreSettings :=
  let base : StoreSettings := {}
  { capacity := natOr (field input "capacity") base.capacity
    messageExpiry := millisOr (field input "message_expiry_ms") base.messageExpiry
    groupExpiry := millisOr (field input "group_expiry_ms") base.groupExpiry
    receiveTimeout := millisOr (field input "receive_timeout_ms") base.receiveTimeout }

def backend (input : Json) : Backend :=
  let label := (field input "alias").text?.getD Backend.defaultLabel
  { Backend.inMemory label (memorySettings (field input "memory")) with
    failingSends := (items (field input "fail_sends")).map nat
    failingReceives := (items (field input "fail_receives")).map nat }

def workerOf (input : Json) : WorkerSettings :=
  let base : WorkerSettings := {}
  { idleInterval := millisOr (field input "idle_interval_ms") base.idleInterval
    errorBackoff := millisOr (field input "error_backoff_ms") base.errorBackoff
    block := boolOr (field input "block") base.block }

def httpOf (input : Json) : HttpSettings :=
  let base : HttpSettings := {}
  { chunkSize := natOr (field input "chunk_size") base.chunkSize
    sendRetries := natOr (field input "send_retries") base.sendRetries
    maxBodySize := natOr (field input "max_body_size") base.maxBodySize
    responseTimeout := millisOr (field input "response_timeout_ms") base.responseTimeout
    retryBackoff := millisOr (field input "retry_backoff_ms") base.retryBackoff
    rootPath := (field input "root_path").text?.getD base.rootPath }

def consumerScript (input : Json) : Simulation.ConsumerScript :=
  let failure : Option ConsumerError :=
    match present (field input "fail"), present (field input "malformed"),
        present (field input "full") with
    | some reason, _, _ => some (.other (text reason))
    | none, some reason, _ => some (.channel (.malformedMessage (text reason)))
    | none, none, some channel => some (.channel (.channelFull (text channel)))
    | none, none, none => none
  let breakdown : Option Simulation.Breakdown :=
    match present (field input "panic"), present (field input "panic_static"),
        present (field input "panic_any") with
    | some reason, _, _ => some (.withReason (text reason))
    | none, some _, _ => some (.withReason "static reason")
    | none, none, some _ => some .withoutReason
    | none, none, none => none
  { failure, breakdown
    need := (field input "need").text?
    pause := (nat? (field input "sleep_ms")).map Duration.ofMillis
    reply := boolOr (field input "reply") false
    forward := (field input "forward").text?
    group := (field input "group").text? }

/-- Described headers, unless one of them is none. -/
def nativeHeaders? (input : Json) : Option Http.HeaderMap := do
  let converted ← (pairs input).mapM fun pair => do
    let name ← Http.headerName? pair.1
    let value ← (Latin1.encode? pair.2).bind Http.headerValue?
    return (name, value)
  return .ofPairs converted

/-- A described request, unless its parts are none. -/
def nativeRequest? (input : Json) : Option Http.Request := do
  let method ← Http.method? ((field input "method").text?.getD "GET")
  let uri ← (Http.Uri.ofText ((field input "uri").text?.getD "/")).toOption
  let headers ← nativeHeaders? (field input "headers")
  let body := bytes (field input "body")
  match (field input "remote").text? with
  | none => return { method, uri, headers, body }
  | some remote => return { method, uri, headers, body, remote := ← Net.Address.ofText? remote }

def encodedRequest? (input : Json) : Option (Except Http.Error Message) := do
  let request ← nativeRequest? input
  let reply := (field input "reply").text?.getD "r"
  return (request.encode reply (text (field input "root"))).map Http.RequestPayload.toMessage

def status (input : Json) : Http.Status := (Http.Status.ofCode? (nat input)).getD .ok

def response (input : Json) : Http.Response :=
  let base : Http.Response :=
    match present (field input "text") with
    | some given => .text (status (nth given 0)) (text (nth given 1))
    | none => .ofStatus ((present (field input "status")).elim .ok status)
  let body :=
    match present (field input "stream"), present (field input "body") with
    | some parts, _ => .streaming ((items parts).map bytes)
    | none, some body => .full (bytes body)
    | none, none => base.body
  { base with
    headers := base.headers ++ pairs (field input "headers")
    cookies := texts (field input "cookies")
    body }

def viewScript (input : Json) : Simulation.ViewScript :=
  match present (field input "error"), present (field input "defer"),
      boolOr (field input "panic") false, present (field input "response") with
  | some reason, _, _, _ => .fails (text reason)
  | none, some channel, _, _ => .defers (text channel)
  | none, none, true, _ => .breaksDown "view panicked"
  | none, none, false, some given => .responds (response given)
  | none, none, false, none => .echoes

def handReplies (input : Json) : List Simulation.HandReply :=
  (items input).map fun reply =>
    { after := Duration.ofMillis (nat (field reply "after_ms"))
      message := message (field reply "message") }

def channelError (variant reason : String) : ChannelError :=
  match variant with
  | "BackendUnavailable" => .backendUnavailable reason
  | "DuplicateConsumer" => .duplicateConsumer reason
  | "MalformedMessage" => .malformedMessage reason
  | "ChannelFull" => .channelFull reason
  | "UnknownBackend" => .unknownBackend reason
  | "Configuration" => .configuration reason
  | _ => .serialization ChannelError.emptyTextReason

def sourceError (input : Json) : ChannelError :=
  channelError (text (field input "variant")) (text (field input "text"))

def httpError (input : Json) : Http.Error :=
  let reason := text (field input "text")
  match text (field input "variant") with
  | "Channel" => .channel (sourceError (field input "source"))
  | "ResponseTimeout" => .responseTimeout reason
  | "BadRequest" => .badRequest reason
  | "RequestTooLarge" => .requestTooLarge (nat (field input "limit"))
  | "InvalidResponse" => .invalidResponse reason
  | "ResponseInterrupted" => .responseInterrupted reason (sourceError (field input "source"))
  | _ => .server reason

end Courier.Scenario
