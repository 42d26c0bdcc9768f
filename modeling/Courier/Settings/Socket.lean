import Courier.Settings.Reading

/-!
# Settings of the socket interface

How many frames may wait for a socket, how long the reader of reply channels pauses when it is idle
and after a failure, and how large messages and frames may be.
-/

namespace Courier

/-- The settings of the socket interface. -/
structure SocketSettings where
  outboundQueue : Nat := 64
  idleInterval : Duration := Duration.ofMillis 100
  errorBackoff : Duration := Duration.ofSeconds 1
  maxMessageSize : Nat := 67108864
  maxFrameSize : Nat := 16777216
  deriving DecidableEq, Repr, Inhabited

namespace SocketSettings

def ofPreset : Preset → SocketSettings
  | .standard => {}
  | .development => { errorBackoff := Duration.ofMillis 250 }
  | .production => { outboundQueue := 128, maxMessageSize := 16777216, maxFrameSize := 4194304 }
  | .testing =>
      { outboundQueue := 4, idleInterval := Duration.ofMillis 10,
        errorBackoff := Duration.ofMillis 10 }

def fields (settings : SocketSettings) : List (String × Json) :=
  [("outbound_queue", .natural settings.outboundQueue),
    ("idle_interval", Settings.durationJson settings.idleInterval),
    ("error_backoff", Settings.durationJson settings.errorBackoff),
    ("max_message_size", .natural settings.maxMessageSize),
    ("max_frame_size", .natural settings.maxFrameSize)]

/-- The declared fields. -/
def declared : List Payload.Declared :=
  [Payload.declare "outbound_queue" Settings.size,
    Payload.declare "idle_interval" Settings.duration,
    Payload.declare "error_backoff" Settings.duration,
    Payload.declare "max_message_size" Settings.size,
    Payload.declare "max_frame_size" Settings.size]

def reader : Reader SocketSettings := fun value => do
  let fields ←
    Payload.fieldsOf "struct WebSocketInterfaceConfig"
      "struct WebSocketInterfaceConfig with 5 elements" declared value
  let outboundQueue ← Payload.required fields "outbound_queue" Settings.size
  let idleInterval ← Payload.required fields "idle_interval" Settings.duration
  let errorBackoff ← Payload.required fields "error_backoff" Settings.duration
  let maxMessageSize ← Payload.required fields "max_message_size" Settings.size
  let maxFrameSize ← Payload.required fields "max_frame_size" Settings.size
  return { outboundQueue, idleInterval, errorBackoff, maxMessageSize, maxFrameSize }

end SocketSettings

end Courier
